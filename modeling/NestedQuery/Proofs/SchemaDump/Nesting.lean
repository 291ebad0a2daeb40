import NestedQuery.SchemaDump.Table

/-! Parentheses and the readers of phrases. Every reader passes over tokens and counts some of the
parentheses among them; here it is stated at which depth of parentheses each of them stops. -/

namespace NestedQuery.SchemaDump

/-- The tokens lead from one depth of parentheses to another, and no parenthesis is closed on the
way that was not opened. -/
inductive Passes : (depth : Nat) → (tokens : Tokens) → (stop : Nat) → (left : Tokens) → Prop
  | refl (depth tokens) : Passes depth tokens depth tokens
  | opening {depth stop rest left} :
      Passes (depth + 1) rest stop left → Passes depth (.openParen :: rest) stop left
  | closing {depth stop rest left} :
      Passes depth rest stop left → Passes (depth + 1) (.closeParen :: rest) stop left
  | other {depth stop token rest left} : token ≠ .openParen → token ≠ .closeParen →
      Passes depth rest stop left → Passes depth (token :: rest) stop left

def Balanced (tokens : Tokens) : Prop := Passes 0 tokens 0 []

namespace Passes

theorem one {token : Token} {rest : Tokens} (depth : Nat) (notOpen : token ≠ .openParen)
    (notClose : token ≠ .closeParen) : Passes depth (token :: rest) depth rest :=
  .other notOpen notClose (.refl _ _)

theorem trans {depth middle stop : Nat} {tokens between left : Tokens}
    (first : Passes depth tokens middle between) (second : Passes middle between stop left) :
    Passes depth tokens stop left := by
  induction first with
  | refl => exact second
  | opening _ ih => exact .opening (ih second)
  | closing _ ih => exact .closing (ih second)
  | other notOpen notClose _ ih => exact .other notOpen notClose (ih second)

theorem lift {depth stop : Nat} {tokens left : Tokens} (passes : Passes depth tokens stop left)
    (outside : Nat) : Passes (outside + depth) tokens (outside + stop) left := by
  induction passes with
  | refl => exact .refl _ _
  | opening _ ih => exact .opening ih
  | closing _ ih => exact .closing ih
  | other notOpen notClose _ ih => exact .other notOpen notClose ih

theorem add {depth stop : Nat} {tokens between left : Tokens}
    (first : Passes 0 tokens depth between) (second : Passes 0 between stop left) :
    Passes 0 tokens (depth + stop) left :=
  first.trans (second.lift depth)

theorem append {depth stop : Nat} {tokens left : Tokens} (passes : Passes depth tokens stop left)
    (more : Tokens) : Passes depth (tokens ++ more) stop (left ++ more) := by
  induction passes with
  | refl => exact .refl _ _
  | opening _ ih => exact .opening ih
  | closing _ ih => exact .closing ih
  | other notOpen notClose _ ih => exact .other notOpen notClose ih

theorem length_le {depth stop : Nat} {tokens left : Tokens}
    (passes : Passes depth tokens stop left) : left.length ≤ tokens.length := by
  induction passes with
  | refl => exact Nat.le_refl _
  | opening _ ih => exact Nat.le_succ_of_le ih
  | closing _ ih => exact Nat.le_succ_of_le ih
  | other _ _ _ ih => exact Nat.le_succ_of_le ih

theorem stop_unique {depth stop other : Nat} {tokens left : Tokens}
    (first : Passes depth tokens stop left) (second : Passes depth tokens other left) :
    stop = other := by
  induction first with
  | refl =>
      cases second with
      | refl => rfl
      | opening rest => exact absurd rest.length_le (by simp)
      | closing rest => exact absurd rest.length_le (by simp)
      | other _ _ rest => exact absurd rest.length_le (by simp)
  | opening rest ih =>
      cases second with
      | refl => exact absurd rest.length_le (by simp)
      | opening second => exact ih second
      | other notOpen _ _ => exact absurd rfl notOpen
  | closing rest ih =>
      cases second with
      | refl => exact absurd rest.length_le (by simp)
      | closing second => exact ih second
      | other _ notClose _ => exact absurd rfl notClose
  | other notOpen notClose rest ih =>
      cases second with
      | refl => exact absurd rest.length_le (by simp)
      | opening _ => exact absurd rfl notOpen
      | closing _ => exact absurd rfl notClose
      | other _ _ second => exact ih second

theorem remaining {outside depth stop : Nat} {tokens left rest : Tokens}
    (read : Passes depth tokens stop left)
    (inside : Passes (outside + depth) tokens 0 (.closeParen :: rest)) :
    Passes (outside + stop) left 0 (.closeParen :: rest) := by
  generalize start : outside + depth = total at inside
  induction read generalizing total with
  | refl =>
      rw [start]
      exact inside
  | opening _ ih =>
      cases inside with
      | opening inside => exact ih (total + 1) (by omega) inside
      | other notOpen _ _ => exact absurd rfl notOpen
  | closing _ ih =>
      cases inside with
      | refl => omega
      | @closing less _ _ _ inside => exact ih less (by omega) inside
      | other _ notClose _ => exact absurd rfl notClose
  | other notOpen notClose _ ih =>
      cases inside with
      | refl => exact absurd rfl notClose
      | opening _ => exact absurd rfl notOpen
      | closing _ => exact absurd rfl notClose
      | other _ _ inside => exact ih total start inside

theorem left_ne_nil {depth : Nat} {tokens rest : Tokens}
    (inside : Passes depth tokens 0 (.closeParen :: rest)) : tokens ≠ [] := by
  rintro rfl
  cases inside

end Passes

def closesAll : (depth : Nat) → Tokens → Bool
  | depth, [] => depth == 0
  | depth, .openParen :: rest => closesAll (depth + 1) rest
  | 0, .closeParen :: _ => false
  | depth + 1, .closeParen :: rest => closesAll depth rest
  | depth, _ :: rest => closesAll depth rest

theorem closesAll_iff (depth : Nat) (tokens : Tokens) :
    closesAll depth tokens = true ↔ Passes depth tokens 0 [] := by
  fun_induction closesAll depth tokens with
  | case1 depth =>
      constructor
      · intro closed
        obtain rfl : depth = 0 := by simpa using closed
        exact .refl _ _
      · intro passes
        cases passes
        rfl
  | case2 depth rest ih =>
      rw [ih]
      refine ⟨.opening, ?_⟩
      rintro (_ | later | _ | ⟨notOpen, _, _⟩)
      · exact later
      · exact absurd rfl notOpen
  | case3 rest =>
      refine iff_of_false (by simp) ?_
      rintro (_ | _ | _ | ⟨_, notClose, _⟩)
      exact notClose rfl
  | case4 depth rest ih =>
      rw [ih]
      refine ⟨.closing, ?_⟩
      rintro (_ | _ | later | ⟨_, notClose, _⟩)
      · exact later
      · exact absurd rfl notClose
  | case5 depth token rest notOpen notZeroClose notClose ih =>
      have closes : token ≠ .closeParen := by
        rintro rfl
        cases depth with
        | zero => exact notZeroClose rfl rfl
        | succ depth => exact notClose depth rfl rfl
      rw [ih]
      refine ⟨.other notOpen closes, ?_⟩
      rintro (_ | _ | _ | ⟨_, _, later⟩)
      · exact absurd rfl notOpen
      · exact absurd rfl closes
      · exact later

instance (tokens : Tokens) : Decidable (Balanced tokens) :=
  decidable_of_iff _ (closesAll_iff 0 tokens)

/-- A skipper stops outside of all parentheses, unless the tokens end before that. -/
def Skips (depth : Nat) (tokens left : Tokens) : Prop :=
  ∃ stop, Passes depth tokens stop left ∧ (stop = 0 ∨ left = [])

namespace Skips

theorem of_passes {depth : Nat} {tokens left : Tokens} (passes : Passes depth tokens 0 left) :
    Skips depth tokens left :=
  ⟨0, passes, .inl rfl⟩

theorem after {depth middle : Nat} {tokens between left : Tokens}
    (first : Passes depth tokens middle between) (second : Skips middle between left) :
    Skips depth tokens left := by
  obtain ⟨stop, passes, ended⟩ := second
  exact ⟨stop, first.trans passes, ended⟩

theorem passes {outside depth : Nat} {tokens left rest : Tokens} (skips : Skips depth tokens left)
    (inside : Passes (outside + depth) tokens 0 (.closeParen :: rest)) :
    Passes depth tokens 0 left := by
  obtain ⟨stop, passes, rfl | rfl⟩ := skips
  · exact passes
  · exact absurd rfl (passes.remaining inside).left_ne_nil

end Skips

theorem skipNested_skips (depth : Nat) (tokens : Tokens) :
    Skips depth tokens (skipNested depth tokens) := by
  fun_induction skipNested depth tokens with
  | case1 tokens => exact .of_passes (.refl _ _)
  | case2 depth => exact ⟨depth + 1, .refl _ _, .inr rfl⟩
  | case3 depth rest ih => exact .after (.opening (.refl _ _)) ih
  | case4 depth rest ih => exact .after (.closing (.refl _ _)) ih
  | case5 depth token rest notOpen notClose ih => exact .after (.one _ notOpen notClose) ih

theorem skipParens_skips (tokens : Tokens) : Skips 0 tokens (skipParens tokens) := by
  unfold skipParens
  split
  · exact .after (.opening (.refl _ _)) (skipNested_skips 1 _)
  · exact .of_passes (.refl _ _)

theorem skipUntil_skips {stops : List Token} (ends : .closeParen ∈ stops) (depth : Nat)
    (tokens : Tokens) : Skips depth tokens (skipUntil stops depth tokens) := by
  fun_induction skipUntil stops depth tokens with
  | case1 depth => exact ⟨depth, .refl _ _, .inr rfl⟩
  | case2 token rest found => exact .of_passes (.refl _ _)
  | case3 rest _ ih => exact .after (.opening (.refl _ _)) ih
  | case4 token rest notFound notOpen ih =>
      have notClose : token ≠ .closeParen := by
        rintro rfl
        exact notFound ends
      exact .after (.one _ notOpen notClose) ih
  | case5 depth rest ih => exact .after (.opening (.refl _ _)) ih
  | case6 depth rest ih => exact .after (.closing (.refl _ _)) ih
  | case7 depth token rest notOpen notClose ih => exact .after (.one _ notOpen notClose) ih

theorem skipItem_skips (tokens : Tokens) : Skips 0 tokens (skipItem tokens) :=
  skipUntil_skips (by decide) 0 tokens

theorem skipKeyword_passes (keyword : Keyword) (tokens : Tokens) :
    Passes 0 tokens 0 (skipKeyword keyword tokens) := by
  fun_cases skipKeyword keyword tokens with
  | case1 => exact .refl _ _
  | case2 rest => exact .one _ (by simp) (by simp)
  | case3 token rest _ => exact .refl _ _

theorem nameOf?_ne_paren {rule : CaseRule} {token : Token} {name : String}
    (named : nameOf? rule token = some name) :
    token ≠ .openParen ∧ token ≠ .closeParen := by
  constructor
  · rintro rfl
    cases named
  · rintro rfl
    cases named

theorem readName_passes (rule : CaseRule) (tokens : Tokens) :
    Passes 0 tokens 0 (readName rule tokens).2 := by
  fun_cases readName rule tokens with
  | case1 => exact .refl _ _
  | case2 token rest name named =>
      obtain ⟨notOpen, notClose⟩ := nameOf?_ne_paren named
      exact .one _ notOpen notClose
  | case3 token rest _ => exact .refl _ _

theorem readRelationId_passes (rule : CaseRule) (tokens : Tokens) :
    Passes 0 tokens 0 (readRelationId rule tokens).2 := by
  have first := readName_passes rule tokens
  unfold readRelationId
  split
  · rename_i found
    simpa only [found] using first
  · rename_i rest found
    have second := readName_passes rule rest
    simp only [found] at first
    have dotted : Passes 0 tokens 0 rest := first.trans (.one _ (by simp) (by simp))
    split
    · rename_i after
      rw [after] at second
      exact dotted.trans second
    · rename_i after
      rw [after] at second
      exact dotted.trans second
  · rename_i found
    simpa only [found] using first

inductive OpensFirst : Tokens → Prop
  | here {rest} : OpensFirst (.openParen :: rest)
  | later {token rest} : token ≠ .closeParen → OpensFirst rest → OpensFirst (token :: rest)

theorem readNames_passes (rule : CaseRule) {outside depth : Nat} {tokens rest : Tokens}
    (inside : Passes (outside + (depth + 1)) tokens 0 (.closeParen :: rest)) :
    ∃ stop, Passes (depth + 1) tokens stop (readNames rule tokens).2 ∧
      (stop = 0 ↔ depth = 0 ∧ ¬OpensFirst tokens) := by
  induction tokens generalizing depth with
  | nil => exact absurd rfl inside.left_ne_nil
  | cons token after ih =>
      by_cases close : token = .closeParen
      · subst close
        refine ⟨depth, .closing (.refl _ _), ?_⟩
        have closed : ¬OpensFirst (.closeParen :: after) := by
          rintro (_ | ⟨notClose, _⟩)
          exact notClose rfl
        simp [closed]
      · rw [readNames]
        · by_cases opens : token = .openParen
          · subst opens
            have first : Passes (depth + 1) (.openParen :: after) (depth + 2) after :=
              .opening (.refl _ _)
            obtain ⟨stop, passes, flat⟩ := ih (first.remaining inside)
            exact ⟨stop, first.trans passes, by simp [flat, OpensFirst.here]⟩
          · have first : Passes (depth + 1) (token :: after) (depth + 1) after :=
              .one _ opens close
            obtain ⟨stop, passes, flat⟩ := ih (first.remaining inside)
            refine ⟨stop, first.trans passes, flat.trans (and_congr_right fun _ => ?_)⟩
            refine not_congr ⟨.later close, ?_⟩
            rintro (_ | ⟨_, later⟩)
            · exact absurd rfl opens
            · exact later
        · exact close

/-- A list of columns in which another parenthesis is opened, as in `(name(10), id)`. -/
def NestedList (tokens : Tokens) : Prop := ∃ rest, tokens = .openParen :: rest ∧ OpensFirst rest

theorem readColumnList_passes (rule : CaseRule) {outside : Nat} {tokens rest : Tokens}
    (inside : Passes outside tokens 0 (.closeParen :: rest)) :
    ∃ stop, Passes 0 tokens stop (readColumnList rule tokens).2 ∧
      (stop = 0 ↔ ¬NestedList tokens) := by
  unfold readColumnList
  split
  · rename_i names
    have first : Passes 0 (.openParen :: names) 1 names := .opening (.refl _ _)
    obtain ⟨stop, passes, flat⟩ := readNames_passes rule (first.remaining inside)
    exact ⟨stop, first.trans passes, by simp [flat, NestedList]⟩
  · rename_i notOpen
    refine ⟨0, .refl _ _, iff_of_true rfl ?_⟩
    rintro ⟨names, same, _⟩
    exact notOpen names same

def isArgument : Token → Bool
  | .word _ | .number _ | .comma => true
  | _ => false

/-- A type has an argument that is no argument of a type, as in `enum('a', 'b')`. -/
inductive OddArgument : (depth : Nat) → Tokens → Prop
  | word {word rest} : (Token.word word).isWordIn typeStops = false →
      OddArgument 0 rest → OddArgument 0 (.word word :: rest)
  | opening {depth rest} : OddArgument (depth + 1) rest → OddArgument depth (.openParen :: rest)
  | closing {depth rest} : OddArgument depth rest → OddArgument (depth + 1) (.closeParen :: rest)
  | argument {depth token rest} : isArgument token = true →
      OddArgument (depth + 1) rest → OddArgument (depth + 1) (token :: rest)
  | odd {depth token rest} : isArgument token = false → token ≠ .openParen →
      token ≠ .closeParen → OddArgument (depth + 1) (token :: rest)

theorem extendType?_passes {depth deeper : Nat} {declared longer : String} {token : Token}
    (extended : extendType? depth declared token = some (deeper, longer)) (rest : Tokens) :
    Passes depth (token :: rest) deeper rest ∧
      (OddArgument depth (token :: rest) ↔ OddArgument deeper rest) := by
  unfold extendType? at extended
  split at extended
  · rename_i word
    split at extended
    · cases extended
    · rename_i goesOn
      have same : OddArgument 0 (.word word :: rest) ↔ OddArgument 0 rest :=
        ⟨by rintro (⟨_, later⟩ | _); exact later, .word (by simpa using goesOn)⟩
      split at extended <;> cases extended <;> exact ⟨.one _ (by simp) (by simp), same⟩
  · cases extended
    refine ⟨.opening (.refl _ _), ?_, .opening⟩
    rintro (_ | later | _ | ⟨argument, _⟩ | ⟨_, notOpen, _⟩)
    · exact later
    · cases argument
    · exact absurd rfl notOpen
  · cases extended
    refine ⟨.closing (.refl _ _), ?_, .closing⟩
    rintro (_ | _ | later | ⟨argument, _⟩ | ⟨_, _, notClose⟩)
    · exact later
    · cases argument
    · exact absurd rfl notClose
  iterate 3
    · cases extended
      refine ⟨.one _ (by simp) (by simp), ?_, .argument rfl⟩
      rintro (_ | _ | _ | ⟨_, later⟩ | ⟨odd, _⟩)
      · exact later
      · cases odd
  · cases extended

theorem extendType?_eq_none {depth : Nat} {declared : String} {token : Token}
    (ended : extendType? depth declared token = none) (rest : Tokens) :
    depth = 0 ↔ ¬OddArgument depth (token :: rest) := by
  cases depth with
  | zero =>
      refine iff_of_true rfl ?_
      rintro (⟨goesOn, _⟩ | _)
      · simp only [extendType?, goesOn, Bool.false_eq_true, if_false] at ended
        split at ended
        · cases ended
        · cases ended
      · cases ended
  | succ depth =>
      refine iff_of_false (by simp) ?_
      intro even
      refine even (.odd ?_ ?_ ?_)
      · cases token with
        | word _ | number _ | comma => cases ended
        | _ => rfl
      · rintro rfl
        cases ended
      · rintro rfl
        cases ended

theorem readTypeFrom_passes {outside depth : Nat} {tokens rest : Tokens}
    (inside : Passes (outside + depth) tokens 0 (.closeParen :: rest)) (declared : String) :
    ∃ stop, Passes depth tokens stop (readTypeFrom depth declared tokens).2 ∧
      (stop = 0 ↔ ¬OddArgument depth tokens) := by
  fun_induction readTypeFrom depth declared tokens with
  | case1 depth declared => exact absurd rfl inside.left_ne_nil
  | case2 depth declared token after deeper longer extended ih =>
      obtain ⟨first, same⟩ := extendType?_passes extended after
      obtain ⟨stop, passes, even⟩ := ih (first.remaining inside)
      exact ⟨stop, first.trans passes, even.trans (not_congr same.symm)⟩
  | case3 depth declared token after ended =>
      exact ⟨depth, .refl _ _, extendType?_eq_none ended after⟩

theorem readDeclaredType_passes {outside : Nat} {tokens rest : Tokens}
    (inside : Passes outside tokens 0 (.closeParen :: rest)) :
    ∃ stop, Passes 0 tokens stop (readDeclaredType tokens).2 ∧
      (stop = 0 ↔ ¬OddArgument 0 tokens) := by
  have start : Passes (outside + 0) tokens 0 (.closeParen :: rest) := inside
  exact readTypeFrom_passes start ""

theorem skipDefault_skips (tokens : Tokens) : Skips 0 tokens (skipDefault tokens) := by
  unfold skipDefault
  split
  · exact .of_passes (.one _ (by simp) (by simp))
  · exact .of_passes (.one _ (by simp) (by simp))
  · exact .of_passes (.one _ (by simp) (by simp))
  · exact .after (.one _ (by simp) (by simp)) (skipParens_skips _)
  · exact skipParens_skips tokens

theorem isWord_ne_paren {token : Token} {word : String} (found : token.isWord word = true) :
    token ≠ .openParen ∧ token ≠ .closeParen := by
  constructor
  · rintro rfl
    cases found
  · rintro rfl
    cases found

theorem skipEvent_passes (tokens : Tokens) : Passes 0 tokens 0 (skipEvent tokens) := by
  unfold skipEvent
  split
  · exact .one _ (by simp) (by simp)
  · exact .one _ (by simp) (by simp)
  · exact .refl _ _

theorem skipAction_passes (tokens : Tokens) : Passes 0 tokens 0 (skipAction tokens) := by
  cases tokens with
  | nil => exact .refl _ _
  | cons token rest =>
      simp only [skipAction]
      split
      · rename_i action
        have known : token = .keyword .cascade ∨ token = .keyword .restrict := by
          simpa using action
        rcases known with rfl | rfl
        · exact .one _ (by simp) (by simp)
        · exact .one _ (by simp) (by simp)
      split
      · rename_i isSet
        obtain ⟨notOpen, notClose⟩ := isWord_ne_paren isSet
        have first : Passes 0 (token :: rest) 0 rest := .one _ notOpen notClose
        split
        · exact first.trans (.one _ (by simp) (by simp))
        · exact first.trans (.one _ (by simp) (by simp))
        · exact first
      split
      · rename_i isNo
        obtain ⟨notOpen, notClose⟩ := isWord_ne_paren isNo
        have first : Passes 0 (token :: rest) 0 rest := .one _ notOpen notClose
        split
        · exact first
        · split
          · rename_i next left isAction
            obtain ⟨nextNotOpen, nextNotClose⟩ := isWord_ne_paren isAction
            exact first.trans (.one _ nextNotOpen nextNotClose)
          · exact first
      · exact .refl _ _

theorem skipActions_passes (tokens : Tokens) : Passes 0 tokens 0 (skipActions tokens) := by
  fun_induction skipActions tokens with
  | case1 => exact .refl _ _
  | case2 rest ih =>
      have event := (skipEvent_passes rest).trans (skipAction_passes (skipEvent rest))
      exact .other (by simp) (by simp) (event.trans ih)
  | case3 => exact .refl _ _

end NestedQuery.SchemaDump
