import NestedQuery.Proofs.SchemaDump.Changes
import NestedQuery.Proofs.SchemaDump.Printing
import NestedQuery.Proofs.SchemaDump.Script
import NestedQuery.Proofs.Text.CaseMap

/-! Reading a dump does not depend on the letter case of its words. Words are folded to small
letters, and every reader makes of folded tokens what it makes of the tokens themselves. -/

namespace NestedQuery.SchemaDump

def foldedName (name : String) : String :=
  if Naming.isQuoted name then name else String.ofList (name.toList.map Char.toLower)

/-- Words in small letters, except for a word in quotes. -/
def Token.folded : Token → Token
  | .word name => .word (foldedName name)
  | token => token

theorem toLower_foldedName (name : String) :
    (foldedName name).toList.map Char.toLower = name.toList.map Char.toLower := by
  unfold foldedName
  split
  · rfl
  · rw [String.toList_ofList, List.map_map]
    exact List.map_congr_left fun c _ => Text.toLower_toLower c

theorem Token.isWord_folded (token : Token) (expected : String) :
    token.folded.isWord expected = token.isWord expected := by
  cases token with
  | word name => simp only [Token.folded, Token.isWord, sameWord, toLower_foldedName]
  | _ => rfl

theorem Token.isWordIn_folded (token : Token) (expected : List String) :
    token.folded.isWordIn expected = token.isWordIn expected := by
  rw [Token.isWordIn, Token.isWordIn, funext (Token.isWord_folded token)]

def Token.isWordToken : Token → Bool
  | .word _ => true
  | _ => false

theorem Token.folded_eq_iff {token : Token} (other : Token) (noWord : other.isWordToken = false) :
    token.folded = other ↔ token = other := by
  cases token with
  | word name =>
      constructor
      all_goals
        rintro rfl
        cases noWord
  | _ => rfl

/-! The readers of several parts fail where the reader of one part fails. -/

theorem readConstraints_failed {rule : CaseRule} {child : RelationId} {name : String}
    {facts : ColumnFacts} {token : Token} {rest : Tokens} {cause : DumpError}
    (goesOn : ¬EndsItem token)
    (step : columnStep rule child name facts token rest = .error cause) :
    readConstraints rule child name facts (token :: rest) = .error cause := by
  rw [readConstraints]
  · split
    · rename_i failed
      rw [step] at failed
      cases failed
      rfl
    · rename_i done
      rw [step] at done
      cases done
  · exact fun same => goesOn (.inl same)
  · exact fun same => goesOn (.inr same)

theorem readBody_failed {product : Product} {table : RelationId} {body : TableBody}
    {token : Token} {rest : Tokens} {cause : DumpError} (goesOn : token ≠ .closeParen)
    (step : bodyStep product table body token rest = .error cause) :
    readBody product table body (token :: rest) = .error cause := by
  rw [readBody]
  · split
    · rename_i failed
      rw [step] at failed
      cases failed
      rfl
    · rename_i done
      rw [step] at done
      cases done
  · exact goesOn

/-! Skippers leave folded tokens. -/

theorem skipNested_folded (depth : Nat) (tokens : Tokens) :
    skipNested depth (tokens.map Token.folded) = (skipNested depth tokens).map Token.folded := by
  induction tokens generalizing depth with
  | nil => cases depth <;> rfl
  | cons token rest ih =>
      cases depth with
      | zero => rfl
      | succ depth => cases token <;> exact ih _

theorem skipParens_folded (tokens : Tokens) :
    skipParens (tokens.map Token.folded) = (skipParens tokens).map Token.folded := by
  cases tokens with
  | nil => rfl
  | cons token rest =>
      cases token with
      | openParen => exact skipNested_folded 1 rest
      | _ => rfl

theorem skipUntil_folded {stops : List Token} (noWords : ∀ stop ∈ stops, stop.isWordToken = false)
    (depth : Nat) (tokens : Tokens) :
    skipUntil stops depth (tokens.map Token.folded) =
      (skipUntil stops depth tokens).map Token.folded := by
  have stopped (token : Token) : token.folded ∈ stops ↔ token ∈ stops := by
    constructor
    · intro member
      rwa [(Token.folded_eq_iff _ (noWords _ member)).mp rfl]
    · intro member
      rwa [(Token.folded_eq_iff _ (noWords _ member)).mpr rfl]
  induction tokens generalizing depth with
  | nil => cases depth <;> rfl
  | cons token rest ih =>
      cases depth with
      | zero =>
          simp only [List.map_cons, skipUntil, stopped,
            Token.folded_eq_iff .openParen rfl, ih]
          split
          · rfl
          · split <;> rfl
      | succ depth => cases token <;> exact ih _

theorem skipStatement_folded (tokens : Tokens) :
    skipStatement (tokens.map Token.folded) = (skipStatement tokens).map Token.folded := by
  induction tokens with
  | nil => rfl
  | cons token rest ih =>
      cases token with
      | semicolon => rfl
      | _ => exact ih

theorem skipKeyword_folded (keyword : Keyword) (tokens : Tokens) :
    skipKeyword keyword (tokens.map Token.folded) =
      (skipKeyword keyword tokens).map Token.folded := by
  cases tokens with
  | nil => rfl
  | cons token rest =>
      simp only [List.map_cons, skipKeyword, Token.folded_eq_iff (.keyword keyword) rfl]
      split <;> rfl

theorem skipDefault_folded (tokens : Tokens) :
    skipDefault (tokens.map Token.folded) = (skipDefault tokens).map Token.folded := by
  cases tokens with
  | nil => rfl
  | cons token rest =>
      cases token with
      | keyword keyword => cases keyword <;> rfl
      | word name => exact skipParens_folded rest
      | openParen => exact skipParens_folded (.openParen :: rest)
      | _ => rfl

theorem skipEvent_folded (tokens : Tokens) :
    skipEvent (tokens.map Token.folded) = (skipEvent tokens).map Token.folded := by
  cases tokens with
  | nil => rfl
  | cons token rest =>
      cases token with
      | keyword keyword => cases keyword <;> rfl
      | _ => rfl

theorem skipAction_folded (tokens : Tokens) :
    skipAction (tokens.map Token.folded) = (skipAction tokens).map Token.folded := by
  cases tokens with
  | nil => rfl
  | cons token rest =>
      simp only [List.map_cons, skipAction, Token.isWord_folded,
        Token.folded_eq_iff (.keyword .cascade) rfl,
        Token.folded_eq_iff (.keyword .restrict) rfl]
      split
      · rfl
      · split
        · rcases rest with _ | ⟨next, left⟩
          · rfl
          · cases next with
            | keyword keyword => cases keyword <;> rfl
            | _ => rfl
        · split
          · cases rest with
            | nil => rfl
            | cons next left =>
                simp only [List.map_cons, Token.isWord_folded]
                split <;> rfl
          · rfl

theorem skipActions_folded (tokens : Tokens) :
    skipActions (tokens.map Token.folded) = (skipActions tokens).map Token.folded := by
  fun_induction skipActions tokens with
  | case1 => rw [List.map_nil, skipActions]
  | case2 rest ih =>
      rw [List.map_cons, skipActions, if_pos (by rfl), skipEvent_folded, skipAction_folded]
      exact ih
  | case3 token rest other =>
      rw [List.map_cons, skipActions, if_neg]
      rwa [Token.folded_eq_iff _ rfl]

theorem skipItem_folded (tokens : Tokens) :
    skipItem (tokens.map Token.folded) = (skipItem tokens).map Token.folded :=
  skipUntil_folded (by decide) 0 tokens

theorem skipIfNotExists_folded (tokens : Tokens) :
    skipIfNotExists (tokens.map Token.folded) = (skipIfNotExists tokens).map Token.folded := by
  cases tokens with
  | nil => rfl
  | cons token rest =>
      have skipped := skipKeyword_folded .existsWord (skipKeyword .not rest)
      rw [← skipKeyword_folded] at skipped
      cases token with
      | keyword keyword =>
          cases keyword with
          | ifWord => exact skipped
          | _ => rfl
      | _ => rfl

theorem skipIfExists_folded (tokens : Tokens) :
    skipIfExists (tokens.map Token.folded) = (skipIfExists tokens).map Token.folded := by
  cases tokens with
  | nil => rfl
  | cons token rest =>
      cases token with
      | keyword keyword =>
          cases keyword with
          | ifWord => exact skipKeyword_folded .existsWord rest
          | _ => rfl
      | _ => rfl

/-! Declared types are looked up in small letters. -/

theorem isEmpty_eq {declared other : String}
    (same : other.toList.map Char.toLower = declared.toList.map Char.toLower) :
    other.isEmpty = declared.isEmpty := by
  have lengths : other.toList.length = declared.toList.length := by
    simpa using congrArg List.length same
  rw [Bool.eq_iff_iff, String.isEmpty_iff, String.isEmpty_iff, ← String.toList_eq_nil_iff,
    ← String.toList_eq_nil_iff, ← List.length_eq_zero_iff, ← List.length_eq_zero_iff, lengths]

theorem extendType?_folded {declared other : String}
    (same : other.toList.map Char.toLower = declared.toList.map Char.toLower) (depth : Nat)
    (token : Token) :
    (extendType? depth other token.folded).map
        (fun step => (step.1, step.2.toList.map Char.toLower)) =
      (extendType? depth declared token).map
        fun step => (step.1, step.2.toList.map Char.toLower) := by
  cases token with
  | word name =>
      have letters := toLower_foldedName name
      have stops := Token.isWordIn_folded (.word name) typeStops
      cases depth with
      | zero =>
          simp only [Token.folded] at stops
          simp only [Token.folded, extendType?, stops, isEmpty_eq same]
          split
          · rfl
          · split
            · simp [letters]
            · simp [letters, same]
      | succ depth => simp [Token.folded, extendType?, same, letters]
  | openParen => cases depth <;> simp [Token.folded, extendType?, same]
  | _ => cases depth <;> simp [Token.folded, extendType?, same]

theorem readTypeFrom_folded (tokens : Tokens) {declared other : String}
    (same : other.toList.map Char.toLower = declared.toList.map Char.toLower) (depth : Nat) :
    (readTypeFrom depth other (tokens.map Token.folded)).2 =
        (readTypeFrom depth declared tokens).2.map Token.folded ∧
      (readTypeFrom depth other (tokens.map Token.folded)).1.toList.map Char.toLower =
        (readTypeFrom depth declared tokens).1.toList.map Char.toLower := by
  induction tokens generalizing depth declared other with
  | nil => exact ⟨by simp [readTypeFrom], by simpa [readTypeFrom] using same⟩
  | cons token rest ih =>
      have step := extendType?_folded same depth token
      simp only [List.map_cons, readTypeFrom]
      cases here : extendType? depth declared token with
      | none =>
          rw [here, Option.map_none, Option.map_eq_none_iff] at step
          rw [step]
          exact ⟨rfl, same⟩
      | some found =>
          rw [here, Option.map_some, Option.map_eq_some_iff] at step
          obtain ⟨⟨deeper, longer⟩, there, sameStep⟩ := step
          obtain ⟨rfl, sameLonger⟩ := Prod.mk.inj sameStep
          rw [there]
          exact ih sameLonger _

theorem columnType_eq {declared other : String}
    (same : other.toList.map Char.toLower = declared.toList.map Char.toLower) (product : Product) :
    product.columnType other = product.columnType declared := by
  have lowered : Text.lowerChars other.toList = Text.lowerChars declared.toList := by
    rw [← Text.lowerChars_toLower other.toList, same, Text.lowerChars_toLower]
  unfold Product.columnType
  rw [lowered]

def DumpError.folded : DumpError → DumpError
  | .expected what found => .expected what (found.map Token.folded)
  | .unknownProduct name => .unknownProduct name

def foldedResult {α : Type} : Except DumpError (α × Tokens) → Except DumpError (α × Tokens)
  | .error cause => .error cause.folded
  | .ok (value, left) => .ok (value, left.map Token.folded)

section Reading

variable {rule : CaseRule} (blind : ∀ token, nameOf? rule token.folded = nameOf? rule token)

include blind

theorem readName_folded (tokens : Tokens) :
    readName rule (tokens.map Token.folded) =
      ((readName rule tokens).1, (readName rule tokens).2.map Token.folded) := by
  cases tokens with
  | nil => rfl
  | cons token rest =>
      simp only [List.map_cons, readName, blind]
      cases nameOf? rule token <;> rfl

theorem readRelationId_folded (tokens : Tokens) :
    readRelationId rule (tokens.map Token.folded) =
      ((readRelationId rule tokens).1, (readRelationId rule tokens).2.map Token.folded) := by
  unfold readRelationId
  rw [readName_folded blind]
  rcases readName rule tokens with ⟨_ | first, _ | ⟨token, rest⟩⟩
  · rfl
  · rfl
  · rfl
  · cases token with
    | dot =>
        simp only [List.map_cons, Token.folded]
        rw [readName_folded blind]
        rcases readName rule rest with ⟨_ | name, left⟩ <;> rfl
    | _ => rfl

theorem readNames_folded (tokens : Tokens) :
    readNames rule (tokens.map Token.folded) =
      ((readNames rule tokens).1, (readNames rule tokens).2.map Token.folded) := by
  induction tokens with
  | nil => rfl
  | cons token rest ih =>
      by_cases closes : token = .closeParen
      · subst closes
        rfl
      · have stays : token.folded ≠ .closeParen := by rwa [ne_eq, Token.folded_eq_iff _ rfl]
        rw [List.map_cons, readNames, readNames, ih, blind]
        · exact closes
        · exact stays

theorem readColumnList_folded (tokens : Tokens) :
    readColumnList rule (tokens.map Token.folded) =
      ((readColumnList rule tokens).1, (readColumnList rule tokens).2.map Token.folded) := by
  cases tokens with
  | nil => rfl
  | cons token rest =>
      cases token with
      | openParen => exact readNames_folded blind rest
      | _ => rfl

theorem readReference_folded (tokens : Tokens) :
    readReference rule (tokens.map Token.folded) = foldedResult (readReference rule tokens) := by
  unfold readReference
  rw [readRelationId_folded blind]
  rcases readRelationId rule tokens with ⟨_ | parent, rest⟩
  · simp [foldedResult, DumpError.folded]
  · simp only [readColumnList_folded blind]
    rfl

theorem readForeignKey_folded (child : RelationId) (constraintName : Option String)
    (tokens : Tokens) :
    readForeignKey rule child constraintName (tokens.map Token.folded) =
      foldedResult (readForeignKey rule child constraintName tokens) := by
  rcases tokens with _ | ⟨token, rest⟩
  · rfl
  cases token with
  | keyword keyword =>
      cases keyword with
      | key =>
          simp only [List.map_cons, Token.folded, readForeignKey, readColumnList_folded blind]
          rcases readColumnList rule rest with ⟨childFields, _ | ⟨next, target⟩⟩
          · rfl
          cases next with
          | keyword keyword =>
              cases keyword with
              | references =>
                  simp only [List.map_cons, Token.folded, readReference_folded blind]
                  rcases readReference rule target with cause | ⟨⟨parent, parentFields⟩, after⟩
                  · rfl
                  · simp only [foldedResult]
                    rw [skipActions_folded, skipUntil_folded (by decide)]
              | _ => rfl
          | _ => rfl
      | _ => rfl
  | _ => rfl

theorem columnStep_folded (child : RelationId) (name : String) (facts : ColumnFacts)
    (token : Token) (rest : Tokens) :
    columnStep rule child name facts token.folded (rest.map Token.folded) =
      foldedResult (columnStep rule child name facts token rest) := by
  cases token with
  | keyword keyword =>
      cases keyword with
      | primary => simp only [Token.folded, columnStep, skipKeyword_folded, foldedResult]
      | not =>
          rcases rest with _ | ⟨next, left⟩
          · rfl
          cases next with
          | keyword keyword => cases keyword <;> rfl
          | _ => rfl
      | default => simp only [Token.folded, columnStep, skipDefault_folded, foldedResult]
      | constraint =>
          simp only [Token.folded, columnStep, readName_folded blind, foldedResult]
      | references =>
          simp only [Token.folded, columnStep, readReference_folded blind]
          rcases readReference rule rest with cause | ⟨⟨parent, parentFields⟩, left⟩
          · rfl
          · simp only [foldedResult, skipActions_folded]
      | check => simp only [Token.folded, columnStep, skipParens_folded, foldedResult]
      | _ => rfl
  | openParen => simp only [Token.folded, columnStep, skipNested_folded, foldedResult]
  | _ => rfl

omit blind in
theorem endsItem_folded {token : Token} : EndsItem token.folded ↔ EndsItem token := by
  rw [EndsItem, Token.folded_eq_iff _ rfl, Token.folded_eq_iff _ rfl, EndsItem]

theorem readConstraints_folded (child : RelationId) (name : String) (facts : ColumnFacts)
    (tokens : Tokens) :
    readConstraints rule child name facts (tokens.map Token.folded) =
      foldedResult (readConstraints rule child name facts tokens) := by
  fun_induction readConstraints rule child name facts tokens with
  | case1 =>
      rw [List.map_nil, readConstraints]
      rfl
  | case2 => exact readConstraints_stop (.inl rfl) rule child name _ _
  | case3 => exact readConstraints_stop (.inr rfl) rule child name _ _
  | case4 facts token rest notComma notEnd cause step =>
      have goesOn := endsItem_folded.not.mpr (not_or.mpr ⟨notComma, notEnd⟩)
      have failed := columnStep_folded blind child name facts token rest
      rw [step] at failed
      exact readConstraints_failed goesOn failed
  | case5 facts token rest notComma notEnd changed left step shorter ih =>
      have goesOn := endsItem_folded.not.mpr (not_or.mpr ⟨notComma, notEnd⟩)
      have passed := columnStep_folded blind child name facts token rest
      rw [step] at passed
      rw [List.map_cons, readConstraints_step goesOn passed]
      exact ih

end Reading

section Statements

variable (product : Product)

theorem nameOf?_folded (token : Token) :
    nameOf? product.caseRule token.folded = nameOf? product.caseRule token := by
  cases token with
  | word name =>
      cases quoted : Naming.isQuoted name with
      | true => simp [Token.folded, foldedName, quoted]
      | false =>
          have oneCase : product.caseRule = .storedLower ∨ product.caseRule = .storedUpper := by
            cases product <;> simp [Product.caseRule]
          simp [Token.folded, foldedName, quoted, nameOf?,
            CaseRule.normalize_toLower oneCase quoted]
  | _ => rfl

theorem readColumn_folded (child : RelationId) (body : TableBody) (name : String)
    (tokens : Tokens) :
    readColumn product child body name (tokens.map Token.folded) =
      foldedResult (readColumn product child body name tokens) := by
  obtain ⟨left, letters⟩ := readTypeFrom_folded tokens (rfl : "".toList.map Char.toLower = _) 0
  unfold readColumn readDeclaredType
  generalize readTypeFrom 0 "" (tokens.map Token.folded) = folded at left letters
  generalize readTypeFrom 0 "" tokens = read at left letters
  obtain ⟨declared, rest⟩ := read
  obtain ⟨other, otherRest⟩ := folded
  dsimp only at left letters ⊢
  rw [left, isEmpty_eq letters, columnType_eq letters, skipItem_folded,
    readConstraints_folded (nameOf?_folded product)]
  split
  · rfl
  · rcases readConstraints product.caseRule child name {} rest with cause | ⟨facts, after⟩ <;> rfl

theorem bodyStep_folded (table : RelationId) (body : TableBody) (token : Token) (rest : Tokens) :
    bodyStep product table body token.folded (rest.map Token.folded) =
      foldedResult (bodyStep product table body token rest) := by
  have blind := nameOf?_folded product
  cases token with
  | keyword keyword =>
      cases keyword with
      | constraint => simp only [Token.folded, bodyStep, readName_folded blind, foldedResult]
      | primary =>
          simp only [Token.folded, bodyStep, skipKeyword_folded, readColumnList_folded blind,
            skipItem_folded, foldedResult]
      | foreign =>
          simp only [Token.folded, bodyStep, readForeignKey_folded blind]
          rcases readForeignKey product.caseRule table body.constraintName rest with
            cause | ⟨key, left⟩ <;> rfl
      | unique => simp only [Token.folded, bodyStep, skipItem_folded, foldedResult]
      | index => simp only [Token.folded, bodyStep, skipItem_folded, foldedResult]
      | key => simp only [Token.folded, bodyStep, skipItem_folded, foldedResult]
      | check => simp only [Token.folded, bodyStep, skipItem_folded, foldedResult]
      | _ => rfl
  | word name =>
      have named := blind (.word name)
      have listed := Token.isWordIn_folded (.word name) ["like", "exclude"]
      simp only [Token.folded, nameOf?, Option.some.injEq] at named listed
      simp only [Token.folded, bodyStep, nameOf?, named, listed]
      split
      · simp only [skipItem_folded, foldedResult]
      · exact readColumn_folded product table body _ rest
  | quotedName name => exact readColumn_folded product table body name rest
  | _ => rfl

theorem readBody_folded (table : RelationId) (body : TableBody) (tokens : Tokens) :
    readBody product table body (tokens.map Token.folded) =
      foldedResult (readBody product table body tokens) := by
  fun_induction readBody product table body tokens with
  | case1 =>
      rw [List.map_nil, readBody]
      rfl
  | case2 body rest =>
      change readBody product table body (.closeParen :: rest.map Token.folded) = _
      rw [readBody]
      rfl
  | case3 body token rest notEnd cause step =>
      have goesOn : token.folded ≠ .closeParen := by rwa [ne_eq, Token.folded_eq_iff _ rfl]
      have failed := bodyStep_folded product table body token rest
      rw [step] at failed
      exact readBody_failed goesOn failed
  | case4 body token rest notEnd changed left step shorter ih =>
      have goesOn : token.folded ≠ .closeParen := by rwa [ne_eq, Token.folded_eq_iff _ rfl]
      have passed := bodyStep_folded product table body token rest
      rw [step] at passed
      rw [List.map_cons, readBody_step goesOn passed]
      exact ih

theorem skipped_folded (draft : Draft) (tokens : Tokens) :
    Except.ok (draft, skipStatement (tokens.map Token.folded)) =
      foldedResult (.ok (draft, skipStatement tokens)) := by
  rw [skipStatement_folded, foldedResult]

theorem readTable_folded (draft : Draft) (table : RelationId) (tokens : Tokens) :
    readTable product draft table (tokens.map Token.folded) =
      foldedResult (readTable product draft table tokens) := by
  rcases tokens with _ | ⟨token, rest⟩
  · rfl
  have passed := skipped_folded draft (token :: rest)
  cases token with
  | openParen =>
      simp only [List.map_cons, Token.folded, readTable, readBody_folded]
      rcases readBody product table {} rest with cause | ⟨body, left⟩
      · rfl
      · simp only [foldedResult, skipStatement_folded]
  | _ => exact passed

theorem readCreate_folded (draft : Draft) (tokens : Tokens) :
    readCreate product draft (tokens.map Token.folded) =
      foldedResult (readCreate product draft tokens) := by
  have blind := nameOf?_folded product
  have modified : (tokens.map Token.folded).dropWhile (·.isWordIn createModifiers) =
      (tokens.dropWhile (·.isWordIn createModifiers)).map Token.folded := by
    rw [List.dropWhile_map]
    simp only [Function.comp_def, Token.isWordIn_folded]
  unfold readCreate
  rw [modified]
  generalize tokens.dropWhile (·.isWordIn createModifiers) = statement
  rcases statement with _ | ⟨token, rest⟩
  · rfl
  have passed := skipped_folded draft (token :: rest)
  cases token with
  | keyword keyword =>
      cases keyword with
      | table =>
          simp only [List.map_cons, Token.folded, skipIfNotExists_folded,
            readRelationId_folded blind]
          rcases readRelationId product.caseRule (skipIfNotExists rest) with ⟨_ | table, left⟩
          · simp only [skipStatement_folded, foldedResult]
          · exact readTable_folded product draft table left
      | view =>
          simp only [List.map_cons, Token.folded, skipIfNotExists_folded,
            readRelationId_folded blind]
          rcases readRelationId product.caseRule (skipIfNotExists rest) with ⟨_ | view, left⟩
          · simp only [skipStatement_folded, foldedResult]
          · simp only [readColumnList_folded blind, skipStatement_folded, foldedResult]
      | _ => exact passed
  | _ => exact passed

theorem readAddedConstraint_folded (draft : Draft) (table : RelationId)
    (constraintName : Option String) (tokens : Tokens) :
    readAddedConstraint product draft table constraintName (tokens.map Token.folded) =
      foldedResult (readAddedConstraint product draft table constraintName tokens) := by
  have blind := nameOf?_folded product
  rcases tokens with _ | ⟨token, rest⟩
  · rfl
  have passed := skipped_folded draft (token :: rest)
  cases token with
  | keyword keyword =>
      cases keyword with
      | primary =>
          simp only [List.map_cons, Token.folded, readAddedConstraint, skipKeyword_folded,
            readColumnList_folded blind, skipStatement_folded, foldedResult]
      | foreign =>
          simp only [List.map_cons, Token.folded, readAddedConstraint, readForeignKey_folded blind]
          rcases readForeignKey product.caseRule table constraintName rest with
            cause | ⟨_ | key, left⟩
          · rfl
          · simp only [foldedResult, skipStatement_folded]
          · simp only [foldedResult, skipStatement_folded]
      | _ => exact passed
  | _ => exact passed

theorem readAlter_folded (draft : Draft) (tokens : Tokens) :
    readAlter product draft (tokens.map Token.folded) =
      foldedResult (readAlter product draft tokens) := by
  have blind := nameOf?_folded product
  rcases tokens with _ | ⟨token, rest⟩
  · rfl
  have passed := skipped_folded draft (token :: rest)
  cases token with
  | keyword keyword =>
      cases keyword with
      | table =>
          simp only [List.map_cons, Token.folded, readAlter, skipIfExists_folded,
            skipKeyword_folded, readRelationId_folded blind]
          rcases readRelationId product.caseRule (skipKeyword .only (skipIfExists rest)) with
            ⟨_ | table, left⟩
          · exact skipped_folded draft left
          rcases left with _ | ⟨next, left⟩
          · rfl
          have ended := skipped_folded draft (next :: left)
          cases next with
          | keyword keyword =>
              cases keyword with
              | add =>
                  have plain := readAddedConstraint_folded product draft table none left
                  rcases left with _ | ⟨after, left⟩
                  · exact plain
                  cases after with
                  | keyword keyword =>
                      cases keyword with
                      | constraint =>
                          simp only [List.map_cons, Token.folded, readName_folded blind]
                          exact readAddedConstraint_folded product draft table _ _
                      | _ => exact plain
                  | _ => exact plain
              | _ => exact ended
          | _ => exact ended
      | _ => exact passed
  | _ => exact passed

theorem readStatements_folded (draft : Draft) (tokens : Tokens) :
    readStatements product draft (tokens.map Token.folded) =
      (readStatements product draft tokens).mapError DumpError.folded := by
  fun_induction readStatements product draft tokens with
  | case1 draft =>
      rw [List.map_nil, readStatements]
      rfl
  | case2 draft rest cause read =>
      have failed := readCreate_folded product draft rest
      rw [read] at failed
      exact readStatements_create_failed failed
  | case3 draft rest changed left read shorter ih =>
      have passed := readCreate_folded product draft rest
      rw [read] at passed
      exact (readStatements_create passed).trans ih
  | case4 draft rest cause read =>
      have failed := readAlter_folded product draft rest
      rw [read] at failed
      exact readStatements_alter_failed failed
  | case5 draft rest changed left read shorter ih =>
      have passed := readAlter_folded product draft rest
      rw [read] at passed
      exact (readStatements_alter passed).trans ih
  | case6 draft token rest notCreate notAlter ih =>
      rw [List.map_cons, readStatements, ih]
      · rwa [Token.folded_eq_iff _ rfl]
      · rwa [Token.folded_eq_iff _ rfl]

end Statements

/-- Tokens that are equal, or words that differ in the case of the letters A to Z only. -/
def Token.sameButCase : Token → Token → Bool
  | .word name, .word other => sameWord name.toList other.toList
  | token, other => token == other

abbrev Alike (tokens others : Tokens) : Prop :=
  List.Forall₂ (fun token other => token.sameButCase other = true) tokens others

theorem Token.folded_eq_of_sameButCase {token other : Token}
    (same : token.sameButCase other = true)
    (bare : ∀ name, token = .word name → Naming.isQuoted name = false) :
    token.folded = other.folded := by
  unfold Token.sameButCase at same
  split at same
  · rename_i name other
    rw [sameWord_iff] at same
    have left := bare name rfl
    have right : Naming.isQuoted other = false := by
      rw [Naming.isQuoted, ← Naming.isQuotedChars_toLower, ← same, Naming.isQuotedChars_toLower]
      exact left
    simp [Token.folded, foldedName, left, right, same]
  · rw [eq_of_beq same]

def DumpError.expectation? : DumpError → Option Expectation
  | .expected what _ => some what
  | .unknownProduct _ => none

/-- What comes of reading a dump, apart from the token that an error shows. -/
def outcome (product : Product) (tokens : Tokens) : Except (Option Expectation) Catalog :=
  ((readStatements product {} tokens).map (·.catalog product)).mapError DumpError.expectation?

theorem outcome_folded (product : Product) (tokens : Tokens) :
    outcome product (tokens.map Token.folded) = outcome product tokens := by
  unfold outcome
  rw [readStatements_folded]
  cases readStatements product {} tokens with
  | error cause => cases cause <;> rfl
  | ok draft => rfl

theorem map_folded_eq {tokens others : Tokens}
    (same : Alike tokens others)
    (bare : ∀ name, .word name ∈ tokens → Naming.isQuoted name = false) :
    tokens.map Token.folded = others.map Token.folded := by
  induction same with
  | nil => rfl
  | cons first rest ih =>
      rw [List.map_cons, List.map_cons, ih fun name member => bare name (.tail _ member)]
      congr 1
      exact Token.folded_eq_of_sameButCase first fun name same => bare name (same ▸ .head _)

theorem isQuoted_of_mem_scan {dump name : String} (member : .word name ∈ scan dump) :
    Naming.isQuoted name = false := by
  obtain ⟨⟨first, rest, chars, starts, -⟩, -⟩ := wellFormed_scanChars dump.toList _ member
  have noQuote : first ≠ '"' := by
    rintro rfl
    exact absurd starts (by decide)
  simp [Naming.isQuoted, Naming.isQuotedChars, chars, noQuote]

/-- Tokens whose words differ in letter case only are read alike: both fail at the same
expectation, or both give the same catalog. No word may be in quotes, and none of a dump is. -/
theorem reading_ignores_letter_case (product : Product) :
    (∀ tokens others : Tokens, Alike tokens others →
      (∀ name, .word name ∈ tokens → Naming.isQuoted name = false) →
      outcome product tokens = outcome product others) ∧
    ∀ dump other : String, Alike (scan dump) (scan other) →
      outcome product (scan dump) = outcome product (scan other) := by
  have alike (tokens others : Tokens) (same : Alike tokens others)
      (bare : ∀ name, .word name ∈ tokens → Naming.isQuoted name = false) :
      outcome product tokens = outcome product others := by
    rw [← outcome_folded product tokens, map_folded_eq same bare, outcome_folded]
  exact ⟨alike, fun dump other same =>
    alike (scan dump) (scan other) same fun name => isQuoted_of_mem_scan⟩

namespace Quay

def dump : String := "create table dock.\"Ship\" (id number(9), note VarChar2 collate binary);"

def capitals : String := "CREATE TABLE DOCK.\"Ship\" (ID NUMBER(9), NOTE VARCHAR2 COLLATE BINARY);"

def cutOff (name type : String) : Tokens :=
  [.keyword .create, .word "Temporary", .keyword .table, .word "Ship", .openParen, .word name,
   .word type, .keyword .references]

end Quay

theorem reading_ignores_letter_case_quay :
    (Alike (Quay.cutOff "Berth" "int") (Quay.cutOff "bERTH" "INT") ∧
      (∀ name, .word name ∈ Quay.cutOff "Berth" "int" → Naming.isQuoted name = false) ∧
      outcome .postgres (Quay.cutOff "Berth" "int") =
        outcome .postgres (Quay.cutOff "bERTH" "INT")) ∧
    Alike (scan Quay.dump) (scan Quay.capitals) ∧
      outcome .oracle (scan Quay.dump) = outcome .oracle (scan Quay.capitals) := by
  have words : Alike (Quay.cutOff "Berth" "int") (Quay.cutOff "bERTH" "INT") := by decide +kernel
  have bare : ∀ name, .word name ∈ Quay.cutOff "Berth" "int" → Naming.isQuoted name = false := by
    intro name member
    simp [Quay.cutOff] at member
    rcases member with rfl | rfl | rfl | rfl <;> decide +kernel
  have dumps : Alike (scan Quay.dump) (scan Quay.capitals) := by decide +kernel
  exact ⟨⟨words, bare, (reading_ignores_letter_case .postgres).1 _ _ words bare⟩, dumps,
    (reading_ignores_letter_case .oracle).2 _ _ dumps⟩

end NestedQuery.SchemaDump
