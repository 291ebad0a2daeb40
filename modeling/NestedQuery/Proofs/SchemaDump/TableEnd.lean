import Mathlib.Logic.Relation
import NestedQuery.Proofs.SchemaDump.Nesting
import NestedQuery.Proofs.SchemaDump.Parsing

/-! Where the definition of a table ends. The body of a table is read part by part up to a closing
parenthesis. It is the one that closes the definition unless a phrase in some part stops inside a
parenthesis that it has opened, and then the definition ends too early. -/

namespace NestedQuery.SchemaDump

def ColumnMove (rule : CaseRule) (child : RelationId) (name : String)
    (before after : ColumnFacts × Tokens) : Prop :=
  ∃ token rest, before.2 = token :: rest ∧ ¬EndsItem token ∧
    columnStep rule child name before.1 token rest = .ok after

def BodyMove (product : Product) (table : RelationId) (before after : TableBody × Tokens) : Prop :=
  ∃ token rest, before.2 = token :: rest ∧ token ≠ .closeParen ∧
    bodyStep product table before.1 token rest = .ok after

def afterColumns (rule : CaseRule) (tokens : Tokens) : Tokens := (readColumnList rule tokens).2

def afterId (rule : CaseRule) (tokens : Tokens) : Tokens := (readRelationId rule tokens).2

def StartsColumn (rule : CaseRule) (token : Token) (name : String) : Prop :=
  nameOf? rule token = some name ∧ token.isWordIn ["like", "exclude"] = false

/-- A part with a phrase that stops inside a parenthesis: a parenthesis before the part, a list of
columns with a list in it, or a type with an argument that no type has. -/
inductive Slips (product : Product) (table : RelationId) : (part : Tokens) → Prop
  | opening {rest} : Slips product table (.openParen :: rest)
  | primaryKey {rest} : NestedList (skipKeyword .key rest) →
      Slips product table (.keyword .primary :: rest)
  | foreignKey {rest} : NestedList rest →
      Slips product table (.keyword .foreign :: .keyword .key :: rest)
  | target {rest after} : afterColumns product.caseRule rest = .keyword .references :: after →
      NestedList (afterId product.caseRule after) →
      Slips product table (.keyword .foreign :: .keyword .key :: rest)
  | type {token name rest} : StartsColumn product.caseRule token name → OddArgument 0 rest →
      Slips product table (token :: rest)
  | reference {token name rest facts after} : StartsColumn product.caseRule token name →
      (readDeclaredType rest).1.isEmpty = false →
      Relation.ReflTransGen (ColumnMove product.caseRule table name) ({}, (readDeclaredType rest).2)
        (facts, .keyword .references :: after) →
      NestedList (afterId product.caseRule after) → Slips product table (token :: rest)

theorem reach_iff_of_only {α : Type} {move : α → α → Prop} {start next : α} (step : move start next)
    (only : ∀ other, move start other → other = next) (last : α) :
    Relation.ReflTransGen move start last ↔
      last = start ∨ Relation.ReflTransGen move next last := by
  rw [Relation.ReflTransGen.cases_head_iff]
  constructor
  · rintro (same | ⟨other, moved, reached⟩)
    · exact .inl same.symm
    · rw [only other moved] at reached
      exact .inr reached
  · rintro (same | reached)
    · exact .inl same.symm
    · exact .inr ⟨next, step, reached⟩

theorem columnMove_iff {rule : CaseRule} {child : RelationId} {name : String}
    {facts changed : ColumnFacts} {token : Token} {rest left : Tokens} (goesOn : ¬EndsItem token)
    (step : columnStep rule child name facts token rest = .ok (changed, left))
    (last : ColumnFacts × Tokens) :
    Relation.ReflTransGen (ColumnMove rule child name) (facts, token :: rest) last ↔
      last = (facts, token :: rest) ∨
        Relation.ReflTransGen (ColumnMove rule child name) (changed, left) last := by
  apply reach_iff_of_only
  · exact ⟨token, rest, rfl, goesOn, step⟩
  · rintro other ⟨_, _, same, _, moved⟩
    cases same
    exact Except.ok.inj (moved.symm.trans step)

theorem bodyMove_iff {product : Product} {table : RelationId} {body changed : TableBody}
    {token : Token} {rest left : Tokens} (goesOn : token ≠ .closeParen)
    (step : bodyStep product table body token rest = .ok (changed, left))
    (last : TableBody × Tokens) :
    Relation.ReflTransGen (BodyMove product table) (body, token :: rest) last ↔
      last = (body, token :: rest) ∨
        Relation.ReflTransGen (BodyMove product table) (changed, left) last := by
  apply reach_iff_of_only
  · exact ⟨token, rest, rfl, goesOn, step⟩
  · rintro other ⟨_, _, same, _, moved⟩
    cases same
    exact Except.ok.inj (moved.symm.trans step)

theorem readReference_left {rule : CaseRule} {tokens left : Tokens}
    {reference : RelationId × List String}
    (read : readReference rule tokens = .ok (reference, left)) :
    left = afterColumns rule (afterId rule tokens) := by
  unfold readReference at read
  unfold afterColumns afterId
  split at read
  · cases read
  · rename_i parent rest found
    cases read
    rw [found]
    rfl

theorem reference_passes (rule : CaseRule) {outside : Nat} {tokens rest : Tokens}
    (inside : Passes outside tokens 0 (.closeParen :: rest)) :
    ∃ stop, Passes 0 tokens stop (afterColumns rule (afterId rule tokens)) ∧
      (stop = 0 ↔ ¬NestedList (afterId rule tokens)) := by
  have target : Passes 0 tokens 0 (afterId rule tokens) := readRelationId_passes rule tokens
  obtain ⟨stop, passes, flat⟩ := readColumnList_passes rule (target.remaining inside)
  exact ⟨stop, target.trans passes, flat⟩

theorem columnStep_skips {rule : CaseRule} {child : RelationId} {name : String}
    {facts changed : ColumnFacts} {token : Token} {rest left : Tokens}
    (goesOn : ¬EndsItem token) (noReference : token ≠ .keyword .references)
    (step : columnStep rule child name facts token rest = .ok (changed, left)) :
    Skips 0 (token :: rest) left := by
  have word (keyword : Keyword) (rest : Tokens) : Passes 0 (.keyword keyword :: rest) 0 rest :=
    .one _ (by simp) (by simp)
  unfold columnStep at step
  split at step
  · cases step
    exact .of_passes ((word _ _).trans (skipKeyword_passes .key rest))
  · split at step
    · cases step
      exact .of_passes ((word _ _).trans (word _ _))
    · cases step
      exact .of_passes (word _ _)
  · cases step
    exact .after (word _ _) (skipDefault_skips rest)
  · cases step
    exact .of_passes ((word _ _).trans (readName_passes rule rest))
  · exact absurd rfl noReference
  · cases step
    exact .after (word _ _) (skipParens_skips rest)
  · cases step
    exact .after (.opening (.refl _ _)) (skipNested_skips 1 rest)
  · rename_i notOpen
    cases step
    exact .of_passes (.one _ notOpen fun close => goesOn (.inr close))

theorem columnStep_reference {rule : CaseRule} {child : RelationId} {name : String}
    {facts changed : ColumnFacts} {tokens left rest : Tokens} {outside : Nat}
    (inside : Passes outside (.keyword .references :: tokens) 0 (.closeParen :: rest))
    (step : columnStep rule child name facts (.keyword .references) tokens = .ok (changed, left)) :
    ∃ stop, Passes 0 (.keyword .references :: tokens) stop left ∧
      (stop = 0 ↔ ¬NestedList (afterId rule tokens)) := by
  have keyword : Passes 0 (.keyword .references :: tokens) 0 tokens := .one _ (by simp) (by simp)
  obtain ⟨stop, passes, flat⟩ := reference_passes rule (keyword.remaining inside)
  unfold columnStep at step
  simp only at step
  split at step
  · cases step
  · rename_i parent parentFields after read
    cases step
    have actions := skipActions_passes after
    rw [readReference_left read] at actions ⊢
    exact ⟨stop, (keyword.trans passes).add actions, flat⟩

theorem readConstraints_passes {rule : CaseRule} {child : RelationId} {name : String}
    {facts final : ColumnFacts} {tokens left rest : Tokens} {outside : Nat}
    (inside : Passes outside tokens 0 (.closeParen :: rest))
    (read : readConstraints rule child name facts tokens = .ok (final, left)) :
    ∃ stop, Passes 0 tokens stop left ∧
      (stop = 0 ↔ ∀ reached after,
        Relation.ReflTransGen (ColumnMove rule child name) (facts, tokens)
          (reached, .keyword .references :: after) →
        ¬NestedList (afterId rule after)) := by
  fun_induction readConstraints rule child name facts tokens generalizing outside with
  | case1 => cases inside
  | case2 facts after =>
      cases read
      refine ⟨0, .refl _ _, iff_of_true rfl ?_⟩
      intro reached target path
      obtain same | ⟨_, ⟨_, _, same, goesOn, _⟩, _⟩ := Relation.ReflTransGen.cases_head path
      · cases same
      · cases same
        exact absurd (.inl rfl) goesOn
  | case3 facts after =>
      cases read
      refine ⟨0, .refl _ _, iff_of_true rfl ?_⟩
      intro reached target path
      obtain same | ⟨_, ⟨_, _, same, goesOn, _⟩, _⟩ := Relation.ReflTransGen.cases_head path
      · cases same
      · cases same
        exact absurd (.inr rfl) goesOn
  | case4 => cases read
  | case5 facts token after notComma notClose changed between step shorter ih =>
      have goesOn : ¬EndsItem token := by
        rintro (comma | close)
        · exact notComma comma
        · exact notClose close
      have reach := columnMove_iff goesOn step
      obtain ⟨first, firstPasses, firstWhole⟩ : ∃ first,
          Passes 0 (token :: after) first between ∧
            (first = 0 ↔ ∀ target, token :: after = .keyword .references :: target →
              ¬NestedList (afterId rule target)) := by
        by_cases isReference : token = .keyword .references
        · subst isReference
          obtain ⟨stop, passes, flat⟩ := columnStep_reference inside step
          refine ⟨stop, passes, flat.trans ⟨?_, fun all => all after rfl⟩⟩
          rintro flat target same
          cases same
          exact flat
        · have passes := (columnStep_skips goesOn isReference step).passes inside
          refine ⟨0, passes, iff_of_true rfl ?_⟩
          rintro target same
          cases same
          exact absurd rfl isReference
      obtain ⟨second, secondPasses, secondWhole⟩ := ih (firstPasses.remaining inside) read
      refine ⟨first + second, firstPasses.add secondPasses, ?_⟩
      rw [Nat.add_eq_zero_iff, firstWhole, secondWhole]
      constructor
      · rintro ⟨here, later⟩ reached target path
        rcases (reach _).mp path with same | path
        · exact here target (Prod.mk.inj same).2.symm
        · exact later reached target path
      · intro all
        constructor
        · rintro target same
          exact all facts target ((reach _).mpr (.inl (by rw [same])))
        · intro reached target path
          exact all reached target ((reach _).mpr (.inr path))

theorem readForeignKey_passes {product : Product} {table : RelationId}
    {constraintName : Option String} {tokens left rest : Tokens} {outside : Nat}
    {key : Option KeyDeclaration} (inside : Passes outside tokens 0 (.closeParen :: rest))
    (read : readForeignKey product.caseRule table constraintName tokens = .ok (key, left)) :
    ∃ stop, Passes 0 tokens stop left ∧
      (stop = 0 ↔ ¬Slips product table (.keyword .foreign :: tokens)) := by
  unfold readForeignKey at read
  split at read
  · rename_i list
    have keyword : Passes 0 (.keyword .key :: list) 0 list := .one _ (by simp) (by simp)
    obtain ⟨first, columns, flat⟩ :=
      readColumnList_passes product.caseRule (keyword.remaining inside)
    have listed := keyword.trans columns
    simp only at read
    split at read
    · rename_i target found
      rw [found] at listed
      split at read
      · cases read
      · rename_i parent parentFields after reference
        cases read
        have word : Passes 0 (.keyword .references :: target) 0 target :=
          .one _ (by simp) (by simp)
        have named := listed.add word
        obtain ⟨second, referenced, flatTarget⟩ :=
          reference_passes product.caseRule (named.remaining inside)
        have actions := skipActions_passes after
        rw [readReference_left reference] at actions ⊢
        have whole := (named.add referenced).add actions
        have ends : Token.closeParen ∈ [.comma, .closeParen, .semicolon] := by decide
        have ended := (skipUntil_skips ends 0 _).passes (whole.remaining inside)
        refine ⟨first + second, whole.add ended, ?_⟩
        rw [Nat.add_eq_zero_iff, flat, flatTarget]
        constructor
        · rintro ⟨here, there⟩ slips
          cases slips with
          | foreignKey nested => exact here nested
          | target same nested =>
              rw [afterColumns, found] at same
              cases same
              exact there nested
          | type column => cases column.1
          | reference column => cases column.1
        · intro none
          exact ⟨fun nested => none (.foreignKey nested), fun nested => none (.target found nested)⟩
    · cases read
  · rename_i notKey
    cases read
    refine ⟨0, .refl _ _, iff_of_true rfl ?_⟩
    intro slips
    cases slips with
    | foreignKey => exact absurd rfl (notKey _)
    | target => exact absurd rfl (notKey _)
    | type column => cases column.1
    | reference column => cases column.1

theorem readColumn_passes {product : Product} {table : RelationId} {body changed : TableBody}
    {token : Token} {name : String} {after left rest : Tokens} {outside : Nat}
    (column : StartsColumn product.caseRule token name)
    (inside : Passes outside after 0 (.closeParen :: rest))
    (read : readColumn product table body name after = .ok (changed, left)) :
    ∃ stop, Passes 0 after stop left ∧ (stop = 0 ↔ ¬Slips product table (token :: after)) := by
  obtain ⟨first, typed, even⟩ := readDeclaredType_passes inside
  have remaining := typed.remaining inside
  unfold readColumn at read
  simp only at read
  split at read
  · rename_i untyped
    cases read
    have skipped := (skipItem_skips (readDeclaredType after).2).passes remaining
    refine ⟨first, typed.add skipped, even.trans (not_congr ⟨.type column, ?_⟩)⟩
    intro slips
    cases slips with
    | type _ odd => exact odd
    | reference _ declared => simp [untyped] at declared
    | _ => cases column.1
  · rename_i declared
    split at read
    · cases read
    · rename_i facts final constraints
      cases read
      obtain ⟨second, constrained, flat⟩ := readConstraints_passes remaining constraints
      refine ⟨first + second, typed.add constrained, ?_⟩
      rw [Nat.add_eq_zero_iff, even, flat]
      constructor
      · rintro ⟨type, references⟩ slips
        cases slips with
        | type _ odd => exact type odd
        | reference same _ path nested =>
            obtain rfl := Option.some.inj (column.1.symm.trans same.1)
            exact references _ _ path nested
        | _ => cases column.1
      · intro none
        refine ⟨fun odd => none (.type column odd), ?_⟩
        intro reached target path nested
        exact none (.reference column (by simpa using declared) path nested)

theorem not_slips_of_no_column {product : Product} {table : RelationId} {token : Token}
    {rest : Tokens} (opens : token ≠ .openParen) (noKey : token ≠ .keyword .primary)
    (noForeign : token ≠ .keyword .foreign)
    (noColumn : ∀ name, ¬StartsColumn product.caseRule token name) :
    ¬Slips product table (token :: rest) := by
  intro slips
  cases slips with
  | opening => exact opens rfl
  | primaryKey => exact noKey rfl
  | foreignKey => exact noForeign rfl
  | target => exact noForeign rfl
  | type column => exact noColumn _ column
  | reference column => exact noColumn _ column

theorem not_startsColumn_of_unnamed {rule : CaseRule} {token : Token}
    (unnamed : nameOf? rule token = none) (name : String) : ¬StartsColumn rule token name := by
  rintro ⟨named, _⟩
  rw [unnamed] at named
  cases named

theorem bodyStep_passes {product : Product} {table : RelationId} {body changed : TableBody}
    {token : Token} {after left rest : Tokens} {outside : Nat} (goesOn : token ≠ .closeParen)
    (inside : Passes outside (token :: after) 0 (.closeParen :: rest))
    (step : bodyStep product table body token after = .ok (changed, left)) :
    ∃ stop, Passes 0 (token :: after) stop left ∧
      (stop = 0 ↔ ¬Slips product table (token :: after)) := by
  by_cases opens : token = .openParen
  · subst opens
    cases step
    exact ⟨1, .opening (.refl _ _), iff_of_false (by simp) fun none => none .opening⟩
  have first : Passes 0 (token :: after) 0 after := .one _ opens goesOn
  have remaining := first.remaining inside
  have skipped : Passes 0 (token :: after) 0 (skipItem after) :=
    first.trans ((skipItem_skips after).passes remaining)
  unfold bodyStep at step
  simp only at step
  split at step
  · cases step
    exact ⟨0, first, iff_of_true rfl (not_slips_of_no_column opens (by simp) (by simp)
      (not_startsColumn_of_unnamed rfl))⟩
  · cases step
    exact ⟨0, first.trans (readName_passes _ after), iff_of_true rfl (not_slips_of_no_column opens
      (by simp) (by simp) (not_startsColumn_of_unnamed rfl))⟩
  · cases step
    have keyed := first.trans (skipKeyword_passes .key after)
    obtain ⟨stop, columns, flat⟩ :=
      readColumnList_passes product.caseRule (keyed.remaining inside)
    have listed := keyed.trans columns
    have ended := (skipItem_skips _).passes (listed.remaining inside)
    refine ⟨stop, listed.add ended, flat.trans (not_congr ⟨.primaryKey, ?_⟩)⟩
    intro slips
    cases slips with
    | primaryKey nested => exact nested
    | type column => cases column.1
    | reference column => cases column.1
  · split at step
    · cases step
    · rename_i key last read
      cases step
      obtain ⟨stop, passes, whole⟩ := readForeignKey_passes remaining read
      exact ⟨stop, first.trans passes, whole⟩
  -- An item that holds no column and neither kind of key is skipped.
  iterate 4
    · cases step
      exact ⟨0, skipped, iff_of_true rfl (not_slips_of_no_column opens (by simp) (by simp)
        (not_startsColumn_of_unnamed rfl))⟩
  · rename_i notPrimary notForeign _ _ _ _
    split at step
    · rename_i unnamed
      cases step
      exact ⟨0, first, iff_of_true rfl (not_slips_of_no_column opens notPrimary notForeign
        (not_startsColumn_of_unnamed unnamed))⟩
    · rename_i name named
      split at step
      · rename_i excluded
        cases step
        refine ⟨0, skipped, iff_of_true rfl (not_slips_of_no_column opens notPrimary notForeign ?_)⟩
        rintro other ⟨_, included⟩
        rw [excluded] at included
        cases included
      · rename_i included
        obtain ⟨stop, passes, whole⟩ :=
          readColumn_passes ⟨named, by simpa using included⟩ remaining step
        exact ⟨stop, first.trans passes, whole⟩

/-- A body ends at the parenthesis that brings the depth down to none, unless a part that is reached
slips. -/
theorem readBody_left_iff {product : Product} {table : RelationId} {body final : TableBody}
    {tokens left rest : Tokens} {depth : Nat} (inside : Passes depth tokens 0 (.closeParen :: rest))
    (read : readBody product table body tokens = .ok (final, left)) :
    left = rest ↔ depth = 0 ∧ ∀ reached part,
      Relation.ReflTransGen (BodyMove product table) (body, tokens) (reached, part) →
        ¬Slips product table part := by
  fun_induction readBody product table body tokens generalizing depth with
  | case1 => cases read
  | case2 body after =>
      cases read
      have closed : ∀ reached part,
          Relation.ReflTransGen (BodyMove product table) (final, .closeParen :: left)
            (reached, part) → ¬Slips product table part := by
        intro reached part path
        obtain same | ⟨_, ⟨_, _, same, goesOn, _⟩, _⟩ := Relation.ReflTransGen.cases_head path
        · cases same
          exact not_slips_of_no_column (by simp) (by simp) (by simp)
            (not_startsColumn_of_unnamed rfl)
        · cases same
          exact absurd rfl goesOn
      cases inside with
      | refl => exact iff_of_true rfl ⟨rfl, closed⟩
      | closing later =>
          refine iff_of_false ?_ (by simp)
          rintro rfl
          exact absurd later.length_le (by simp)
      | other _ notClose => exact absurd rfl notClose
  | case3 => cases read
  | case4 body token after goesOn changed shortened step shorter ih =>
      have goesOn : token ≠ .closeParen := goesOn
      obtain ⟨stop, passes, whole⟩ := bodyStep_passes goesOn inside step
      rw [ih (passes.remaining inside) read, Nat.add_eq_zero_iff, whole, and_assoc]
      refine and_congr_right fun _ => ?_
      constructor
      · rintro ⟨here, later⟩ reached part path
        obtain same | path := (bodyMove_iff goesOn step _).1 path
        · cases same
          exact here
        · exact later reached part path
      · intro all
        refine ⟨all body _ .refl, ?_⟩
        intro reached part path
        exact all reached part ((bodyMove_iff goesOn step _).2 (.inr path))

/-- The definition of a table ends at its own parenthesis exactly when no part of its body holds a
phrase that stops inside another one. -/
theorem table_ends_at_own_paren_iff {product : Product} {table : RelationId}
    {body final : TableBody} {content rest left : Tokens} (balanced : Balanced content)
    (read : readBody product table body (content ++ .closeParen :: rest) = .ok (final, left)) :
    left = rest ↔ ∀ reached part,
      Relation.ReflTransGen (BodyMove product table) (body, content ++ .closeParen :: rest)
        (reached, part) → ¬Slips product table part := by
  have inside : Passes 0 (content ++ .closeParen :: rest) 0 (.closeParen :: rest) :=
    balanced.append _
  rw [readBody_left_iff inside read]
  simp

theorem ok_of_left {action : Except DumpError (TableBody × Tokens)} {left : Tokens}
    (done : action.map Prod.snd = .ok left) : ∃ body, action = .ok (body, left) := by
  cases action with
  | error cause => cases done
  | ok result =>
      obtain ⟨body, rest⟩ := result
      exact ⟨body, by rw [← Except.ok.inj done]⟩

namespace Ticket

def table : RelationId := ⟨none, "ticket"⟩

/-- `price numeric(10, 2) default (round(1)) check ((price)), seat int references seat (no) on
delete cascade, check ((price) (seat)), foreign key (seat) references seat (no)` -/
def priced : Tokens :=
  [.word "price", .word "numeric", .openParen, .number "10", .comma, .number "2", .closeParen,
   .keyword .default, .openParen, .word "round", .openParen, .number "1", .closeParen, .closeParen,
   .keyword .check, .openParen, .openParen, .word "price", .closeParen, .closeParen, .comma,
   .word "seat", .word "int", .keyword .references, .word "seat", .openParen, .word "no",
   .closeParen, .keyword .on, .keyword .delete, .keyword .cascade, .comma,
   .keyword .check, .openParen, .openParen, .word "price", .closeParen, .openParen, .word "seat",
   .closeParen, .closeParen, .comma,
   .keyword .foreign, .keyword .key, .openParen, .word "seat", .closeParen, .keyword .references,
   .word "seat", .openParen, .word "no", .closeParen]

/-- `state enum('open', 'done'), id int primary key` -/
def withStates : Tokens :=
  [.word "state", .word "enum", .openParen, .text "open", .comma, .text "done", .closeParen, .comma,
   .word "id", .word "int", .keyword .primary, .keyword .key]

/-- `primary key (name(10), id), foreign key (id) references seat` -/
def withShortKey : Tokens :=
  [.keyword .primary, .keyword .key, .openParen, .word "name", .openParen, .number "10",
   .closeParen, .comma, .word "id", .closeParen, .comma,
   .keyword .foreign, .keyword .key, .openParen, .word "id", .closeParen, .keyword .references,
   .word "seat"]

def rest : Tokens := [.semicolon, .keyword .create, .keyword .table, .word "seat"]

end Ticket

theorem table_ends_at_own_paren_iff_ticket :
    Balanced Ticket.priced ∧
      (readBody .generic Ticket.table {}
        (Ticket.priced ++ .closeParen :: Ticket.rest)).map Prod.snd = .ok Ticket.rest ∧
      ∀ reached part, Relation.ReflTransGen (BodyMove .generic Ticket.table)
        ({}, Ticket.priced ++ .closeParen :: Ticket.rest) (reached, part) →
          ¬Slips .generic Ticket.table part := by
  have balanced : Balanced Ticket.priced := by decide +kernel
  have computed : (readBody .generic Ticket.table {}
      (Ticket.priced ++ .closeParen :: Ticket.rest)).map Prod.snd = .ok Ticket.rest := by
    decide +kernel
  obtain ⟨final, read⟩ := ok_of_left computed
  exact ⟨balanced, computed, (table_ends_at_own_paren_iff balanced read).mp rfl⟩

def Ticket.EndsEarly (content : Tokens) : Prop :=
  ∃ final left, readBody .generic table {} (content ++ .closeParen :: rest) = .ok (final, left) ∧
    left ≠ rest ∧ final.keys = [] ∧ "id" ∉ final.primaryKey

/-- A definition can end too early: the texts of an enumeration end its type, and the length of a
key column ends its list of columns. What comes after is lost. -/
theorem table_ends_too_early :
    (Balanced Ticket.withStates ∧ Ticket.EndsEarly Ticket.withStates) ∧
      (Balanced Ticket.withShortKey ∧ Ticket.EndsEarly Ticket.withShortKey) := by
  have ends {content : Tokens} (found : (readBody .generic Ticket.table {}
      (content ++ .closeParen :: Ticket.rest)).toOption.any (fun result =>
        result.2 ≠ Ticket.rest ∧ result.1.keys = [] ∧ "id" ∉ result.1.primaryKey) = true) :
      Ticket.EndsEarly content := by
    unfold Ticket.EndsEarly
    cases read : readBody .generic Ticket.table {} (content ++ .closeParen :: Ticket.rest) with
    | error cause => simp [read, Except.toOption] at found
    | ok result =>
        obtain ⟨final, left⟩ := result
        simp only [read, Except.toOption, Option.any_some, decide_eq_true_eq] at found
        exact ⟨final, left, rfl, found⟩
  refine ⟨⟨?_, ends ?_⟩, ⟨?_, ends ?_⟩⟩
  · decide +kernel
  · decide +kernel
  · decide +kernel
  · decide +kernel

end NestedQuery.SchemaDump
