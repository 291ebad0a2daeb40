import Mathlib.Data.List.Infix
import NestedQuery.SchemaDump.Statement

/-! Every reader leaves a suffix of the tokens that it is given. -/

namespace NestedQuery.SchemaDump

theorem suffix_cons_of_suffix {left rest : Tokens} (suffix : left <:+ rest) (token : Token) :
    left <:+ token :: rest :=
  suffix.trans (List.suffix_cons token rest)

theorem skipNested_suffix (depth : Nat) (tokens : Tokens) : skipNested depth tokens <:+ tokens := by
  fun_induction skipNested depth tokens with
  | case1 => exact List.suffix_rfl
  | case2 => exact List.suffix_rfl
  | case3 depth rest ih => exact suffix_cons_of_suffix ih _
  | case4 depth rest ih => exact suffix_cons_of_suffix ih _
  | case5 depth token rest _ _ ih => exact suffix_cons_of_suffix ih _

theorem skipParens_suffix (tokens : Tokens) : skipParens tokens <:+ tokens := by
  unfold skipParens
  split
  · exact suffix_cons_of_suffix (skipNested_suffix _ _) _
  · exact List.suffix_rfl

theorem skipUntil_suffix (stops : List Token) (depth : Nat) (tokens : Tokens) :
    skipUntil stops depth tokens <:+ tokens := by
  fun_induction skipUntil stops depth tokens with
  | case1 => exact List.suffix_rfl
  | case2 => exact List.suffix_rfl
  | case3 rest _ ih => exact suffix_cons_of_suffix ih _
  | case4 token rest _ _ ih => exact suffix_cons_of_suffix ih _
  | case5 depth rest ih => exact suffix_cons_of_suffix ih _
  | case6 depth rest ih => exact suffix_cons_of_suffix ih _
  | case7 depth token rest _ _ ih => exact suffix_cons_of_suffix ih _

theorem skipStatement_suffix (tokens : Tokens) : skipStatement tokens <:+ tokens := by
  fun_induction skipStatement tokens with
  | case1 => exact List.suffix_rfl
  | case2 rest => exact List.suffix_cons _ _
  | case3 token rest _ ih => exact suffix_cons_of_suffix ih _

theorem skipKeyword_suffix (keyword : Keyword) (tokens : Tokens) :
    skipKeyword keyword tokens <:+ tokens := by
  fun_cases skipKeyword keyword tokens with
  | case1 => exact List.suffix_rfl
  | case2 rest => exact List.suffix_cons _ _
  | case3 token rest _ => exact List.suffix_rfl

theorem readName_suffix (rule : CaseRule) (tokens : Tokens) :
    (readName rule tokens).2 <:+ tokens := by
  fun_cases readName rule tokens with
  | case1 => exact List.suffix_rfl
  | case2 token rest name _ => exact List.suffix_cons _ _
  | case3 token rest _ => exact List.suffix_rfl

theorem readRelationId_suffix (rule : CaseRule) (tokens : Tokens) :
    (readRelationId rule tokens).2 <:+ tokens := by
  have first := readName_suffix rule tokens
  unfold readRelationId
  split
  · rename_i found
    rwa [found] at first
  · rename_i rest found
    rw [found] at first
    have second := (readName_suffix rule rest).trans ((List.suffix_cons _ _).trans first)
    split <;> rename_i found <;> rwa [found] at second
  · rename_i found
    rwa [found] at first

theorem readNames_suffix (rule : CaseRule) (tokens : Tokens) :
    (readNames rule tokens).2 <:+ tokens := by
  fun_induction readNames rule tokens with
  | case1 => exact List.suffix_rfl
  | case2 rest => exact List.suffix_cons _ _
  | case3 token rest _ names left found ih =>
      rw [found] at ih
      exact suffix_cons_of_suffix ih _

theorem readColumnList_suffix (rule : CaseRule) (tokens : Tokens) :
    (readColumnList rule tokens).2 <:+ tokens := by
  unfold readColumnList
  split
  · exact suffix_cons_of_suffix (readNames_suffix _ _) _
  · exact List.suffix_rfl

theorem readTypeFrom_suffix (depth : Nat) (declared : String) (tokens : Tokens) :
    (readTypeFrom depth declared tokens).2 <:+ tokens := by
  fun_induction readTypeFrom depth declared tokens with
  | case1 => exact List.suffix_rfl
  | case2 depth declared token rest deeper longer _ ih => exact suffix_cons_of_suffix ih _
  | case3 => exact List.suffix_rfl

theorem skipDefault_suffix (tokens : Tokens) : skipDefault tokens <:+ tokens := by
  unfold skipDefault
  split
  · exact List.suffix_cons _ _
  · exact List.suffix_cons _ _
  · exact List.suffix_cons _ _
  · exact suffix_cons_of_suffix (skipParens_suffix _) _
  · exact skipParens_suffix _

theorem skipAction_suffix (tokens : Tokens) : skipAction tokens <:+ tokens := by
  have two (first second : Token) (rest : Tokens) : rest <:+ first :: second :: rest :=
    suffix_cons_of_suffix (List.suffix_cons _ _) _
  fun_cases skipAction tokens with
  | case1 => exact List.suffix_rfl
  | case2 => exact List.suffix_cons _ _
  | case3 => exact two _ _ _
  | case4 => exact two _ _ _
  | case5 => exact List.suffix_cons _ _
  | case6 => exact List.suffix_cons _ _
  | case7 => exact two _ _ _
  | case8 => exact List.suffix_cons _ _
  | case9 => exact List.suffix_rfl

theorem skipEvent_suffix (tokens : Tokens) : skipEvent tokens <:+ tokens := by
  fun_cases skipEvent tokens with
  | case1 => exact List.suffix_cons _ _
  | case2 => exact List.suffix_cons _ _
  | case3 => exact List.suffix_rfl

theorem skipActions_suffix (tokens : Tokens) : skipActions tokens <:+ tokens := by
  fun_induction skipActions tokens with
  | case1 => exact List.suffix_rfl
  | case2 rest ih =>
      exact suffix_cons_of_suffix
        (ih.trans ((skipAction_suffix _).trans (skipEvent_suffix _))) _
  | case3 => exact List.suffix_rfl

theorem readReference_suffix {rule : CaseRule} {tokens left : Tokens}
    {reference : RelationId × List String}
    (read : readReference rule tokens = .ok (reference, left)) : left <:+ tokens := by
  have named := readRelationId_suffix rule tokens
  unfold readReference at read
  split at read
  · cases read
  · rename_i found
    rw [found] at named
    cases read
    exact (readColumnList_suffix _ _).trans named

theorem readForeignKey_suffix {rule : CaseRule} {child : RelationId}
    {constraintName : Option String} {tokens left : Tokens} {key : Option KeyDeclaration}
    (read : readForeignKey rule child constraintName tokens = .ok (key, left)) :
    left <:+ tokens := by
  unfold readForeignKey at read
  split at read
  · rename_i rest
    have columns := readColumnList_suffix rule rest
    simp only at read
    split at read
    · rename_i target found
      rw [found] at columns
      split at read
      · cases read
      · rename_i reference
        cases read
        have target := (readReference_suffix reference).trans
          ((List.suffix_cons _ _).trans columns)
        exact suffix_cons_of_suffix
          ((skipUntil_suffix _ _ _).trans ((skipActions_suffix _).trans target)) _
    · cases read
  · cases read
    exact List.suffix_rfl

theorem columnStep_suffix {rule : CaseRule} {child : RelationId} {name : String}
    {facts changed : ColumnFacts} {token : Token} {rest left : Tokens}
    (step : columnStep rule child name facts token rest = .ok (changed, left)) : left <:+ rest := by
  unfold columnStep at step
  split at step
  · cases step
    exact skipKeyword_suffix _ _
  · split at step
    · cases step
      exact List.suffix_cons _ _
    · cases step
      exact List.suffix_rfl
  · cases step
    exact skipDefault_suffix _
  · cases step
    exact readName_suffix _ _
  · split at step
    · cases step
    · rename_i reference
      cases step
      exact (skipActions_suffix _).trans (readReference_suffix reference)
  · cases step
    exact skipParens_suffix _
  · cases step
    exact skipNested_suffix _ _
  · cases step
    exact List.suffix_rfl

theorem readConstraints_suffix {rule : CaseRule} {child : RelationId} {name : String}
    {facts final : ColumnFacts} {tokens left : Tokens}
    (read : readConstraints rule child name facts tokens = .ok (final, left)) :
    left <:+ tokens := by
  fun_induction readConstraints rule child name facts tokens with
  | case1 =>
      cases read
      exact List.suffix_rfl
  | case2 =>
      cases read
      exact List.suffix_rfl
  | case3 =>
      cases read
      exact List.suffix_rfl
  | case4 => cases read
  | case5 facts token rest _ _ changed after step shorter ih =>
      exact suffix_cons_of_suffix ((ih read).trans (columnStep_suffix step)) _

theorem skipItem_suffix (tokens : Tokens) : skipItem tokens <:+ tokens := skipUntil_suffix _ _ _

theorem readColumn_suffix {product : Product} {child : RelationId} {body changed : TableBody}
    {name : String} {tokens left : Tokens}
    (read : readColumn product child body name tokens = .ok (changed, left)) : left <:+ tokens := by
  have declared : (readDeclaredType tokens).2 <:+ tokens := readTypeFrom_suffix _ _ _
  unfold readColumn at read
  simp only at read
  split at read
  · cases read
    exact (skipItem_suffix _).trans declared
  · split at read
    · cases read
    · rename_i constraints
      cases read
      exact (readConstraints_suffix constraints).trans declared

theorem bodyStep_suffix {product : Product} {table : RelationId} {body changed : TableBody}
    {token : Token} {rest left : Tokens}
    (step : bodyStep product table body token rest = .ok (changed, left)) : left <:+ rest := by
  unfold bodyStep at step
  simp only at step
  split at step
  · cases step
    exact List.suffix_rfl
  · cases step
    exact readName_suffix _ _
  · cases step
    exact (skipItem_suffix _).trans
      ((readColumnList_suffix _ _).trans (skipKeyword_suffix _ _))
  · split at step
    · cases step
    · rename_i constraint
      cases step
      exact readForeignKey_suffix constraint
  case h_9 =>
    split at step
    · cases step
      exact List.suffix_rfl
    · split at step
      · cases step
        exact skipItem_suffix _
      · exact readColumn_suffix step
  all_goals
    cases step
    exact skipItem_suffix _

theorem readBody_suffix {product : Product} {table : RelationId} {body final : TableBody}
    {tokens left : Tokens} (read : readBody product table body tokens = .ok (final, left)) :
    left <:+ tokens := by
  fun_induction readBody product table body tokens with
  | case1 => cases read
  | case2 =>
      cases read
      exact List.suffix_cons _ _
  | case3 => cases read
  | case4 body token rest _ changed after step shorter ih =>
      exact suffix_cons_of_suffix ((ih read).trans (bodyStep_suffix step)) _

theorem skipIfNotExists_suffix (tokens : Tokens) : skipIfNotExists tokens <:+ tokens := by
  unfold skipIfNotExists
  split
  · exact suffix_cons_of_suffix ((skipKeyword_suffix _ _).trans (skipKeyword_suffix _ _)) _
  · exact List.suffix_rfl

theorem skipIfExists_suffix (tokens : Tokens) : skipIfExists tokens <:+ tokens := by
  unfold skipIfExists
  split
  · exact suffix_cons_of_suffix (skipKeyword_suffix _ _) _
  · exact List.suffix_rfl

theorem readTable_suffix {product : Product} {draft changed : Draft} {table : RelationId}
    {tokens left : Tokens} (read : readTable product draft table tokens = .ok (changed, left)) :
    left <:+ tokens := by
  unfold readTable at read
  split at read
  · split at read
    · cases read
    · rename_i inside
      cases read
      exact suffix_cons_of_suffix ((skipStatement_suffix _).trans (readBody_suffix inside)) _
  · cases read
    exact skipStatement_suffix _

theorem readCreate_suffix {product : Product} {draft changed : Draft} {tokens left : Tokens}
    (read : readCreate product draft tokens = .ok (changed, left)) : left <:+ tokens := by
  have modified := List.dropWhile_suffix (l := tokens) (·.isWordIn createModifiers)
  unfold readCreate at read
  split at read
  · rename_i rest start
    rw [start] at modified
    have named := (readRelationId_suffix product.caseRule _).trans
      ((skipIfNotExists_suffix rest).trans ((List.suffix_cons _ _).trans modified))
    split at read <;> rename_i found <;> rw [found] at named
    · exact (readTable_suffix read).trans named
    · cases read
      exact (skipStatement_suffix _).trans named
  · rename_i rest start
    rw [start] at modified
    have named := (readRelationId_suffix product.caseRule _).trans
      ((skipIfNotExists_suffix rest).trans ((List.suffix_cons _ _).trans modified))
    split at read <;> rename_i found <;> rw [found] at named <;> cases read
    · exact (skipStatement_suffix _).trans ((readColumnList_suffix _ _).trans named)
    · exact (skipStatement_suffix _).trans named
  · cases read
    exact (skipStatement_suffix _).trans modified

theorem readAddedConstraint_suffix {product : Product} {draft changed : Draft}
    {table : RelationId} {constraintName : Option String} {tokens left : Tokens}
    (read : readAddedConstraint product draft table constraintName tokens = .ok (changed, left)) :
    left <:+ tokens := by
  unfold readAddedConstraint at read
  split at read
  · cases read
    exact suffix_cons_of_suffix ((skipStatement_suffix _).trans
      ((readColumnList_suffix _ _).trans (skipKeyword_suffix _ _))) _
  · split at read
    · cases read
    · rename_i constraint
      cases read
      exact suffix_cons_of_suffix
        ((skipStatement_suffix _).trans (readForeignKey_suffix constraint)) _
    · rename_i constraint
      cases read
      exact suffix_cons_of_suffix
        ((skipStatement_suffix _).trans (readForeignKey_suffix constraint)) _
  · cases read
    exact skipStatement_suffix _

theorem readAlter_suffix {product : Product} {draft changed : Draft} {tokens left : Tokens}
    (read : readAlter product draft tokens = .ok (changed, left)) : left <:+ tokens := by
  unfold readAlter at read
  split at read
  · rename_i rest
    have named := (readRelationId_suffix product.caseRule _).trans
      ((skipKeyword_suffix .only _).trans (skipIfExists_suffix rest))
    split at read <;> rename_i found <;> rw [found] at named
    · have constrained := (readAddedConstraint_suffix read).trans (readName_suffix _ _)
      exact suffix_cons_of_suffix (constrained.trans
        ((List.suffix_cons _ _).trans ((List.suffix_cons _ _).trans named))) _
    · exact suffix_cons_of_suffix
        ((readAddedConstraint_suffix read).trans ((List.suffix_cons _ _).trans named)) _
    · cases read
      exact suffix_cons_of_suffix ((skipStatement_suffix _).trans named) _
  · cases read
    exact skipStatement_suffix _

end NestedQuery.SchemaDump
