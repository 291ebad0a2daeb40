import NestedQuery.Proofs.SchemaDump.Suffixes

/-! Where readers stop. What a reader leaves is a suffix of the tokens that it is given, and where
it fails, the token that it reports is the first of such a suffix: no reader goes back, and none
goes past the end of the tokens. -/

namespace NestedQuery.SchemaDump

def FailsAt (tokens : Tokens) (cause : DumpError) : Prop :=
  ∃ what left, left <:+ tokens ∧ cause = .expected what left.head?

theorem FailsAt.mono {tokens more : Tokens} {cause : DumpError} (fails : FailsAt tokens cause)
    (suffix : tokens <:+ more) : FailsAt more cause := by
  obtain ⟨what, left, inside, reported⟩ := fails
  exact ⟨what, left, inside.trans suffix, reported⟩

section Failures

variable {rule : CaseRule} {product : Product} {tokens rest : Tokens} {cause : DumpError}

theorem readReference_fails (failed : readReference rule tokens = .error cause) :
    FailsAt tokens cause := by
  have named := readRelationId_suffix rule tokens
  unfold readReference at failed
  split at failed
  · rename_i left found
    rw [found] at named
    cases failed
    exact ⟨_, left, named, rfl⟩
  · cases failed

theorem readForeignKey_fails {child : RelationId} {constraintName : Option String}
    (failed : readForeignKey rule child constraintName tokens = .error cause) :
    FailsAt tokens cause := by
  unfold readForeignKey at failed
  split at failed
  · rename_i rest
    have columns := suffix_cons_of_suffix (readColumnList_suffix rule rest) (.keyword .key)
    simp only at failed
    split at failed
    · rename_i target found
      rw [found] at columns
      split at failed
      · rename_i reference
        cases failed
        exact (readReference_fails reference).mono ((List.suffix_cons _ _).trans columns)
      · cases failed
    · cases failed
      exact ⟨_, _, columns, rfl⟩
  · cases failed

theorem columnStep_fails {child : RelationId} {name : String} {facts : ColumnFacts} {token : Token}
    (failed : columnStep rule child name facts token rest = .error cause) : FailsAt rest cause := by
  unfold columnStep at failed
  split at failed
  case h_2 => split at failed <;> cases failed
  case h_5 =>
    split at failed
    · rename_i reference
      cases failed
      exact readReference_fails reference
    · cases failed
  all_goals cases failed

theorem readConstraints_fails {child : RelationId} {name : String} {facts : ColumnFacts}
    (failed : readConstraints rule child name facts tokens = .error cause) :
    FailsAt tokens cause := by
  fun_induction readConstraints rule child name facts tokens with
  | case1 => cases failed
  | case2 => cases failed
  | case3 => cases failed
  | case4 facts token rest _ _ reported step =>
      cases failed
      exact (columnStep_fails step).mono (List.suffix_cons _ _)
  | case5 facts token rest _ _ changed left step shorter ih =>
      exact (ih failed).mono (suffix_cons_of_suffix (columnStep_suffix step) _)

theorem readColumn_fails {child : RelationId} {body : TableBody} {name : String}
    (failed : readColumn product child body name tokens = .error cause) : FailsAt tokens cause := by
  have declared : (readDeclaredType tokens).2 <:+ tokens := readTypeFrom_suffix _ _ _
  unfold readColumn at failed
  simp only at failed
  split at failed
  · cases failed
  · split at failed
    · rename_i constraints
      cases failed
      exact (readConstraints_fails constraints).mono declared
    · cases failed

theorem bodyStep_fails {table : RelationId} {body : TableBody} {token : Token}
    (failed : bodyStep product table body token rest = .error cause) : FailsAt rest cause := by
  unfold bodyStep at failed
  simp only at failed
  split at failed
  case h_4 =>
    split at failed
    · rename_i constraint
      cases failed
      exact readForeignKey_fails constraint
    · cases failed
  case h_9 =>
    split at failed
    · cases failed
    · split at failed
      · cases failed
      · exact readColumn_fails failed
  all_goals cases failed

theorem readBody_fails {table : RelationId} {body : TableBody}
    (failed : readBody product table body tokens = .error cause) : FailsAt tokens cause := by
  fun_induction readBody product table body tokens with
  | case1 =>
      cases failed
      exact ⟨_, [], List.suffix_rfl, rfl⟩
  | case2 => cases failed
  | case3 body token rest _ reported step =>
      cases failed
      exact (bodyStep_fails step).mono (List.suffix_cons _ _)
  | case4 body token rest _ changed left step shorter ih =>
      exact (ih failed).mono (suffix_cons_of_suffix (bodyStep_suffix step) _)

theorem readTable_fails {draft : Draft} {table : RelationId}
    (failed : readTable product draft table tokens = .error cause) : FailsAt tokens cause := by
  unfold readTable at failed
  split at failed
  · split at failed
    · rename_i inside
      cases failed
      exact (readBody_fails inside).mono (List.suffix_cons _ _)
    · cases failed
  · cases failed

theorem readCreate_fails {draft : Draft}
    (failed : readCreate product draft tokens = .error cause) : FailsAt tokens cause := by
  have modified := List.dropWhile_suffix (l := tokens) (·.isWordIn createModifiers)
  unfold readCreate at failed
  split at failed
  · rename_i rest start
    rw [start] at modified
    have named := (readRelationId_suffix product.caseRule _).trans
      ((skipIfNotExists_suffix rest).trans ((List.suffix_cons _ _).trans modified))
    split at failed
    · rename_i found
      rw [found] at named
      exact (readTable_fails failed).mono named
    · cases failed
  · split at failed <;> cases failed
  · cases failed

theorem readAddedConstraint_fails {draft : Draft} {table : RelationId}
    {constraintName : Option String}
    (failed : readAddedConstraint product draft table constraintName tokens = .error cause) :
    FailsAt tokens cause := by
  unfold readAddedConstraint at failed
  split at failed
  · cases failed
  · split at failed
    · rename_i constraint
      cases failed
      exact (readForeignKey_fails constraint).mono (List.suffix_cons _ _)
    · cases failed
    · cases failed
  · cases failed

theorem readAlter_fails {draft : Draft} (failed : readAlter product draft tokens = .error cause) :
    FailsAt tokens cause := by
  unfold readAlter at failed
  split at failed
  · rename_i rest
    have named := suffix_cons_of_suffix ((readRelationId_suffix product.caseRule _).trans
      ((skipKeyword_suffix .only _).trans (skipIfExists_suffix rest))) (.keyword .table)
    split at failed
    · rename_i found
      rw [found] at named
      exact (readAddedConstraint_fails failed).mono ((readName_suffix _ _).trans
        ((List.suffix_cons _ _).trans ((List.suffix_cons _ _).trans named)))
    · rename_i found
      rw [found] at named
      exact (readAddedConstraint_fails failed).mono ((List.suffix_cons _ _).trans named)
    · cases failed
  · cases failed

end Failures

/-- The readers and skippers of phrases, of tables and of statements. -/
inductive Routine where
  | nested (depth : Nat)
  | parens
  | upTo (stops : List Token)
  | statement
  | keyword (expected : Keyword)
  | name
  | relationId
  | columnList
  | declaredType
  | default
  | actions
  | ifNotExists
  | ifExists
  | reference
  | foreignKey (child : RelationId) (constraintName : Option String)
  | column (child : RelationId) (before : TableBody) (columnName : String)
  | body (id : RelationId) (before : TableBody)
  | table (draft : Draft) (id : RelationId)
  | create (draft : Draft)
  | addedConstraint (draft : Draft) (id : RelationId) (constraintName : Option String)
  | alter (draft : Draft)

def Routine.leaves (product : Product) (tokens : Tokens) : Routine → Except DumpError Tokens
  | nested depth => .ok (skipNested depth tokens)
  | parens => .ok (skipParens tokens)
  | upTo stops => .ok (skipUntil stops 0 tokens)
  | statement => .ok (skipStatement tokens)
  | keyword expected => .ok (skipKeyword expected tokens)
  | name => .ok (readName product.caseRule tokens).2
  | relationId => .ok (readRelationId product.caseRule tokens).2
  | columnList => .ok (readColumnList product.caseRule tokens).2
  | declaredType => .ok (readDeclaredType tokens).2
  | default => .ok (skipDefault tokens)
  | actions => .ok (skipActions tokens)
  | ifNotExists => .ok (skipIfNotExists tokens)
  | ifExists => .ok (skipIfExists tokens)
  | reference => (readReference product.caseRule tokens).map (·.2)
  | foreignKey child constraintName =>
      (readForeignKey product.caseRule child constraintName tokens).map (·.2)
  | column child before columnName => (readColumn product child before columnName tokens).map (·.2)
  | body id before => (readBody product id before tokens).map (·.2)
  | table draft id => (readTable product draft id tokens).map (·.2)
  | create draft => (readCreate product draft tokens).map (·.2)
  | addedConstraint draft id constraintName =>
      (readAddedConstraint product draft id constraintName tokens).map (·.2)
  | alter draft => (readAlter product draft tokens).map (·.2)

/-- The outcome of a routine lies within the tokens. -/
def Within (tokens : Tokens) : Except DumpError Tokens → Prop
  | .ok left => left <:+ tokens
  | .error cause => FailsAt tokens cause

theorem Within.map {α : Type} {tokens : Tokens} {outcome : Except DumpError (α × Tokens)}
    (done : ∀ {value left}, outcome = .ok (value, left) → left <:+ tokens)
    (failed : ∀ {cause}, outcome = .error cause → FailsAt tokens cause) :
    Within tokens (outcome.map (·.2)) := by
  cases outcome with
  | error cause => exact failed rfl
  | ok result => exact done rfl

theorem Routine.within (product : Product) (tokens : Tokens) (routine : Routine) :
    Within tokens (routine.leaves product tokens) := by
  cases routine with
  | nested depth => exact skipNested_suffix depth tokens
  | parens => exact skipParens_suffix tokens
  | upTo stops => exact skipUntil_suffix stops 0 tokens
  | statement => exact skipStatement_suffix tokens
  | keyword expected => exact skipKeyword_suffix expected tokens
  | name => exact readName_suffix product.caseRule tokens
  | relationId => exact readRelationId_suffix product.caseRule tokens
  | columnList => exact readColumnList_suffix product.caseRule tokens
  | declaredType => exact readTypeFrom_suffix 0 "" tokens
  | default => exact skipDefault_suffix tokens
  | actions => exact skipActions_suffix tokens
  | ifNotExists => exact skipIfNotExists_suffix tokens
  | ifExists => exact skipIfExists_suffix tokens
  | reference => exact .map readReference_suffix readReference_fails
  | foreignKey child constraintName => exact .map readForeignKey_suffix readForeignKey_fails
  | column child before columnName => exact .map readColumn_suffix readColumn_fails
  | body id before => exact .map readBody_suffix readBody_fails
  | table draft id => exact .map readTable_suffix readTable_fails
  | create draft => exact .map readCreate_suffix readCreate_fails
  | addedConstraint draft id constraintName =>
      exact .map readAddedConstraint_suffix readAddedConstraint_fails
  | alter draft => exact .map readAlter_suffix readAlter_fails

end NestedQuery.SchemaDump
