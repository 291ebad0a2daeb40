import NestedQuery.Proofs.SchemaDump.Parsing

/-! What the body of a table says of its primary key. Each clause of a column appends the column to
the key, and a list of the table replaces what came before it. -/

namespace NestedQuery.SchemaDump

/-- What a dump says of the primary key of a relation. A column joins the key, and a list takes its
place. -/
inductive KeyClause where
  | column (name : String)
  | list (names : List String)
  deriving DecidableEq, Repr

def KeyClause.amend (key : List String) : KeyClause → List String
  | column name => key ++ [name]
  | list names => names

def finalKey (clauses : List KeyClause) : List String := clauses.foldl KeyClause.amend []

def columnClauses (rule : CaseRule) (child : RelationId) (name : String) (facts : ColumnFacts) :
    Tokens → List KeyClause
  | [] => []
  | .comma :: _ => []
  | .closeParen :: _ => []
  | token :: rest =>
      match step : columnStep rule child name facts token rest with
      | .error _ => []
      | .ok (changed, left) =>
          have : left.length ≤ rest.length := length_columnStep_le step
          let later := columnClauses rule child name changed left
          if token = .keyword .primary then .column name :: later else later
termination_by tokens => tokens.length
decreasing_by
  simp only [List.length_cons]
  omega

def declarationClauses (rule : CaseRule) (child : RelationId) (name : String) (tokens : Tokens) :
    List KeyClause :=
  let (declared, constraints) := readDeclaredType tokens
  if declared.isEmpty then [] else columnClauses rule child name {} constraints

def partClauses (rule : CaseRule) (table : RelationId) (token : Token) (rest : Tokens) :
    List KeyClause :=
  match token with
  | .keyword .primary => [.list (readColumnList rule (skipKeyword .key rest)).1]
  | _ =>
      match nameOf? rule token with
      | none => []
      | some name =>
          if token.isWordIn ["like", "exclude"] then []
          else declarationClauses rule table name rest

def bodyClauses (product : Product) (table : RelationId) (body : TableBody) :
    Tokens → List KeyClause
  | [] => []
  | .closeParen :: _ => []
  | token :: rest =>
      match step : bodyStep product table body token rest with
      | .error _ => []
      | .ok (changed, left) =>
          have : left.length ≤ rest.length := length_bodyStep_le step
          partClauses product.caseRule table token rest ++ bodyClauses product table changed left
termination_by tokens => tokens.length
decreasing_by
  simp only [List.length_cons]
  omega

theorem columnStep_primaryKey {rule : CaseRule} {child : RelationId} {name : String}
    {facts changed : ColumnFacts} {token : Token} {rest left : Tokens}
    (step : columnStep rule child name facts token rest = .ok (changed, left)) :
    changed.primaryKey =
      if token = .keyword .primary then facts.primaryKey ++ [name] else facts.primaryKey := by
  unfold columnStep at step
  split at step
  · cases step
    rfl
  · split at step <;> cases step <;> rfl
  · cases step
    rfl
  · cases step
    rfl
  · split at step <;> cases step
    rfl
  · cases step
    rfl
  · cases step
    rfl
  · rename_i other _ _ _ _ _ _
    cases step
    rw [if_neg other]

theorem columnClauses_step {rule : CaseRule} {child : RelationId} {name : String}
    {facts changed : ColumnFacts} {token : Token} {rest left : Tokens} (goesOn : ¬EndsItem token)
    (step : columnStep rule child name facts token rest = .ok (changed, left)) :
    columnClauses rule child name facts (token :: rest) =
      if token = .keyword .primary then .column name :: columnClauses rule child name changed left
      else columnClauses rule child name changed left := by
  rw [columnClauses]
  · split
    · rename_i failed
      rw [step] at failed
      cases failed
    · rename_i done
      rw [step] at done
      cases done
      rfl
  · exact fun same => goesOn (.inl same)
  · exact fun same => goesOn (.inr same)

theorem foldl_columnClauses {rule : CaseRule} {child : RelationId} {name : String}
    {facts final : ColumnFacts} {tokens left : Tokens}
    (read : readConstraints rule child name facts tokens = .ok (final, left)) (key : List String) :
    (columnClauses rule child name facts tokens).foldl KeyClause.amend (key ++ facts.primaryKey) =
      key ++ final.primaryKey := by
  fun_induction readConstraints rule child name facts tokens with
  | case1 facts =>
      cases read
      rw [columnClauses]
      rfl
  | case2 facts rest =>
      cases read
      rw [columnClauses]
      rfl
  | case3 facts rest =>
      cases read
      rw [columnClauses]
      rfl
  | case4 => cases read
  | case5 facts token rest notComma notClose changed left step shorter ih =>
      have goesOn : ¬EndsItem token := fun ends => ends.elim notComma notClose
      have later := ih read
      rw [columnStep_primaryKey step] at later
      rw [columnClauses_step goesOn step]
      split
      · rename_i primary
        rw [if_pos primary, ← List.append_assoc] at later
        exact later
      · rename_i other
        rwa [if_neg other] at later

variable {product : Product} {table : RelationId} {body changed final : TableBody}
  {tokens left : Tokens}

theorem readColumn_primaryKey {name : String}
    (read : readColumn product table body name tokens = .ok (changed, left)) :
    changed.primaryKey =
      (declarationClauses product.caseRule table name tokens).foldl KeyClause.amend
        body.primaryKey := by
  unfold readColumn at read
  unfold declarationClauses
  simp only at read ⊢
  split at read
  · rename_i untyped
    cases read
    rw [if_pos untyped]
    rfl
  · rename_i typed
    rw [if_neg typed]
    split at read
    · cases read
    · rename_i constraints
      cases read
      have stated := foldl_columnClauses constraints body.primaryKey
      rw [List.append_nil] at stated
      exact stated.symm

theorem bodyStep_primaryKey {token : Token} {rest : Tokens}
    (step : bodyStep product table body token rest = .ok (changed, left)) :
    changed.primaryKey =
      (partClauses product.caseRule table token rest).foldl KeyClause.amend body.primaryKey := by
  unfold bodyStep at step
  simp only at step
  split at step
  case h_4 =>
    split at step <;> cases step
    rfl
  case h_9 =>
    unfold partClauses
    cases named : nameOf? product.caseRule token with
    | none =>
        simp only [named, Except.ok.injEq, Prod.mk.injEq] at step
        simp [← step.1]
    | some name =>
        simp only [named] at step ⊢
        by_cases passed : token.isWordIn ["like", "exclude"] = true
        · simp only [if_pos passed, Except.ok.injEq, Prod.mk.injEq] at step
          simp [passed, ← step.1]
        · rw [if_neg passed] at step
          simpa [passed] using readColumn_primaryKey step
  all_goals
    cases step
    rfl

theorem bodyClauses_step {token : Token} {rest : Tokens} (goesOn : token ≠ .closeParen)
    (step : bodyStep product table body token rest = .ok (changed, left)) :
    bodyClauses product table body (token :: rest) =
      partClauses product.caseRule table token rest ++ bodyClauses product table changed left := by
  rw [bodyClauses]
  · split
    · rename_i failed
      rw [step] at failed
      cases failed
    · rename_i done
      rw [step] at done
      cases done
      rfl
  · exact goesOn

theorem readBody_primaryKey (read : readBody product table body tokens = .ok (final, left)) :
    final.primaryKey =
      (bodyClauses product table body tokens).foldl KeyClause.amend body.primaryKey := by
  fun_induction readBody product table body tokens with
  | case1 => cases read
  | case2 body rest =>
      cases read
      rw [bodyClauses]
      rfl
  | case3 => cases read
  | case4 body token rest goesOn changed left step shorter ih =>
      rw [bodyClauses_step goesOn step, List.foldl_append, ← bodyStep_primaryKey step]
      exact ih read

end NestedQuery.SchemaDump
