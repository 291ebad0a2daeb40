import NestedQuery.SchemaDump.Definition
import NestedQuery.SchemaDump.Phrase

/-! The body of a table definition: columns with their constraints, and constraints of the table. -/

namespace NestedQuery.SchemaDump

def readReference (rule : CaseRule) (tokens : Tokens) :
    Except DumpError ((RelationId × List String) × Tokens) :=
  match readRelationId rule tokens with
  | (none, rest) => .error (.expected .referencedTable rest.head?)
  | (some parent, rest) =>
      let (columns, left) := readColumnList rule rest
      .ok ((parent, columns), left)

/-- A foreign key constraint after its first word; no constraint when the next word is not `KEY`. -/
def readForeignKey (rule : CaseRule) (child : RelationId) (constraintName : Option String) :
    Tokens → Except DumpError (Option KeyDeclaration × Tokens)
  | .keyword .key :: rest =>
      let (childFields, left) := readColumnList rule rest
      match left with
      | .keyword .references :: target =>
          match readReference rule target with
          | .error cause => .error cause
          | .ok ((parent, parentFields), after) =>
              let key := { constraintName, child, childFields, parent, parentFields }
              .ok (some key, skipUntil [.comma, .closeParen, .semicolon] 0 (skipActions after))
      | found => .error (.expected .references found.head?)
  | tokens => .ok (none, tokens)

structure ColumnFacts where
  notNull : Bool := false
  primaryKey : List String := []
  keys : List KeyDeclaration := []
  constraintName : Option String := none

def columnStep (rule : CaseRule) (child : RelationId) (name : String) (facts : ColumnFacts)
    (token : Token) (rest : Tokens) : Except DumpError (ColumnFacts × Tokens) :=
  match token with
  | .keyword .primary =>
      .ok ({ facts with notNull := true, primaryKey := facts.primaryKey ++ [name] },
        skipKeyword .key rest)
  | .keyword .not =>
      match rest with
      | .keyword .null :: left => .ok ({ facts with notNull := true }, left)
      | left => .ok (facts, left)
  | .keyword .default => .ok (facts, skipDefault rest)
  | .keyword .constraint =>
      let (constraintName, left) := readName rule rest
      .ok ({ facts with constraintName }, left)
  | .keyword .references =>
      match readReference rule rest with
      | .error cause => .error cause
      | .ok ((parent, parentFields), left) =>
          let key : KeyDeclaration :=
            { constraintName := facts.constraintName, child, childFields := [name], parent,
              parentFields }
          .ok ({ facts with keys := facts.keys ++ [key], constraintName := none },
            skipActions left)
  | .keyword .check => .ok (facts, skipParens rest)
  | .openParen => .ok (facts, skipNested 1 rest)
  | _ => .ok (facts, rest)

theorem length_readReference_le {rule : CaseRule} {tokens left : Tokens}
    {reference : RelationId × List String}
    (read : readReference rule tokens = .ok (reference, left)) : left.length ≤ tokens.length := by
  have name := length_readRelationId_le rule tokens
  unfold readReference at read
  split at read
  · exact absurd read (by simp)
  · rename_i parent rest found
    have columns := length_readColumnList_le rule rest
    simp only [found] at name
    simp only [Except.ok.injEq, Prod.mk.injEq] at read
    rw [← read.2]
    omega

theorem length_readForeignKey_le {rule : CaseRule} {child : RelationId}
    {constraintName : Option String} {tokens left : Tokens} {key : Option KeyDeclaration}
    (read : readForeignKey rule child constraintName tokens = .ok (key, left)) :
    left.length ≤ tokens.length := by
  unfold readForeignKey at read
  split at read
  · rename_i rest
    have columns := length_readColumnList_le rule rest
    simp only at read
    split at read
    · rename_i target found
      split at read
      · exact absurd read (by simp)
      · rename_i parent parentFields after reference
        have referenced := length_readReference_le reference
        have actions := length_skipActions_le after
        have rested := length_skipUntil_le [.comma, .closeParen, .semicolon] 0 (skipActions after)
        simp only [Except.ok.injEq, Prod.mk.injEq] at read
        simp only [found, List.length_cons] at columns
        simp only [List.length_cons]
        rw [← read.2]
        omega
    · exact absurd read (by simp)
  · simp only [Except.ok.injEq, Prod.mk.injEq] at read
    simp [read.2]

theorem length_columnStep_le {rule : CaseRule} {child : RelationId} {name : String}
    {facts changed : ColumnFacts} {token : Token} {rest left : Tokens}
    (step : columnStep rule child name facts token rest = .ok (changed, left)) :
    left.length ≤ rest.length := by
  unfold columnStep at step
  split at step
  · simp only [Except.ok.injEq, Prod.mk.injEq] at step
    rw [← step.2]
    exact length_skipKeyword_le _ _
  · split at step <;> simp only [Except.ok.injEq, Prod.mk.injEq] at step <;> simp [← step.2]
  · simp only [Except.ok.injEq, Prod.mk.injEq] at step
    rw [← step.2]
    exact length_skipDefault_le _
  · simp only [Except.ok.injEq, Prod.mk.injEq] at step
    rw [← step.2]
    exact length_readName_le _ _
  · split at step
    · exact absurd step (by simp)
    · rename_i parent parentFields after reference
      have referenced := length_readReference_le reference
      have actions := length_skipActions_le after
      simp only [Except.ok.injEq, Prod.mk.injEq] at step
      rw [← step.2]
      omega
  · simp only [Except.ok.injEq, Prod.mk.injEq] at step
    rw [← step.2]
    exact length_skipParens_le _
  · simp only [Except.ok.injEq, Prod.mk.injEq] at step
    rw [← step.2]
    exact length_skipNested_le _ _
  · simp only [Except.ok.injEq, Prod.mk.injEq] at step
    simp [step.2]

def readConstraints (rule : CaseRule) (child : RelationId) (name : String) (facts : ColumnFacts) :
    Tokens → Except DumpError (ColumnFacts × Tokens)
  | [] => .ok (facts, [])
  | .comma :: rest => .ok (facts, .comma :: rest)
  | .closeParen :: rest => .ok (facts, .closeParen :: rest)
  | token :: rest =>
      match step : columnStep rule child name facts token rest with
      | .error cause => .error cause
      | .ok (changed, left) =>
          have : left.length ≤ rest.length := length_columnStep_le step
          readConstraints rule child name changed left
termination_by tokens => tokens.length
decreasing_by
  simp only [List.length_cons]
  omega

theorem length_readConstraints_le {rule : CaseRule} {child : RelationId} {name : String}
    {facts final : ColumnFacts} {tokens left : Tokens}
    (read : readConstraints rule child name facts tokens = .ok (final, left)) :
    left.length ≤ tokens.length := by
  fun_induction readConstraints rule child name facts tokens with
  | case1 => simp_all
  | case2 => simp_all
  | case3 => simp_all
  | case4 => simp at read
  | case5 facts token rest _ _ changed shortened step shorter ih =>
      have later := ih read
      simp only [List.length_cons]
      omega

structure TableBody where
  fields : List Field := []
  primaryKey : List String := []
  keys : List KeyDeclaration := []
  constraintName : Option String := none

def skipItem (tokens : Tokens) : Tokens := skipUntil [.comma, .closeParen] 0 tokens

/-- A column after its name. Without a type it is none, and its declaration is skipped. -/
def readColumn (product : Product) (child : RelationId) (body : TableBody) (name : String)
    (tokens : Tokens) : Except DumpError (TableBody × Tokens) :=
  let (declared, rest) := readDeclaredType tokens
  if declared.isEmpty then .ok (body, skipItem rest)
  else
    match readConstraints product.caseRule child name {} rest with
    | .error cause => .error cause
    | .ok (facts, left) =>
        let type := product.columnType declared
        let field : Field :=
          { name
            typeCode := type.code
            databaseType := type.databaseType
            length := type.length
            precision := type.precision
            fractionalDigits := type.fractionalDigits
            nullable := some !facts.notNull }
        .ok ({ body with
                fields := body.fields ++ [field]
                primaryKey := body.primaryKey ++ facts.primaryKey
                keys := body.keys ++ facts.keys }, left)

def bodyStep (product : Product) (table : RelationId) (body : TableBody) (token : Token)
    (rest : Tokens) : Except DumpError (TableBody × Tokens) :=
  let rule := product.caseRule
  match token with
  | .comma => .ok ({ body with constraintName := none }, rest)
  | .keyword .constraint =>
      let (constraintName, left) := readName rule rest
      .ok ({ body with constraintName }, left)
  | .keyword .primary =>
      let (primaryKey, left) := readColumnList rule (skipKeyword .key rest)
      .ok ({ body with primaryKey }, skipItem left)
  | .keyword .foreign =>
      match readForeignKey rule table body.constraintName rest with
      | .error cause => .error cause
      | .ok (key, left) =>
          .ok ({ body with keys := body.keys ++ key.toList, constraintName := none }, left)
  | .keyword .unique | .keyword .index | .keyword .key | .keyword .check =>
      .ok (body, skipItem rest)
  | _ =>
      match nameOf? rule token with
      | none => .ok (body, rest)
      | some name =>
          if token.isWordIn ["like", "exclude"] then .ok (body, skipItem rest)
          else readColumn product table body name rest

theorem length_readColumn_le {product : Product} {child : RelationId} {body changed : TableBody}
    {name : String} {tokens left : Tokens}
    (read : readColumn product child body name tokens = .ok (changed, left)) :
    left.length ≤ tokens.length := by
  have declared := length_readDeclaredType_le tokens
  unfold readColumn at read
  simp only at read
  split at read
  · have skipped := length_skipUntil_le [.comma, .closeParen] 0 (readDeclaredType tokens).2
    simp only [Except.ok.injEq, Prod.mk.injEq] at read
    rw [← read.2]
    exact Nat.le_trans skipped declared
  · split at read
    · exact absurd read (by simp)
    · rename_i facts after constraints
      have constrained := length_readConstraints_le constraints
      simp only [Except.ok.injEq, Prod.mk.injEq] at read
      rw [← read.2]
      omega

theorem length_bodyStep_le {product : Product} {table : RelationId} {body changed : TableBody}
    {token : Token} {rest left : Tokens}
    (step : bodyStep product table body token rest = .ok (changed, left)) :
    left.length ≤ rest.length := by
  have skipped (tokens : Tokens) : (skipItem tokens).length ≤ tokens.length :=
    length_skipUntil_le [.comma, .closeParen] 0 tokens
  unfold bodyStep at step
  simp only at step
  split at step
  · simp only [Except.ok.injEq, Prod.mk.injEq] at step
    simp [step.2]
  · simp only [Except.ok.injEq, Prod.mk.injEq] at step
    rw [← step.2]
    exact length_readName_le _ _
  · simp only [Except.ok.injEq, Prod.mk.injEq] at step
    rw [← step.2]
    exact Nat.le_trans (skipped _)
      (Nat.le_trans (length_readColumnList_le _ _) (length_skipKeyword_le _ _))
  · split at step
    · exact absurd step (by simp)
    · rename_i key after constraint
      simp only [Except.ok.injEq, Prod.mk.injEq] at step
      rw [← step.2]
      exact length_readForeignKey_le constraint
  all_goals first
    | (simp only [Except.ok.injEq, Prod.mk.injEq] at step
       rw [← step.2]
       exact skipped _)
    | skip
  split at step
  · simp only [Except.ok.injEq, Prod.mk.injEq] at step
    simp [step.2]
  · split at step
    · simp only [Except.ok.injEq, Prod.mk.injEq] at step
      rw [← step.2]
      exact skipped _
    · exact length_readColumn_le step

def readBody (product : Product) (table : RelationId) (body : TableBody) :
    Tokens → Except DumpError (TableBody × Tokens)
  | [] => .error (.expected .tableEnd none)
  | .closeParen :: rest => .ok (body, rest)
  | token :: rest =>
      match step : bodyStep product table body token rest with
      | .error cause => .error cause
      | .ok (changed, left) =>
          have : left.length ≤ rest.length := length_bodyStep_le step
          readBody product table changed left
termination_by tokens => tokens.length
decreasing_by
  simp only [List.length_cons]
  omega

theorem length_readBody_le {product : Product} {table : RelationId} {body final : TableBody}
    {tokens left : Tokens} (read : readBody product table body tokens = .ok (final, left)) :
    left.length ≤ tokens.length := by
  fun_induction readBody product table body tokens with
  | case1 => simp at read
  | case2 => simp_all
  | case3 => simp at read
  | case4 body token rest _ changed shortened step shorter ih =>
      have later := ih read
      simp only [List.length_cons]
      omega

end NestedQuery.SchemaDump
