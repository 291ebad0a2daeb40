import NestedQuery.SchemaDump.Table

/-! The statements of a dump. `CREATE TABLE`, `CREATE VIEW` and the keys that `ALTER TABLE` adds are
read, and all others are passed over. -/

namespace NestedQuery.SchemaDump

def createModifiers : List String :=
  ["or", "replace", "global", "local", "temporary", "temp", "unlogged", "force"]

def skipIfNotExists : Tokens → Tokens
  | .keyword .ifWord :: rest => skipKeyword .existsWord (skipKeyword .not rest)
  | tokens => tokens

def skipIfExists : Tokens → Tokens
  | .keyword .ifWord :: rest => skipKeyword .existsWord rest
  | tokens => tokens

/-- A table after its name. Without a body nothing is defined. -/
def readTable (product : Product) (draft : Draft) (table : RelationId) :
    Tokens → Except DumpError (Draft × Tokens)
  | .openParen :: rest =>
      match readBody product table {} rest with
      | .error cause => .error cause
      | .ok (body, left) =>
          let definition : Definition :=
            { id := table, kind := .table, fields := body.fields, primaryKey := body.primaryKey }
          .ok (draft.add definition body.keys, skipStatement left)
  | tokens => .ok (draft, skipStatement tokens)

def viewField (name : String) : Field :=
  { name, typeCode := .other, databaseType := "unknown" }

def readCreate (product : Product) (draft : Draft) (tokens : Tokens) :
    Except DumpError (Draft × Tokens) :=
  match tokens.dropWhile (·.isWordIn createModifiers) with
  | .keyword .table :: rest =>
      match readRelationId product.caseRule (skipIfNotExists rest) with
      | (some table, left) => readTable product draft table left
      | (none, left) => .ok (draft, skipStatement left)
  | .keyword .view :: rest =>
      match readRelationId product.caseRule (skipIfNotExists rest) with
      | (some view, left) =>
          let (columns, after) := readColumnList product.caseRule left
          let definition : Definition :=
            { id := view, kind := .view, fields := columns.map viewField, primaryKey := [] }
          .ok (draft.add definition [], skipStatement after)
      | (none, left) => .ok (draft, skipStatement left)
  | rest => .ok (draft, skipStatement rest)

def readAddedConstraint (product : Product) (draft : Draft) (table : RelationId)
    (constraintName : Option String) : Tokens → Except DumpError (Draft × Tokens)
  | .keyword .primary :: rest =>
      let (columns, left) := readColumnList product.caseRule (skipKeyword .key rest)
      .ok (draft.setPrimaryKey table columns, skipStatement left)
  | .keyword .foreign :: rest =>
      match readForeignKey product.caseRule table constraintName rest with
      | .error cause => .error cause
      | .ok (some key, left) => .ok (draft.addKey key, skipStatement left)
      | .ok (none, left) => .ok (draft, skipStatement left)
  | tokens => .ok (draft, skipStatement tokens)

def readAlter (product : Product) (draft : Draft) (tokens : Tokens) :
    Except DumpError (Draft × Tokens) :=
  match tokens with
  | .keyword .table :: rest =>
      match readRelationId product.caseRule (skipKeyword .only (skipIfExists rest)) with
      | (some table, .keyword .add :: .keyword .constraint :: left) =>
          let (constraintName, after) := readName product.caseRule left
          readAddedConstraint product draft table constraintName after
      | (some table, .keyword .add :: left) => readAddedConstraint product draft table none left
      | (_, left) => .ok (draft, skipStatement left)
  | rest => .ok (draft, skipStatement rest)

theorem length_skipIfNotExists_le (tokens : Tokens) :
    (skipIfNotExists tokens).length ≤ tokens.length := by
  unfold skipIfNotExists
  split
  · rename_i rest
    have notSkipped := length_skipKeyword_le .not rest
    have existsSkipped := length_skipKeyword_le .existsWord (skipKeyword .not rest)
    simp only [List.length_cons]
    omega
  · exact Nat.le_refl _

theorem length_skipIfExists_le (tokens : Tokens) :
    (skipIfExists tokens).length ≤ tokens.length := by
  unfold skipIfExists
  split
  · rename_i rest
    have existsSkipped := length_skipKeyword_le .existsWord rest
    simp only [List.length_cons]
    omega
  · exact Nat.le_refl _

theorem length_readTable_le {product : Product} {draft changed : Draft} {table : RelationId}
    {tokens left : Tokens} (read : readTable product draft table tokens = .ok (changed, left)) :
    left.length ≤ tokens.length := by
  unfold readTable at read
  split at read
  · split at read
    · exact absurd read (by simp)
    · rename_i rest _ body after content
      have bodyRead := length_readBody_le content
      have ended := length_skipStatement_le after
      simp only [Except.ok.injEq, Prod.mk.injEq] at read
      simp only [List.length_cons]
      rw [← read.2]
      omega
  · simp only [Except.ok.injEq, Prod.mk.injEq] at read
    rw [← read.2]
    exact length_skipStatement_le _

theorem length_readCreate_le {product : Product} {draft changed : Draft} {tokens left : Tokens}
    (read : readCreate product draft tokens = .ok (changed, left)) :
    left.length ≤ tokens.length := by
  have modified : (tokens.dropWhile (·.isWordIn createModifiers)).length ≤ tokens.length :=
    (List.dropWhile_suffix _).length_le
  unfold readCreate at read
  split at read
  · rename_i rest start
    have optional := length_skipIfNotExists_le rest
    have named := length_readRelationId_le product.caseRule (skipIfNotExists rest)
    simp only [start, List.length_cons] at modified
    split at read <;> rename_i found <;> simp only [found] at named
    · have tableRead := length_readTable_le read
      omega
    · rename_i after
      have ended := length_skipStatement_le after
      simp only [Except.ok.injEq, Prod.mk.injEq] at read
      rw [← read.2]
      omega
  · rename_i rest start
    have optional := length_skipIfNotExists_le rest
    have named := length_readRelationId_le product.caseRule (skipIfNotExists rest)
    simp only [start, List.length_cons] at modified
    split at read <;> rename_i after found <;> simp only [found] at named
    · have columns := length_readColumnList_le product.caseRule after
      have ended := length_skipStatement_le (readColumnList product.caseRule after).2
      simp only [Except.ok.injEq, Prod.mk.injEq] at read
      rw [← read.2]
      omega
    · have ended := length_skipStatement_le after
      simp only [Except.ok.injEq, Prod.mk.injEq] at read
      rw [← read.2]
      omega
  · simp only [Except.ok.injEq, Prod.mk.injEq] at read
    rw [← read.2]
    exact Nat.le_trans (length_skipStatement_le _) modified

theorem length_readAddedConstraint_le {product : Product} {draft changed : Draft}
    {table : RelationId} {constraintName : Option String} {tokens left : Tokens}
    (read : readAddedConstraint product draft table constraintName tokens = .ok (changed, left)) :
    left.length ≤ tokens.length := by
  unfold readAddedConstraint at read
  split at read
  · rename_i rest
    have keyword := length_skipKeyword_le .key rest
    have columns := length_readColumnList_le product.caseRule (skipKeyword .key rest)
    have ended := length_skipStatement_le
      (readColumnList product.caseRule (skipKeyword .key rest)).2
    simp only [Except.ok.injEq, Prod.mk.injEq] at read
    simp only [List.length_cons]
    rw [← read.2]
    omega
  · split at read
    · exact absurd read (by simp)
    · rename_i key after constraint
      have constrained := length_readForeignKey_le constraint
      have ended := length_skipStatement_le after
      simp only [Except.ok.injEq, Prod.mk.injEq] at read
      simp only [List.length_cons]
      rw [← read.2]
      omega
    · rename_i after constraint
      have constrained := length_readForeignKey_le constraint
      have ended := length_skipStatement_le after
      simp only [Except.ok.injEq, Prod.mk.injEq] at read
      simp only [List.length_cons]
      rw [← read.2]
      omega
  · simp only [Except.ok.injEq, Prod.mk.injEq] at read
    rw [← read.2]
    exact length_skipStatement_le _

theorem length_readAlter_le {product : Product} {draft changed : Draft} {tokens left : Tokens}
    (read : readAlter product draft tokens = .ok (changed, left)) :
    left.length ≤ tokens.length := by
  unfold readAlter at read
  split at read
  · rename_i rest
    have optional := length_skipIfExists_le rest
    have only := length_skipKeyword_le .only (skipIfExists rest)
    have named := length_readRelationId_le product.caseRule (skipKeyword .only (skipIfExists rest))
    simp only [List.length_cons]
    split at read <;> rename_i found <;> simp only [found, List.length_cons] at named
    · rename_i table after
      have constraintNamed := length_readName_le product.caseRule after
      have constrained : left.length ≤ (readName product.caseRule after).2.length :=
        length_readAddedConstraint_le read
      omega
    · have constrained := length_readAddedConstraint_le read
      omega
    · rename_i after _ _
      have ended := length_skipStatement_le after
      simp only [Except.ok.injEq, Prod.mk.injEq] at read
      rw [← read.2]
      omega
  · simp only [Except.ok.injEq, Prod.mk.injEq] at read
    rw [← read.2]
    exact length_skipStatement_le _

def readStatements (product : Product) (draft : Draft) : Tokens → Except DumpError Draft
  | [] => .ok draft
  | .keyword .create :: rest =>
      match read : readCreate product draft rest with
      | .error cause => .error cause
      | .ok (changed, left) =>
          have : left.length ≤ rest.length := length_readCreate_le read
          readStatements product changed left
  | .keyword .alter :: rest =>
      match read : readAlter product draft rest with
      | .error cause => .error cause
      | .ok (changed, left) =>
          have : left.length ≤ rest.length := length_readAlter_le read
          readStatements product changed left
  | _ :: rest => readStatements product draft rest
termination_by tokens => tokens.length
decreasing_by
  all_goals
    simp only [List.length_cons]
    omega

/-- The catalog that a dump describes. The product is taken from the dump unless it is named. -/
def readCatalog (dump : String) (productName : Option String) : Except DumpError Catalog := do
  let product ← match productName with
    | none => .ok Product.auto
    | some name =>
        match Product.ofName? name with
        | some product => .ok product
        | none => .error (.unknownProduct name)
  let product := product.resolve dump
  let draft ← readStatements product {} (scan dump)
  return draft.catalog product

end NestedQuery.SchemaDump
