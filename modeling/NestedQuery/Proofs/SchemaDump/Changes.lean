import Mathlib.Logic.Relation
import NestedQuery.Proofs.SchemaDump.Script
import NestedQuery.Proofs.SchemaDump.Suffixes

/-! What reading a dump does to the draft. Every statement makes one of five changes, and a whole
dump makes a sequence of them. -/

namespace NestedQuery.SchemaDump

def TableBody.definition (body : TableBody) (table : RelationId) : Definition :=
  { id := table, kind := .table, fields := body.fields, primaryKey := body.primaryKey }

def viewDefinition (view : RelationId) (columns : List String) : Definition :=
  { id := view, kind := .view, fields := columns.map viewField, primaryKey := [] }

/-- What one statement changes. The ids of relations are read from the tokens of the dump. -/
inductive Change (product : Product) (dump : Tokens) : Draft → Draft → Prop
  | nothing (draft) : Change product dump draft draft
  | table (draft) {named table inside body left} : named <:+ dump →
      readRelationId product.caseRule named = (some table, .openParen :: inside) →
      readBody product table {} inside = .ok (body, left) →
      Change product dump draft (draft.add (body.definition table) body.keys)
  | view (draft) {named view left} : named <:+ dump →
      readRelationId product.caseRule named = (some view, left) →
      Change product dump draft
        (draft.add (viewDefinition view (readColumnList product.caseRule left).1) [])
  | primaryKey (draft table columns) : Change product dump draft (draft.setPrimaryKey table columns)
  | foreignKey (draft) {table constraintName tokens key left} :
      readForeignKey product.caseRule table constraintName tokens = .ok (some key, left) →
      Change product dump draft (draft.addKey key)

variable {product : Product} {draft changed final : Draft} {dump tokens left : Tokens}

theorem readTable_change {named : Tokens} {table : RelationId} (whole : named <:+ dump)
    (id : readRelationId product.caseRule named = (some table, tokens))
    (read : readTable product draft table tokens = .ok (changed, left)) :
    Change product dump draft changed := by
  unfold readTable at read
  split at read
  · split at read
    · cases read
    · rename_i inside
      cases read
      exact .table draft whole id inside
  · cases read
    exact .nothing draft

theorem readCreate_change (whole : tokens <:+ dump)
    (read : readCreate product draft tokens = .ok (changed, left)) :
    Change product dump draft changed := by
  have modified := (List.dropWhile_suffix (·.isWordIn createModifiers)).trans whole
  unfold readCreate at read
  split at read
  · rename_i rest start
    rw [start] at modified
    have named := (skipIfNotExists_suffix rest).trans ((List.suffix_cons _ _).trans modified)
    split at read
    · rename_i id
      exact readTable_change named id read
    · cases read
      exact .nothing draft
  · rename_i rest start
    rw [start] at modified
    have named := (skipIfNotExists_suffix rest).trans ((List.suffix_cons _ _).trans modified)
    split at read
    · rename_i id
      cases read
      exact .view draft named id
    · cases read
      exact .nothing draft
  · cases read
    exact .nothing draft

theorem readAddedConstraint_change {table : RelationId} {constraintName : Option String}
    (read : readAddedConstraint product draft table constraintName tokens = .ok (changed, left)) :
    Change product dump draft changed := by
  unfold readAddedConstraint at read
  split at read
  · cases read
    exact .primaryKey draft _ _
  · split at read
    · cases read
    · rename_i inside
      cases read
      exact .foreignKey draft inside
    · cases read
      exact .nothing draft
  · cases read
    exact .nothing draft

theorem readAlter_change (read : readAlter product draft tokens = .ok (changed, left)) :
    Change product dump draft changed := by
  unfold readAlter at read
  split at read
  · split at read
    · exact readAddedConstraint_change read
    · exact readAddedConstraint_change read
    · cases read
      exact .nothing draft
  · cases read
    exact .nothing draft

theorem readStatements_changes (whole : tokens <:+ dump)
    (read : readStatements product draft tokens = .ok final) :
    Relation.ReflTransGen (Change product dump) draft final := by
  fun_induction readStatements product draft tokens with
  | case1 draft =>
      cases read
      exact .refl
  | case2 => cases read
  | case3 draft rest changed left created shorter ih =>
      have within := (List.suffix_cons _ _).trans whole
      exact .head (readCreate_change within created)
        (ih ((readCreate_suffix created).trans within) read)
  | case4 => cases read
  | case5 draft rest changed left altered shorter ih =>
      have within := (List.suffix_cons _ _).trans whole
      exact .head (readAlter_change altered)
        (ih ((readAlter_suffix altered).trans within) read)
  | case6 draft token rest _ _ ih => exact ih ((List.suffix_cons _ _).trans whole) read

theorem exists_product_of_readCatalog {dump : String} {productName : Option String}
    {catalog : Catalog} (read : readCatalog dump productName = .ok catalog) :
    ∃ product draft, productOf? dump productName = some product ∧
      readStatements product {} (scan dump) = .ok draft ∧ catalog = draft.catalog product := by
  have ofProduct {product : Product} (found : productOf? dump productName = some product)
      (done : (do let draft ← readStatements product {} (scan dump)
                  return draft.catalog product) = .ok catalog) :
      ∃ product draft, productOf? dump productName = some product ∧
        readStatements product {} (scan dump) = .ok draft ∧ catalog = draft.catalog product := by
    simp only [bind, Except.bind] at done
    split at done
    · cases done
    · rename_i draft statements
      cases done
      exact ⟨product, draft, found, statements, rfl⟩
  cases productName with
  | none => exact ofProduct rfl read
  | some name =>
      simp only [readCatalog] at read
      cases known : Product.ofName? name with
      | none =>
          simp only [known] at read
          cases read
      | some product =>
          simp only [known] at read
          refine ofProduct ?_ read
          simp [productOf?, known]

theorem exists_draft_of_readCatalog {dump : String} {productName : Option String}
    {catalog : Catalog} (read : readCatalog dump productName = .ok catalog) :
    ∃ product draft, readStatements product {} (scan dump) = .ok draft ∧
      catalog = draft.catalog product := by
  obtain ⟨product, draft, -, statements, built⟩ := exists_product_of_readCatalog read
  exact ⟨product, draft, statements, built⟩

theorem mem_relations_catalog {relation : Relation} :
    relation ∈ (draft.catalog product).relations ↔
      ∃ definition ∈ draft.definitions, definition.relation = relation := by
  rw [Draft.catalog, Catalog.build, List.mem_mergeSort, List.mem_map]

theorem mem_replaceKey {id : RelationId} {columns : List String} {definition : Definition}
    {definitions : List Definition}
    (member : definition ∈ Draft.replaceKey id columns definitions) :
    ∃ original ∈ definitions,
      definition = original ∨ definition = { original with primaryKey := columns } := by
  induction definitions with
  | nil => exact absurd member List.not_mem_nil
  | cons first rest ih =>
      rw [Draft.replaceKey] at member
      split at member
      · rcases List.mem_cons.mp member with rfl | later
        · exact ⟨first, List.mem_cons_self, .inr rfl⟩
        · exact ⟨definition, List.mem_cons_of_mem _ later, .inl rfl⟩
      · rcases List.mem_cons.mp member with rfl | later
        · exact ⟨definition, List.mem_cons_self, .inl rfl⟩
        · obtain ⟨original, inside, same⟩ := ih later
          exact ⟨original, List.mem_cons_of_mem _ inside, same⟩

section Definitions

variable {P : Definition → Prop}
  (ofTable : ∀ {named table inside body left}, named <:+ dump →
    readRelationId product.caseRule named = (some table, .openParen :: inside) →
    readBody product table {} inside = .ok (body, left) → P (body.definition table))
  (ofView : ∀ {named view left}, named <:+ dump →
    readRelationId product.caseRule named = (some view, left) →
    P (viewDefinition view (readColumnList product.caseRule left).1))
  (rekeyed : ∀ definition columns, P definition → P { definition with primaryKey := columns })

include ofTable ofView rekeyed

theorem Change.forall_definitions (change : Change product dump draft changed)
    (before : ∀ definition ∈ draft.definitions, P definition) :
    ∀ definition ∈ changed.definitions, P definition := by
  intro definition member
  cases change with
  | nothing => exact before definition member
  | table whole id inside =>
      rcases List.mem_append.mp member with old | new
      · exact before definition old
      · obtain rfl := List.mem_singleton.mp new
        exact ofTable whole id inside
  | view whole id =>
      rcases List.mem_append.mp member with old | new
      · exact before definition old
      · obtain rfl := List.mem_singleton.mp new
        exact ofView whole id
  | primaryKey table columns =>
      obtain ⟨original, inside, same⟩ := mem_replaceKey (List.mem_reverse.mp member)
      have kept : P original := before original (List.mem_reverse.mp inside)
      rcases same with rfl | rfl
      · exact kept
      · exact rekeyed original columns kept
  | foreignKey => exact before definition member

/-- What holds of all that a dump defines: what the statements that define relations bring about and
naming a primary key leaves as it is. -/
theorem forall_definitions (read : readStatements product {} dump = .ok final) :
    ∀ definition ∈ final.definitions, P definition := by
  have changes := readStatements_changes List.suffix_rfl read
  clear read
  induction changes with
  | refl => exact fun definition member => absurd member List.not_mem_nil
  | tail _ change ih => exact change.forall_definitions ofTable ofView rekeyed ih

end Definitions

theorem readBody_keeps {P : TableBody → Prop} {table : RelationId} {body whole : TableBody}
    (part : ∀ {body changed : TableBody} {token rest left},
      bodyStep product table body token rest = .ok (changed, left) → P body → P changed)
    (read : readBody product table body tokens = .ok (whole, left)) (start : P body) : P whole := by
  fun_induction readBody product table body tokens with
  | case1 => cases read
  | case2 body rest =>
      cases read
      exact start
  | case3 => cases read
  | case4 body token rest _ changed left step shorter ih => exact ih read (part step start)

theorem readColumn_fields {table : RelationId} {body changed : TableBody} {name : String}
    (read : readColumn product table body name tokens = .ok (changed, left)) :
    changed.fields = body.fields ∨ ∃ declared notNull,
      changed.fields = body.fields ++ [columnField product name declared notNull] := by
  unfold readColumn at read
  simp only at read
  split at read
  · cases read
    exact .inl rfl
  · split at read
    · cases read
    · rename_i facts _ _
      cases read
      exact .inr ⟨_, facts.notNull, rfl⟩

theorem bodyStep_fields {table : RelationId} {body changed : TableBody} {token : Token}
    {rest : Tokens} (step : bodyStep product table body token rest = .ok (changed, left)) :
    changed.fields = body.fields ∨ ∃ name declared notNull,
      changed.fields = body.fields ++ [columnField product name declared notNull] := by
  unfold bodyStep at step
  simp only at step
  split at step
  case h_4 =>
    split at step <;> cases step
    exact .inl rfl
  case h_9 =>
    split at step
    · cases step
      exact .inl rfl
    · rename_i name _
      split at step
      · cases step
        exact .inl rfl
      · rcases readColumn_fields step with same | ⟨declared, notNull, added⟩
        · exact .inl same
        · exact .inr ⟨name, declared, notNull, added⟩
  all_goals
    cases step
    exact .inl rfl

end NestedQuery.SchemaDump
