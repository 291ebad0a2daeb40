import Mathlib.Data.List.Forall2
import NestedQuery.Proofs.SchemaDump.RoundTrip
import NestedQuery.Proofs.SchemaDump.Script

/-! What a script declares: its tables, their primary keys and the foreign keys, without the places
at which the keys are stated. The definitions that are read from a script are those it declares, up
to columns that turn out to be key columns only when the keys are numbered. -/

namespace NestedQuery.SchemaDump

structure PlainColumn where
  name : String
  declared : String
  notNull : Bool
  deriving DecidableEq

structure PlainTable where
  id : RelationId
  columns : List PlainColumn
  deriving DecidableEq

def keyOf (stated : List (RelationId × List String)) (id : RelationId) : List String :=
  ((stated.find? (·.1 == id)).map Prod.snd).getD []

def PlainColumn.field (product : Product) (column : PlainColumn) : Field :=
  columnField product column.name column.declared column.notNull

def PlainTable.definition (product : Product) (stated : List (RelationId × List String))
    (table : PlainTable) : Definition where
  id := table.id
  kind := .table
  fields := table.columns.map (PlainColumn.field product)
  primaryKey := keyOf stated table.id

variable {rule : CaseRule}

namespace Clause

def isNotNull : Clause rule → Bool
  | notNull => true
  | _ => false

def isPrimaryKey : Clause rule → Bool
  | primaryKey => true
  | _ => false

def reference? : Clause rule → Option (WrittenReference rule)
  | references reference => some reference
  | _ => none

end Clause

namespace WrittenColumn

def plain (column : WrittenColumn rule) : PlainColumn where
  name := column.name.name
  declared := column.type.declared
  notNull := column.clauses.any Clause.isNotNull

def primaryKeys (column : WrittenColumn rule) : List (List String) :=
  (column.clauses.filter Clause.isPrimaryKey).map fun _ => [column.name.name]

def keys (table : RelationId) (column : WrittenColumn rule) : List KeyDeclaration :=
  (column.clauses.filterMap Clause.reference?).map (·.declaration table [column.name.name])

end WrittenColumn

namespace Part

def column? : Part rule → Option (WrittenColumn rule)
  | column written => some written
  | _ => none

def primaryKeys : Part rule → List (List String)
  | column written => written.primaryKeys
  | primaryKey _ columns => [columns.map (·.name)]
  | foreignKey _ _ => []

def keys (table : RelationId) : Part rule → List KeyDeclaration
  | column written => written.keys table
  | primaryKey _ _ => []
  | foreignKey columns reference => [reference.declaration table (columns.map (·.name))]

end Part

namespace Statement

def tables : Statement rule → List PlainTable
  | create table parts => [⟨table.id, (parts.filterMap Part.column?).map WrittenColumn.plain⟩]
  | _ => []

def primaryKeys : Statement rule → List (RelationId × List String)
  | create table parts => (parts.flatMap Part.primaryKeys).map (table.id, ·)
  | addPrimaryKey _ table _ columns => [(table.id, columns.map (·.name))]
  | addForeignKey _ _ _ _ => []

def keys : Statement rule → List KeyDeclaration
  | create table parts => parts.flatMap (Part.keys table.id)
  | addPrimaryKey _ _ _ _ => []
  | addForeignKey _ table columns reference =>
      [reference.declaration table.id (columns.map (·.name))]

def altered : Statement rule → List RelationId
  | create _ _ => []
  | addPrimaryKey _ table _ _ => [table.id]
  | addForeignKey _ table _ _ => [table.id]

end Statement

/-- Every table that is altered has been created before. -/
def altersLater : (created : List RelationId) → List (Statement rule) → Bool
  | _, [] => true
  | created, statement :: rest =>
      statement.altered.all (· ∈ created) &&
        altersLater (created ++ statement.tables.map (·.id)) rest

structure Script (rule : CaseRule) where
  statements : List (Statement rule)
  distinct : ((statements.flatMap Statement.tables).map (·.id.display)).Nodup := by decide +kernel
  columnsDistinct : ∀ table ∈ statements.flatMap Statement.tables,
    (table.columns.map (·.name)).Nodup := by decide +kernel
  onePrimaryKey : ((statements.flatMap Statement.primaryKeys).map Prod.fst).Nodup := by
    decide +kernel
  altersLater : altersLater [] statements = true := by decide +kernel

theorem foldl_clauses (child : RelationId) (name : String) (clauses : List (Clause rule))
    (facts : ColumnFacts) :
    clauses.foldl (Clause.apply child name) facts =
      { notNull := facts.notNull || clauses.any Clause.isNotNull || clauses.any Clause.isPrimaryKey
        primaryKey := facts.primaryKey ++
          ((clauses.filter Clause.isPrimaryKey).map fun _ => [name]).flatten
        keys := facts.keys ++
          (clauses.filterMap Clause.reference?).map (·.declaration child [name])
        constraintName := facts.constraintName } := by
  induction clauses generalizing facts with
  | nil => simp
  | cons clause clauses ih =>
      rw [List.foldl_cons, ih, List.filterMap_cons, List.filter_cons]
      cases clause with
      | notNull => simp [Clause.apply, Clause.isNotNull, Clause.isPrimaryKey, Clause.reference?]
      | primaryKey =>
          simp [Clause.apply, Clause.isNotNull, Clause.isPrimaryKey, Clause.reference?]
      | references reference =>
          simp [Clause.apply, Clause.isNotNull, Clause.isPrimaryKey, Clause.reference?]
      | other token _ _ =>
          simp [Clause.apply, Clause.isNotNull, Clause.isPrimaryKey, Clause.reference?]

namespace WrittenColumn

def isKey (column : WrittenColumn rule) : Bool := column.clauses.any Clause.isPrimaryKey

def readField (product : Product) (column : WrittenColumn rule) : Field :=
  columnField product column.name.name column.type.declared (column.plain.notNull || column.isKey)

theorem facts_eq (column : WrittenColumn rule) (table : RelationId) :
    column.facts table =
      { notNull := column.plain.notNull || column.isKey
        primaryKey := column.primaryKeys.flatten
        keys := column.keys table } := by
  rw [facts, foldl_clauses]
  simp [plain, isKey, primaryKeys, keys]

theorem readField_of_not_key (product : Product) {column : WrittenColumn rule}
    (notKey : column.isKey = false) :
    column.readField product = column.plain.field product := by
  rw [readField, notKey, Bool.or_false]
  rfl

theorem mem_primaryKeys {column : WrittenColumn rule} (key : column.isKey = true) :
    [column.name.name] ∈ column.primaryKeys := by
  obtain ⟨clause, member, isKey⟩ := List.any_eq_true.mp key
  exact List.mem_map.mpr ⟨clause, List.mem_filter.mpr ⟨member, isKey⟩, rfl⟩

end WrittenColumn

theorem foldl_parts_fields (product : Product) (table : RelationId) (parts : List (Part rule))
    (body : TableBody) :
    (parts.foldl (Part.apply product table) body).fields =
        body.fields ++ (parts.filterMap Part.column?).map (WrittenColumn.readField product) ∧
      (parts.foldl (Part.apply product table) body).keys =
        body.keys ++ parts.flatMap (Part.keys table) := by
  induction parts generalizing body with
  | nil => simp
  | cons part parts ih =>
      rw [List.foldl_cons, (ih _).1, (ih _).2, List.filterMap_cons]
      cases part with
      | column written =>
          simp [Part.apply, Part.column?, Part.keys, written.facts_eq, WrittenColumn.readField]
      | primaryKey _ columns => simp [Part.apply, Part.column?, Part.keys]
      | foreignKey columns reference => simp [Part.apply, Part.column?, Part.keys]

theorem foldl_parts_primaryKey (product : Product) (table : RelationId) (parts : List (Part rule))
    {body : TableBody} (once : (parts.flatMap Part.primaryKeys).length ≤ 1)
    (unstated : body.primaryKey = [] ∨ parts.flatMap Part.primaryKeys = []) :
    (parts.foldl (Part.apply product table) body).primaryKey =
      body.primaryKey ++ (parts.flatMap Part.primaryKeys).flatten := by
  induction parts generalizing body with
  | nil => simp
  | cons part parts ih =>
      have applied : (part.apply product table body).primaryKey =
          body.primaryKey ++ part.primaryKeys.flatten := by
        cases part with
        | column written => simp [Part.apply, Part.primaryKeys, written.facts_eq]
        | primaryKey _ columns =>
            have empty : body.primaryKey = [] := by simpa [Part.primaryKeys] using unstated
            simp [Part.apply, Part.primaryKeys, empty]
        | foreignKey columns reference => simp [Part.apply, Part.primaryKeys]
      rw [List.flatMap_cons, List.length_append] at once
      rw [List.flatMap_cons, List.append_eq_nil_iff] at unstated
      have later : (part.apply product table body).primaryKey = [] ∨
          parts.flatMap Part.primaryKeys = [] := by
        rcases unstated with empty | ⟨_, none⟩
        · by_cases here : part.primaryKeys = []
          · left
            rw [applied, empty, here]
            rfl
          · right
            have positive : 0 < part.primaryKeys.length := List.length_pos_iff.mpr here
            exact List.length_eq_zero_iff.mp (by omega)
        · exact .inr none
      rw [List.foldl_cons, ih (by omega) later, applied]
      simp

theorem numberKey_parts (product : Product) {parts : List (Part rule)}
    (distinct : (((parts.filterMap Part.column?).map WrittenColumn.plain).map (·.name)).Nodup)
    (once : (parts.flatMap Part.primaryKeys).length ≤ 1) :
    numberKey 0 (parts.flatMap Part.primaryKeys).flatten
        ((parts.filterMap Part.column?).map (WrittenColumn.readField product)) =
      numberKey 0 (parts.flatMap Part.primaryKeys).flatten
        (((parts.filterMap Part.column?).map WrittenColumn.plain).map
          (PlainColumn.field product)) := by
  rw [List.map_map]
  have stated {column : WrittenColumn rule} (member : column ∈ parts.filterMap Part.column?)
      (key : column.isKey = true) : parts.flatMap Part.primaryKeys = [[column.name.name]] := by
    obtain ⟨part, known, found⟩ := List.mem_filterMap.mp member
    have isColumn : part = .column column := by
      cases part <;> simp_all [Part.column?]
    have inKeys : [column.name.name] ∈ parts.flatMap Part.primaryKeys := by
      refine List.mem_flatMap.mpr ⟨part, known, ?_⟩
      rw [isColumn]
      exact column.mem_primaryKeys key
    obtain ⟨only, same⟩ := List.length_eq_one_iff.mp
      (Nat.le_antisymm once (List.length_pos_of_mem inKeys))
    rw [same] at inKeys ⊢
    rw [List.mem_singleton.mp inKeys]
  by_cases atColumn : ∃ column ∈ parts.filterMap Part.column?, column.isKey = true
  · obtain ⟨column, member, key⟩ := atColumn
    have readDistinct : (((parts.filterMap Part.column?).map
        (WrittenColumn.readField product)).map (·.name)).Nodup := by
      rw [List.map_map] at distinct ⊢
      exact distinct
    have plainDistinct : (((parts.filterMap Part.column?).map
        (PlainColumn.field product ∘ WrittenColumn.plain)).map (·.name)).Nodup := by
      rw [List.map_map] at distinct ⊢
      exact distinct
    rw [stated member key]
    simp only [List.flatten_cons, List.flatten_nil, List.append_nil, numberKey]
    rw [updateField_eq_map readDistinct, updateField_eq_map plainDistinct, List.map_map,
      List.map_map]
    apply List.map_congr_left
    intro other otherMember
    by_cases same : other.name.name = column.name.name
    · simp [WrittenColumn.readField, PlainColumn.field, WrittenColumn.plain, columnField, same]
    · have notKey : other.isKey = false := by
        by_contra otherKey
        have both := (stated member key).symm.trans (stated otherMember (by simpa using otherKey))
        simp only [List.cons.injEq, and_true] at both
        exact same both.symm
      simp only [Function.comp_apply, WrittenColumn.readField_of_not_key product notKey]
  · congr 1
    apply List.map_congr_left
    intro column member
    have notKey : column.isKey = false := by
      by_contra key
      exact atColumn ⟨column, member, by simpa using key⟩
    exact WrittenColumn.readField_of_not_key product notKey

theorem find?_stated_eq_none {stated : List (RelationId × List String)} {id : RelationId}
    (absent : id ∉ stated.map Prod.fst) : stated.find? (·.1 == id) = none := by
  rw [List.find?_eq_none]
  intro entry member same
  exact absent (List.mem_map.mpr ⟨entry, member, by simpa using same⟩)

theorem keyOf_eq_nil {stated : List (RelationId × List String)} {id : RelationId}
    (absent : id ∉ stated.map Prod.fst) : keyOf stated id = [] := by
  rw [keyOf, find?_stated_eq_none absent]
  rfl

theorem keyOf_append_left {first second : List (RelationId × List String)} {id : RelationId}
    (absent : id ∉ second.map Prod.fst) : keyOf (first ++ second) id = keyOf first id := by
  rw [keyOf, List.find?_append, find?_stated_eq_none absent, Option.or_none]
  rfl

theorem keyOf_append_right {first second : List (RelationId × List String)} {id : RelationId}
    (absent : id ∉ first.map Prod.fst) : keyOf (first ++ second) id = keyOf second id := by
  rw [keyOf, List.find?_append, find?_stated_eq_none absent, Option.none_or]
  rfl

theorem keyOf_only {keys : List (List String)} (once : keys.length ≤ 1) (id : RelationId) :
    keyOf (keys.map (id, ·)) id = keys.flatten := by
  match keys, once with
  | [], _ => rfl
  | [names], _ => simp [keyOf]

/-- A definition that is read is the stated one, up to what the numbering of its key settles. -/
structure Definition.Alike (read stated : Definition) : Prop where
  primaryKey : read.primaryKey = stated.primaryKey
  relation : read.relation = stated.relation

namespace Definition

def withKey (id : RelationId) (names : List String) (definition : Definition) : Definition :=
  if definition.id = id then { definition with primaryKey := names } else definition

theorem Alike.id {read stated : Definition} (alike : Alike read stated) : read.id = stated.id :=
  congrArg Relation.id alike.relation

theorem Alike.withKey {read stated : Definition} (alike : Alike read stated) {id : RelationId}
    (unstated : stated.id = id → stated.primaryKey = []) (names : List String) :
    Alike (read.withKey id names) (stated.withKey id names) := by
  unfold Definition.withKey
  rw [alike.id]
  by_cases same : stated.id = id
  · rw [if_pos same, if_pos same]
    -- Without a key nothing is numbered, so that the fields are the same already.
    have relation := alike.relation
    simp only [Definition.relation, alike.primaryKey, unstated same, numberKey] at relation
    obtain ⟨sameKind, sameFields⟩ : read.kind = stated.kind ∧ read.fields = stated.fields := by
      simpa [alike.id] using relation
    exact ⟨rfl, by simp only [Definition.relation, sameKind, sameFields]⟩
  · rw [if_neg same, if_neg same]
    exact alike

theorem forall₂_withKey {read stated : List Definition} (alike : List.Forall₂ Alike read stated)
    {id : RelationId} (unstated : ∀ definition ∈ stated, definition.id = id →
      definition.primaryKey = []) (names : List String) :
    List.Forall₂ Alike (read.map (withKey id names)) (stated.map (withKey id names)) := by
  induction alike with
  | nil => exact .nil
  | cons first _ ih =>
      rw [List.forall_mem_cons] at unstated
      exact .cons (first.withKey unstated.1 names) (ih unstated.2)

theorem map_eq_of_alike {β : Type} {view : Definition → β}
    (same : ∀ {read stated}, Alike read stated → view read = view stated)
    {read stated : List Definition} (alike : List.Forall₂ Alike read stated) :
    read.map view = stated.map view := by
  induction alike with
  | nil => rfl
  | cons first _ ih => rw [List.map_cons, List.map_cons, same first, ih]

end Definition

theorem replaceKey_eq_map {id : RelationId} {names : List String} {definitions : List Definition}
    (distinct : (definitions.map (·.id)).Nodup) :
    Draft.replaceKey id names definitions = definitions.map (Definition.withKey id names) := by
  induction definitions with
  | nil => rfl
  | cons definition definitions ih =>
      rw [List.map_cons, List.nodup_cons] at distinct
      rw [Draft.replaceKey, List.map_cons, Definition.withKey]
      by_cases same : definition.id = id
      · have others : definitions.map (Definition.withKey id names) = definitions := by
          refine (List.map_congr_left ?_).trans (List.map_id' definitions)
          intro other member
          refine if_neg ?_
          intro found
          apply distinct.1
          rw [same, ← found]
          exact List.mem_map_of_mem member
        rw [if_pos same, if_pos same, others]
      · rw [if_neg same, if_neg same, ih distinct.2]

theorem setPrimaryKey_definitions {draft : Draft} {id : RelationId} {names : List String}
    (distinct : (draft.definitions.map (·.id)).Nodup) :
    (draft.setPrimaryKey id names).definitions =
      draft.definitions.map (Definition.withKey id names) := by
  have reversed : (draft.definitions.reverse.map (·.id)).Nodup := by
    rw [List.map_reverse]
    exact List.nodup_reverse.mpr distinct
  rw [Draft.setPrimaryKey, replaceKey_eq_map reversed, List.map_reverse, List.reverse_reverse]

namespace Statement

theorem keys_apply (product : Product) (draft : Draft) (statement : Statement rule) :
    (statement.apply product draft).keys = draft.keys ++ statement.keys := by
  cases statement with
  | create table parts =>
      have body := (foldl_parts_fields product table.id parts {}).2
      simpa [apply, Draft.add, keys] using body
  | addPrimaryKey only table constraintName columns =>
      simp [apply, Draft.setPrimaryKey, keys]
  | addForeignKey only table columns reference => rfl

theorem create_alike (product : Product) (table : WrittenId rule) {parts : List (Part rule)}
    (distinct : (((parts.filterMap Part.column?).map WrittenColumn.plain).map (·.name)).Nodup)
    (once : (parts.flatMap Part.primaryKeys).length ≤ 1)
    {stated : List (RelationId × List String)}
    (key : keyOf stated table.id = (parts.flatMap Part.primaryKeys).flatten) :
    Definition.Alike
      { id := table.id, kind := .table
        fields := (parts.foldl (Part.apply product table.id) {}).fields
        primaryKey := (parts.foldl (Part.apply product table.id) {}).primaryKey }
      (PlainTable.definition product stated
        ⟨table.id, (parts.filterMap Part.column?).map WrittenColumn.plain⟩) := by
  have fields : (parts.foldl (Part.apply product table.id) {}).fields =
      (parts.filterMap Part.column?).map (WrittenColumn.readField product) :=
    (foldl_parts_fields product table.id parts {}).1
  have primaryKey : (parts.foldl (Part.apply product table.id) {}).primaryKey =
      (parts.flatMap Part.primaryKeys).flatten :=
    foldl_parts_primaryKey product table.id parts once (.inl rfl)
  constructor
  · rw [PlainTable.definition, key]
    exact primaryKey
  · simp only [Definition.relation, PlainTable.definition, key, fields, primaryKey,
      numberKey_parts product distinct once]

theorem apply_alike {product : Product} (statement : Statement rule) {draft : Draft}
    {tables : List PlainTable} {stated : List (RelationId × List String)}
    (alike : List.Forall₂ Definition.Alike draft.definitions
      (tables.map (PlainTable.definition product stated)))
    (distinct : ((tables ++ statement.tables).map (·.id)).Nodup)
    (columnsDistinct : ∀ table ∈ statement.tables, (table.columns.map (·.name)).Nodup)
    (once : ((stated ++ statement.primaryKeys).map Prod.fst).Nodup)
    (known : ∀ id ∈ stated.map Prod.fst, id ∈ tables.map (·.id)) :
    List.Forall₂ Definition.Alike (statement.apply product draft).definitions
      ((tables ++ statement.tables).map
        (PlainTable.definition product (stated ++ statement.primaryKeys))) := by
  rw [List.map_append, List.nodup_append] at distinct once
  cases statement with
  | create table parts =>
      have new : table.id ∉ tables.map (·.id) := by
        intro member
        exact distinct.2.2 _ member _ (by simp [Statement.tables]) rfl
      have unstated : table.id ∉ stated.map Prod.fst := fun member => new (known _ member)
      have single : (parts.flatMap Part.primaryKeys).length ≤ 1 := by
        have ids := once.2.1
        simp only [Statement.primaryKeys, List.map_map] at ids
        have same : (Prod.fst ∘ fun names : List String => (table.id, names)) =
            fun _ => table.id := rfl
        rw [same, List.map_const', List.nodup_replicate] at ids
        exact ids
      have old : tables.map (PlainTable.definition product
          (stated ++ (Statement.create table parts).primaryKeys)) =
          tables.map (PlainTable.definition product stated) := by
        apply List.map_congr_left
        intro other member
        have apart : other.id ∉ ((Statement.create table parts).primaryKeys).map Prod.fst := by
          intro found
          obtain ⟨entry, inKeys, same⟩ := List.mem_map.mp found
          obtain ⟨names, _, rfl⟩ := List.mem_map.mp inKeys
          have sameId : table.id = other.id := same
          apply new
          rw [sameId]
          exact List.mem_map_of_mem member
        simp only [PlainTable.definition, keyOf_append_left apart]
      have key : keyOf (stated ++ (Statement.create table parts).primaryKeys) table.id =
          (parts.flatMap Part.primaryKeys).flatten := by
        rw [keyOf_append_right unstated]
        exact keyOf_only single table.id
      have columns := columnsDistinct
        ⟨table.id, (parts.filterMap Part.column?).map WrittenColumn.plain⟩ List.mem_cons_self
      have created := create_alike product table columns single key
      rw [List.map_append, old]
      exact List.rel_append alike (.cons created .nil)
  | addPrimaryKey only table constraintName columns =>
      have unstated : table.id ∉ stated.map Prod.fst := by
        intro member
        exact once.2.2 _ member _ (by simp [Statement.primaryKeys]) rfl
      have ids : (draft.definitions.map (·.id)).Nodup := by
        rw [Definition.map_eq_of_alike Definition.Alike.id alike, List.map_map]
        exact distinct.1
      have changed : tables.map (PlainTable.definition product
          (stated ++ [(table.id, columns.map (·.name))])) =
          (tables.map (PlainTable.definition product stated)).map
            (Definition.withKey table.id (columns.map (·.name))) := by
        rw [List.map_map]
        apply List.map_congr_left
        intro other _
        by_cases same : other.id = table.id
        · have key : keyOf (stated ++ [(table.id, columns.map (·.name))]) table.id =
              columns.map (·.name) := by
            rw [keyOf_append_right unstated]
            simp [keyOf]
          simp [PlainTable.definition, Definition.withKey, same, key]
        · have apart : other.id ∉ [(table.id, columns.map (·.name))].map Prod.fst := by
            simpa using same
          simp [PlainTable.definition, Definition.withKey, same, keyOf_append_left apart]
      simp only [Statement.apply, Statement.tables, Statement.primaryKeys, List.append_nil]
      rw [setPrimaryKey_definitions ids, changed]
      refine Definition.forall₂_withKey alike ?_ _
      intro definition member same
      obtain ⟨other, _, rfl⟩ := List.mem_map.mp member
      have sameId : other.id = table.id := same
      exact keyOf_eq_nil (by rw [sameId]; exact unstated)
  | addForeignKey only table columns reference =>
      simpa [Statement.apply, Draft.addKey, Statement.tables, Statement.primaryKeys] using alike

theorem known_of_primaryKeys {statement : Statement rule} {id : RelationId}
    (member : id ∈ statement.primaryKeys.map Prod.fst) :
    id ∈ statement.altered ∨ id ∈ statement.tables.map (·.id) := by
  cases statement with
  | create table parts =>
      obtain ⟨entry, inKeys, rfl⟩ := List.mem_map.mp member
      obtain ⟨names, _, rfl⟩ := List.mem_map.mp inKeys
      exact .inr (by simp [Statement.tables])
  | addPrimaryKey only table constraintName columns =>
      exact .inl (by simpa [Statement.primaryKeys, Statement.altered] using member)
  | addForeignKey only table columns reference => simp [Statement.primaryKeys] at member

theorem known_of_keys {statement : Statement rule} {key : KeyDeclaration}
    (member : key ∈ statement.keys) :
    key.child ∈ statement.altered ∨ key.child ∈ statement.tables.map (·.id) := by
  cases statement with
  | create table parts =>
      obtain ⟨part, _, inPart⟩ := List.mem_flatMap.mp member
      have child : key.child = table.id := by
        cases part with
        | column written =>
            obtain ⟨reference, _, rfl⟩ := List.mem_map.mp inPart
            rfl
        | primaryKey _ columns => cases inPart
        | foreignKey columns reference =>
            obtain rfl := List.mem_singleton.mp inPart
            rfl
      exact .inr (by simp [Statement.tables, child])
  | addPrimaryKey only table constraintName columns => cases member
  | addForeignKey only table columns reference =>
      obtain rfl := List.mem_singleton.mp member
      exact .inl (by simp [Statement.altered, WrittenReference.declaration])

end Statement

theorem altersLater_cons {created : List RelationId} {statement : Statement rule}
    {rest : List (Statement rule)} (later : altersLater created (statement :: rest) = true) :
    (∀ id ∈ statement.altered, id ∈ created) ∧
      altersLater (created ++ statement.tables.map (·.id)) rest = true := by
  simpa [altersLater] using later

/-- A run of statements keeps the definitions that are read in step with the stated ones. -/
theorem foldl_statements_alike {product : Product} (statements : List (Statement rule))
    {draft : Draft} {tables : List PlainTable} {stated : List (RelationId × List String)}
    (alike : List.Forall₂ Definition.Alike draft.definitions
      (tables.map (PlainTable.definition product stated)))
    (distinct : ((tables ++ statements.flatMap Statement.tables).map (·.id)).Nodup)
    (columnsDistinct : ∀ table ∈ statements.flatMap Statement.tables,
      (table.columns.map (·.name)).Nodup)
    (once : ((stated ++ statements.flatMap Statement.primaryKeys).map Prod.fst).Nodup)
    (known : ∀ id ∈ stated.map Prod.fst, id ∈ tables.map (·.id))
    (later : altersLater (tables.map (·.id)) statements = true) :
    List.Forall₂ Definition.Alike (statements.foldl (Statement.apply product) draft).definitions
      ((tables ++ statements.flatMap Statement.tables).map
        (PlainTable.definition product (stated ++ statements.flatMap Statement.primaryKeys))) := by
  induction statements generalizing draft tables stated with
  | nil => simpa using alike
  | cons statement statements ih =>
      obtain ⟨altered, laterRest⟩ := altersLater_cons later
      rw [List.flatMap_cons, ← List.append_assoc] at distinct once ⊢
      rw [List.flatMap_cons, ← List.append_assoc]
      have distinctHere : ((tables ++ statement.tables).map (·.id)).Nodup := by
        rw [List.map_append] at distinct
        exact (List.nodup_append.mp distinct).1
      have onceHere : ((stated ++ statement.primaryKeys).map Prod.fst).Nodup := by
        rw [List.map_append] at once
        exact (List.nodup_append.mp once).1
      have columnsHere : ∀ table ∈ statement.tables, (table.columns.map (·.name)).Nodup := by
        intro table member
        exact columnsDistinct table (by simp [member])
      have columnsLater : ∀ table ∈ statements.flatMap Statement.tables,
          (table.columns.map (·.name)).Nodup := by
        intro table member
        refine columnsDistinct table ?_
        rw [List.flatMap_cons]
        exact List.mem_append_right _ member
      have knownHere : ∀ id ∈ (stated ++ statement.primaryKeys).map Prod.fst,
          id ∈ (tables ++ statement.tables).map (·.id) := by
        intro id member
        rw [List.map_append, List.mem_append] at member ⊢
        rcases member with before | here
        · exact .inl (known id before)
        · exact (Statement.known_of_primaryKeys here).imp_left (altered id)
      have step := statement.apply_alike alike distinctHere columnsHere onceHere known
      rw [← List.map_append] at laterRest
      exact ih step distinct columnsLater once knownHere laterRest

theorem keys_foldl_statements (product : Product) (draft : Draft)
    (statements : List (Statement rule)) :
    (statements.foldl (Statement.apply product) draft).keys =
      draft.keys ++ statements.flatMap Statement.keys := by
  induction statements generalizing draft with
  | nil => simp
  | cons statement statements ih =>
      rw [List.foldl_cons, ih, Statement.keys_apply, List.flatMap_cons, List.append_assoc]

theorem child_mem_of_altersLater {created : List RelationId} {statements : List (Statement rule)}
    (later : altersLater created statements = true) {key : KeyDeclaration}
    (member : key ∈ statements.flatMap Statement.keys) :
    key.child ∈ created ++ (statements.flatMap Statement.tables).map (·.id) := by
  induction statements generalizing created with
  | nil => cases member
  | cons statement statements ih =>
      obtain ⟨altered, laterRest⟩ := altersLater_cons later
      rw [List.flatMap_cons, List.map_append, ← List.append_assoc]
      rw [List.flatMap_cons, List.mem_append] at member
      rcases member with here | after
      · refine List.mem_append_left _ (List.mem_append.mpr ?_)
        exact (Statement.known_of_keys here).imp_left (altered _)
      · exact ih laterRest after

end NestedQuery.SchemaDump
