import NestedQuery.Proofs.Query.Distinct
import NestedQuery.Proofs.Query.Exports

/-! Which queries are accepted. Aliases, correlations, filters and orderings change the text of a
base query, but neither the names of its columns nor the error where it cannot be made, through
every nesting. An exported key does: its names have to differ from those of the columns. -/

namespace NestedQuery

/-- All of a column that decides whether queries around it can be made. -/
def SelectEntry.outline (entry : SelectEntry) : String × Bool := (entry.outputName, entry.isHidden)

theorem SelectEntry.outline_make (expression outputName : String) (origin : Origin) :
    (SelectEntry.make expression outputName origin).outline =
      (outputName, origin == .hiddenKey) := rfl

def BaseQuery.outline (query : BaseQuery) : List (String × Bool) :=
  query.parts.entries.map SelectEntry.outline

theorem BaseQuery.length_columns {query other : BaseQuery} (same : query.outline = other.outline) :
    query.columns.length = other.columns.length := by
  have own (query : BaseQuery) :
      query.columns.length = (query.outline.filter fun entry => !entry.2).length := by
    simp [BaseQuery.columns, BaseQuery.outline, List.filter_map, Function.comp_def,
      SelectEntry.outline]
  rw [own query, own other, same]

theorem outcome_ok {α ε : Type} (value : α) :
    (Except.ok value : Except ε α).map (fun _ => ()) = .ok () := rfl

theorem mapM_map_eq {α β γ ε : Type} {view : β → γ} {make other : α → Except ε β} (items : List α)
    (each : ∀ item, (make item).map view = (other item).map view) :
    (items.mapM make).map (List.map view) = (items.mapM other).map (List.map view) := by
  induction items with
  | nil => rfl
  | cons item rest ih =>
      rw [List.mapM_cons, List.mapM_cons]
      refine map_bind_eq (each item) fun result another same => ?_
      refine map_bind_eq ih fun results others sameResults => ?_
      exact congrArg Except.ok (congrArg₂ List.cons same sameResults)

namespace Compiler

variable {compiler : Compiler}

theorem hiddenEntries_outline (relation : Relation) (aliasName : String) :
    (compiler.hiddenEntries relation aliasName).map SelectEntry.outline =
      relation.primaryKey.map fun field => (compiler.hiddenName field, true) := by
  simp [hiddenEntries, SelectEntry.outline, Function.comp_def]

theorem fieldSql_outcome (relation : Relation) (aliasName otherAlias : String) (spec : FieldSpec)
    (location : Location) :
    (compiler.fieldSql relation aliasName spec location).map (fun _ => ()) =
      (compiler.fieldSql relation otherAlias spec location).map fun _ => () := by
  unfold fieldSql
  split
  · exact map_bind_same fun _ => rfl
  · rfl
  · rfl

theorem nativeEntry_outline (relation : Relation) (aliasName otherAlias : String)
    (location : Location) (spec : FieldSpec) :
    (compiler.nativeEntry relation aliasName location spec).map SelectEntry.outline =
      (compiler.nativeEntry relation otherAlias location spec).map SelectEntry.outline := by
  refine map_bind_same fun name => ?_
  exact map_bind_eq (compiler.fieldSql_outcome relation aliasName otherAlias spec location)
    fun _ _ _ => rfl

theorem inlineEntries_outline (table aliasName : String) (columns : List SelectEntry) :
    (inlineEntries table aliasName columns).map SelectEntry.outline =
      columns.map fun column => (column.outputName, false) :=
  inlineEntries_map table aliasName columns fun _ _ => rfl

theorem arrayRowSql_outcome (table : String) (query : BaseQuery) (unwrap : Bool)
    (order : Option String) (location : Location) :
    (compiler.arrayRowSql table query unwrap order location).map (fun _ => ()) =
      if unwrap = true ∧ query.columns.length ≠ 1 then
        location.reject (.notUnwrappable table query.columns.length)
      else .ok () := by
  unfold arrayRowSql
  cases unwrap with
  | false => exact outcome_ok _
  | true =>
      simp only [if_true, true_and]
      split
      · rename_i column only
        rw [only]
        exact outcome_ok _
      · rename_i several
        have notOne : query.columns.length ≠ 1 := by
          intro one
          obtain ⟨column, only⟩ := List.length_eq_one_iff.mp one
          exact several column only
        rw [if_pos notOne]
        rfl

/-- The base query has the same outline, or the same error, wherever it is embedded. -/
def SameOutline (compiler : Compiler) (spec : TableSpec) : Prop :=
  ∀ first second : Embedding, first.exportsKey = second.exportsKey → ∀ location,
    (compiler.baseQuery spec first location).map BaseQuery.outline =
      (compiler.baseQuery spec second location).map BaseQuery.outline

theorem inlineJoins_outline (child : Relation) (childAlias otherAlias : String)
    (location : Location) {parts otherParts : QueryParts}
    (same : parts.entries.map SelectEntry.outline = otherParts.entries.map SelectEntry.outline)
    (parents : List InlineParent) :
    (compiler.inlineJoins child childAlias location parts parents).map
        (·.2.entries.map SelectEntry.outline) =
      (compiler.inlineJoins child otherAlias location otherParts parents).map
        (·.2.entries.map SelectEntry.outline) := by
  induction parents generalizing parts otherParts with
  | nil =>
      rw [inlineJoins, inlineJoins]
      exact congrArg Except.ok same
  | cons parent rest ih =>
      obtain ⟨spec, link, optional⟩ := parent
      rw [inlineJoins, inlineJoins]
      refine map_bind_same fun target => ?_
      refine map_bind_same fun pairs => ?_
      -- A derived table is not correlated, so that both runs make it alike.
      refine map_bind_same fun query => ?_
      refine map_bind_eq (ih ?_) fun joined otherJoined sameJoined => ?_
      · simp only [QueryParts.merge, inlineParts, List.map_append, same, inlineEntries_outline]
      · exact congrArg Except.ok sameJoined

theorem referencedEntries_outline (child : Relation) (childAlias otherAlias : String)
    (location : Location) (parents : List ReferencedParent)
    (below : ∀ parent ∈ parents, compiler.SameOutline parent.spec) :
    (compiler.referencedEntries child childAlias location parents).map
        (List.map SelectEntry.outline) =
      (compiler.referencedEntries child otherAlias location parents).map
        (List.map SelectEntry.outline) := by
  induction parents with
  | nil => rw [referencedEntries, referencedEntries]
  | cons parent rest ih =>
      have nested := below parent List.mem_cons_self
      have later := ih fun other member => below other (List.mem_cons_of_mem _ member)
      obtain ⟨name, spec, link, optional⟩ := parent
      rw [referencedEntries, referencedEntries]
      refine map_bind_same fun target => ?_
      refine map_bind_same fun pairs => ?_
      refine map_bind_eq (nested _ _ (by rfl) _) fun query other _ => ?_
      refine map_bind_eq later fun entries otherEntries sameEntries => ?_
      refine congrArg Except.ok (congrArg₂ List.cons ?_ sameEntries)
      rw [SelectEntry.outline_make, SelectEntry.outline_make]

theorem childEntries_outline (parent : Relation) (parentAlias otherAlias : String)
    (location : Location) (collections : List ChildCollection)
    (below : ∀ collection ∈ collections, compiler.SameOutline collection.spec) :
    (compiler.childEntries parent parentAlias location collections).map
        (List.map SelectEntry.outline) =
      (compiler.childEntries parent otherAlias location collections).map
        (List.map SelectEntry.outline) := by
  induction collections with
  | nil => rw [childEntries, childEntries]
  | cons collection rest ih =>
      have nested := below collection List.mem_cons_self
      have later := ih fun other member => below other (List.mem_cons_of_mem _ member)
      obtain ⟨name, spec, link, filter, unwrap, orderBy⟩ := collection
      rw [childEntries, childEntries]
      refine map_bind_same fun target => ?_
      refine map_bind_same fun pairs => ?_
      refine map_bind_eq (nested _ _ (by rfl) _) fun query other same => ?_
      have aggregated (unwrap : Bool) (order : Option String) (inside : Location) :
          (compiler.arrayRowSql spec.table query unwrap order inside).map (fun _ => ()) =
            (compiler.arrayRowSql spec.table other unwrap order inside).map fun _ => () := by
        rw [arrayRowSql_outcome, arrayRowSql_outcome, BaseQuery.length_columns same]
      refine map_bind_eq (aggregated _ _ _) fun array otherArray _ => ?_
      refine map_bind_eq later fun entries otherEntries sameEntries => ?_
      refine congrArg Except.ok (congrArg₂ List.cons ?_ sameEntries)
      rw [SelectEntry.outline_make, SelectEntry.outline_make]

theorem repeatedName?_outline (query other : BaseQuery) (same : query.outline = other.outline) :
    query.parts.repeatedName? = other.parts.repeatedName? := by
  have names (query : BaseQuery) : query.parts.entries.map SelectEntry.propertyName =
      query.outline.map fun entry => Naming.unquoted entry.1 := by
    rw [BaseQuery.outline, List.map_map]
    rfl
  rw [QueryParts.repeatedName?, QueryParts.repeatedName?, names query, names other, same]

theorem sameOutline (compiler : Compiler) (spec : TableSpec) : compiler.SameOutline spec := by
  induction spec using TableSpec.nested_induction with
  | step spec _ referenced collected =>
      intro first second sameKey location
      obtain ⟨table, fields, inlineParents, referencedParents, childCollections, condition⟩ := spec
      rw [baseQuery, baseQuery]
      refine map_bind_same fun relation => ?_
      refine map_bind_eq (mapM_map_eq fields (nativeEntry_outline relation _ _ _))
        fun plain otherPlain samePlain => ?_
      have key (aliasName otherAlias : String) :
          (if first.exportsKey then compiler.hiddenEntries relation aliasName else []).map
              SelectEntry.outline =
            (if second.exportsKey then compiler.hiddenEntries relation otherAlias else []).map
              SelectEntry.outline := by
        rw [sameKey]
        split
        · rw [hiddenEntries_outline, hiddenEntries_outline]
        · rfl
      refine map_bind_eq (inlineJoins_outline relation _ _ location ?_ inlineParents)
        fun joined otherJoined sameJoined => ?_
      · simp only [first.own_eq, second.own_eq, List.map_append, samePlain]
        rw [key]
      refine map_bind_eq (referencedEntries_outline relation _ _ location _ referenced)
        fun objects otherObjects sameObjects => ?_
      refine map_bind_eq (childEntries_outline relation _ _ location _ collected)
        fun arrays otherArrays sameArrays => ?_
      apply finished_eq repeatedName?_outline
      simp only [BaseQuery.outline, QueryParts.setOrder, QueryParts.addConditions_eq,
        QueryParts.addEntries_eq, List.map_append, sameJoined, sameObjects, sameArrays]

end Compiler

section

variable {compiler : Compiler} {spec : TableSpec} {embedding : Embedding} {location : Location}

theorem Assembly.compiled (assembly : Assembly compiler spec embedding location)
    (distinct : (assembly.entries.map SelectEntry.propertyName).Nodup) :
    ∃ query, compiler.baseQuery spec embedding location = .ok query ∧
      query.parts.entries = assembly.entries := by
  refine ⟨assembly.query, ?_, rfl⟩
  rw [assembly.baseQuery_eq, assembly.query.parts.repeatedName?_eq_none_iff.mpr distinct]

def Assembly.exporting (assembly : Assembly compiler spec embedding location) (exportsKey : Bool) :
    Assembly compiler spec { embedding with exportsKey } location :=
  { assembly with }

theorem Compiler.hiddenEntries_propertyNames (relation : Relation) (aliasName : String) :
    (compiler.hiddenEntries relation aliasName).map SelectEntry.propertyName =
      relation.primaryKey.map fun field => hiddenMark ++ field.name := by
  have name (field : Field) :
      Naming.unquoted (compiler.hiddenName field) = hiddenMark ++ field.name := by
    rw [hiddenName, Catalog.quote, CaseRule.quote_marked, Naming.unquoted_quotes]
  simp [hiddenEntries, SelectEntry.propertyName, Function.comp_def, name]

namespace Assembly

theorem distinct_exporting_iff (assembly : Assembly compiler spec embedding location) :
    ((assembly.exporting true).entries.map SelectEntry.propertyName).Nodup ↔
      (assembly.relation.primaryKey.map fun field => hiddenMark ++ field.name).Nodup ∧
      ((assembly.exporting false).entries.map SelectEntry.propertyName).Nodup ∧
      ∀ column ∈ (assembly.exporting false).entries, column.propertyName ∉
        assembly.relation.primaryKey.map fun field => hiddenMark ++ field.name := by
  have hidden : (assembly.exporting true).hidden =
      compiler.hiddenEntries assembly.relation assembly.aliasName := rfl
  have without : (assembly.exporting true).entries =
      (assembly.exporting true).hidden ++ (assembly.exporting false).entries := by
    rw [entries_eq, entries_eq]
    rfl
  rw [without, List.map_append, hidden, Compiler.hiddenEntries_propertyNames, List.nodup_append]
  refine and_congr_right fun _ => and_congr_right fun _ => ?_
  constructor
  · intro apart column member inKey
    exact apart _ inKey _ (List.mem_map_of_mem member) rfl
  · intro apart name inKey other member same
    obtain ⟨column, inColumns, rfl⟩ := List.mem_map.mp member
    exact apart column inColumns (same ▸ inKey)

theorem columns_eq (assembly : Assembly compiler spec embedding location) {query : BaseQuery}
    (same : query.parts.entries = (assembly.exporting false).entries) :
    query.columns = (assembly.exporting false).entries := by
  rw [BaseQuery.columns, same, shown_entries _ (noneHidden _), entries_eq]
  rfl

end Assembly

/-- A key can be exported if its marked names differ from each other and from those of the columns.
-/
theorem exists_exporting_iff (embedding : Embedding) {relation : Relation}
    (found : compiler.findRelation spec.table location = .ok relation) :
    (∃ query, compiler.baseQuery spec { embedding with exportsKey := true } location =
        .ok query) ↔
      ∃ query, compiler.baseQuery spec { embedding with exportsKey := false } location =
          .ok query ∧
        (relation.primaryKey.map fun field => hiddenMark ++ field.name).Nodup ∧
        ∀ column ∈ query.columns,
          column.propertyName ∉ relation.primaryKey.map fun field => hiddenMark ++ field.name := by
  constructor
  · rintro ⟨query, compiled⟩
    obtain ⟨assembly, _, _, entries, _, unique⟩ := Compiler.baseQuery_ok compiled
    obtain rfl : assembly.relation = relation := Except.ok.inj (assembly.found.symm.trans found)
    rw [QueryParts.repeatedName?_eq_none_iff, entries] at unique
    obtain ⟨key, columns, apart⟩ := assembly.distinct_exporting_iff.mp unique
    obtain ⟨base, baseCompiled, baseEntries⟩ := (assembly.exporting false).compiled columns
    rw [← assembly.columns_eq baseEntries] at apart
    exact ⟨base, baseCompiled, key, apart⟩
  · rintro ⟨base, compiled, key, apart⟩
    obtain ⟨assembly, _, _, entries, _, unique⟩ := Compiler.baseQuery_ok compiled
    obtain rfl : assembly.relation = relation := Except.ok.inj (assembly.found.symm.trans found)
    rw [QueryParts.repeatedName?_eq_none_iff, entries] at unique
    rw [assembly.columns_eq entries] at apart
    have distinct := assembly.distinct_exporting_iff.mpr ⟨key, unique, apart⟩
    obtain ⟨query, queryCompiled, _⟩ := (assembly.exporting true).compiled distinct
    exact ⟨query, queryCompiled⟩

theorem exists_ordered_iff {relation : Relation} (orderBy : Option String)
    (found : compiler.findRelation spec.table location = .ok relation) :
    (∃ query, compiler.baseQuery spec
        { exportsKey := Compiler.arrayExportsKey relation orderBy } location = .ok query) ↔
      ∃ query, compiler.baseQuery spec {} location = .ok query ∧ (orderBy = none →
        (relation.primaryKey.map fun field => hiddenMark ++ field.name).Nodup ∧
        ∀ column ∈ query.columns,
          column.propertyName ∉ relation.primaryKey.map fun field => hiddenMark ++ field.name) := by
  cases orderBy with
  | some order => simp [Compiler.arrayExportsKey]
  | none =>
      by_cases keyless : relation.primaryKey = []
      · simp [Compiler.arrayExportsKey, keyless]
      · have exports : Compiler.arrayExportsKey relation none = true := by
          simp [Compiler.arrayExportsKey, keyless]
        rw [exports]
        simp only [true_implies]
        exact exists_exporting_iff {} found

theorem outcome_of_map_eq {α β ε : Type} {first : Except ε α} {second : Except ε β}
    (same : first.map (fun _ => ()) = second.map fun _ => ()) :
    (∀ error, first = .error error ↔ second = .error error) ∧
      ((∃ value, first = .ok value) ↔ ∃ value, second = .ok value) := by
  cases first with
  | error cause =>
      cases second with
      | error other =>
          cases same
          simp
      | ok value => cases same
  | ok value =>
      cases second with
      | error other => cases same
      | ok other => simp

end

namespace Compiler

variable (compiler : Compiler) {query : QuerySpec}

theorem columnRows_outcome (readOnly : query.isForUpdate = false) :
    (compiler.querySql query .columnRows).map (fun _ => ()) =
      (compiler.querySql query .objectRows).map fun _ => () := by
  unfold querySql
  simp only [readOnly, Bool.false_and, Bool.false_eq_true, if_false]
  refine map_bind_eq (compiler.sameOutline query.tableSpec _ _ (by rfl) _) fun _ _ _ => ?_
  exact (outcome_ok _).trans (outcome_ok _).symm

theorem exists_objectRows_iff (readOnly : query.isForUpdate = false) :
    (∃ sql, compiler.querySql query .objectRows = .ok sql) ↔
      ∃ base, compiler.baseQuery query.tableSpec {} { query := query.name } = .ok base := by
  unfold querySql
  simp only [readOnly, Bool.false_and, Bool.false_eq_true, if_false]
  constructor
  · rintro ⟨sql, made⟩
    obtain ⟨base, compiled, _⟩ := ok_of_bind made
    exact ⟨base, compiled⟩
  · rintro ⟨base, compiled⟩
    rw [compiled, ok_bind]
    exact ⟨_, rfl⟩

theorem exists_arrayRow_iff (readOnly : query.isForUpdate = false) :
    (∃ sql, compiler.querySql query .arrayRow = .ok sql) ↔
      ∃ relation, compiler.findRelation query.tableSpec.table { query := query.name } =
          .ok relation ∧
        ∃ base, compiler.baseQuery query.tableSpec
          { exportsKey := arrayExportsKey relation query.orderBy } { query := query.name } =
            .ok base := by
  unfold querySql
  simp only [readOnly, Bool.false_and, Bool.false_eq_true, if_false]
  constructor
  · rintro ⟨sql, made⟩
    obtain ⟨relation, found, made⟩ := ok_of_bind made
    obtain ⟨base, compiled, _⟩ := ok_of_bind made
    exact ⟨relation, found, base, compiled⟩
  · rintro ⟨relation, found, base, compiled⟩
    rw [found, ok_bind, compiled, ok_bind]
    exact ⟨_, rfl⟩

end Compiler

/-- A query that is not for update is accepted as rows of columns if and only if it is accepted as
rows of objects, and refused with the same error. One array of the objects can be made under one
condition more: where no ordering is stated, the marked names of the key are distinct names that no
column has. -/
theorem representations_accepted_alike (compiler : Compiler) (query : QuerySpec)
    (readOnly : query.isForUpdate = false) :
    ((∃ sql, compiler.querySql query .columnRows = .ok sql) ↔
      ∃ sql, compiler.querySql query .objectRows = .ok sql) ∧
    (∀ error, compiler.querySql query .columnRows = .error error ↔
      compiler.querySql query .objectRows = .error error) ∧
    ((∃ sql, compiler.querySql query .arrayRow = .ok sql) ↔
      (∃ sql, compiler.querySql query .objectRows = .ok sql) ∧
      (query.orderBy = none → ∃ relation base,
        compiler.findRelation query.tableSpec.table { query := query.name } = .ok relation ∧
        compiler.baseQuery query.tableSpec {} { query := query.name } = .ok base ∧
        (relation.primaryKey.map fun field => "_" ++ field.name).Nodup ∧
        ∀ column ∈ base.columns, Naming.unquoted column.outputName ∉
          relation.primaryKey.map fun field => "_" ++ field.name)) := by
  obtain ⟨sameErrors, accepted⟩ := outcome_of_map_eq (compiler.columnRows_outcome readOnly)
  refine ⟨accepted, sameErrors, ?_⟩
  rw [compiler.exists_arrayRow_iff readOnly, compiler.exists_objectRows_iff readOnly]
  constructor
  · rintro ⟨relation, found, made⟩
    obtain ⟨base, compiled, apart⟩ := (exists_ordered_iff query.orderBy found).mp made
    refine ⟨⟨base, compiled⟩, fun unordered => ?_⟩
    exact ⟨relation, base, found, compiled, apart unordered⟩
  · rintro ⟨⟨base, compiled⟩, apart⟩
    obtain ⟨assembly, _⟩ := Compiler.baseQuery_ok compiled
    refine ⟨assembly.relation, assembly.found, ?_⟩
    refine (exists_ordered_iff query.orderBy assembly.found).mpr ⟨base, compiled, ?_⟩
    intro unordered
    obtain ⟨relation, other, found, otherCompiled, key, columns⟩ := apart unordered
    obtain rfl : assembly.relation = relation := Except.ok.inj (assembly.found.symm.trans found)
    obtain rfl : base = other := Except.ok.inj (compiled.symm.trans otherCompiled)
    exact ⟨key, columns⟩

namespace Shop

def markedOrders (orderBy : Option String) : QuerySpec :=
  { name := "orders"
    tableSpec := { table := "orders", fields := [{ field := some "id", property := some "_id" }] }
    orderBy }

end Shop

theorem representations_accepted_alike_shop :
    (∃ sql, Shop.compiler.querySql (Shop.markedOrders none) .columnRows = .ok sql) ∧
    (∃ sql, Shop.compiler.querySql (Shop.markedOrders none) .objectRows = .ok sql) ∧
    (¬∃ sql, Shop.compiler.querySql (Shop.markedOrders none) .arrayRow = .ok sql) ∧
    ∃ sql, Shop.compiler.querySql (Shop.markedOrders (some "$$.\"_id\"")) .arrayRow = .ok sql := by
  have objects := exists_of_isOk
    (show (Shop.compiler.querySql (Shop.markedOrders none) .objectRows).isOk = true by
      decide +kernel)
  have orderedObjects := exists_of_isOk
    (show (Shop.compiler.querySql (Shop.markedOrders (some "$$.\"_id\"")) .objectRows).isOk = true
      by decide +kernel)
  obtain ⟨columnRows, _, arrayRow⟩ :=
    representations_accepted_alike Shop.compiler (Shop.markedOrders none) rfl
  obtain ⟨_, _, orderedArrayRow⟩ :=
    representations_accepted_alike Shop.compiler (Shop.markedOrders (some "$$.\"_id\"")) rfl
  refine ⟨columnRows.mpr objects, objects, ?_, orderedArrayRow.mpr ⟨orderedObjects, nofun⟩⟩
  intro accepted
  obtain ⟨relation, base, found, compiled, _, apart⟩ := (arrayRow.mp accepted).2 rfl
  have key : (Shop.compiler.findRelation "orders" { query := "orders" }).map
      (fun relation => relation.primaryKey.map fun field => "_" ++ field.name) = .ok ["_id"] := by
    decide +kernel
  have names : (Shop.compiler.baseQuery (Shop.markedOrders none).tableSpec {}
      { query := "orders" }).map (fun base => base.columns.map SelectEntry.propertyName) =
        .ok ["_id"] := by
    decide +kernel
  obtain ⟨_, sameFound, key⟩ := ok_of_map key
  obtain ⟨_, sameCompiled, names⟩ := ok_of_map names
  obtain rfl := Except.ok.inj (sameFound.symm.trans found)
  obtain rfl := Except.ok.inj (sameCompiled.symm.trans compiled)
  obtain ⟨column, only, name⟩ := List.map_eq_singleton_iff.mp names
  refine apart column (by simp [only]) ?_
  rw [key]
  exact List.mem_singleton.mpr name

end NestedQuery
