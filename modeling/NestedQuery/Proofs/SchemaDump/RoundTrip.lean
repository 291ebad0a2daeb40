import Mathlib.Data.List.Nodup
import Mathlib.Data.List.Perm.Basic
import NestedQuery.Proofs.Catalog.Order
import NestedQuery.Proofs.SchemaDump.Parsing

/-! A schema is read back from its canonical dump, in whatever order its tables are written. The
definitions that are read give the designed relations once their key columns are numbered, and the
declared keys give the designed foreign keys once they are resolved. -/

namespace NestedQuery.SchemaDump

theorem updateField_eq_map {name : String} {change : Field → Field} {fields : List Field}
    (distinct : (fields.map (·.name)).Nodup) :
    updateField name change fields =
      fields.map fun field => if field.name = name then change field else field := by
  induction fields with
  | nil => rfl
  | cons field fields ih =>
      rw [List.map_cons, List.nodup_cons] at distinct
      rw [updateField, List.map_cons]
      by_cases same : field.name = name
      · have others : ∀ other ∈ fields, other.name ≠ name := by
          intro other member found
          apply distinct.1
          rw [same, ← found]
          exact List.mem_map_of_mem member
        have unchanged : (fields.map fun other =>
            if other.name = name then change other else other) = fields := by
          rw [List.map_congr_left fun other member => if_neg (others other member), List.map_id']
        rw [if_pos same, if_pos same, unchanged]
      · rw [if_neg same, if_neg same, ih distinct.2]

def numberedField (count : Nat) (names : List String) (field : Field) : Field :=
  match names.idxOf? field.name with
  | none => field
  | some index =>
      { field with primaryKeyPart := some (count + index + 1), nullable := some false }

theorem numberedField_cons {name : String} {names : List String} (fresh : name ∉ names)
    (count : Nat) (field : Field) :
    numberedField (count + 1) names
        (if field.name = name then
          { field with primaryKeyPart := some (count + 1), nullable := some false }
        else field) =
      numberedField count (name :: names) field := by
  by_cases same : field.name = name
  · have absent : names.idxOf? name = none := List.idxOf?_eq_none_iff.mpr fresh
    simp [numberedField, List.idxOf?_cons, same, absent]
  · have other : name ≠ field.name := Ne.symm same
    rw [if_neg same]
    cases found : names.idxOf? field.name with
    | none => simp [numberedField, List.idxOf?_cons, other, found]
    | some index =>
        have moved : count + 1 + index = count + (index + 1) := by omega
        simp [numberedField, List.idxOf?_cons, other, found, moved]

theorem numberKey_eq_map {names : List String} (count : Nat) {fields : List Field}
    (distinct : (fields.map (·.name)).Nodup) (once : names.Nodup) :
    numberKey count names fields = fields.map (numberedField count names) := by
  induction names generalizing count fields with
  | nil => exact (List.map_id' fields).symm
  | cons name names ih =>
      rw [List.nodup_cons] at once
      have kept : (fields.map fun field => if field.name = name then
          { field with primaryKeyPart := some (count + 1), nullable := some false }
          else field).map (·.name) = fields.map (·.name) := by
        rw [List.map_map]
        apply List.map_congr_left
        intro field _
        by_cases same : field.name = name <;> simp [same]
      rw [numberKey, updateField_eq_map distinct, ih (count + 1) (by rwa [kept]) once.2,
        List.map_map]
      exact List.map_congr_left fun field _ => numberedField_cons once.1 count field

theorem TableDesign.relation_definition (product : Product) (table : TableDesign) :
    (table.definition product).relation = table.relation product := by
  have distinct : ((table.columns.map (ColumnDesign.field product [])).map (·.name)).Nodup := by
    rw [List.map_map]
    exact table.distinct
  have once : table.key.Nodup := table.keyDistinct
  have numbered (column : ColumnDesign) :
      numberedField 0 table.key (column.field product []) = column.field product table.key := by
    cases found : table.key.idxOf? column.name with
    | none =>
        have absent : column.name ∉ table.key := List.idxOf?_eq_none_iff.mp found
        simp [numberedField, ColumnDesign.field, found, absent]
    | some index =>
        have present : column.name ∈ table.key := by
          by_contra absent
          rw [List.idxOf?_eq_none_iff.mpr absent] at found
          cases found
        simp [numberedField, ColumnDesign.field, found, present]
  have fields : numberKey 0 table.key (table.columns.map (ColumnDesign.field product [])) =
      table.columns.map (ColumnDesign.field product table.key) := by
    rw [numberKey_eq_map 0 distinct once, List.map_map]
    exact List.map_congr_left fun column _ => numbered column
  simp only [Definition.relation, relation, definition, fields]

theorem foldl_keep_eq_append {kept keys : List ForeignKey}
    (apart : (kept ++ keys).Pairwise fun left right => Draft.sameReference left right = false) :
    keys.foldl
      (fun kept key => if kept.any (Draft.sameReference · key) then kept else kept ++ [key]) kept =
      kept ++ keys := by
  induction keys generalizing kept with
  | nil => simp
  | cons key keys ih =>
      have new : kept.any (Draft.sameReference · key) = false := by
        rw [List.any_eq_false]
        intro other member
        have different := (List.pairwise_append.mp apart).2.2 other member key List.mem_cons_self
        simp [different]
      rw [List.foldl_cons, new, if_neg (by simp), ih (by simpa using apart), List.append_assoc,
        List.singleton_append]

theorem sameReference_eq_true_iff (left right : ForeignKey) :
    Draft.sameReference left right = true ↔
      left.child = right.child ∧ left.parent = right.parent ∧ left.pairs = right.pairs := by
  simp [Draft.sameReference, and_assoc]

namespace SchemaDesign

def reorder (schema : SchemaDesign) {written : List TableDesign}
    (order : written.Perm schema.tables) : SchemaDesign where
  tables := written
  distinct := (order.map _).nodup_iff.mpr schema.distinct
  parentsKnown := by
    intro table member key known
    have parent := schema.parentsKnown table (order.mem_iff.mp member) key known
    exact (order.map _).mem_iff.mpr parent

def draft (product : Product) (schema : SchemaDesign) : Draft where
  definitions := schema.tables.map (TableDesign.definition product)
  keys := schema.tables.flatMap TableDesign.declarations

variable (schema : SchemaDesign)

theorem eq_of_display_eq {left right : TableDesign} (leftKnown : left ∈ schema.tables)
    (rightKnown : right ∈ schema.tables) (same : left.id.display = right.id.display) :
    left = right :=
  List.inj_on_of_nodup_map schema.distinct leftKnown rightKnown same

theorem resolveKey?_declaration (product : Product) {table : TableDesign} {key : KeyDesign}
    (member : table ∈ schema.tables) (known : key ∈ table.foreignKeys) :
    (schema.draft product).resolveKey? (key.declaration table.id) =
      some { child := table.id, parent := key.parent, pairs := key.pairs } := by
  obtain ⟨parent, parentKnown, sameId⟩ := List.mem_map.mp
    (schema.parentsKnown table member key known)
  obtain ⟨definition, found⟩ : ∃ definition,
      (schema.draft product).definition? key.parent = some definition := by
    rw [← Option.isSome_iff_exists, Draft.definition?, List.find?_isSome]
    refine ⟨parent.definition product, ?_, by simpa [TableDesign.definition] using sameId⟩
    exact List.mem_reverse.mpr (List.mem_map_of_mem parentKnown)
  have id : definition.id = key.parent := by simpa using List.find?_some found
  have parentOf : (schema.draft product).parentOf? (key.declaration table.id) =
      some definition := by
    simp [Draft.parentOf?, KeyDesign.declaration, found]
  have pairs : List.zipWith KeyPair.mk key.childFields key.parentFields = key.pairs := by
    simp [KeyDesign.childFields, KeyDesign.parentFields, List.zipWith_map]
  have lengths : key.parentFields.length = key.childFields.length := by
    simp [KeyDesign.childFields, KeyDesign.parentFields]
  have stated : key.parentFields.isEmpty = false := by
    simpa [KeyDesign.parentFields] using key.present
  rw [Draft.resolveKey?, parentOf]
  simp [KeyDesign.declaration, stated, lengths, pairs, id]

theorem references_apart :
    (schema.tables.flatMap TableDesign.references).Pairwise fun left right =>
      Draft.sameReference left right = false := by
  rw [List.pairwise_flatMap]
  constructor
  · intro table _
    rw [TableDesign.references, List.pairwise_map]
    refine table.noKeyTwice.imp ?_
    intro left right different
    by_contra same
    obtain ⟨-, parent, pairs⟩ := (sameReference_eq_true_iff _ _).mp (by simpa using same)
    apply different
    cases left
    cases right
    simp_all
  · have ids : schema.tables.Pairwise fun left right => left.id.display ≠ right.id.display :=
      List.pairwise_map.mp schema.distinct
    refine ids.imp ?_
    intro left right different first inLeft second inRight
    obtain ⟨leftKey, -, rfl⟩ := List.mem_map.mp inLeft
    obtain ⟨rightKey, -, rfl⟩ := List.mem_map.mp inRight
    by_contra same
    obtain ⟨child, -⟩ := (sameReference_eq_true_iff _ _).mp (by simpa using same)
    exact different (congrArg RelationId.display child)

theorem foreignKeys_draft (product : Product) :
    (schema.draft product).foreignKeys = schema.tables.flatMap TableDesign.references := by
  have resolved (table : TableDesign) (member : table ∈ schema.tables) :
      table.declarations.filterMap (schema.draft product).resolveKey? = table.references := by
    rw [TableDesign.declarations, TableDesign.references, List.filterMap_map,
      ← List.filterMap_eq_map]
    apply List.filterMap_congr
    intro key known
    exact schema.resolveKey?_declaration product member known
  have all : (schema.draft product).keys.filterMap (schema.draft product).resolveKey? =
      schema.tables.flatMap TableDesign.references := by
    rw [draft, List.filterMap_flatMap]
    exact List.flatMap_congr resolved
  rw [Draft.foreignKeys, all]
  exact foldl_keep_eq_append schema.references_apart

theorem catalog_draft (product : Product) :
    (schema.draft product).catalog product =
      Catalog.build (schema.tables.findSome? (·.id.schema))
        (schema.tables.map (TableDesign.relation product))
        (schema.tables.flatMap TableDesign.references)
        product.caseRule product.displayName "" := by
  have schemaName : (schema.draft product).defaultSchema =
      schema.tables.findSome? (·.id.schema) := by
    rw [Draft.defaultSchema, draft, List.findSome?_map]
    rfl
  have relations : (schema.draft product).definitions.map Definition.relation =
      schema.tables.map (TableDesign.relation product) := by
    rw [draft, List.map_map]
    exact List.map_congr_left fun table _ => table.relation_definition product
  rw [Draft.catalog, schemaName, relations, schema.foreignKeys_draft product]

theorem readCatalog_dumpText {name : String} {product : Product}
    (named : Product.ofName? name = some product) (known : product ≠ .auto) :
    readCatalog (dumpText schema.tables) (some name) =
      .ok ((schema.draft product).catalog product) := by
  have resolved : product.resolve (dumpText schema.tables) = product := by
    cases product with
    | auto => exact absurd rfl known
    | generic => rfl
    | postgres => rfl
    | oracle => rfl
  have statements : readStatements product {} (scan (dumpText schema.tables)) =
      .ok (schema.draft product) := by
    rw [scan_dumpText, readStatements_tables]
    rfl
  have found : productOf? (dumpText schema.tables) (some name) = some product := by
    rw [productOf?, named, Option.map_some, resolved]
  exact readCatalog_of_product found statements

theorem references_determined {left right : ForeignKey}
    (leftKnown : left ∈ schema.tables.flatMap TableDesign.references)
    (rightKnown : right ∈ schema.tables.flatMap TableDesign.references)
    (child : left.child.display = right.child.display)
    (parent : left.parent.display = right.parent.display) (pairs : left.pairs = right.pairs) :
    left = right := by
  obtain ⟨leftTable, leftMember, inLeft⟩ := List.mem_flatMap.mp leftKnown
  obtain ⟨rightTable, rightMember, inRight⟩ := List.mem_flatMap.mp rightKnown
  obtain ⟨leftKey, leftKeyKnown, rfl⟩ := List.mem_map.mp inLeft
  obtain ⟨rightKey, rightKeyKnown, rfl⟩ := List.mem_map.mp inRight
  obtain ⟨leftParent, leftParentMember, leftId⟩ := List.mem_map.mp
    (schema.parentsKnown leftTable leftMember leftKey leftKeyKnown)
  obtain ⟨rightParent, rightParentMember, rightId⟩ := List.mem_map.mp
    (schema.parentsKnown rightTable rightMember rightKey rightKeyKnown)
  have sameTable := schema.eq_of_display_eq leftMember rightMember child
  have sameParent : leftParent = rightParent := by
    apply schema.eq_of_display_eq leftParentMember rightParentMember
    rw [leftId, rightId]
    exact parent
  rw [ForeignKey.mk.injEq]
  refine ⟨rfl, ?_, ?_, pairs⟩
  · rw [sameTable]
  · rw [← leftId, ← rightId, sameParent]

end SchemaDesign

/-- A schema is what its canonical dump is read as. -/
theorem dump_read_back (schema : SchemaDesign) {written : List TableDesign}
    (order : written.Perm schema.tables) {name : String} {product : Product}
    (named : Product.ofName? name = some product) (known : product ≠ .auto) :
    readCatalog (dumpText written) (some name) = .ok
      (Catalog.build (written.findSome? (·.id.schema))
        (schema.tables.map (TableDesign.relation product))
        (schema.tables.flatMap TableDesign.references)
        product.caseRule product.displayName "") := by
  -- The tables in their written order are a schema too, and it is the sorting of the catalog that
  -- makes the two orders one.
  have read := (schema.reorder order).readCatalog_dumpText named known
  rw [(schema.reorder order).catalog_draft product] at read
  have sorted := Catalog.build_eq_of_perm (written.findSome? (·.id.schema)) product.caseRule
    product.displayName "" (order.symm.map (TableDesign.relation product))
    (order.symm.flatMap_right TableDesign.references) ?_ ?_
  · rw [sorted]
    exact read
  · intro left leftKnown right rightKnown same
    obtain ⟨leftTable, leftMember, rfl⟩ := List.mem_map.mp leftKnown
    obtain ⟨rightTable, rightMember, rfl⟩ := List.mem_map.mp rightKnown
    rw [schema.eq_of_display_eq leftMember rightMember same]
  · intro left leftKnown right rightKnown child parent pairs
    exact schema.references_determined leftKnown rightKnown child parent pairs

theorem dump_read_back_harbor :
    [Harbor.berth, Harbor.ship].Perm Harbor.schema.tables ∧
      Product.ofName? "Oracle" = some .oracle ∧
      readCatalog (dumpText [Harbor.berth, Harbor.ship]) (some "Oracle") = .ok
        (Catalog.build (some "sea") [Harbor.ship.relation .oracle, Harbor.berth.relation .oracle]
          [{ child := ⟨none, "TABLE"⟩, parent := ⟨some "sea", "ship"⟩,
             pairs := [⟨"ship no", "no"⟩, ⟨"ship line", "line"⟩] }]
          .storedUpper "Oracle" "") := by
  have order : [Harbor.berth, Harbor.ship].Perm Harbor.schema.tables := .swap _ _ _
  have named : Product.ofName? "Oracle" = some .oracle := by decide +kernel
  exact ⟨order, named, dump_read_back Harbor.schema order named (by decide)⟩

end NestedQuery.SchemaDump
