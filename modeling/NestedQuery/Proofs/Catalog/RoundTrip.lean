import NestedQuery.Proofs.Catalog.Document
import NestedQuery.Proofs.SchemaDump.Changes

/-! Catalogs are read back from their documents, however they were made: from parts, from a document
or from a dump. -/

namespace NestedQuery

namespace SchemaDump

theorem unsigned?_bound {text : List Char} {number : Nat} (found : unsigned? text = some number) :
    number < 0x100000000 := by
  simp only [unsigned?, Option.ite_none_right_eq_some, Bool.and_eq_true, decide_eq_true_eq,
    Option.some.injEq] at found
  omega

theorem splitArguments_bound {declared : List Char} :
    ∀ number ∈ (splitArguments declared).2, number < 0x100000000 := by
  intro number member
  unfold splitArguments at member
  split at member
  · exact absurd member List.not_mem_nil
  · split at member
    · exact absurd member List.not_mem_nil
    · split at member
      · exact absurd member List.not_mem_nil
      · obtain ⟨argument, -, stated⟩ := List.mem_filterMap.mp member
        exact unsigned?_bound stated

theorem other_bounds : -0x80000000 ≤ TypeCode.other ∧ TypeCode.other < 0x80000000 := by decide

theorem typeNamed_bounds (product : Product) (name : String) :
    -0x80000000 ≤ (product.typeNamed name).1 ∧ (product.typeNamed name).1 < 0x80000000 := by
  have all : ∀ entry ∈ product.types, -0x80000000 ≤ entry.2.1 ∧ entry.2.1 < 0x80000000 := by
    cases product <;> decide
  unfold Product.typeNamed
  split
  · rename_i names code stored found
    exact all _ (List.mem_of_find?_eq_some found)
  · exact other_bounds

theorem columnField_fits (product : Product) (name declared : String) (notNull : Bool) :
    (columnField product name declared notNull).Fits := by
  have bound := @splitArguments_bound (Text.lowerChars declared.toList)
  have code := typeNamed_bounds product
    (String.ofList (splitArguments (Text.lowerChars declared.toList)).1)
  unfold columnField Product.columnType
  generalize splitArguments (Text.lowerChars declared.toList) = split at bound code
  obtain ⟨typeName, arguments⟩ := split
  have first : ∀ number ∈ arguments.head?, number < 0x100000000 :=
    fun number stated => bound number (List.mem_of_mem_head? stated)
  have second : ∀ number ∈ arguments.tail.head?, number < 0x100000000 :=
    fun number stated => bound number (List.mem_of_mem_tail (List.mem_of_mem_head? stated))
  have digits : ∀ number ∈ (arguments.tail.head? <|> arguments.head?.map fun _ => 0),
      number < 0x100000000 := by
    intro number stated
    simp only [Option.orElse_eq_orElse, Option.orElse_eq_or, Option.mem_def, Option.or_eq_some_iff,
      Option.map_eq_some_iff] at stated
    rcases stated with stated | ⟨-, _, -, rfl⟩
    · exact second number stated
    · decide
  simp only
  split
  · exact ⟨code, by simpa using first⟩
  · split
    · refine ⟨code, List.forall_mem_cons.mpr ⟨by simp, List.forall_mem_cons.mpr ⟨first, ?_⟩⟩⟩
      exact List.forall_mem_cons.mpr ⟨digits, by simp⟩
    · exact ⟨code, by simp⟩

theorem viewField_fits (name : String) : (viewField name).Fits := by
  refine ⟨other_bounds, ?_⟩
  simp [viewField]

def FitsUnnumbered (field : Field) : Prop := { field with primaryKeyPart := none }.Fits

theorem fits_of_part {field : Field} (fits : FitsUnnumbered field)
    (part : ∀ number ∈ field.primaryKeyPart, number < 0x100000000) : field.Fits := by
  obtain ⟨code, numbers⟩ := fits
  refine ⟨code, ?_⟩
  simp only [List.forall_mem_cons] at numbers ⊢
  obtain ⟨length, precision, digits, -, none⟩ := numbers
  exact ⟨length, precision, digits, part, none⟩

theorem forall_updateField {P : Field → Prop} {name : String} {change : Field → Field}
    (kept : ∀ field, P field → P (change field)) {fields : List Field}
    (all : ∀ field ∈ fields, P field) : ∀ field ∈ updateField name change fields, P field := by
  induction fields with
  | nil => exact all
  | cons first rest ih =>
      obtain ⟨head, tail⟩ := List.forall_mem_cons.mp all
      rw [updateField]
      split
      · exact List.forall_mem_cons.mpr ⟨kept first head, tail⟩
      · exact List.forall_mem_cons.mpr ⟨head, ih tail⟩

theorem forall_numberKey {P : Field → Prop}
    (kept : ∀ field number, P field →
      P { field with primaryKeyPart := some number, nullable := some false })
    {count : Nat} {names : List String} {fields : List Field} (all : ∀ field ∈ fields, P field) :
    ∀ field ∈ numberKey count names fields, P field := by
  induction names generalizing count fields with
  | nil => exact all
  | cons name rest ih =>
      exact ih (forall_updateField (fun field => kept field (count + 1)) all)

theorem fitsUnnumbered_definitions {product : Product} {tokens : Tokens} {draft : Draft}
    (read : readStatements product {} tokens = .ok draft) :
    ∀ definition ∈ draft.definitions, ∀ field ∈ definition.fields, FitsUnnumbered field := by
  refine forall_definitions
    (P := fun definition => ∀ field ∈ definition.fields, FitsUnnumbered field) ?_ ?_ ?_ read
  · intro named table inside body left _ _ bodyRead
    refine readBody_keeps (P := fun body => ∀ field ∈ body.fields, FitsUnnumbered field) ?_
      bodyRead (fun field member => absurd member List.not_mem_nil)
    intro body changed token rest left step before
    rcases bodyStep_fields step with same | ⟨name, declared, notNull, added⟩
    · rwa [same]
    · rw [added]
      refine List.forall_mem_append.mpr ⟨before, List.forall_mem_singleton.mpr ?_⟩
      exact columnField_fits product name declared notNull
  · intro named view left _ _ field member
    obtain ⟨name, -, rfl⟩ := List.mem_map.mp member
    exact viewField_fits name
  · exact fun definition columns fits => fits

theorem fits_of_readCatalog {dump : String} {productName : Option String} {catalog : Catalog}
    (read : readCatalog dump productName = .ok catalog)
    (parts : ∀ relation ∈ catalog.relations, ∀ field ∈ relation.fields,
      ∀ part ∈ field.primaryKeyPart, part < 0x100000000) :
    ∀ relation ∈ catalog.relations, relation.Fits := by
  obtain ⟨product, draft, statements, rfl⟩ := exists_draft_of_readCatalog read
  intro relation member field inside
  refine fits_of_part ?_ (parts relation member field inside)
  obtain ⟨definition, defined, rfl⟩ := mem_relations_catalog.mp member
  exact forall_numberKey (P := FitsUnnumbered) (fun field number fits => fits)
    (fitsUnnumbered_definitions statements definition defined) field inside

end SchemaDump

/-- A catalog that is collected from relations and keys, read from a document or read from a dump is
read back from its own document. -/
theorem document_read_back :
    (∀ schemaName relations keys caseRule productName productVersion,
      (∀ relation ∈ relations, relation.Fits) →
      let catalog :=
        Catalog.build schemaName relations keys caseRule productName productVersion
      Catalog.read catalog.json = some catalog) ∧
    (∀ document catalog, Catalog.read document = some catalog →
      Catalog.read catalog.json = some catalog) ∧
    (∀ dump productName catalog, SchemaDump.readCatalog dump productName = .ok catalog →
      (∀ relation ∈ catalog.relations, ∀ field ∈ relation.fields,
        ∀ part ∈ field.primaryKeyPart, part < 0x100000000) →
      Catalog.read catalog.json = some catalog) := by
  refine ⟨?_, ?_, ?_⟩
  · intro schemaName relations keys caseRule productName productVersion fits
    refine Catalog.read_json (Catalog.build_sorted _ _ _ _ _ _) ?_
    intro relation member
    exact fits relation (List.mem_mergeSort.mp member)
  · intro document catalog found
    obtain ⟨sorted, fits⟩ := Catalog.sorted_and_fits_of_read found
    exact Catalog.read_json sorted fits
  · intro dump productName catalog read parts
    have fits := SchemaDump.fits_of_readCatalog read parts
    obtain ⟨product, draft, -, rfl⟩ := SchemaDump.exists_draft_of_readCatalog read
    exact Catalog.read_json (Catalog.build_sorted _ _ _ _ _ _) fits

namespace Fleet

def ship : Relation where
  id := { schema := some "dock", name := "ship" }
  fields := [{ name := "id", typeCode := .integer, databaseType := "int4", nullable := some false,
               primaryKeyPart := some 1 },
             { name := "name", typeCode := .varchar, databaseType := "varchar", length := some 50,
               nullable := some true }]

-- Some relations and keys agree in all that they are sorted by.
def relations : List Relation :=
  [{ id := { schema := some "dock.ship", name := "log" }, kind := .view, fields := [] }, ship,
   { id := { schema := some "dock", name := "ship.log" }, fields := [], comment := some "" },
   { ship with fields := [] }]

def keys : List ForeignKey :=
  [{ constraintName := some "later", child := ship.id, parent := ship.id, pairs := [⟨"id", "id"⟩] },
   { child := ship.id, parent := ship.id, pairs := [⟨"id", "id"⟩] }]

def collected : Catalog := Catalog.build none relations keys .sensitive "Fleet" "7"

-- The members that are left out have defaults, and unknown ones do not count.
def document : Json :=
  .object [("dbmsName", .text "Fleet"), ("note", .null),
    ("relationMetadatas", .list [.object
      [("fields", .list []), ("relationId", .list [.null, .text "ship"])]])]

def documented : Catalog :=
  Catalog.build none [{ id := { schema := none, name := "ship" }, fields := [] }] [] .storedLower
    "Fleet" ""

def dump : String := "create table dock.ship (id int primary key, name varchar(50));"

def dumped : Catalog := Catalog.build (some "dock") [ship] [] .storedLower "PostgreSQL" ""

end Fleet

theorem document_read_back_fleet :
    ((∀ relation ∈ Fleet.relations, relation.Fits) ∧
        Catalog.read Fleet.collected.json = some Fleet.collected) ∧
      (Catalog.read Fleet.document = some Fleet.documented ∧
        Catalog.read Fleet.documented.json = some Fleet.documented) ∧
      SchemaDump.readCatalog Fleet.dump (some "postgres") = .ok Fleet.dumped ∧
        Catalog.read Fleet.dumped.json = some Fleet.dumped := by
  obtain ⟨ofParts, ofDocument, ofDump⟩ := document_read_back
  have fits : ∀ relation ∈ Fleet.relations, relation.Fits := by decide
  have documented : Catalog.read Fleet.document = some Fleet.documented := by decide +kernel
  have dumped : SchemaDump.readCatalog Fleet.dump (some "postgres") = .ok Fleet.dumped := by
    decide +kernel
  exact ⟨⟨fits, ofParts _ _ _ _ _ _ fits⟩, ⟨documented, ofDocument _ _ documented⟩, dumped,
    ofDump _ _ _ dumped (by decide +kernel)⟩

end NestedQuery
