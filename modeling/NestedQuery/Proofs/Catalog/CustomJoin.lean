import NestedQuery.Proofs.Catalog.KeySearch
import NestedQuery.Proofs.Query.Presence

/-! The columns that a custom join equates. Every name in it has to mean a field, for which its
quotes are taken off. The equation itself keeps the name in its stored form, quotes included, and so
it names the field that was found only where the name is not in quotes. The stored form means the
field that the given name means, since a name in its stored form is not changed again. -/

namespace NestedQuery

/-- A name that is looked for as it is written: it has no quotes, or a field has them in its name.
-/
def Relation.Spells (relation : Relation) (name : String) : Prop :=
  Naming.isQuoted name = false ∨ name ∈ relation.fields.map (·.name)

instance (relation : Relation) (name : String) : Decidable (relation.Spells name) :=
  inferInstanceAs (Decidable (_ ∨ _))

/-- How a join keeps a name that means a field: without its quotes it is always the name of a field,
and as it is kept only if the relation spells it so. -/
structure Catalog.KeptAs (catalog : Catalog) (relation : Relation) (location : Location)
    (name kept : String) : Prop where
  form : kept = catalog.normalize name
  means : (relation.field? (Naming.unquoted kept)).isSome = true
  stored_iff : (relation.field? kept).isSome = true ↔ relation.Spells name
  found : Naming.isQuoted name = false →
    ∃ field, catalog.findField relation name location = .ok field ∧
      relation.field? kept = some field

/-- A name in its stored form, which means the same field as the given one. -/
structure Catalog.StoredAs (catalog : Catalog) (relation : Relation) (location : Location)
    (name kept : String) : Prop where
  form : kept = catalog.normalize name
  sameField : ∃ field, catalog.findField relation name location = .ok field ∧
    catalog.findField relation kept location = .ok field ∧ field.name = Naming.unquoted kept

section

variable {catalog : Catalog} {relation child parent : Relation} {location : Location}
  {stated pairs : List KeyPair} {name kept : String} {field : Field}

theorem Relation.isSome_field?_iff (relation : Relation) (name : String) :
    (relation.field? name).isSome = true ↔ name ∈ relation.fields.map (·.name) := by
  rw [Relation.field?, List.find?_isSome, List.mem_map]
  simp only [beq_iff_eq]

theorem Catalog.findField_eq_ok_iff :
    catalog.findField relation name location = .ok field ↔
      relation.field? (Naming.unquoted (catalog.normalize name)) = some field := by
  unfold Catalog.findField
  cases held : relation.field? (Naming.unquoted (catalog.normalize name)) with
  | none => simp [Location.fail]
  | some field => simp

theorem Catalog.findField_normalize_iff :
    catalog.findField relation (catalog.normalize name) location = .ok field ↔
      catalog.findField relation name location = .ok field := by
  have again : catalog.normalize (catalog.normalize name) = catalog.normalize name :=
    catalog.caseRule.normalize_normalize name
  rw [Catalog.findField_eq_ok_iff, Catalog.findField_eq_ok_iff, again]

theorem Catalog.StoredAs.of_findField
    (found : catalog.findField relation (catalog.normalize name) location = .ok field) :
    catalog.StoredAs relation location name (catalog.normalize name) := by
  have given := Catalog.findField_normalize_iff.mp found
  exact ⟨rfl, field, given, found, Catalog.name_of_findField given⟩

theorem Catalog.StoredAs.keptAs (stored : catalog.StoredAs relation location name kept) :
    catalog.KeptAs relation location name kept := by
  obtain ⟨rfl, field, given, -, -⟩ := stored
  have held := Catalog.findField_eq_ok_iff.mp given
  have sameQuotes : Naming.isQuoted (catalog.normalize name) = Naming.isQuoted name :=
    catalog.caseRule.isQuoted_normalize name
  have bareHeld (bare : Naming.isQuoted name = false) :
      relation.field? (catalog.normalize name) = some field := by
    rwa [Naming.unquoted_of_isQuoted_eq_false (sameQuotes.trans bare)] at held
  refine ⟨rfl, by rw [held]; rfl, ?_, ?_⟩
  · cases quoted : Naming.isQuoted name with
    | false => simp [bareHeld quoted, Relation.Spells, quoted]
    | true =>
        have same : catalog.normalize name = name := catalog.caseRule.normalize_of_quoted quoted
        simp [same, relation.isSome_field?_iff, Relation.Spells, quoted]
  · intro bare
    exact ⟨field, given, bareHeld bare⟩

theorem Catalog.customPair_eq_ok_iff {stated kept : KeyPair} :
    catalog.customPair child parent location stated = .ok kept ↔
      catalog.StoredAs child location stated.childField kept.childField ∧
        catalog.StoredAs parent location stated.parentField kept.parentField := by
  constructor
  · intro made
    obtain ⟨childField, inChild, made⟩ := ok_of_bind made
    obtain ⟨parentField, inParent, made⟩ := ok_of_bind made
    cases made
    exact ⟨.of_findField inChild, .of_findField inParent⟩
  · rintro ⟨⟨childForm, _, -, inChild, -⟩, parentForm, _, -, inParent, -⟩
    rw [Catalog.customPair, ← childForm, ← parentForm, inChild, inParent]
    rfl

theorem Catalog.keptAs_of_customPair {stated kept : KeyPair}
    (made : catalog.customPair child parent location stated = .ok kept) :
    catalog.KeptAs child location stated.childField kept.childField ∧
      catalog.KeptAs parent location stated.parentField kept.parentField := by
  obtain ⟨inChild, inParent⟩ := Catalog.customPair_eq_ok_iff.mp made
  exact ⟨inChild.keptAs, inParent.keptAs⟩

theorem Catalog.joinPairs_custom_iff {link : Link} (custom : link.customJoin = some stated) :
    catalog.joinPairs link child parent location = .ok pairs ↔
      link.foreignKeyFields = none ∧ stated ≠ [] ∧
        List.Forall₂ (fun given kept => catalog.customPair child parent location given = .ok kept)
          stated pairs := by
  rw [Catalog.joinPairs, custom, ← mapM_eq_ok_iff]
  cases hint : link.foreignKeyFields with
  | some names => simp [Location.reject, Location.fail]
  | none =>
      cases stated with
      | nil => simp [Location.reject, Location.fail]
      | cons given others => simp

theorem Catalog.customPairs_of_joinPairs {link : Link} (custom : link.customJoin = some stated)
    (joined : catalog.joinPairs link child parent location = .ok pairs) :
    List.Forall₂ (fun stated kept => catalog.customPair child parent location stated = .ok kept)
      stated pairs :=
  ((Catalog.joinPairs_custom_iff custom).mp joined).2.2

theorem Catalog.KeptAs.neverNull_iff
    (keptAs : catalog.KeptAs relation location name kept)
    (bareFields : ∀ field ∈ relation.fields, Naming.isQuoted field.name = false) :
    relation.NeverNull kept ↔ Naming.isQuoted name = false ∧
      ∃ field, catalog.findField relation name location = .ok field ∧
        field.nullable = some false := by
  constructor
  · rintro ⟨field, held, notNull⟩
    have bare : Naming.isQuoted name = false := by
      rcases keptAs.stored_iff.mp (by rw [held]; rfl) with bare | stored
      · exact bare
      · obtain ⟨other, member, rfl⟩ := List.mem_map.mp stored
        exact bareFields other member
    obtain ⟨found, resolved, same⟩ := keptAs.found bare
    obtain rfl : found = field := Option.some.inj (same.symm.trans held)
    exact ⟨bare, found, resolved, notNull⟩
  · rintro ⟨bare, field, resolved, notNull⟩
    obtain ⟨found, again, held⟩ := keptAs.found bare
    obtain rfl : found = field := Except.ok.inj (again.symm.trans resolved)
    exact ⟨found, held, notNull⟩

theorem forall_iff_of_forall₂ {α β : Type} {related : α → β → Prop} {first : List α}
    {second : List β} (all : List.Forall₂ related first second) {P : α → Prop} {Q : β → Prop}
    (alike : ∀ {a b}, related a b → (Q b ↔ P a)) : (∀ b ∈ second, Q b) ↔ ∀ a ∈ first, P a := by
  induction all with
  | nil => simp
  | cons head _ ih => rw [List.forall_mem_cons, List.forall_mem_cons, alike head, ih]

theorem exists_iff_of_forall₂ {α β : Type} {related : α → β → Prop} {first : List α}
    {second : List β} (all : List.Forall₂ related first second) {P : α → Prop} {Q : β → Prop}
    (alike : ∀ {a b}, related a b → (Q b ↔ P a)) : (∃ b ∈ second, Q b) ↔ ∃ a ∈ first, P a := by
  have none := forall_iff_of_forall₂ all fun {a b} same => not_congr (@alike a b same)
  simpa using not_congr none

/-- The columns that a custom join equates are stored names exactly where the relations spell the
given names so, which they do of every name without quotes. Where no field has quotes in its name,
the test for null values sees only the fields whose names are given without. -/
theorem custom_join_names_stored_iff {link : Link} (custom : link.customJoin = some stated)
    (joined : catalog.joinPairs link child parent location = .ok pairs) :
    List.Forall₂ (fun given kept =>
        catalog.KeptAs child location given.childField kept.childField ∧
          catalog.KeptAs parent location given.parentField kept.parentField) stated pairs ∧
      ((∀ pair ∈ pairs, (child.field? pair.childField).isSome = true ∧
          (parent.field? pair.parentField).isSome = true) ↔
        ∀ pair ∈ stated, child.Spells pair.childField ∧ parent.Spells pair.parentField) ∧
      ((∀ field ∈ child.fields, Naming.isQuoted field.name = false) →
        (joinMayFail child pairs = false ↔
          ∃ pair ∈ stated, Naming.isQuoted pair.childField = false ∧
            ∃ field, catalog.findField child pair.childField location = .ok field ∧
              field.nullable = some false)) := by
  have kept : List.Forall₂ (fun given kept =>
      catalog.KeptAs child location given.childField kept.childField ∧
        catalog.KeptAs parent location given.parentField kept.parentField) stated pairs :=
    (Catalog.customPairs_of_joinPairs custom joined).imp fun _ _ => Catalog.keptAs_of_customPair
  refine ⟨kept, ?_, ?_⟩
  · exact forall_iff_of_forall₂ kept fun both => and_congr both.1.stored_iff both.2.stored_iff
  · intro bareFields
    rw [joinMayFail_eq_false_iff]
    exact exists_iff_of_forall₂ kept fun both => both.1.neverNull_iff bareFields

end

/-! Loans from a library. The number of the reader is stored in mixed case, that of the book in
lower case. -/

namespace Lending

def column (name : String) (nullable : Bool) : Field :=
  { name, typeCode := .integer, databaseType := "int4", nullable := some nullable }

def reader : Relation := { id := ⟨none, "reader"⟩, fields := [column "number" false] }

def loan : Relation :=
  { id := ⟨none, "loan"⟩, fields := [column "readerNo" false, column "book_no" true] }

def catalog : Catalog where
  schemaName := none
  relations := [loan, reader]
  foreignKeys := []
  keysByChild := []
  caseRule := .storedLower
  productName := "PostgreSQL"
  productVersion := ""

def joined (pairs : List KeyPair) : Except SpecError (List KeyPair) :=
  catalog.joinPairs { customJoin := some pairs } loan reader { query := "loans" }

def byBook : KeyPair := ⟨"Book_No", "NUMBER"⟩

def byBookStored : KeyPair := ⟨"book_no", "number"⟩

def byReader : KeyPair := ⟨"\"readerNo\"", "number"⟩

end Lending

theorem custom_join_names_stored_iff_lending :
    (Lending.joined [Lending.byBook] = .ok [Lending.byBookStored] ∧
      ∀ pair ∈ [Lending.byBookStored], (Lending.loan.field? pair.childField).isSome = true ∧
        (Lending.reader.field? pair.parentField).isSome = true) ∧
    Lending.joined [Lending.byBook, Lending.byReader] =
        .ok [Lending.byBookStored, Lending.byReader] ∧
      ¬∀ pair ∈ [Lending.byBookStored, Lending.byReader],
        (Lending.loan.field? pair.childField).isSome = true ∧
          (Lending.reader.field? pair.parentField).isSome = true := by
  have bare : Lending.joined [Lending.byBook] = .ok [Lending.byBookStored] := by decide +kernel
  have mixed : Lending.joined [Lending.byBook, Lending.byReader] =
      .ok [Lending.byBookStored, Lending.byReader] := by decide +kernel
  refine ⟨⟨bare, ?_⟩, mixed, ?_⟩
  · rw [(custom_join_names_stored_iff rfl bare).2.1]
    decide
  · rw [(custom_join_names_stored_iff rfl mixed).2.1]
    decide

/-- A join on a column whose name is given in quotes equates a column that the child does not have,
and the column counts as one that may be null although it is known not to be. -/
theorem quoted_join_column_not_stored :
    Lending.joined [Lending.byReader] = .ok [Lending.byReader] ∧
      Lending.loan.field? Lending.byReader.childField = none ∧
      Lending.catalog.findField Lending.loan Lending.byReader.childField { query := "loans" } =
        .ok (Lending.column "readerNo" false) ∧
      joinMayFail Lending.loan [Lending.byReader] = true := by
  decide +kernel

/-- Normalizing a name once is enough: what it gives is a stored form, no more and no less quoted
than the name, and only names in stored form stay as they are. So a custom join is made exactly of
names that mean fields, and each of these means the same field before and after it is stored. -/
theorem normalized_names_settle :
    (∀ (rule : CaseRule) (name : String),
      rule.normalize (rule.normalize name) = rule.normalize name ∧
        Naming.isQuoted (rule.normalize name) = Naming.isQuoted name ∧
        (rule.normalize name = name ↔ rule.IsStored name)) ∧
    ∀ (catalog : Catalog) (child parent : Relation) (location : Location)
      (hint : Option (List String)) (stated pairs : List KeyPair),
      catalog.joinPairs { foreignKeyFields := hint, customJoin := some stated } child parent
          location = .ok pairs ↔
        hint = none ∧ stated ≠ [] ∧
          List.Forall₂ (fun given kept =>
            catalog.StoredAs child location given.childField kept.childField ∧
              catalog.StoredAs parent location given.parentField kept.parentField)
            stated pairs := by
  constructor
  · intro rule name
    exact ⟨rule.normalize_normalize name, rule.isQuoted_normalize name,
      CaseRule.normalize_eq_self_iff⟩
  · intro catalog child parent location hint stated pairs
    rw [Catalog.joinPairs_custom_iff rfl]
    simp only [Catalog.customPair_eq_ok_iff]

end NestedQuery
