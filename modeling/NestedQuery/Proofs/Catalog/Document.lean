import NestedQuery.Proofs.Catalog.Order
import NestedQuery.Proofs.Document

/-! A catalog is read back from its document. -/

namespace NestedQuery

open Json

theorem RelationId.readBack (id : RelationId) (depth : Nat) :
    ReadBack json (read (depth + 1)) id := by
  refine ⟨rfl, ?_⟩
  rw [read, json, fields_object (by decide) (by simp), Option.bind_eq_bind,
    Option.bind_some,
    optional_ofOption id.schema (by simp) (fun value _ => readBack_text value),
    required_written (by simp [List.lookup_cons]) (readBack_text id.name)]
  rfl

namespace Field

def Fits (field : Field) : Prop :=
  (-0x80000000 ≤ field.typeCode ∧ field.typeCode < 0x80000000) ∧
    ∀ stated ∈ [field.length, field.precision, field.fractionalDigits, field.primaryKeyPart],
      ∀ number ∈ stated, number < 0x100000000

instance (field : Field) : Decidable field.Fits := inferInstanceAs (Decidable (_ ∧ _))

theorem readBack {field : Field} (fits : field.Fits) (depth : Nat) :
    ReadBack json (read (depth + 1)) field := by
  refine ⟨rfl, ?_⟩
  obtain ⟨⟨lower, upper⟩, numbers⟩ := fits
  have number (stated : Option Nat)
      (member : stated ∈ [field.length, field.precision, field.fractionalDigits,
        field.primaryKeyPart]) : ∀ value ∈ stated, ReadBack ofNat unsigned32? value :=
    fun value present => readBack_ofNat (numbers stated member value present)
  rw [read, json, fields_object (by decide) ?keys]
  case keys =>
    simp only [List.map_append]
    exact (((((((List.Sublist.refl ["name", "jdbcTypeCode", "databaseType"]).append
      (keys_presentMember_sublist _ _ _)).append (keys_presentMember_sublist _ _ _)).append
      (keys_presentMember_sublist _ _ _)).append (keys_presentMember_sublist _ _ _)).append
      (keys_presentMember_sublist _ _ _)).append (keys_presentMember_sublist _ _ _))
  rw [Option.bind_eq_bind, Option.bind_some,
    required_written (by simp) (readBack_text field.name),
    required_written (by simp [List.lookup_cons]) (readBack_int lower upper),
    required_written (by simp [List.lookup_cons]) (readBack_text field.databaseType),
    optional_present field.length (by simp [List.lookup_cons, List.lookup_append])
      (number field.length (by simp)),
    optional_present field.precision (by simp [List.lookup_cons, List.lookup_append])
      (number field.precision (by simp)),
    optional_present field.fractionalDigits (by simp [List.lookup_cons, List.lookup_append])
      (number field.fractionalDigits (by simp)),
    optional_present field.nullable (by simp [List.lookup_cons, List.lookup_append])
      (fun value _ => readBack_bool value),
    optional_present field.primaryKeyPart (by simp [List.lookup_cons, List.lookup_append])
      (number field.primaryKeyPart (by simp)),
    optional_present field.comment (by simp [List.lookup_cons, List.lookup_append])
      (fun value _ => readBack_text value)]
  rfl

end Field

namespace Relation

def Fits (relation : Relation) : Prop := ∀ field ∈ relation.fields, field.Fits

instance (relation : Relation) : Decidable relation.Fits :=
  inferInstanceAs (Decidable (∀ field ∈ relation.fields, field.Fits))

theorem readBack {relation : Relation} (fits : relation.Fits) (depth : Nat) :
    ReadBack json (read (depth + 3)) relation := by
  refine ⟨rfl, ?_⟩
  have kind : ReadBack (fun kind : RelationKind => text kind.displayName)
      (Json.view.choice relationKindNames (depth + 2)) relation.kind := by
    cases relation.kind <;> exact ⟨rfl, rfl⟩
  have fields := readBack_list fun field member => (Field.readBack (fits field member) depth).2
  rw [read, json, fields_object (by decide) ?keys]
  case keys =>
    rw [List.map_append]
    exact (List.Sublist.refl ["relationId", "relationType", "fields"]).append
      (keys_presentMember_sublist _ _ _)
  rw [Option.bind_eq_bind, Option.bind_some,
    required_written (by simp) (RelationId.readBack relation.id (depth + 1)),
    defaulted_written (by simp [List.lookup_cons]) kind,
    required_written (by simp [List.lookup_cons]) fields,
    optional_present relation.comment (by simp [List.lookup_cons]) fun value _ =>
      readBack_text value]
  rfl

end Relation

theorem KeyPair.readBack (pair : KeyPair) (depth : Nat) :
    ReadBack json (read (depth + 1)) pair := by
  refine ⟨rfl, ?_⟩
  rw [read, json, fields_object (by decide) (by simp), Option.bind_eq_bind,
    Option.bind_some,
    required_written (by simp) (readBack_text pair.childField),
    required_written (by simp [List.lookup_cons]) (readBack_text pair.parentField)]
  rfl

theorem ForeignKey.readBack (key : ForeignKey) (depth : Nat) :
    ReadBack json (read (depth + 3)) key := by
  refine ⟨rfl, ?_⟩
  have pairs := readBack_list fun pair (_ : pair ∈ key.pairs) => (KeyPair.readBack pair depth).2
  rw [read, json, fields_object (by decide) ?keys]
  case keys =>
    rw [List.map_append]
    exact (keys_presentMember_sublist _ _ _).append (List.Sublist.refl _)
  rw [Option.bind_eq_bind, Option.bind_some,
    optional_present key.constraintName (by simp [List.lookup_append, List.lookup_cons])
      fun value _ => readBack_text value,
    required_written (by simp [List.lookup_append])
      (RelationId.readBack key.child (depth + 1)),
    required_written (by simp [List.lookup_append, List.lookup_cons])
      (RelationId.readBack key.parent (depth + 1)),
    required_written (by simp [List.lookup_append, List.lookup_cons]) pairs]
  rfl

theorem CaseRule.readBack (rule : CaseRule) (depth : Nat) :
    ReadBack (fun rule : CaseRule => text rule.displayName) (read depth) rule := by
  cases rule <;> exact ⟨rfl, rfl⟩

namespace Catalog

structure Sorted (catalog : Catalog) : Prop where
  relations : catalog.relations.Pairwise fun left right => left.id.display ≤ right.id.display
  foreignKeys : catalog.foreignKeys.Pairwise fun left right => left.precedes right = true

theorem build_sorted (schemaName : Option String) (relations : List Relation)
    (keys : List ForeignKey) (caseRule : CaseRule) (productName productVersion : String) :
    (build schemaName relations keys caseRule productName productVersion).Sorted where
  relations := by
    rw [build]
    simpa using List.pairwise_mergeSort Relation.display_trans Relation.display_total relations
  foreignKeys :=
    List.pairwise_mergeSort ForeignKey.precedes_trans ForeignKey.precedes_total keys

theorem read_json {catalog : Catalog} (sorted : catalog.Sorted)
    (fits : ∀ relation ∈ catalog.relations, relation.Fits) :
    read catalog.json = some catalog := by
  have relations := readBack_list fun relation member =>
    (Relation.readBack (fits relation member) 122).2
  have keys := readBack_list fun key (_ : key ∈ catalog.foreignKeys) =>
    (ForeignKey.readBack key 122).2
  change readAt (126 + 1) catalog.json = some catalog
  rw [readAt, json, fields_object (by decide) (by simp), Option.bind_eq_bind,
    Option.bind_some,
    optional_ofOption catalog.schemaName (by simp) (fun value _ => readBack_text value),
    defaulted_written (by simp [List.lookup_cons]) relations,
    defaulted_written (by simp [List.lookup_cons]) keys,
    defaulted_written (by simp [List.lookup_cons]) (CaseRule.readBack catalog.caseRule 126),
    required_written (by simp [List.lookup_cons]) (readBack_text catalog.productName),
    defaulted_written (by simp [List.lookup_cons]) (readBack_text catalog.productVersion)]
  refine congrArg some ?_
  exact (build_of_sorted sorted.relations sorted.foreignKeys _ _ _ _).trans catalog.eq_of_lists

end Catalog

theorem Field.fits_of_read {depth : Nat} {value : Json} {field : Field}
    (found : Field.read depth value = some field) : field.Fits := by
  cases depth with
  | zero => simp [Field.read] at found
  | succ depth =>
      simp only [Field.read, Option.bind_eq_bind, Option.bind_eq_some_iff] at found
      obtain ⟨members, -, name, -, code, codeRead, type, -, length, lengthRead, precision,
        precisionRead, digits, digitsRead, nullable, -, part, partRead, comment, -, made⟩ := found
      obtain rfl : _ = field := Option.some.inj made
      obtain ⟨stated, codeRead⟩ := View.exists_of_required codeRead
      refine ⟨signed32?_bounds codeRead, ?_⟩
      have bounded {key : String} {stated : Option Nat}
          (found : Json.view.optional members key unsigned32? = some stated) :
          ∀ number ∈ stated, number < 0x100000000 := by
        rintro number rfl
        obtain ⟨value, numberRead⟩ := View.exists_of_optional found
        exact unsigned32?_bound numberRead
      simp only [List.forall_mem_cons]
      exact ⟨bounded lengthRead, bounded precisionRead, bounded digitsRead, bounded partRead,
        fun _ none => absurd none List.not_mem_nil⟩

theorem Relation.fits_of_read {depth : Nat} {value : Json} {relation : Relation}
    (found : Relation.read depth value = some relation) : relation.Fits := by
  cases depth with
  | zero => simp [Relation.read] at found
  | succ depth =>
      simp only [Relation.read, Option.bind_eq_bind, Option.bind_eq_some_iff] at found
      obtain ⟨members, -, id, -, kind, -, fields, fieldsRead, comment, -, made⟩ := found
      obtain rfl : _ = relation := Option.some.inj made
      obtain ⟨listed, itemsRead⟩ := View.exists_of_required fieldsRead
      intro field member
      obtain ⟨inner, item, fieldRead⟩ := View.exists_of_mem_list itemsRead member
      exact Field.fits_of_read fieldRead

theorem Catalog.sorted_and_fits_of_read {document : Json} {catalog : Catalog}
    (found : Catalog.read document = some catalog) :
    catalog.Sorted ∧ ∀ relation ∈ catalog.relations, relation.Fits := by
  change Catalog.readAt (126 + 1) document = some catalog at found
  simp only [Catalog.readAt, Option.bind_eq_bind, Option.bind_eq_some_iff] at found
  obtain ⟨members, -, schemaName, -, relations, relationsRead, keys, -, rule, -, productName, -,
    version, -, made⟩ := found
  obtain rfl : _ = catalog := Option.some.inj made
  refine ⟨build_sorted _ _ _ _ _ _, ?_⟩
  intro relation member
  have listed : relation ∈ relations := List.mem_mergeSort.mp member
  rcases View.eq_or_exists_of_defaulted relationsRead with rfl | ⟨value, itemsRead⟩
  · exact absurd listed List.not_mem_nil
  · obtain ⟨inner, item, relationRead⟩ := View.exists_of_mem_list itemsRead listed
    exact Relation.fits_of_read relationRead

end NestedQuery
