import Mathlib.Data.List.Basic
import NestedQuery.SchemaDump.Definition

/-! What a declared foreign key means once all definitions of a dump are known: which relation it
leads to, and which columns it pairs. -/

namespace NestedQuery.SchemaDump.Draft

/-- What a declaration means: a key from its child to the last definition of the parent. A parent
that is not defined without a schema is looked for in the schema of the child, and a declaration
that names no columns of the parent means its primary key. -/
structure Means (draft : Draft) (declared : KeyDeclaration) (parent : Definition)
    (key : ForeignKey) : Prop where
  child : key.child = declared.child
  named : key.parent = declared.parent ∨ draft.definition? declared.parent = none ∧
    declared.parent.schema = none ∧ declared.child.schema.isSome ∧
    key.parent = ⟨declared.child.schema, declared.parent.name⟩
  found : draft.definition? key.parent = some parent
  childFields : key.pairs.map (·.childField) = declared.childFields
  parentFields : key.pairs.map (·.parentField) =
    if declared.parentFields = [] then parent.primaryKey else declared.parentFields
  nonempty : key.pairs ≠ []

variable {draft : Draft} {declared : KeyDeclaration} {parent : Definition} {key : ForeignKey}

theorem id_of_definition? {id : RelationId} (found : draft.definition? id = some parent) :
    parent.id = id := by
  simpa using List.find?_some found

theorem parentOf?_eq_some_iff :
    draft.parentOf? declared = some parent ↔
      draft.definition? parent.id = some parent ∧
        (parent.id = declared.parent ∨ draft.definition? declared.parent = none ∧
          declared.parent.schema = none ∧ declared.child.schema.isSome ∧
          parent.id = ⟨declared.child.schema, declared.parent.name⟩) := by
  unfold parentOf?
  constructor
  · intro found
    split at found
    · rename_i direct
      cases found
      have same := id_of_definition? direct
      exact ⟨same ▸ direct, .inl same⟩
    · rename_i unknown
      split at found
      · rename_i noSchema inSchema
        have same := id_of_definition? found
        refine ⟨same ▸ found, .inr ⟨unknown, noSchema, by simp [inSchema], ?_⟩⟩
        rw [same, inSchema]
      · cases found
  · rintro ⟨found, same | ⟨unknown, noSchema, inSchema, same⟩⟩
    · rw [same] at found
      simp only [found]
    · obtain ⟨schema, inSchema⟩ := Option.isSome_iff_exists.mp inSchema
      rw [same] at found
      simp only [unknown, noSchema, inSchema]
      rwa [inSchema] at found

theorem map_zipWith_pairs {childFields parentFields : List String}
    (same : parentFields.length = childFields.length) :
    (List.zipWith KeyPair.mk childFields parentFields).map (·.childField) = childFields ∧
      (List.zipWith KeyPair.mk childFields parentFields).map (·.parentField) = parentFields := by
  induction childFields generalizing parentFields with
  | nil => simpa using same
  | cons first rest ih =>
      cases parentFields with
      | nil => cases same
      | cons other others => simpa using ih (Nat.succ.inj same)

theorem zipWith_map_pairs (pairs : List KeyPair) :
    List.zipWith KeyPair.mk (pairs.map (·.childField)) (pairs.map (·.parentField)) = pairs := by
  rw [List.zipWith_map, List.zipWith_self]
  exact List.map_id' pairs

theorem resolveKey?_eq_some_iff :
    draft.resolveKey? declared = some key ↔
      key.constraintName = declared.constraintName ∧ ∃ parent, draft.Means declared parent key := by
  unfold resolveKey?
  constructor
  · intro resolved
    split at resolved
    · cases resolved
    · rename_i parent found
      obtain ⟨inDraft, named⟩ := parentOf?_eq_some_iff.mp found
      simp only [List.isEmpty_iff, Option.ite_none_left_eq_some, Option.some.injEq] at resolved
      obtain ⟨fits, rfl⟩ := resolved
      simp only [ne_eq, Bool.or_eq_true, decide_eq_true_eq, not_or, not_not] at fits
      obtain ⟨sameLength, nonempty⟩ := fits
      obtain ⟨childFields, parentFields⟩ := map_zipWith_pairs sameLength
      refine ⟨rfl, parent, rfl, named, inDraft, childFields, parentFields, ?_⟩
      intro empty
      rw [show List.zipWith _ _ _ = [] from empty] at parentFields
      exact nonempty (by simp [← parentFields])
  · rintro ⟨constraintName, parent, means⟩
    have sameId := id_of_definition? means.found
    have found : draft.parentOf? declared = some parent :=
      parentOf?_eq_some_iff.mpr ⟨sameId ▸ means.found, sameId ▸ means.named⟩
    simp only [found, List.isEmpty_iff]
    rw [← means.parentFields, ← means.childFields, zipWith_map_pairs, if_neg]
    · simp [← constraintName, ← means.child, sameId]
    · simpa using means.nonempty

theorem resolveKey?_known {reference : ForeignKey}
    (resolved : draft.resolveKey? declared = some reference) :
    reference.child = declared.child ∧ reference.parent ∈ draft.definitions.map (·.id) := by
  obtain ⟨-, parent, means⟩ := resolveKey?_eq_some_iff.mp resolved
  refine ⟨means.child, ?_⟩
  rw [← id_of_definition? means.found]
  exact List.mem_map_of_mem (List.mem_reverse.mp (List.mem_of_find?_eq_some means.found))

end NestedQuery.SchemaDump.Draft
