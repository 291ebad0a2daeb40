import NestedQuery.Proofs.Catalog.Index
import NestedQuery.Proofs.Catalog.Order

/-! Lookups in a catalog are told by the parts from which it was built: sorting changes neither
which relation is found nor which keys lie between two relations. A catalog may therefore grow by
relations with new ids and by keys to and from them, and still finds whatever it found before. -/

namespace NestedQuery

namespace Catalog

theorem relation?_build (schemaName : Option String) (relations : List Relation)
    (keys : List ForeignKey) (caseRule : CaseRule) (productName version : String)
    (id : RelationId) :
    (Catalog.build schemaName relations keys caseRule productName version).relation? id =
      (relations.filter (·.id == id)).getLast? := by
  rw [relation?_eq_getLast?, Catalog.build,
    filter_mergeSort Relation.display_trans Relation.display_total]
  -- Relations with one id are equal to the order, and stay as they are listed.
  have tied : (relations.filter (·.id == id)).Pairwise fun left right =>
      decide (left.id.display ≤ right.id.display) = true := by
    rw [List.pairwise_iff_forall_sublist]
    intro left right sublist
    have inside := sublist.subset
    simp only [List.cons_subset, List.mem_filter, beq_iff_eq] at inside
    obtain ⟨⟨_, leftId⟩, ⟨_, rightId⟩, _⟩ := inside
    rw [leftId, rightId]
    exact decide_eq_true (le_refl _)
  rw [List.mergeSort_of_pairwise tied]

theorem isSome_relation?_build (schemaName : Option String) (relations : List Relation)
    (keys : List ForeignKey) (caseRule : CaseRule) (productName version : String)
    (id : RelationId) :
    ((Catalog.build schemaName relations keys caseRule productName version).relation? id).isSome =
      true ↔ id ∈ relations.map (·.id) := by
  rw [isSome_relation?_iff]
  exact ((List.mergeSort_perm relations _).map _).mem_iff

theorem keysBetween_build (schemaName : Option String) (relations : List Relation)
    (keys : List ForeignKey) (caseRule : CaseRule) (productName version : String)
    (child parent : RelationId) :
    (Catalog.build schemaName relations keys caseRule productName version).keysBetween child
        parent =
      if child ∈ relations.map (·.id) ∧ parent ∈ relations.map (·.id) then
        (keys.filter fun key => key.child == child && key.parent == parent).mergeSort
          ForeignKey.precedes
      else [] := by
  simp only [keysBetween_eq_filter, Bool.and_eq_true, isSome_relation?_build]
  split
  · exact filter_mergeSort ForeignKey.precedes_trans ForeignKey.precedes_total _ keys
  · rfl

/-- Where one catalog finds a relation or keys between two relations, the other finds the same, and
apart from relations and keys the two agree. -/
structure GrowsTo (catalog grown : Catalog) : Prop where
  alike : ∃ relations keys version,
    grown = { schemaName := catalog.schemaName, relations, foreignKeys := keys,
              caseRule := catalog.caseRule, productName := catalog.productName,
              productVersion := version }
  relation? : ∀ {id relation}, catalog.relation? id = some relation →
    grown.relation? id = some relation
  keys : ∀ {child parent}, catalog.keysBetween child parent ≠ [] →
    grown.keysBetween child parent = catalog.keysBetween child parent

end Catalog

/-- Every item of the grown list is an old or an added one, and the old ones stand in their order.
-/
structure AddedTo {α : Type} (old added grown : List α) : Prop where
  whole : grown.Perm (old ++ added)
  inOrder : old.Sublist grown

theorem AddedTo.filter_eq {α : Type} {old added grown : List α} (grows : AddedTo old added grown)
    {keep : α → Bool} (none : ∀ item ∈ added, keep item = false) :
    grown.filter keep = old.filter keep := by
  have nothing : added.filter keep = [] := by
    rw [List.filter_eq_nil_iff]
    intro item member
    simp [none item member]
  have sameLength := (grows.whole.filter keep).length_eq
  rw [List.filter_append, nothing, List.append_nil] at sameLength
  exact ((grows.inOrder.filter keep).eq_of_length sameLength.symm).symm

namespace Catalog

theorem build_growsTo {relations added allRelations : List Relation}
    {keys addedKeys allKeys : List ForeignKey} (places : AddedTo relations added allRelations)
    (references : AddedTo keys addedKeys allKeys)
    (new : ∀ relation ∈ added, relation.id ∉ relations.map (·.id))
    (touching : ∀ key ∈ addedKeys,
      key.child ∈ added.map (·.id) ∨ key.parent ∈ added.map (·.id))
    (schemaName : Option String) (caseRule : CaseRule) (productName version newVersion : String) :
    (Catalog.build schemaName relations keys caseRule productName version).GrowsTo
      (Catalog.build schemaName allRelations allKeys caseRule productName newVersion) := by
  -- No id of an old relation is the id of an added one.
  have apart {id : RelationId} (old : id ∈ relations.map (·.id)) : id ∉ added.map (·.id) := by
    intro member
    obtain ⟨relation, inAdded, rfl⟩ := List.mem_map.mp member
    exact new relation inAdded old
  refine ⟨⟨_, _, _, rfl⟩, ?_, ?_⟩
  · intro id relation found
    have old : id ∈ relations.map (·.id) := by
      rw [← isSome_relation?_build schemaName relations keys caseRule productName version, found]
      rfl
    have same : allRelations.filter (·.id == id) = relations.filter (·.id == id) := by
      apply places.filter_eq
      intro relation member
      rw [beq_eq_false_iff_ne]
      rintro rfl
      exact new relation member old
    rw [relation?_build] at found ⊢
    rw [same, found]
  · intro child parent present
    rw [keysBetween_build] at present ⊢
    rw [keysBetween_build]
    split at present
    · rename_i old
      have known := List.Sublist.subset (places.inOrder.map (·.id))
      have kept : child ∈ allRelations.map (·.id) ∧ parent ∈ allRelations.map (·.id) :=
        ⟨known old.1, known old.2⟩
      have same : allKeys.filter (fun key => key.child == child && key.parent == parent) =
          keys.filter (fun key => key.child == child && key.parent == parent) := by
        apply references.filter_eq
        intro key member
        by_contra between
        obtain ⟨rfl, rfl⟩ : key.child = child ∧ key.parent = parent := by simpa using between
        rcases touching key member with child | parent
        · exact apart old.1 child
        · exact apart old.2 parent
      rw [if_pos kept, if_pos old, same]
    · exact absurd rfl present

end Catalog

end NestedQuery
