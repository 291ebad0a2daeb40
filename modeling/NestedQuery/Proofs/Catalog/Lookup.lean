import Mathlib.Data.List.Nodup
import NestedQuery.Proofs.Catalog.Index
import NestedQuery.Proofs.Catalog.Order

/-! What queries can find out about a catalog. Sorting does not decide between unequal relations
whose ids read the same, nor between keys of different names on the same columns, and so two
catalogs of the same parts may differ. Their lookups do not. -/

namespace NestedQuery

/-- Catalogs in which every lookup finds the same. Of the keys between two relations only the
equated columns count. -/
structure Catalog.Agree (left right : Catalog) : Prop where
  schemaName : left.schemaName = right.schemaName
  caseRule : left.caseRule = right.caseRule
  productName : left.productName = right.productName
  relation? : ∀ id, left.relation? id = right.relation? id
  keys : ∀ child parent, (left.keysBetween child parent).map ForeignKey.pairs =
    (right.keysBetween child parent).map ForeignKey.pairs

theorem find?_eq_some_iff_of_nodup {α κ : Type} [BEq κ] [LawfulBEq κ] {key : α → κ}
    {items : List α} (distinct : (items.map key).Nodup) (wanted : κ) (item : α) :
    items.find? (key · == wanted) = some item ↔ item ∈ items ∧ key item = wanted := by
  constructor
  · intro found
    exact ⟨List.mem_of_find?_eq_some found, by simpa using List.find?_some found⟩
  · rintro ⟨member, rfl⟩
    cases found : items.find? (key · == key item) with
    | none =>
        have missed := List.find?_eq_none.mp found item member
        simp at missed
    | some other =>
        have otherMember := List.mem_of_find?_eq_some found
        have sameKey : key other = key item := by simpa using List.find?_some found
        rw [List.inj_on_of_nodup_map distinct otherMember member sameKey]

theorem find?_eq_of_perm {α κ : Type} [BEq κ] [LawfulBEq κ] {key : α → κ}
    {first second : List α} (distinct : (first.map key).Nodup) (perm : first.Perm second)
    (wanted : κ) : first.find? (key · == wanted) = second.find? (key · == wanted) := by
  have alsoDistinct : (second.map key).Nodup := (perm.map key).nodup_iff.mp distinct
  ext item
  rw [find?_eq_some_iff_of_nodup distinct, find?_eq_some_iff_of_nodup alsoDistinct,
    perm.mem_iff]

namespace ForeignKey

def pairsPrecede (child parent : RelationId) (left right : List KeyPair) : Prop :=
  precedes { child, parent, pairs := left } { child, parent, pairs := right } = true

theorem pairsPrecede_antisymm {child parent : RelationId} {left right : List KeyPair}
    (lower : pairsPrecede child parent left right)
    (upper : pairsPrecede child parent right left) : left = right :=
  (agree_of_precedes lower upper).2.2

theorem sorted_pairs (keys : List ForeignKey) (child parent : RelationId) :
    (((keys.mergeSort precedes).filter fun key => key.child == child && key.parent == parent).map
      pairs).Pairwise (pairsPrecede child parent) := by
  rw [List.pairwise_map]
  have sorted := List.pairwise_mergeSort precedes_trans precedes_total keys
  refine (sorted.filter _).imp_of_mem ?_
  intro left right leftMember rightMember before
  have between {key : ForeignKey}
      (member : key ∈ (keys.mergeSort precedes).filter
        fun key => key.child == child && key.parent == parent) :
      key.child = child ∧ key.parent = parent := by
    simpa using (List.mem_filter.mp member).2
  obtain ⟨leftChild, leftParent⟩ := between leftMember
  obtain ⟨rightChild, rightParent⟩ := between rightMember
  subst leftChild leftParent
  unfold pairsPrecede
  rw [← before]
  simp only [precedes, rightChild, rightParent]
  rfl

end ForeignKey

namespace Catalog

theorem relation?_build_eq_of_perm {relations others : List Relation}
    (distinct : (relations.map (·.id)).Nodup) (samePlaces : relations.Perm others)
    (schemaName : Option String) (keys otherKeys : List ForeignKey) (caseRule : CaseRule)
    (productName version otherVersion : String) (id : RelationId) :
    (Catalog.build schemaName relations keys caseRule productName version).relation? id =
      (Catalog.build schemaName others otherKeys caseRule productName otherVersion).relation?
        id := by
  have sorted (items : List Relation) :
      (items.mergeSort fun left right => left.id.display ≤ right.id.display).reverse.Perm items :=
    (List.reverse_perm _).trans (List.mergeSort_perm items _)
  rw [relation?_eq_getLast?, relation?_eq_getLast?, ← List.head?_reverse, ← List.head?_reverse,
    ← List.filter_reverse, ← List.filter_reverse, List.head?_filter, List.head?_filter]
  apply find?_eq_of_perm
  · exact ((sorted relations).map _).nodup_iff.mpr distinct
  · exact (sorted relations).trans (samePlaces.trans (sorted others).symm)

theorem build_agree {relations others : List Relation} {keys otherKeys : List ForeignKey}
    (distinct : (relations.map (·.id)).Nodup) (samePlaces : relations.Perm others)
    (sameKeys : keys.Perm otherKeys) (schemaName : Option String) (caseRule : CaseRule)
    (productName version otherVersion : String) :
    (Catalog.build schemaName relations keys caseRule productName version).Agree
      (Catalog.build schemaName others otherKeys caseRule productName otherVersion) := by
  have found := relation?_build_eq_of_perm distinct samePlaces schemaName keys otherKeys caseRule
    productName version otherVersion
  refine ⟨rfl, rfl, rfl, found, ?_⟩
  intro child parent
  rw [keysBetween_eq_filter, keysBetween_eq_filter, found child, found parent]
  split
  · have sorted (items : List ForeignKey) :
        (items.mergeSort ForeignKey.precedes).Perm items := List.mergeSort_perm items _
    refine List.Perm.eq_of_pairwise ?_ (ForeignKey.sorted_pairs keys child parent)
      (ForeignKey.sorted_pairs otherKeys child parent) ?_
    · intro left right _ _ lower upper
      exact ForeignKey.pairsPrecede_antisymm lower upper
    · exact (((sorted keys).trans (sameKeys.trans (sorted otherKeys).symm)).filter _).map _
  · rfl

end Catalog

end NestedQuery
