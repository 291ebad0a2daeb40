import Mathlib.Data.List.Basic
import Mathlib.Data.String.Basic
import NestedQuery.Catalog.Basic

/-! The order of a catalog. Its relations and keys are sorted by orders that tell unequal ones
apart, so that a catalog does not depend on the order in which its parts are collected. -/

namespace NestedQuery

theorem mergeSort_eq_of_perm {α : Type} {le : α → α → Bool} {first second : List α}
    (trans : ∀ a b c, le a b = true → le b c = true → le a c = true)
    (total : ∀ a b, (le a b || le b a) = true)
    (antisymm : ∀ a ∈ first, ∀ b ∈ first, le a b = true → le b a = true → a = b)
    (perm : first.Perm second) : first.mergeSort le = second.mergeSort le := by
  have sorted (items : List α) : (items.mergeSort le).Pairwise fun a b => le a b = true :=
    List.pairwise_mergeSort trans total items
  refine List.Perm.eq_of_pairwise ?_ (sorted first) (sorted second) ?_
  · intro a b inFirst inSecond lower upper
    have left : a ∈ first := List.mem_mergeSort.mp inFirst
    have right : b ∈ first := perm.mem_iff.mpr (List.mem_mergeSort.mp inSecond)
    exact antisymm a left b right lower upper
  · exact (List.mergeSort_perm first le).trans (perm.trans (List.mergeSort_perm second le).symm)

theorem filter_mergeSort {α : Type} {le : α → α → Bool}
    (trans : ∀ a b c, le a b = true → le b c = true → le a c = true)
    (total : ∀ a b, (le a b || le b a) = true) (keep : α → Bool) (items : List α) :
    (items.mergeSort le).filter keep = (items.filter keep).mergeSort le := by
  induction items with
  | nil => simp
  | cons item rest ih =>
      -- The item goes before the first of the sorted others that it may stand before.
      have place {before after : List α} (lower : ∀ b ∈ before, (!le item b) = true)
          (upper : ∀ b ∈ after, le item b = true) :
          (before ++ after).takeWhile (fun b => !le item b) = before := by
        rw [List.takeWhile_append_of_pos lower]
        cases after with
        | nil => simp
        | cons next after => simp [upper next List.mem_cons_self]
      have upperHalf {items before after : List α}
          (sorted : items.mergeSort le = before ++ item :: after) :
          ∀ b ∈ after, le item b = true := by
        have pairwise := List.pairwise_mergeSort trans total items
        rw [sorted] at pairwise
        exact (List.pairwise_cons.mp (List.pairwise_append.mp pairwise).2.1).1
      obtain ⟨before, after, whole, others, lower⟩ := List.mergeSort_cons trans total item rest
      have upper := upperHalf whole
      rw [others, List.filter_append] at ih
      rw [whole, List.filter_append]
      by_cases kept : keep item = true
      · obtain ⟨first, last, wholeKept, othersKept, lowerKept⟩ :=
          List.mergeSort_cons trans total item (rest.filter keep)
        have upperKept := upperHalf wholeKept
        rw [List.filter_cons_of_pos kept, List.filter_cons_of_pos kept, wholeKept]
        rw [othersKept] at ih
        have same : before.filter keep = first := by
          rw [← place (fun b member => lower b (List.mem_of_mem_filter member))
            (fun b member => upper b (List.mem_of_mem_filter member)), ih,
            place lowerKept upperKept]
        rw [same] at ih ⊢
        rw [List.append_cancel_left ih]
      · rw [List.filter_cons_of_neg kept, List.filter_cons_of_neg kept, ih]

namespace Relation

theorem display_trans (a b c : Relation) (lower : decide (a.id.display ≤ b.id.display) = true)
    (upper : decide (b.id.display ≤ c.id.display) = true) :
    decide (a.id.display ≤ c.id.display) = true := by
  simp only [decide_eq_true_eq] at lower upper ⊢
  exact le_trans lower upper

theorem display_total (a b : Relation) :
    (decide (a.id.display ≤ b.id.display) || decide (b.id.display ≤ a.id.display)) = true := by
  simpa using le_total a.id.display b.id.display

end Relation

namespace ForeignKey

theorem compareLex_eq (left right : List String) :
    precedes.compareLex left right = compare left right := by
  induction left generalizing right with
  | nil => cases right <;> rfl
  | cons first left ih =>
      cases right with
      | nil => rfl
      | cons second right =>
          rw [precedes.compareLex, ih, List.compare_cons_cons]

def comparison : ForeignKey → ForeignKey → Ordering :=
  compareLex
    (compareLex
      (compareLex (compareOn fun key => key.child.display)
        (compareOn fun key => key.parent.display))
      (compareOn childFields))
    (compareOn parentFields)

theorem precedes_eq_isLE (left right : ForeignKey) :
    left.precedes right = (comparison left right).isLE := by
  simp only [precedes, compareLex_eq]
  rfl

instance : Std.TransCmp comparison := by
  unfold comparison
  infer_instance

theorem precedes_trans (a b c : ForeignKey) (lower : a.precedes b = true)
    (upper : b.precedes c = true) : a.precedes c = true := by
  rw [precedes_eq_isLE] at lower upper ⊢
  exact Std.TransCmp.isLE_trans lower upper

theorem precedes_total (a b : ForeignKey) : (a.precedes b || b.precedes a) = true := by
  have swapped : comparison a b = (comparison b a).swap := Std.OrientedCmp.eq_swap
  rw [precedes_eq_isLE, precedes_eq_isLE, swapped]
  cases comparison b a <;> rfl

theorem pairs_eq_of_fields {left right : ForeignKey} (child : left.childFields = right.childFields)
    (parent : left.parentFields = right.parentFields) : left.pairs = right.pairs := by
  have zipped (key : ForeignKey) :
      key.pairs = List.zipWith KeyPair.mk key.childFields key.parentFields := by
    simp [childFields, parentFields, List.zipWith_map]
  rw [zipped left, zipped right, child, parent]

/-- Keys that come before each other agree in all that the order looks at. -/
theorem agree_of_precedes {left right : ForeignKey} (lower : left.precedes right = true)
    (upper : right.precedes left = true) :
    left.child.display = right.child.display ∧ left.parent.display = right.parent.display ∧
      left.pairs = right.pairs := by
  rw [precedes_eq_isLE] at lower upper
  have same : comparison left right = .eq := Std.OrientedCmp.isLE_antisymm lower upper
  simp only [comparison, compareLex, Ordering.then_eq_eq, compareOn,
    Std.LawfulEqCmp.compare_eq_iff_eq] at same
  obtain ⟨⟨⟨child, parent⟩, childFields⟩, parentFields⟩ := same
  exact ⟨child, parent, pairs_eq_of_fields childFields parentFields⟩

end ForeignKey

theorem Catalog.eq_of_lists (catalog : Catalog) :
    ({ schemaName := catalog.schemaName, relations := catalog.relations
       foreignKeys := catalog.foreignKeys, caseRule := catalog.caseRule
       productName := catalog.productName, productVersion := catalog.productVersion } : Catalog) =
      catalog := by
  obtain ⟨_, _, _, _, _, _, _, _, rfl, rfl⟩ := catalog
  rfl

theorem Catalog.build_of_sorted {relations : List Relation} {keys : List ForeignKey}
    (places : relations.Pairwise fun left right => left.id.display ≤ right.id.display)
    (references : keys.Pairwise fun left right => left.precedes right = true)
    (schemaName : Option String) (caseRule : CaseRule) (productName productVersion : String) :
    Catalog.build schemaName relations keys caseRule productName productVersion =
      { schemaName, relations, foreignKeys := keys, caseRule, productName, productVersion } := by
  have placed : relations.mergeSort (fun left right => left.id.display ≤ right.id.display) =
      relations := List.mergeSort_of_pairwise (by simpa using places)
  simp only [Catalog.build, placed, List.mergeSort_of_pairwise references]

theorem Catalog.build_eq_of_perm {relations others : List Relation}
    {keys otherKeys : List ForeignKey} (schemaName : Option String) (caseRule : CaseRule)
    (productName productVersion : String) (samePlaces : relations.Perm others)
    (sameKeys : keys.Perm otherKeys)
    (apart : ∀ left ∈ relations, ∀ right ∈ relations,
      left.id.display = right.id.display → left = right)
    (keysApart : ∀ left ∈ keys, ∀ right ∈ keys, left.child.display = right.child.display →
      left.parent.display = right.parent.display → left.pairs = right.pairs → left = right) :
    Catalog.build schemaName relations keys caseRule productName productVersion =
      Catalog.build schemaName others otherKeys caseRule productName productVersion := by
  have relationsSorted :
      relations.mergeSort (fun left right => left.id.display ≤ right.id.display) =
        others.mergeSort fun left right => left.id.display ≤ right.id.display := by
    apply mergeSort_eq_of_perm Relation.display_trans Relation.display_total _ samePlaces
    intro a left b right lower upper
    simp only [decide_eq_true_eq] at lower upper
    exact apart a left b right (le_antisymm lower upper)
  have keysSorted :
      keys.mergeSort ForeignKey.precedes = otherKeys.mergeSort ForeignKey.precedes := by
    apply mergeSort_eq_of_perm ForeignKey.precedes_trans ForeignKey.precedes_total _ sameKeys
    intro a left b right lower upper
    obtain ⟨child, parent, pairs⟩ := ForeignKey.agree_of_precedes lower upper
    exact keysApart a left b right child parent pairs
  simp only [Catalog.build, relationsSorted, keysSorted]

end NestedQuery
