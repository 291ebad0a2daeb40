import Mathlib.Data.List.Induction
import NestedQuery.Catalog.Basic

/-! Lookups by place find what a scan of the lists finds. After any number of relations the index
holds the place of the last one with each id, and after any number of keys the places of all keys
from each child; each place leads back to the entry that was put there. -/

namespace NestedQuery

namespace IdMap

variable {α : Type}

theorem get?_insert (map : IdMap α) (id other : RelationId) (value : α) :
    (map.insert id value).get? other = if id = other then some value else map.get? other := by
  induction map with
  | nil =>
      rw [IdMap.insert]
      by_cases same : id = other
      · simp [get?, same]
      · simp [get?, same]
  | cons entry rest ih =>
      rw [IdMap.insert]
      by_cases replaced : entry.1 = id
      · rw [if_pos replaced]
        by_cases same : id = other
        · simp [get?, same]
        · simp [get?, replaced, same]
      · rw [if_neg replaced]
        by_cases first : entry.1 = other
        · have different : id ≠ other := fun same => replaced (first.trans same.symm)
          simp [get?, first, different]
        · simpa [get?, first] using ih

theorem get?_push (map : IdMap (List α)) (id other : RelationId) (value : α) :
    (map.push id value).get? other =
      if id = other then some ((map.get? id).getD [] ++ [value]) else map.get? other := by
  rw [push, get?_insert]

end IdMap

/-- The places in a list at which an entry passes a test, in ascending order. -/
def placesWhere {α : Type} (test : α → Bool) (items : List α) : List Nat :=
  (items.zipIdx.filter fun entry => test entry.1).map (·.2)

theorem placesWhere_concat {α : Type} (test : α → Bool) (items : List α) (item : α) :
    placesWhere test (items ++ [item]) =
      if test item then placesWhere test items ++ [items.length] else placesWhere test items := by
  rw [placesWhere, List.zipIdx_append, List.filter_append, List.map_append]
  by_cases passes : test item = true
  · simp [placesWhere, passes]
  · simp [placesWhere, passes]

theorem map_placesWhere {α : Type} (test : α → Bool) (items : List α) :
    (placesWhere test items).map (items[·]?) = (items.filter test).map some := by
  have tested : items.filter test = (items.zipIdx.filter fun entry => test entry.1).map (·.1) := by
    rw [← Function.comp_def test, ← List.filter_map, List.zipIdx_map_fst]
  rw [tested, placesWhere, List.map_map, List.map_map]
  apply List.map_congr_left
  intro entry member
  exact List.mem_zipIdx_iff_getElem?.mp (List.mem_filter.mp member).1

theorem Relation.placesById_concat (relations : List Relation) (relation : Relation) :
    placesById (relations ++ [relation]) =
      (placesById relations).insert relation.id relations.length := by
  rw [placesById, List.zipIdx_append, List.foldl_append]
  simp [placesById]

theorem Relation.get?_placesById (relations : List Relation) (id : RelationId) :
    (placesById relations).get? id = (placesWhere (·.id == id) relations).getLast? := by
  induction relations using List.reverseRecOn with
  | nil => rfl
  | append_singleton relations relation ih =>
      rw [placesById_concat, IdMap.get?_insert, placesWhere_concat]
      by_cases same : relation.id = id
      · simp [same]
      · simp [same, ih]

theorem ForeignKey.placesByChild_concat (keys : List ForeignKey) (key : ForeignKey) :
    placesByChild (keys ++ [key]) = (placesByChild keys).push key.child keys.length := by
  rw [placesByChild, List.zipIdx_append, List.foldl_append]
  simp [placesByChild]

theorem ForeignKey.getD_placesByChild (keys : List ForeignKey) (child : RelationId) :
    ((placesByChild keys).get? child).getD [] = placesWhere (·.child == child) keys := by
  induction keys using List.reverseRecOn with
  | nil => rfl
  | append_singleton keys key ih =>
      rw [placesByChild_concat, IdMap.get?_push, placesWhere_concat]
      by_cases same : key.child = child
      · subst same
        simp [ih]
      · simp [same, ih]

namespace Catalog

theorem relation?_eq_getLast? (catalog : Catalog) (id : RelationId) :
    catalog.relation? id = (catalog.relations.filter (·.id == id)).getLast? := by
  have entries := congrArg List.getLast? (map_placesWhere (·.id == id) catalog.relations)
  rw [List.getLast?_map, List.getLast?_map] at entries
  rw [relation?, catalog.relationsIndexed, Relation.get?_placesById]
  cases last : (placesWhere (·.id == id) catalog.relations).getLast? with
  | none =>
      rw [last, Option.map_none, eq_comm, Option.map_eq_none_iff] at entries
      rw [entries]
      rfl
  | some place =>
      rw [last, Option.map_some, eq_comm, Option.map_eq_some_iff] at entries
      obtain ⟨relation, isLast, there⟩ := entries
      rw [isLast, Option.bind_some, there]

theorem isSome_relation?_iff {catalog : Catalog} {id : RelationId} :
    (catalog.relation? id).isSome = true ↔ id ∈ catalog.relations.map (·.id) := by
  rw [relation?_eq_getLast?, List.getLast?_isSome, ne_eq, List.filter_eq_nil_iff]
  simp

theorem mem_of_relation? {catalog : Catalog} {id : RelationId} {relation : Relation}
    (found : catalog.relation? id = some relation) :
    relation ∈ catalog.relations ∧ relation.id = id := by
  rw [relation?_eq_getLast?] at found
  simpa using List.mem_filter.mp (List.mem_of_getLast? found)

/-- Every place that the index holds for a child is the place of a key from it. -/
theorem map_keysByChild (catalog : Catalog) (child : RelationId) :
    ((catalog.keysByChild.get? child).getD []).map (catalog.foreignKeys[·]?) =
      (catalog.foreignKeys.filter (·.child == child)).map some := by
  rw [catalog.keysIndexed, ForeignKey.getD_placesByChild, map_placesWhere]

theorem keysBetween_eq_filter (catalog : Catalog) (child parent : RelationId) :
    catalog.keysBetween child parent =
      if (catalog.relation? child).isSome && (catalog.relation? parent).isSome then
        catalog.foreignKeys.filter fun key => key.child == child && key.parent == parent
      else [] := by
  have fromChild := congrArg (List.filterMap id) (catalog.map_keysByChild child)
  simp only [List.filterMap_map, Function.id_comp] at fromChild
  simp [keysBetween, fromChild, List.filter_filter, Bool.and_comm]

end Catalog

end NestedQuery
