import NestedQuery.Catalog.Relation

/-! At which places of their lists the relations and the keys of a catalog stand, by relation id. -/

namespace NestedQuery

abbrev IdMap (α : Type) := List (RelationId × α)

namespace IdMap

variable {α : Type}

def get? (map : IdMap α) (id : RelationId) : Option α :=
  (map.find? (·.1 == id)).map (·.2)

def insert (map : IdMap α) (id : RelationId) (value : α) : IdMap α :=
  match map with
  | [] => [(id, value)]
  | entry :: rest =>
      if entry.1 = id then (id, value) :: rest else entry :: IdMap.insert rest id value

def push (map : IdMap (List α)) (id : RelationId) (value : α) : IdMap (List α) :=
  map.insert id ((map.get? id).getD [] ++ [value])

end IdMap

/-- The place of the relation with an id, of several the last one. -/
def Relation.placesById (relations : List Relation) : IdMap Nat :=
  relations.zipIdx.foldl (fun places entry => places.insert entry.1.id entry.2) []

def ForeignKey.placesByChild (keys : List ForeignKey) : IdMap (List Nat) :=
  keys.zipIdx.foldl (fun places entry => places.push entry.1.child entry.2) []

end NestedQuery
