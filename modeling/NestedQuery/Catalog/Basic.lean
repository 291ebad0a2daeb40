import NestedQuery.Catalog.CaseRule
import NestedQuery.Catalog.Index

/-! The catalog of a database: its relations and foreign keys in a fixed order, and the lookups by
which queries are resolved against it. Lookups go by the places of relations and keys, which a
catalog holds along with its lists. -/

namespace NestedQuery

structure Catalog where
  schemaName : Option String
  relations : List Relation
  foreignKeys : List ForeignKey
  caseRule : CaseRule
  productName : String
  productVersion : String
  relationsById : IdMap Nat := Relation.placesById relations
  keysByChild : IdMap (List Nat) := ForeignKey.placesByChild foreignKeys
  relationsIndexed : relationsById = Relation.placesById relations := by rfl
  keysIndexed : keysByChild = ForeignKey.placesByChild foreignKeys := by rfl
  deriving DecidableEq, Repr

def ForeignKey.precedes (left right : ForeignKey) : Bool :=
  let ordering := (compare left.child.display right.child.display)
    |>.then (compare left.parent.display right.parent.display)
    |>.then (compareLex left.childFields right.childFields)
    |>.then (compareLex left.parentFields right.parentFields)
  ordering.isLE
where
  compareLex : List String → List String → Ordering
    | [], [] => .eq
    | [], _ :: _ => .lt
    | _ :: _, [] => .gt
    | first :: firsts, second :: seconds =>
        (compare first second).then (compareLex firsts seconds)

namespace Catalog

/-- Collect relations and keys. Both are sorted without changing the order of equal ones. -/
def build (schemaName : Option String) (relations : List Relation) (foreignKeys : List ForeignKey)
    (caseRule : CaseRule) (productName productVersion : String) : Catalog where
  schemaName := schemaName
  relations := relations.mergeSort fun left right => left.id.display ≤ right.id.display
  foreignKeys := foreignKeys.mergeSort ForeignKey.precedes
  caseRule := caseRule
  productName := productName
  productVersion := productVersion

def relation? (catalog : Catalog) (id : RelationId) : Option Relation :=
  (catalog.relationsById.get? id).bind (catalog.relations[·]?)

def keysBetween (catalog : Catalog) (child parent : RelationId) : List ForeignKey :=
  if (catalog.relation? child).isSome && (catalog.relation? parent).isSome then
    let places := (catalog.keysByChild.get? child).getD []
    (places.filterMap (catalog.foreignKeys[·]?)).filter (·.parent == parent)
  else []

def normalize (catalog : Catalog) (name : String) : String := catalog.caseRule.normalize name

def quote (catalog : Catalog) (name : String) : String := catalog.caseRule.quote name

/-- The id that a table name means: the name may state its schema before a dot, and otherwise is
looked for in the default schema or else in the catalog's own. -/
def idFor (catalog : Catalog) (table : String) (defaultSchema : Option String) : RelationId :=
  match Text.cutAt '.' table.toList with
  | some (schema, name) =>
      { schema := some (catalog.normalize (String.ofList schema))
        name := catalog.normalize (String.ofList name) }
  | none =>
      { schema := (defaultSchema <|> catalog.schemaName).map catalog.normalize
        name := catalog.normalize table }

end Catalog

end NestedQuery
