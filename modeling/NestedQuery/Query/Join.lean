import NestedQuery.Catalog.Basic
import NestedQuery.Spec.Error

/-! How a specification's tables, fields and links are found in the catalog, and the join conditions
that the links mean. -/

namespace NestedQuery

namespace Catalog

def findRelation (catalog : Catalog) (table : String) (defaultSchema : Option String)
    (location : Location) : Except SpecError Relation :=
  let id := catalog.idFor table defaultSchema
  match catalog.relation? id with
  | some relation => .ok relation
  | none => location.fail (.unknownRelation id.display)

def findField (catalog : Catalog) (relation : Relation) (name : String) (location : Location) :
    Except SpecError Field :=
  match relation.field? (Naming.unquoted (catalog.normalize name)) with
  | some field => .ok field
  | none => location.fail (.unknownField relation.id.display name)

/-- The foreign key from child to parent: the first one with the given child fields, or the only one
where no fields are given. -/
def findForeignKey (catalog : Catalog) (child parent : RelationId)
    (fields : Option (List String)) : Except SpecCause ForeignKey :=
  let candidates := catalog.keysBetween child parent
  match fields with
  | some names =>
      let stored := names.map catalog.normalize
      match candidates.find? (·.hasChildFields stored) with
      | some key => .ok key
      | none => .error (.noForeignKeyWith child.display parent.display stored)
  | none =>
      match candidates with
      | [] => .error (.noForeignKey child.display parent.display)
      | [key] => .ok key
      | several =>
          .error (.severalForeignKeys child.display parent.display
            (several.map ForeignKey.childFields))

def customPair (catalog : Catalog) (child parent : Relation) (location : Location)
    (pair : KeyPair) : Except SpecError KeyPair := do
  let childField := catalog.normalize pair.childField
  let parentField := catalog.normalize pair.parentField
  let _ ← catalog.findField child childField location
  let _ ← catalog.findField parent parentField location
  return { childField, parentField }

def joinPairs (catalog : Catalog) (link : Link) (child parent : Relation) (location : Location) :
    Except SpecError (List KeyPair) :=
  match link.customJoin with
  | none =>
      match catalog.findForeignKey child.id parent.id link.foreignKeyFields with
      | .ok key => .ok key.pairs
      | .error cause => location.fail cause
  | some pairs =>
      if link.foreignKeyFields.isSome then location.reject .linkStatedTwice
      else if pairs.isEmpty then location.reject .emptyCustomJoin
      else pairs.mapM (catalog.customPair child parent location)

end Catalog

/-- The child row may lack a joined row, unless one of its join fields is known not to be null. -/
def joinMayFail (child : Relation) (pairs : List KeyPair) : Bool :=
  !pairs.any fun pair =>
    match child.field? pair.childField with
    | some field => field.nullable == some false
    | none => false

inductive Side where
  | parent
  | child
  deriving DecidableEq, Repr

structure Correlation where
  restricted : Side
  otherAlias : String
  pairs : List KeyPair
  deriving DecidableEq, Repr

def Correlation.childAlias (correlation : Correlation) (aliasName : String) : String :=
  match correlation.restricted with
  | .parent => correlation.otherAlias
  | .child => aliasName

def Correlation.parentAlias (correlation : Correlation) (aliasName : String) : String :=
  match correlation.restricted with
  | .parent => aliasName
  | .child => correlation.otherAlias

def equation (catalog : Catalog) (childAlias parentAlias mark : String) (pair : KeyPair) :
    String :=
  childAlias ++ "." ++ catalog.quote pair.childField ++ " = " ++ parentAlias ++ "." ++
    catalog.quote (mark ++ pair.parentField)

def Correlation.condition (correlation : Correlation) (catalog : Catalog)
    (aliasName mark : String) : String :=
  " and ".intercalate (correlation.pairs.map
    (equation catalog (correlation.childAlias aliasName) (correlation.parentAlias aliasName) mark))

end NestedQuery
