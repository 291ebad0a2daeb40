import NestedQuery.Catalog.Relation
import NestedQuery.Naming

/-! Output specifications. A query names a table and the JSON properties to make of each of its
rows: fields and expressions, the properties of parent rows inlined, parent rows as nested objects,
and collections of child rows. -/

namespace NestedQuery

inductive NamingStyle where
  | asInDatabase
  | camelCase
  deriving DecidableEq, Repr, Inhabited

def NamingStyle.apply : NamingStyle → String → String
  | asInDatabase, name => name
  | camelCase, name => Naming.camelCase name

/-- The form of a query's result: a JSON object to each row, one row with an array of all objects,
or rows of plain columns. -/
inductive Representation where
  | objectRows
  | arrayRow
  | columnRows
  deriving DecidableEq, Repr, Inhabited

namespace Representation

def displayName : Representation → String
  | objectRows => "JSON_OBJECT_ROWS"
  | arrayRow => "JSON_ARRAY_ROW"
  | columnRows => "MULTI_COLUMN_ROWS"

def all : List Representation := [objectRows, arrayRow, columnRows]

end Representation

/-- What stands for the alias of the table in expressions, filters and orderings. -/
def aliasMark : String := "$$"

structure FieldSpec where
  field : Option String := none
  expression : Option String := none
  aliasMark : Option String := none
  property : Option String := none
  typeOverride : Option String := none
  deriving DecidableEq, Repr, Inhabited

structure RowCondition where
  sql : String
  parameters : List String := []
  aliasMark : Option String := none
  deriving DecidableEq, Repr, Inhabited

/-- How rows of related tables belong together: by the foreign key with the given child fields, or
by the only one where none are given, or by a join condition of its own. -/
structure Link where
  foreignKeyFields : Option (List String) := none
  customJoin : Option (List KeyPair) := none
  deriving DecidableEq, Repr, Inhabited

mutual
structure TableSpec where
  table : String
  fields : List FieldSpec := []
  inlineParents : List InlineParent := []
  referencedParents : List ReferencedParent := []
  childCollections : List ChildCollection := []
  condition : Option RowCondition := none

/-- A parent table whose properties become properties of the child's own object. -/
structure InlineParent where
  spec : TableSpec
  link : Link := {}
  optional : Bool := false

/-- A parent table whose row becomes a nested object. -/
structure ReferencedParent where
  name : String
  spec : TableSpec
  link : Link := {}
  optional : Bool := false

/-- A child table whose rows become an array of objects, or of bare values when unwrapped. -/
structure ChildCollection where
  name : String
  spec : TableSpec
  link : Link := {}
  filter : Option String := none
  unwrap : Option Bool := none
  orderBy : Option String := none
end

def ChildCollection.isUnwrapped (collection : ChildCollection) : Bool :=
  collection.unwrap.getD false

structure QuerySpec where
  name : String
  tableSpec : TableSpec
  representations : Option (List Representation) := none
  generateTypes : Option Bool := none
  naming : Option NamingStyle := none
  orderBy : Option String := none
  forUpdate : Option Bool := none

namespace QuerySpec

def wantedRepresentations (query : QuerySpec) : List Representation :=
  match query.representations with
  | some (first :: rest) => first :: rest
  | _ => [.objectRows]

def wantsTypes (query : QuerySpec) : Bool := query.generateTypes.getD true

def isForUpdate (query : QuerySpec) : Bool := query.forUpdate.getD false

end QuerySpec

structure QueryGroup where
  defaultSchema : Option String := none
  naming : NamingStyle := .camelCase
  unqualifiedSchemas : List String := []
  queries : List QuerySpec

inductive Related where
  | inlineParent (parent : InlineParent)
  | referencedParent (parent : ReferencedParent)
  | childCollection (collection : ChildCollection)

namespace Related

def spec : Related → TableSpec
  | inlineParent parent => parent.spec
  | referencedParent parent => parent.spec
  | childCollection collection => collection.spec

def link : Related → Link
  | inlineParent parent => parent.link
  | referencedParent parent => parent.link
  | childCollection collection => collection.link

/-- Whether the spec itself allows the related row to be absent: it is marked so, or a condition may
exclude it. A collection is never absent. -/
def markedOptional : Related → Bool
  | inlineParent parent => parent.optional || parent.spec.condition.isSome
  | referencedParent parent => parent.optional || parent.spec.condition.isSome
  | childCollection _ => false

def describe : Related → String
  | inlineParent parent => "inline parent '" ++ parent.spec.table ++ "'"
  | referencedParent parent => "parent '" ++ parent.spec.table ++ "'"
  | childCollection collection => "child collection '" ++ collection.name ++ "'"

end Related

def TableSpec.related (spec : TableSpec) : List Related :=
  spec.inlineParents.map .inlineParent ++ spec.referencedParents.map .referencedParent ++
    spec.childCollections.map .childCollection

mutual
def TableSpec.propertyCount : TableSpec → Nat
  | ⟨_, fields, inlineParents, referencedParents, childCollections, _⟩ =>
      fields.length + referencedParents.length + childCollections.length +
        inlinePropertyCount inlineParents
termination_by structural spec => spec

def inlinePropertyCount : List InlineParent → Nat
  | [] => 0
  | ⟨spec, _, _⟩ :: rest => spec.propertyCount + inlinePropertyCount rest
termination_by structural parents => parents
end

mutual
def TableSpec.parameters : TableSpec → List String
  | ⟨_, _, inlineParents, referencedParents, childCollections, condition⟩ =>
      (condition.map RowCondition.parameters).getD [] ++ inlineParameters inlineParents ++
        referencedParameters referencedParents ++ childParameters childCollections
termination_by structural spec => spec

def inlineParameters : List InlineParent → List String
  | [] => []
  | ⟨spec, _, _⟩ :: rest => spec.parameters ++ inlineParameters rest
termination_by structural parents => parents

def referencedParameters : List ReferencedParent → List String
  | [] => []
  | ⟨_, spec, _, _⟩ :: rest => spec.parameters ++ referencedParameters rest
termination_by structural parents => parents

def childParameters : List ChildCollection → List String
  | [] => []
  | ⟨_, spec, _, _, _, _⟩ :: rest => spec.parameters ++ childParameters rest
termination_by structural collections => collections
end

end NestedQuery
