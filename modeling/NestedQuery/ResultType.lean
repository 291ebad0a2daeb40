import NestedQuery.Query.Join
import NestedQuery.Query.Options
import NestedQuery.Document.Json
import NestedQuery.Catalog.Document

/-! The types of the values that queries make: a tree with a node for each table of the
specification, whose fields stand in the order of the columns of the table's base query. -/

namespace NestedQuery

mutual
structure ResultType where
  name : String
  fields : List ResultField
  /-- The values are those of the only field, and no objects. -/
  unwrapped : Bool := false

inductive ResultField where
  | database (name : String) (field : Field) (nullable : Bool) (typeOverride : Option String)
  | expression (name : String) (expression : String) (typeOverride : Option String)
  | childCollection (name : String) (type : ResultType) (nullable : Bool)
  | parentReference (name : String) (type : ResultType) (nullable : Bool)
end

namespace ResultField

def name : ResultField → String
  | database name .. | expression name .. | childCollection name .. | parentReference name .. =>
      name

def nullable? : ResultField → Option Bool
  | database _ _ nullable _ | childCollection _ _ nullable | parentReference _ _ nullable =>
      some nullable
  | expression .. => none

def madeNullable : ResultField → ResultField
  | database name field _ typeOverride => database name field true typeOverride
  | childCollection name type _ => childCollection name type true
  | parentReference name type _ => parentReference name type true
  | expression name sql typeOverride => expression name sql typeOverride

def isChildCollection : ResultField → Bool
  | childCollection .. => true
  | _ => false

def isParentReference : ResultField → Bool
  | parentReference .. => true
  | _ => false

end ResultField

mutual
def ResultType.json (type : ResultType) : Json :=
  match type with
  | ⟨name, fields, unwrapped⟩ =>
      .object
        [("typeName", .text name), ("fields", .list (ResultField.jsonAll fields)),
          ("unwrapped", .bool unwrapped)]
termination_by structural type

def ResultField.jsonAll (fields : List ResultField) : List Json :=
  match fields with
  | [] => []
  | field :: rest => field.json :: ResultField.jsonAll rest
termination_by structural fields

def ResultField.json (field : ResultField) : Json :=
  match field with
  | .database name field nullable typeOverride =>
      .object
        [("kind", .text "database"), ("name", .text name), ("field", field.json),
          ("nullable", .bool nullable), ("typeOverride", .ofOption .text typeOverride)]
  | .expression name sql typeOverride =>
      .object
        [("kind", .text "expression"), ("name", .text name), ("expression", .text sql),
          ("typeOverride", .ofOption .text typeOverride)]
  | .childCollection name type nullable =>
      .object
        [("kind", .text "childCollection"), ("name", .text name), ("generatedType", type.json),
          ("nullable", .bool nullable)]
  | .parentReference name type nullable =>
      .object
        [("kind", .text "parentReference"), ("name", .text name), ("generatedType", type.json),
          ("nullable", .bool nullable)]
termination_by structural field
end

structure Typing where
  catalog : Catalog
  options : Options

namespace Typing

def findRelation (typing : Typing) (table : String) (location : Location) :
    Except SpecError Relation :=
  typing.catalog.findRelation table typing.options.defaultSchema location

def nativeField (typing : Typing) (relation : Relation) (location : Location)
    (spec : FieldSpec) : Except SpecError ResultField := do
  let name ← spec.propertyName typing.options.naming location
  match spec.field, spec.expression with
  | some fieldName, none => do
      let field ← typing.catalog.findField relation fieldName location
      return .database name field field.isNullable spec.typeOverride
  | none, some expression => return .expression name expression spec.typeOverride
  | _, _ => location.reject .fieldOrExpression

/-- A child row may lack its parent row if the link is optional or the parent's rows are restricted,
or else if no join field is known not to be null. -/
def parentMayBeAbsent (typing : Typing) (related : Related) (child : Relation)
    (location : Location) : Except SpecError Bool :=
  if related.markedOptional then .ok true
  else do
    let parent ← typing.findRelation related.spec.table location
    let pairs ← typing.catalog.joinPairs related.link child parent location
    return joinMayFail child pairs

def collectionType (type : ResultType) (unwrap : Bool) (table : String) (location : Location) :
    Except SpecError ResultType :=
  if unwrap then
    match type.fields with
    | [_] => .ok { type with unwrapped := true }
    | fields => location.reject (.notUnwrappable table fields.length)
  else .ok type

mutual
def resultType (typing : Typing) (spec : TableSpec) (location : Location) :
    Except SpecError ResultType :=
  match spec with
  | ⟨table, fields, inlineParents, referencedParents, childCollections, _⟩ => do
      let relation ← typing.findRelation table location
      let plain ← fields.mapM (typing.nativeField relation (location.enterTable table))
      let inlined ← inlinedFields typing relation location inlineParents
      let referenced ← referencedFields typing relation location referencedParents
      let children ← collectionFields typing location childCollections
      return {
        name := Naming.pascalCase relation.id.name
        fields := plain ++ inlined ++ referenced ++ children }
termination_by structural spec

def inlinedFields (typing : Typing) (child : Relation) (location : Location)
    (parents : List InlineParent) : Except SpecError (List ResultField) :=
  match parents with
  | [] => .ok []
  | ⟨spec, link, optional⟩ :: rest => do
      let related := Related.inlineParent ⟨spec, link, optional⟩
      let inside := location.enter related.describe
      let type ← resultType typing spec inside
      let absent ← typing.parentMayBeAbsent related child inside
      let fields := if absent then type.fields.map ResultField.madeNullable else type.fields
      let others ← inlinedFields typing child location rest
      return fields ++ others
termination_by structural parents

def referencedFields (typing : Typing) (child : Relation) (location : Location)
    (parents : List ReferencedParent) : Except SpecError (List ResultField) :=
  match parents with
  | [] => .ok []
  | ⟨name, spec, link, optional⟩ :: rest => do
      let related := Related.referencedParent ⟨name, spec, link, optional⟩
      let inside := location.enter related.describe
      let type ← resultType typing spec inside
      let absent ← typing.parentMayBeAbsent related child inside
      let others ← referencedFields typing child location rest
      return .parentReference name type absent :: others
termination_by structural parents

def collectionFields (typing : Typing) (location : Location)
    (collections : List ChildCollection) : Except SpecError (List ResultField) :=
  match collections with
  | [] => .ok []
  | ⟨name, spec, link, filter, unwrap, orderBy⟩ :: rest => do
      let collection : ChildCollection := ⟨name, spec, link, filter, unwrap, orderBy⟩
      let inside := location.enter (Related.childCollection collection).describe
      let rows ← resultType typing spec inside
      let type ← collectionType rows collection.isUnwrapped spec.table inside
      let others ← collectionFields typing location rest
      return .childCollection name type false :: others
termination_by structural collections
end

end Typing

end NestedQuery
