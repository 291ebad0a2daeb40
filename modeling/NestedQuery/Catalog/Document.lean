import NestedQuery.Catalog.Basic
import NestedQuery.Document.Json

/-! Catalogs as JSON documents. A document that is read gives a sorted catalog, and the parts of a
field that are not known are not written. -/

namespace NestedQuery

def caseRuleNames : List (String × CaseRule) :=
  [("INSENSITIVE_STORED_LOWER", .storedLower), ("INSENSITIVE_STORED_UPPER", .storedUpper),
   ("INSENSITIVE_STORED_MIXED", .storedMixed), ("SENSITIVE", .sensitive)]

def CaseRule.displayName : CaseRule → String
  | storedLower => "INSENSITIVE_STORED_LOWER"
  | storedUpper => "INSENSITIVE_STORED_UPPER"
  | storedMixed => "INSENSITIVE_STORED_MIXED"
  | sensitive => "SENSITIVE"

def CaseRule.read (depth : Nat) (value : Json) : Option CaseRule :=
  Json.view.choice caseRuleNames depth value

def relationKindNames : List (String × RelationKind) :=
  [("Table", .table), ("View", .view), ("Unknown", .unknown)]

def RelationKind.displayName : RelationKind → String
  | table => "Table"
  | view => "View"
  | unknown => "Unknown"

def RelationId.read : (depth : Nat) → Json → Option RelationId
  | 0, _ => none
  | _ + 1, value => do
      let members ← Json.view.fields ["schema", "name"] value
      return {
        schema := ← Json.view.optional members "schema" Json.text?
        name := ← View.required members "name" Json.text? }

def Field.read : (depth : Nat) → Json → Option Field
  | 0, _ => none
  | _ + 1, value => do
      let members ← Json.view.fields
        ["name", "jdbcTypeCode", "databaseType", "length", "precision", "fractionalDigits",
          "nullable", "primaryKeyPartNumber", "comment"] value
      return {
        name := ← View.required members "name" Json.text?
        typeCode := ← View.required members "jdbcTypeCode" Json.signed32?
        databaseType := ← View.required members "databaseType" Json.text?
        length := ← Json.view.optional members "length" Json.unsigned32?
        precision := ← Json.view.optional members "precision" Json.unsigned32?
        fractionalDigits := ← Json.view.optional members "fractionalDigits" Json.unsigned32?
        nullable := ← Json.view.optional members "nullable" Json.bool?
        primaryKeyPart := ← Json.view.optional members "primaryKeyPartNumber" Json.unsigned32?
        comment := ← Json.view.optional members "comment" Json.text? }

def Relation.read : (depth : Nat) → Json → Option Relation
  | 0, _ => none
  | depth + 1, value => do
      let members ← Json.view.fields ["relationId", "relationType", "fields", "comment"] value
      return {
        id := ← View.required members "relationId" (RelationId.read depth)
        kind := ← View.defaulted members "relationType" .table
          (Json.view.choice relationKindNames depth)
        fields := ← View.required members "fields" (Json.view.list Field.read depth)
        comment := ← Json.view.optional members "comment" Json.text? }

def KeyPair.read : (depth : Nat) → Json → Option KeyPair
  | 0, _ => none
  | _ + 1, value => do
      let members ← Json.view.fields ["foreignKeyFieldName", "primaryKeyFieldName"] value
      return {
        childField := ← View.required members "foreignKeyFieldName" Json.text?
        parentField := ← View.required members "primaryKeyFieldName" Json.text? }

def ForeignKey.read : (depth : Nat) → Json → Option ForeignKey
  | 0, _ => none
  | depth + 1, value => do
      let members ← Json.view.fields
        ["constraintName", "foreignKeyRelationId", "primaryKeyRelationId",
          "foreignKeyComponents"] value
      return {
        constraintName := ← Json.view.optional members "constraintName" Json.text?
        child := ← View.required members "foreignKeyRelationId" (RelationId.read depth)
        parent := ← View.required members "primaryKeyRelationId" (RelationId.read depth)
        pairs := ← View.required members "foreignKeyComponents"
          (Json.view.list KeyPair.read depth) }

def Catalog.readAt : (depth : Nat) → Json → Option Catalog
  | 0, _ => none
  | depth + 1, value => do
      let members ← Json.view.fields
        ["schemaName", "relationMetadatas", "foreignKeys", "caseSensitivity", "dbmsName",
          "dbmsVersion"] value
      return Catalog.build
        (← Json.view.optional members "schemaName" Json.text?)
        (← View.defaulted members "relationMetadatas" [] (Json.view.list Relation.read depth))
        (← View.defaulted members "foreignKeys" [] (Json.view.list ForeignKey.read depth))
        (← View.defaulted members "caseSensitivity" .storedLower (CaseRule.read depth))
        (← View.required members "dbmsName" Json.text?)
        (← View.defaulted members "dbmsVersion" "" Json.text?)

def Catalog.read (value : Json) : Option Catalog := Catalog.readAt Json.view.depthLimit value

def presentMember {α : Type} (key : String) (write : α → Json) (value : Option α) :
    List (String × Json) :=
  match value with
  | none => []
  | some present => [(key, write present)]

def RelationId.json (id : RelationId) : Json :=
  .object [("schema", .ofOption .text id.schema), ("name", .text id.name)]

def Field.json (field : Field) : Json :=
  .object (
    [("name", .text field.name),
     ("jdbcTypeCode", .int field.typeCode),
     ("databaseType", .text field.databaseType)] ++
    presentMember "length" .ofNat field.length ++
    presentMember "precision" .ofNat field.precision ++
    presentMember "fractionalDigits" .ofNat field.fractionalDigits ++
    presentMember "nullable" .bool field.nullable ++
    presentMember "primaryKeyPartNumber" .ofNat field.primaryKeyPart ++
    presentMember "comment" .text field.comment)

def Relation.json (relation : Relation) : Json :=
  .object (
    [("relationId", relation.id.json),
     ("relationType", .text relation.kind.displayName),
     ("fields", .list (relation.fields.map Field.json))] ++
    presentMember "comment" .text relation.comment)

def KeyPair.json (pair : KeyPair) : Json :=
  .object
    [("foreignKeyFieldName", .text pair.childField),
     ("primaryKeyFieldName", .text pair.parentField)]

def ForeignKey.json (key : ForeignKey) : Json :=
  .object (
    presentMember "constraintName" .text key.constraintName ++
    [("foreignKeyRelationId", key.child.json),
     ("primaryKeyRelationId", key.parent.json),
     ("foreignKeyComponents", .list (key.pairs.map KeyPair.json))])

def Catalog.json (catalog : Catalog) : Json :=
  .object
    [("schemaName", .ofOption .text catalog.schemaName),
     ("relationMetadatas", .list (catalog.relations.map Relation.json)),
     ("foreignKeys", .list (catalog.foreignKeys.map ForeignKey.json)),
     ("caseSensitivity", .text catalog.caseRule.displayName),
     ("dbmsName", .text catalog.productName),
     ("dbmsVersion", .text catalog.productVersion)]

end NestedQuery
