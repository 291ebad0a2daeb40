import NestedQuery.Document.Json
import NestedQuery.Spec.Basic

/-! Query groups as documents: how they are read from any notation, and the JSON that states every
part of them. -/

namespace NestedQuery

variable {α : Type}

def namingNames : List (String × NamingStyle) :=
  [("AS_IN_DB", .asInDatabase), ("CAMELCASE", .camelCase)]

def representationNames : List (String × Representation) :=
  Representation.all.map fun representation => (representation.displayName, representation)

/-- A record without required parts may be nothing at all. -/
def FieldSpec.read (view : View α) : (depth : Nat) → α → Option FieldSpec
  | 0, value => if view.isEmpty value then some {} else none
  | _ + 1, value => do
      let members ← view.fields
        ["field", "expression", "withTableAliasAs", "jsonProperty", "generatedFieldType"] value
      return {
        field := ← view.optional members "field" view.text?
        expression := ← view.optional members "expression" view.text?
        aliasMark := ← view.optional members "withTableAliasAs" view.text?
        property := ← view.optional members "jsonProperty" view.text?
        typeOverride := ← view.optional members "generatedFieldType" view.text? }

def RowCondition.read (view : View α) : (depth : Nat) → α → Option RowCondition
  | 0, _ => none
  | depth + 1, value => do
      let members ← view.fields ["sql", "paramNames", "withTableAliasAs"] value
      return {
        sql := ← View.required members "sql" view.text?
        parameters := ← View.defaulted members "paramNames" [] (view.texts depth)
        aliasMark := ← view.optional members "withTableAliasAs" view.text? }

def readEquatedPair (view : View α) : (depth : Nat) → α → Option KeyPair
  | 0, _ => none
  | _ + 1, value => do
      let members ← view.fields ["childField", "parentPrimaryKeyField"] value
      return {
        childField := ← View.required members "childField" view.text?
        parentField := ← View.required members "parentPrimaryKeyField" view.text? }

def readCustomJoin (view : View α) : (depth : Nat) → α → Option (List KeyPair)
  | 0, _ => none
  | depth + 1, value => do
      let members ← view.fields ["equatedFields"] value
      View.required members "equatedFields" (view.list (readEquatedPair view) depth)

/-- The parts of a record that say how rows belong together; the key of the foreign key's fields
depends on the side from which it is seen. -/
def Link.read (view : View α) (fieldsKey : String) (depth : Nat) (members : List (String × α)) :
    Option Link := do
  return {
    foreignKeyFields := ← view.optional members fieldsKey (view.texts depth)
    customJoin := ← view.optional members "customJoinCondition" (readCustomJoin view depth) }

mutual
def TableSpec.read (view : View α) : (depth : Nat) → α → Option TableSpec
  | 0, _ => none
  | depth + 1, value => do
      let members ← view.fields
        ["table", "fieldExpressions", "inlineParentTables", "referencedParentTables",
          "childTableCollections", "recordCondition"] value
      return {
        table := ← View.required members "table" view.text?
        fields := ← View.defaulted members "fieldExpressions" []
          (view.list (FieldSpec.read view) depth)
        inlineParents := ← View.defaulted members "inlineParentTables" []
          (InlineParent.readAll view depth)
        referencedParents := ← View.defaulted members "referencedParentTables" []
          (ReferencedParent.readAll view depth)
        childCollections := ← View.defaulted members "childTableCollections" []
          (ChildCollection.readAll view depth)
        condition := ← view.optional members "recordCondition" (RowCondition.read view depth) }

def InlineParent.readAll (view : View α) : (depth : Nat) → α → Option (List InlineParent)
  | 0, value => if view.isEmpty value then some [] else none
  | depth + 1, value => do (← view.items? value).mapM (InlineParent.read view depth)

def InlineParent.read (view : View α) : (depth : Nat) → α → Option InlineParent
  | 0, _ => none
  | depth + 1, value => do
      let members ← view.fields
        ["tableJson", "viaForeignKeyFields", "customJoinCondition", "optional"] value
      return {
        spec := ← View.required members "tableJson" (TableSpec.read view depth)
        link := ← Link.read view "viaForeignKeyFields" depth members
        optional := ← View.defaulted members "optional" false view.bool? }

def ReferencedParent.readAll (view : View α) : (depth : Nat) → α → Option (List ReferencedParent)
  | 0, value => if view.isEmpty value then some [] else none
  | depth + 1, value => do (← view.items? value).mapM (ReferencedParent.read view depth)

def ReferencedParent.read (view : View α) : (depth : Nat) → α → Option ReferencedParent
  | 0, _ => none
  | depth + 1, value => do
      let members ← view.fields
        ["referenceName", "tableJson", "viaForeignKeyFields", "customJoinCondition", "optional"]
        value
      return {
        name := ← View.required members "referenceName" view.text?
        spec := ← View.required members "tableJson" (TableSpec.read view depth)
        link := ← Link.read view "viaForeignKeyFields" depth members
        optional := ← View.defaulted members "optional" false view.bool? }

def ChildCollection.readAll (view : View α) : (depth : Nat) → α → Option (List ChildCollection)
  | 0, value => if view.isEmpty value then some [] else none
  | depth + 1, value => do (← view.items? value).mapM (ChildCollection.read view depth)

def ChildCollection.read (view : View α) : (depth : Nat) → α → Option ChildCollection
  | 0, _ => none
  | depth + 1, value => do
      let members ← view.fields
        ["collectionName", "tableJson", "foreignKeyFields", "customJoinCondition", "filter",
          "unwrap", "orderBy"] value
      return {
        name := ← View.required members "collectionName" view.text?
        spec := ← View.required members "tableJson" (TableSpec.read view depth)
        link := ← Link.read view "foreignKeyFields" depth members
        filter := ← view.optional members "filter" view.text?
        unwrap := ← view.optional members "unwrap" view.bool?
        orderBy := ← view.optional members "orderBy" view.text? }
end

def QuerySpec.read (view : View α) : (depth : Nat) → α → Option QuerySpec
  | 0, _ => none
  | depth + 1, value => do
      let members ← view.fields
        ["queryName", "tableJson", "resultRepresentations", "generateResultTypes",
          "outputFieldNameDefault", "orderBy", "forUpdate"] value
      return {
        name := ← View.required members "queryName" view.text?
        tableSpec := ← View.required members "tableJson" (TableSpec.read view depth)
        representations := ← view.optional members "resultRepresentations"
          (view.list (view.choice representationNames) depth)
        generateTypes := ← view.optional members "generateResultTypes" view.bool?
        naming := ← view.optional members "outputFieldNameDefault"
          (view.choice namingNames depth)
        orderBy := ← view.optional members "orderBy" view.text?
        forUpdate := ← view.optional members "forUpdate" view.bool? }

def QueryGroup.read (view : View α) : (depth : Nat) → α → Option QueryGroup
  | 0, _ => none
  | depth + 1, value => do
      let members ← view.fields
        ["defaultSchema", "outputFieldNameDefault", "generateUnqualifiedNamesForSchemas",
          "querySpecs"] value
      return {
        defaultSchema := ← view.optional members "defaultSchema" view.text?
        naming := ← View.defaulted members "outputFieldNameDefault" .camelCase
          (view.choice namingNames depth)
        unqualifiedSchemas := ← View.defaulted members "generateUnqualifiedNamesForSchemas" []
          (view.texts depth)
        queries := ← View.required members "querySpecs" (view.list (QuerySpec.read view) depth) }

def NamingStyle.displayName : NamingStyle → String
  | asInDatabase => "AS_IN_DB"
  | camelCase => "CAMELCASE"

def FieldSpec.json (spec : FieldSpec) : Json :=
  .object
    [("field", .ofOption .text spec.field),
     ("expression", .ofOption .text spec.expression),
     ("withTableAliasAs", .ofOption .text spec.aliasMark),
     ("jsonProperty", .ofOption .text spec.property),
     ("generatedFieldType", .ofOption .text spec.typeOverride)]

def RowCondition.json (condition : RowCondition) : Json :=
  .object
    [("sql", .text condition.sql),
     ("paramNames", .ofTexts condition.parameters),
     ("withTableAliasAs", .ofOption .text condition.aliasMark)]

def equatedPairJson (pair : KeyPair) : Json :=
  .object [("childField", .text pair.childField), ("parentPrimaryKeyField", .text pair.parentField)]

def customJoinJson (pairs : List KeyPair) : Json :=
  .object [("equatedFields", .list (pairs.map equatedPairJson))]

def Link.members (link : Link) (fieldsKey : String) : List (String × Json) :=
  [(fieldsKey, .ofOption .ofTexts link.foreignKeyFields),
   ("customJoinCondition", .ofOption customJoinJson link.customJoin)]

mutual
def TableSpec.json : TableSpec → Json
  | ⟨table, fields, inlineParents, referencedParents, childCollections, condition⟩ =>
      .object
        [("table", .text table),
         ("fieldExpressions", .list (fields.map FieldSpec.json)),
         ("inlineParentTables", .list (InlineParent.jsonAll inlineParents)),
         ("referencedParentTables", .list (ReferencedParent.jsonAll referencedParents)),
         ("childTableCollections", .list (ChildCollection.jsonAll childCollections)),
         ("recordCondition", .ofOption RowCondition.json condition)]
termination_by structural spec => spec

def InlineParent.jsonAll : List InlineParent → List Json
  | [] => []
  | ⟨spec, link, optional⟩ :: rest =>
      .object ([("tableJson", spec.json)] ++ link.members "viaForeignKeyFields" ++
        [("optional", .bool optional)]) :: InlineParent.jsonAll rest
termination_by structural parents => parents

def ReferencedParent.jsonAll : List ReferencedParent → List Json
  | [] => []
  | ⟨name, spec, link, optional⟩ :: rest =>
      .object ([("referenceName", .text name), ("tableJson", spec.json)] ++
        link.members "viaForeignKeyFields" ++ [("optional", .bool optional)])
        :: ReferencedParent.jsonAll rest
termination_by structural parents => parents

def ChildCollection.jsonAll : List ChildCollection → List Json
  | [] => []
  | ⟨name, spec, link, filter, unwrap, orderBy⟩ :: rest =>
      .object ([("collectionName", .text name), ("tableJson", spec.json)] ++
        link.members "foreignKeyFields" ++
        [("filter", .ofOption .text filter),
         ("unwrap", .ofOption .bool unwrap),
         ("orderBy", .ofOption .text orderBy)]) :: ChildCollection.jsonAll rest
termination_by structural collections => collections
end

def QuerySpec.json (query : QuerySpec) : Json :=
  .object
    [("queryName", .text query.name),
     ("tableJson", query.tableSpec.json),
     ("resultRepresentations",
       .ofOption (fun forms => .list (forms.map fun form => .text form.displayName))
         query.representations),
     ("generateResultTypes", .ofOption .bool query.generateTypes),
     ("outputFieldNameDefault",
       .ofOption (fun style => .text (NamingStyle.displayName style)) query.naming),
     ("orderBy", .ofOption .text query.orderBy),
     ("forUpdate", .ofOption .bool query.forUpdate)]

def QueryGroup.json (group : QueryGroup) : Json :=
  .object
    [("defaultSchema", .ofOption .text group.defaultSchema),
     ("outputFieldNameDefault", .text group.naming.displayName),
     ("generateUnqualifiedNamesForSchemas", .ofTexts group.unqualifiedSchemas),
     ("querySpecs", .list (group.queries.map QuerySpec.json))]

end NestedQuery
