import NestedQuery.Catalog.Basic
import NestedQuery.SchemaDump.ColumnType
import NestedQuery.SchemaDump.Token

/-! What a dump defines, before names are resolved: relations with the names of their key columns,
and declared foreign keys. The catalog is made from these once the whole dump is read. -/

namespace NestedQuery.SchemaDump

structure Definition where
  id : RelationId
  kind : RelationKind
  fields : List Field
  primaryKey : List String
  deriving DecidableEq, Repr

/-- A foreign key as it is declared. Without parent fields it refers to the parent's primary key. -/
structure KeyDeclaration where
  constraintName : Option String
  child : RelationId
  childFields : List String
  parent : RelationId
  parentFields : List String
  deriving DecidableEq, Repr

structure Draft where
  definitions : List Definition := []
  keys : List KeyDeclaration := []
  deriving DecidableEq, Repr

inductive Expectation where
  | tableEnd
  | references
  | referencedTable
  deriving DecidableEq, Repr

def Expectation.text : Expectation → String
  | tableEnd => "')' closing table definition"
  | references => "REFERENCES"
  | referencedTable => "referenced table name"

inductive DumpError where
  | expected (what : Expectation) (found : Option Token)
  | unknownProduct (name : String)
  deriving DecidableEq, Repr

def DumpError.message : DumpError → String
  | expected what found =>
      "Expected " ++ what.text ++ ", found " ++ (found.map Token.display).getD "Eof"
  | unknownProduct name => "Unknown database product: " ++ name

def updateField (name : String) (change : Field → Field) : List Field → List Field
  | [] => []
  | field :: rest =>
      if field.name = name then change field :: rest else field :: updateField name change rest

def numberKey : (count : Nat) → (names : List String) → List Field → List Field
  | _, [], fields => fields
  | count, name :: rest, fields =>
      numberKey (count + 1) rest <| updateField name
        (fun field => { field with primaryKeyPart := some (count + 1), nullable := some false })
        fields

def Definition.relation (definition : Definition) : Relation where
  id := definition.id
  kind := definition.kind
  fields := numberKey 0 definition.primaryKey definition.fields

namespace Draft

def add (draft : Draft) (definition : Definition) (keys : List KeyDeclaration) : Draft where
  definitions := draft.definitions ++ [definition]
  keys := draft.keys ++ keys

/-- The last definition of a relation is the one that counts. -/
def definition? (draft : Draft) (id : RelationId) : Option Definition :=
  draft.definitions.reverse.find? (·.id == id)

def replaceKey (id : RelationId) (names : List String) : List Definition → List Definition
  | [] => []
  | definition :: rest =>
      if definition.id = id then { definition with primaryKey := names } :: rest
      else definition :: replaceKey id names rest

def setPrimaryKey (draft : Draft) (id : RelationId) (names : List String) : Draft :=
  { draft with definitions := (replaceKey id names draft.definitions.reverse).reverse }

def addKey (draft : Draft) (key : KeyDeclaration) : Draft :=
  { draft with keys := draft.keys ++ [key] }

/-- The definition a key refers to. A parent without a schema may be one in the child's schema. -/
def parentOf? (draft : Draft) (key : KeyDeclaration) : Option Definition :=
  match draft.definition? key.parent with
  | some definition => some definition
  | none =>
      match key.parent.schema, key.child.schema with
      | none, some schema => draft.definition? ⟨some schema, key.parent.name⟩
      | _, _ => none

/-- The foreign key that a declaration means, unless its parent is unknown or the two sides differ
in length or are empty. -/
def resolveKey? (draft : Draft) (key : KeyDeclaration) : Option ForeignKey :=
  match draft.parentOf? key with
  | none => none
  | some parent =>
      let parentFields := if key.parentFields.isEmpty then parent.primaryKey else key.parentFields
      if parentFields.length ≠ key.childFields.length || parentFields.isEmpty then none
      else some
        { constraintName := key.constraintName
          child := key.child
          parent := parent.id
          pairs := List.zipWith KeyPair.mk key.childFields parentFields }

def sameReference (left right : ForeignKey) : Bool :=
  left.child == right.child && left.parent == right.parent && left.pairs == right.pairs

def foreignKeys (draft : Draft) : List ForeignKey :=
  (draft.keys.filterMap draft.resolveKey?).foldl
    (fun kept key => if kept.any (sameReference · key) then kept else kept ++ [key]) []

def defaultSchema (draft : Draft) : Option String := draft.definitions.findSome? (·.id.schema)

def catalog (draft : Draft) (product : Product) : Catalog :=
  Catalog.build draft.defaultSchema (draft.definitions.map Definition.relation) draft.foreignKeys
    product.caseRule product.displayName ""

end Draft

end NestedQuery.SchemaDump
