/-! Relations, their fields, and the foreign keys between them. -/

namespace NestedQuery

structure RelationId where
  schema : Option String
  name : String
  deriving DecidableEq, Repr, Inhabited

def RelationId.display (id : RelationId) : String :=
  match id.schema with
  | some schema => schema ++ "." ++ id.name
  | none => id.name

abbrev TypeCode := Int

namespace TypeCode

def smallint : TypeCode := 5
def integer : TypeCode := 4
def bigint : TypeCode := -5
def real : TypeCode := 7
def double : TypeCode := 8
def numeric : TypeCode := 2
def decimal : TypeCode := 3
def char : TypeCode := 1
def varchar : TypeCode := 12
def date : TypeCode := 91
def time : TypeCode := 92
def timestamp : TypeCode := 93
def timestampWithTimeZone : TypeCode := 2014
def binary : TypeCode := -2
def varbinary : TypeCode := -3
def blob : TypeCode := 2004
def clob : TypeCode := 2005
def boolean : TypeCode := 16
def other : TypeCode := 1111

end TypeCode

structure Field where
  name : String
  typeCode : TypeCode
  databaseType : String
  length : Option Nat := none
  precision : Option Nat := none
  fractionalDigits : Option Nat := none
  nullable : Option Bool := none
  primaryKeyPart : Option Nat := none
  comment : Option String := none
  deriving DecidableEq, Repr, Inhabited

/-- A field counts as nullable unless it is known not to be. -/
def Field.isNullable (field : Field) : Bool := field.nullable.getD true

inductive RelationKind where
  | table
  | view
  | unknown
  deriving DecidableEq, Repr, Inhabited

structure Relation where
  id : RelationId
  kind : RelationKind := .table
  fields : List Field
  comment : Option String := none
  deriving DecidableEq, Repr, Inhabited

namespace Relation

def field? (relation : Relation) (name : String) : Option Field :=
  relation.fields.find? (·.name == name)

def primaryKey (relation : Relation) : List Field :=
  (relation.fields.filter (·.primaryKeyPart.isSome)).mergeSort fun left right =>
    left.primaryKeyPart.getD 0 ≤ right.primaryKeyPart.getD 0

end Relation

structure KeyPair where
  childField : String
  parentField : String
  deriving DecidableEq, Repr, Inhabited

structure ForeignKey where
  constraintName : Option String := none
  child : RelationId
  parent : RelationId
  pairs : List KeyPair
  deriving DecidableEq, Repr, Inhabited

namespace ForeignKey

def childFields (key : ForeignKey) : List String := key.pairs.map (·.childField)

def parentFields (key : ForeignKey) : List String := key.pairs.map (·.parentField)

def sortedNames (names : List String) : List String := names.mergeSort (· ≤ ·)

def dropRepeats : List String → List String
  | first :: second :: rest =>
      if first = second then dropRepeats (second :: rest)
      else first :: dropRepeats (second :: rest)
  | names => names

/-- The child fields of the key, each counted as often as it occurs, are the given names, each
counted once. -/
def hasChildFields (key : ForeignKey) (names : List String) : Bool :=
  sortedNames key.childFields == dropRepeats (sortedNames names)

end ForeignKey

end NestedQuery
