import NestedQuery.Catalog.Relation
import NestedQuery.SchemaDump.Product

/-! Declared column types, such as `varchar(50)` or `NUMBER(10,2)`, and the type codes and stored
type names that each product gives them. -/

namespace NestedQuery.SchemaDump

open NestedQuery.Text

structure ColumnType where
  code : TypeCode
  databaseType : String
  length : Option Nat := none
  precision : Option Nat := none
  fractionalDigits : Option Nat := none
  deriving DecidableEq, Repr

def digitValue (c : Char) : Nat := c.toNat - 0x30

def decimalValue (digits : List Char) : Nat :=
  digits.foldl (fun value digit => value * 10 + digitValue digit) 0

def unsigned? (text : List Char) : Option Nat :=
  let digits := match text with
    | '+' :: digits => digits
    | digits => digits
  if !digits.isEmpty && digits.all Char.isDigit && decimalValue digits < 0x100000000 then
    some (decimalValue digits)
  else none

/-- The name and the numeric arguments of a declared type. What follows the arguments belongs to the
name, as in `timestamp(3) with time zone`. -/
def splitArguments (declared : List Char) : List Char × List Nat :=
  match cutAt '(' declared with
  | none => (trim declared, [])
  | some (before, inside) =>
      if before.contains ')' then (trim declared, [])
      else match cutAt ')' inside with
        | none => (trim declared, [])
        | some (arguments, after) =>
            (trim (trim before ++ ' ' :: trim after),
             (pieces (· == ',') arguments).filterMap fun argument => unsigned? (trim argument))

abbrev TypeTable := List (List String × TypeCode × String)

def postgresTypes : TypeTable :=
  [(["int", "int4", "integer", "serial", "serial4"], .integer, "int4"),
   (["bigint", "int8", "bigserial", "serial8"], .bigint, "int8"),
   (["smallint", "int2", "smallserial", "serial2"], .smallint, "int2"),
   (["real", "float4"], .real, "float4"),
   (["double precision", "float8", "float"], .double, "float8"),
   (["decimal", "numeric"], .numeric, "numeric"),
   (["varchar", "character varying"], .varchar, "varchar"),
   (["char", "character", "bpchar"], .char, "bpchar"),
   (["text"], .varchar, "text"),
   (["timestamp", "timestamp without time zone"], .timestamp, "timestamp"),
   (["timestamptz", "timestamp with time zone"], .timestampWithTimeZone, "timestamptz"),
   (["date"], .date, "date"),
   (["time", "time without time zone"], .time, "time"),
   (["boolean", "bool"], .boolean, "bool"),
   (["bytea"], .binary, "bytea"),
   (["json"], .other, "json"),
   (["jsonb"], .other, "jsonb"),
   (["uuid"], .other, "uuid")]

/-- A date of this product carries a time of day. -/
def oracleTypes : TypeTable :=
  [(["number", "numeric", "decimal", "integer", "int", "smallint"], .numeric, "NUMBER"),
   (["float", "binary_double"], .double, "FLOAT"),
   (["binary_float"], .real, "BINARY_FLOAT"),
   (["varchar2", "varchar", "nvarchar2"], .varchar, "VARCHAR2"),
   (["char", "nchar"], .char, "CHAR"),
   (["clob", "nclob"], .clob, "CLOB"),
   (["blob"], .blob, "BLOB"),
   (["raw"], .varbinary, "RAW"),
   (["date"], .timestamp, "DATE"),
   (["timestamp"], .timestamp, "TIMESTAMP"),
   (["timestamp with time zone"], .timestampWithTimeZone, "TIMESTAMP WITH TIME ZONE")]

def genericTypes : TypeTable :=
  [(["int", "integer"], .integer, "integer"),
   (["bigint"], .bigint, "bigint"),
   (["smallint"], .smallint, "smallint"),
   (["real"], .real, "real"),
   (["float", "double", "double precision"], .double, "double"),
   (["decimal", "numeric"], .numeric, "numeric"),
   (["varchar", "character varying"], .varchar, "varchar"),
   (["char", "character"], .char, "char"),
   (["text", "clob"], .clob, "text"),
   (["timestamp", "datetime"], .timestamp, "timestamp"),
   (["date"], .date, "date"),
   (["time"], .time, "time"),
   (["boolean", "bool"], .boolean, "boolean"),
   (["blob"], .blob, "blob")]

def Product.types : Product → TypeTable
  | .postgres => postgresTypes
  | .oracle => oracleTypes
  | .auto | .generic => genericTypes

def Product.typeNamed (product : Product) (name : String) : TypeCode × String :=
  match product.types.find? fun entry => name ∈ entry.1 with
  | some (_, code, stored) => (code, stored)
  | none => (.other, name)

def TypeCode.takesLength (code : TypeCode) : Bool :=
  code ∈ [TypeCode.char, TypeCode.varchar, TypeCode.binary, TypeCode.varbinary]

def TypeCode.takesPrecision (code : TypeCode) : Bool :=
  code ∈ [TypeCode.numeric, TypeCode.decimal]

/-- The type of a declaration. A precision without a number of fractional digits has none of them.
-/
def Product.columnType (product : Product) (declared : String) : ColumnType :=
  let (name, arguments) := splitArguments (lowerChars declared.toList)
  let (code, databaseType) := product.typeNamed (String.ofList name)
  let first := arguments.head?
  let second := arguments.tail.head?
  if TypeCode.takesLength code then { code, databaseType, length := first }
  else if TypeCode.takesPrecision code then
    { code, databaseType, precision := first
      fractionalDigits := second <|> first.map fun _ => 0 }
  else { code, databaseType }

end NestedQuery.SchemaDump
