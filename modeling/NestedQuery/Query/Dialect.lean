import NestedQuery.Query.Select
import NestedQuery.Spec.Basic
import NestedQuery.Text.CaseMap

/-! The expressions by which the database products make JSON objects and arrays. -/

namespace NestedQuery

inductive Dialect where
  | postgres
  | oracle
  deriving DecidableEq, Repr

namespace Dialect

def ofProduct? (productName : String) : Option Dialect :=
  let name := Text.lower productName
  if Text.contains name "postgres" then some postgres
  else if Text.contains name "oracle" then some oracle
  else none

/-- A column as a JSON value. The nested objects and arrays of one dialect are texts, which have to
be marked as JSON. -/
def columnValue (dialect : Dialect) (column : SelectEntry) (aliasName : String) : String :=
  let reference := aliasName ++ "." ++ column.outputName
  match dialect with
  | postgres => reference
  | oracle => if column.jsonValued then "treat(" ++ reference ++ " as json)" else reference

def property (dialect : Dialect) (aliasName : String) (column : SelectEntry) : String :=
  let name := "'" ++ column.propertyName ++ "'"
  match dialect with
  | postgres => name ++ ", " ++ dialect.columnValue column aliasName
  | oracle => name ++ " value " ++ dialect.columnValue column aliasName

def rowObject (dialect : Dialect) (columns : List SelectEntry) (aliasName : String) (indent : Nat) :
    String :=
  let properties := columns.map (dialect.property aliasName)
  let inner := Text.indent indent (",\n".intercalate properties)
  match dialect with
  | postgres => "jsonb_build_object(\n" ++ inner ++ "\n)"
  | oracle =>
      "json_object(\n" ++ inner ++ "\n" ++ Text.indent indent "returning clob" ++ "\n)"

def aggregate (dialect : Dialect) (value : String) (orderBy : Option String) (aliasName : String) :
    String :=
  let order := match orderBy with
    | some order => " order by " ++ Text.replace order aliasMark aliasName
    | none => ""
  match dialect with
  | postgres => "coalesce(jsonb_agg(" ++ value ++ order ++ "),'[]'::jsonb)"
  | oracle =>
      "treat(coalesce(json_arrayagg(" ++ value ++ order ++
        " returning clob), to_clob('[]')) as json)"

def rowObjects (dialect : Dialect) (columns : List SelectEntry) (orderBy : Option String)
    (aliasName : String) (indent : Nat) : String :=
  dialect.aggregate (dialect.rowObject columns aliasName indent) orderBy aliasName

def columnValues (dialect : Dialect) (column : SelectEntry) (orderBy : Option String)
    (aliasName : String) : String :=
  dialect.aggregate (dialect.columnValue column aliasName) orderBy aliasName

end Dialect

end NestedQuery
