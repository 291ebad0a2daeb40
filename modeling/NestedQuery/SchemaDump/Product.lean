import NestedQuery.Catalog.CaseRule

/-! The database products whose schema dumps are read, and how a dump shows its product. -/

namespace NestedQuery.SchemaDump

inductive Product where
  | auto
  | generic
  | postgres
  | oracle
  deriving DecidableEq, Repr, Inhabited

namespace Product

def ofName? (name : String) : Option Product :=
  match Text.lower name with
  | "auto" => some auto
  | "generic" => some generic
  | "postgres" | "postgresql" | "pg" => some postgres
  | "oracle" => some oracle
  | _ => none

/-- Signs of a product in the lower case text of a dump; the first that occurs decides. -/
def signs : List (String × Product) :=
  [("postgresql database dump", postgres), ("pg_dump", postgres), ("-- postgres", postgres),
   ("-- oracle", oracle), ("sqlplus", oracle), ("varchar2", oracle), ("number(", oracle),
   ("nvarchar2", oracle), ("clob", oracle), ("serial", postgres), ("timestamptz", postgres),
   ("jsonb", postgres), ("::text", postgres)]

def detect (dump : String) : Product :=
  let text := Text.lower dump
  match signs.find? fun sign => Text.contains text sign.1 with
  | some (_, product) => product
  | none => generic

def resolve (product : Product) (dump : String) : Product :=
  match product with
  | auto => detect dump
  | known => known

def displayName : Product → String
  | postgres => "PostgreSQL"
  | oracle => "Oracle"
  | auto | generic => "Generic SQL"

def caseRule : Product → CaseRule
  | oracle => .storedUpper
  | auto | generic | postgres => .storedLower

end Product

end NestedQuery.SchemaDump
