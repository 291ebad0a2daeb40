import NestedQuery.Naming

/-! How a database stores identifiers: in which letter case a name without quotes is kept, and when
a stored name has to be quoted to be read back unchanged. -/

namespace NestedQuery

inductive CaseRule where
  | storedLower
  | storedUpper
  | storedMixed
  | sensitive
  deriving DecidableEq, Repr, Inhabited

namespace CaseRule

def normalize (rule : CaseRule) (name : String) : String :=
  if Naming.isQuoted name then name
  else match rule with
    | storedLower => Text.lower name
    | storedUpper => Text.upper name
    | storedMixed | sensitive => name

def isBareChar : CaseRule → Char → Bool
  | storedLower, c => c.isLower || c == '_'
  | storedUpper, c => c.isUpper || c == '_'
  | storedMixed, _ | sensitive, _ => false

/-- Whether the database reads the name without quotes as the name itself. -/
def isBare (rule : CaseRule) (name : List Char) : Bool :=
  !name.isEmpty && name.head? != some '_' && name.all rule.isBareChar

def quote (rule : CaseRule) (name : String) : String :=
  if Naming.isQuoted name || rule.isBare name.toList then name
  else "\"" ++ name ++ "\""

end CaseRule

end NestedQuery
