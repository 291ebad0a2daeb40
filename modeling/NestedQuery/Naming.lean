import NestedQuery.Text.CaseMap
import NestedQuery.Text.Search

/-! Names derived from names: table aliases from initials, fresh names beside taken ones, property
and type names in camel case, and names without their quotes. -/

namespace NestedQuery.Naming

open NestedQuery.Text

def initials (separator : Char) (name : String) : String :=
  String.ofList <| (pieces (· == separator) name.toList).flatMap fun
    | [] => []
    | first :: _ => lowerChar first

def numbered (base separator : String) (number : Nat) : String :=
  base ++ separator ++ toString number

/-- The base itself where it is free, otherwise the base with the least number from 1 on that makes
it free. One of the first `taken.length` numbers always does. -/
def fresh (base separator : String) (taken : List String) : String :=
  if base ∈ taken then
    let numbers := (List.range taken.length).map (· + 1)
    let found := numbers.find? fun number => numbered base separator number ∉ taken
    numbered base separator (found.getD (taken.length + 1))
  else base

def endsWord (c : Char) : Bool := c == '_' || c == ' ' || c == '-'

def words (name : List Char) : List (List Char) :=
  (pieces endsWord name).filter (!·.isEmpty)

def capitalized : List Char → List Char
  | [] => []
  | first :: rest => upperChar first ++ rest.flatMap lowerChar

def pascalCase (name : String) : String :=
  String.ofList ((words name.toList).flatMap capitalized)

def camelCase (name : String) : String :=
  match words name.toList with
  | [] => ""
  | first :: rest => String.ofList (lowerChars first ++ rest.flatMap capitalized)

def isQuotedChars (name : List Char) : Bool :=
  name.length ≥ 2 && name.head? == some '"' && name.getLast? == some '"'

def isQuoted (name : String) : Bool := isQuotedChars name.toList

def unquoted (name : String) : String :=
  if isQuoted name then String.ofList name.toList.tail.dropLast else name

end NestedQuery.Naming
