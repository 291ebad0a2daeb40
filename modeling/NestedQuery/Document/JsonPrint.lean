import NestedQuery.Document.Json
import NestedQuery.Text.Quoted

/-! JSON as text: on one line without spaces, or with one item to a line. -/

namespace NestedQuery.Json

def escapeChar (c : Char) : List Char :=
  if c = '"' then ['\\', '"']
  else if c = '\\' then ['\\', '\\']
  else if c.toNat = 0x8 then ['\\', 'b']
  else if c.toNat = 0xC then ['\\', 'f']
  else if c = '\n' then ['\\', 'n']
  else if c = '\r' then ['\\', 'r']
  else if c = '\t' then ['\\', 't']
  else if c.toNat < 0x20 then
    ['\\', 'u', '0', '0', Text.hexDigit (c.toNat / 16), Text.hexDigit (c.toNat % 16)]
  else [c]

def printText (value : String) : String :=
  String.ofList ('"' :: value.toList.flatMap escapeChar ++ ['"'])

def printKey (key : Option String) : String := printText (key.getD "")

def printScalar : Json → String
  | null => "null"
  | bool true => "true"
  | bool false => "false"
  | int value => toString value
  | real literal => literal
  | text value => printText value
  | brokenText | list _ | record _ => "\"\""

mutual
def compact : Json → String
  | list items => "[" ++ ",".intercalate (compactItems items) ++ "]"
  | record members => "\x7b" ++ ",".intercalate (compactMembers members) ++ "\x7d"
  | scalar => printScalar scalar
termination_by structural value => value

def compactItems : List Json → List String
  | [] => []
  | item :: rest => compact item :: compactItems rest
termination_by structural items => items

def compactMembers : List (Option String × Json) → List String
  | [] => []
  | (key, value) :: rest => (printKey key ++ ":" ++ compact value) :: compactMembers rest
termination_by structural members => members
end

def lineStart (depth : Nat) : String := "\n" ++ String.ofList (List.replicate (2 * depth) ' ')

def printLines (opening closing : String) (depth : Nat) (items : List String) : String :=
  if items.isEmpty then opening ++ closing
  else opening ++ ",".intercalate (items.map (lineStart (depth + 1) ++ ·)) ++ lineStart depth
    ++ closing

mutual
def prettyAt (depth : Nat) : Json → String
  | list items => printLines "[" "]" depth (prettyItems (depth + 1) items)
  | record members => printLines "\x7b" "\x7d" depth (prettyMembers (depth + 1) members)
  | scalar => printScalar scalar
termination_by structural value => value

def prettyItems (depth : Nat) : List Json → List String
  | [] => []
  | item :: rest => prettyAt depth item :: prettyItems depth rest
termination_by structural items => items

def prettyMembers (depth : Nat) : List (Option String × Json) → List String
  | [] => []
  | (key, value) :: rest =>
      (printKey key ++ ": " ++ prettyAt depth value) :: prettyMembers depth rest
termination_by structural members => members
end

def pretty (value : Json) : String := prettyAt 0 value

end NestedQuery.Json
