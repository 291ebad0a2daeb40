import NestedQuery.Document.View

/-! JSON values, with the members of records in the order in which they are written. -/

namespace NestedQuery

/-- A number with a fraction or an exponent is kept as it is written, and so is negative zero. A
text that holds half of a surrogate pair is no text that can be used, but may stand where it is not
looked at. -/
inductive Json where
  | null
  | bool (value : Bool)
  | int (value : Int)
  | real (literal : String)
  | text (value : String)
  | brokenText
  | list (items : List Json)
  | record (members : List (Option String × Json))
  deriving Inhabited

namespace Json

def object (members : List (String × Json)) : Json :=
  record (members.map fun (key, value) => (some key, value))

def ofOption {α : Type} (write : α → Json) : Option α → Json
  | none => null
  | some value => write value

def ofTexts (texts : List String) : Json := list (texts.map text)

def ofNat (value : Nat) : Json := int (Int.ofNat value)

def get? (value : Json) (key : String) : Option Json :=
  match value with
  | record members => (members.reverse.find? (·.1 == some key)).map (·.2)
  | _ => none

def isNull : Json → Bool
  | null => true
  | _ => false

def text? : Json → Option String
  | text value => some value
  | _ => none

def bool? : Json → Option Bool
  | bool value => some value
  | _ => none

def items? : Json → Option (List Json)
  | list items => some items
  | _ => none

def members? : Json → Option (Members Json)
  | record members => some (.named members)
  | list items => some (.positional items)
  | _ => none

/-- A name is a text, or a record with that one key and no value. -/
def name? (depth : Nat) : Json → Option String
  | text value => some value
  | record [(some key, null)] => if depth = 0 then none else some key
  | _ => none

def view : View Json where
  depthLimit := 127
  members? := members?
  items? := items?
  isEmpty := fun _ => false
  text? := text?
  bool? := bool?
  name? := name?
  absent? := fun value => some value.isNull

def signed32? (value : Json) : Option Int :=
  match value with
  | int number => if -0x80000000 ≤ number && number < 0x80000000 then some number else none
  | _ => none

def unsigned32? (value : Json) : Option Nat :=
  match value with
  | int number => if 0 ≤ number && number < 0x100000000 then some number.toNat else none
  | _ => none

end Json

end NestedQuery
