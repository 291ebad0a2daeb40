import NestedQuery.Document.View
import NestedQuery.Yaml.Token

/-! YAML documents, and how specifications are read from them. -/

namespace NestedQuery.Yaml

inductive Node where
  | scalar (text : String) (style : ScalarStyle) (tag : Option String)
  | sequence (items : List Node)
  | mapping (pairs : List (Node × Node))
  /-- A node that stands elsewhere, by the number of its anchor. -/
  | aliasOf (anchor : Nat)

namespace Node

def empty : Node := scalar "" .plain none

end Node

structure Document where
  root : Node
  /-- The nodes under the numbers of their anchors, the one that counts first. -/
  anchored : List (Nat × Node)

def coreTag (name : String) : String := "tag:yaml.org,2002:" ++ name

def nullWords : List String := ["null", "Null", "NULL", "~"]

def boolWords : List (String × Bool) :=
  [("true", true), ("True", true), ("TRUE", true), ("false", false), ("False", false),
   ("FALSE", false)]

namespace Document

def follow (document : Document) : Node → Node
  | .aliasOf anchor => (document.anchored.lookup anchor).getD .empty
  | node => node

def text? (document : Document) (node : Node) : Option String :=
  match document.follow node with
  | .scalar text _ _ => some text
  | _ => none

def isEmpty (document : Document) (node : Node) : Bool :=
  match document.follow node with
  | .scalar "" .plain _ => true
  | _ => false

def items? (document : Document) (node : Node) : Option (List Node) :=
  match document.follow node with
  | .sequence items => some items
  | .scalar "" .plain _ => some []
  | _ => none

def members? (document : Document) (node : Node) : Option (Members Node) :=
  match document.follow node with
  | .mapping pairs => some (.named (pairs.map fun (key, value) => (document.text? key, value)))
  | .scalar "" .plain _ => some (.named [])
  | _ => none

/-- A boolean is a plain word, or a literal scalar with the tag of booleans. -/
def bool? (document : Document) (node : Node) : Option Bool :=
  match document.follow node with
  | .scalar text .plain _ => boolWords.lookup text
  | .scalar text .literal tag => if tag = some (coreTag "bool") then boolWords.lookup text else none
  | _ => none

def isNullText (text : String) : Bool := text.isEmpty || nullWords.contains text

/-- An optional value is absent where a plain scalar says so. Under the tag of nulls nothing else
may stand. -/
def absent? (document : Document) (node : Node) : Option Bool :=
  match document.follow node with
  | .scalar text .plain none => some (isNullText text)
  | .scalar text .plain (some tag) =>
      if tag = coreTag "null" then (if nullWords.contains text then some true else none)
      else some false
  | _ => some false

def localName? (tag : String) : Option String :=
  match tag.toList with
  | ['!'] => some "!"
  | '!' :: name => some (String.ofList name)
  | _ => none

def name? (document : Document) (node : Node) : Option String :=
  match document.follow node with
  | .scalar text style (some tag) =>
      match localName? tag with
      | some name => if style = .plain && isNullText text then some name else none
      | none => some text
  | .scalar text _ none => some text
  | _ => none

def view (document : Document) : View Node where
  depthLimit := 128
  members? := document.members?
  items? := document.items?
  isEmpty := document.isEmpty
  text? := document.text?
  bool? := document.bool?
  name? := fun _ => document.name?
  absent? := document.absent?

end Document

end NestedQuery.Yaml
