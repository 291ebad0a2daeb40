/-! What a reader of documents may ask of a value, whatever notation the document is written in, and
the readers of records, lists and fields that rest on these questions. A reader answers `none` for a
value that does not fit. -/

namespace NestedQuery

/-- The parts of a record: under their keys, where a key that is no text has none, or in the order
of their declaration. -/
inductive Members (α : Type) where
  | named (pairs : List (Option String × α))
  | positional (items : List α)

structure View (α : Type) where
  /-- How many lists and records may be open at once. -/
  depthLimit : Nat
  members? : α → Option (Members α)
  items? : α → Option (List α)
  /-- The value is nothing at all, which stands for an empty list or record. -/
  isEmpty : α → Bool
  text? : α → Option String
  bool? : α → Option Bool
  /-- One of a fixed set of names; the first argument is the depth still allowed. -/
  name? : Nat → α → Option String
  /-- Whether the value of an optional field says that there is none. -/
  absent? : α → Option Bool

namespace View

variable {α β : Type}

def pairKeys (pairs : List (Option String × α)) : Option (List (String × α)) :=
  pairs.mapM fun (key, value) => key.map (·, value)

/-- The known members of a record by their keys. Unknown keys do not count, and a known key that
occurs twice or an item beyond the last key makes the record unfit. -/
def fields (view : View α) (keys : List String) (value : α) : Option (List (String × α)) :=
  match view.members? value with
  | none => none
  | some (.named pairs) =>
      match pairKeys pairs with
      | none => none
      | some named =>
          let known := named.filter fun member => member.1 ∈ keys
          if (known.map (·.1)).Nodup then some known else none
  | some (.positional items) =>
      if items.length ≤ keys.length then some (keys.zip items) else none

def required (members : List (String × α)) (key : String) (read : α → Option β) : Option β :=
  match members.lookup key with
  | none => none
  | some value => read value

def defaulted (members : List (String × α)) (key : String) (default : β)
    (read : α → Option β) : Option β :=
  match members.lookup key with
  | none => some default
  | some value => read value

def optional (view : View α) (members : List (String × α)) (key : String)
    (read : α → Option β) : Option (Option β) :=
  match members.lookup key with
  | none => some none
  | some value =>
      match view.absent? value with
      | none => none
      | some true => some none
      | some false => (read value).map some

def list (view : View α) (read : Nat → α → Option β) : (depth : Nat) → α → Option (List β)
  | 0, value => if view.isEmpty value then some [] else none
  | depth + 1, value =>
      match view.items? value with
      | none => none
      | some items => items.mapM (read depth)

def texts (view : View α) (depth : Nat) (value : α) : Option (List String) :=
  view.list (fun _ => view.text?) depth value

def choice (view : View α) (names : List (String × β)) (depth : Nat) (value : α) : Option β :=
  match view.name? depth value with
  | none => none
  | some name => names.lookup name

end View

end NestedQuery
