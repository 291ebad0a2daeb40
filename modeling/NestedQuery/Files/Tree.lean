import NestedQuery.Files.Access

/-! A directory with files and directories in it, as a value. Paths start in this directory, and
nothing outside of it can be reached. -/

namespace NestedQuery.Files

inductive Entry where
  | file (content : ByteArray)
  | directory

abbrev Place := List String

/-- The entries by their places. The directory itself has no entry. -/
structure Tree where
  entries : List (Place × Entry) := []

namespace Tree

def entry? (tree : Tree) (place : Place) : Option Entry :=
  if place.isEmpty then some .directory else tree.entries.lookup place

def put (tree : Tree) (place : Place) (entry : Entry) : Tree :=
  if (tree.entries.lookup place).isSome then
    { entries := tree.entries.map fun old => if old.1 == place then (place, entry) else old }
  else { entries := tree.entries ++ [(place, entry)] }

def maximalName : Nat := 255

def maximalPath : Nat := 4096

def enter (tree : Tree) (place : Place) : (steps : List String) → Except Fault Place
  | [] => .ok place
  | step :: rest =>
      if step == "." then tree.enter place rest
      else if step == ".." then
        if place.isEmpty then .error .notFound else tree.enter place.dropLast rest
      else if maximalName < step.utf8ByteSize then .error .nameTooLong
      else match tree.entry? (place ++ [step]) with
        | none => .error .notFound
        | some (.file _) => .error .notDirectory
        | some .directory => tree.enter (place ++ [step]) rest

/-- Where a path ends: at a directory that is passed on the way, or at a name in one. -/
inductive Target where
  | directory (place : Place)
  | name (place : Place) (name : String)

def target (tree : Tree) (path : String) : Except Fault Target :=
  if path.toList.contains (Char.ofNat 0) then .error .zeroInName
  else if path.isEmpty || isAbsolute path then .error .notFound
  else if maximalPath ≤ path.utf8ByteSize then .error .nameTooLong
  else
    let all := steps path
    match all.getLast? with
    | none => .ok (.directory [])
    | some last =>
        if last == "." || last == ".." then return .directory (← tree.enter [] all)
        else do
          let place ← tree.enter [] all.dropLast
          if maximalName < last.utf8ByteSize then .error .nameTooLong
          else return .name place last

def read (tree : Tree) (path : String) : Except Fault String := do
  match ← tree.target path with
  | .directory _ => .error .isDirectory
  | .name place name =>
      match tree.entry? (place ++ [name]) with
      | none => .error .notFound
      | some .directory => .error .isDirectory
      | some (.file content) =>
          if endsInSlash path then .error .notDirectory
          else match String.fromUTF8? content with
            | some text => .ok text
            | none => .error .notText

def write (tree : Tree) (path text : String) : Except Fault Tree := do
  match ← tree.target path with
  | .directory _ => .error .isDirectory
  | .name place name =>
      if endsInSlash path then .error .isDirectory
      else match tree.entry? (place ++ [name]) with
        | some .directory => .error .isDirectory
        | _ => return tree.put (place ++ [name]) (.file text.toUTF8)

def isDirectory (tree : Tree) (path : String) : Bool :=
  match tree.target path with
  | .error _ => false
  | .ok (.directory _) => true
  | .ok (.name place name) =>
      match tree.entry? (place ++ [name]) with
      | some .directory => true
      | _ => false

def makeDirectory (tree : Tree) (path : String) : Except Fault Tree := do
  match ← tree.target path with
  | .directory _ => .error .alreadyExists
  | .name place name =>
      match tree.entry? (place ++ [name]) with
      | some _ => .error .alreadyExists
      | none => return tree.put (place ++ [name]) .directory

def files (tree : Tree) : List (String × ByteArray) :=
  tree.entries.filterMap fun (place, entry) =>
    match entry with
    | .file content => some ("/".intercalate place, content)
    | .directory => none

def attempt (change : Tree → Except Fault Tree) : StateM Tree (Except Fault Unit) :=
  fun tree => match change tree with
    | .ok grown => (.ok (), grown)
    | .error fault => (.error fault, tree)

def access : Access (StateM Tree) where
  readText path := fun tree => (tree.read path, tree)
  writeText path text := attempt (·.write path text)
  makeDirectory path := attempt (·.makeDirectory path)
  isDirectory path := fun tree => (tree.isDirectory path, tree)

end Tree

end NestedQuery.Files
