import NestedQuery.Text.CaseMap
import NestedQuery.Text.Search

/-! Paths of files. A slash separates the steps of a path, and several slashes are as good as one.
-/

namespace NestedQuery.Files

def steps (path : String) : List String :=
  ((Text.pieces (· == '/') path.toList).filter (!·.isEmpty)).map String.ofList

def isAbsolute (path : String) : Bool := path.toList.head? == some '/'

def endsInSlash (path : String) : Bool := path.toList.getLast? == some '/'

/-- The steps of a path without those that stay where they are. Only at the start of a path such a
step counts. -/
def properSteps (path : String) : List String :=
  match steps path with
  | [] => []
  | first :: rest =>
      let moving := rest.filter (· != ".")
      if first == "." && isAbsolute path then moving else first :: moving

def parent? (path : String) : Option String :=
  let proper := properSteps path
  if proper.isEmpty then none
  else
    let joined := "/".intercalate proper.dropLast
    some (if isAbsolute path then "/" ++ joined else joined)

def join (directory name : String) : String :=
  if directory.isEmpty || endsInSlash directory then directory ++ name
  else directory ++ "/" ++ name

def fileName? (path : String) : Option String :=
  match (properSteps path).getLast? with
  | some name => if name == "." || name == ".." then none else some name
  | none => none

/-- What stands after the last dot of a file's name, unless the name has no other dot than a first.
-/
def extension? (path : String) : Option String :=
  match fileName? path with
  | none => none
  | some name =>
      match Text.cutAt '.' name.toList.reverse with
      | none => none
      | some (after, before) =>
          if before.isEmpty then none else some (String.ofList after.reverse)

end NestedQuery.Files
