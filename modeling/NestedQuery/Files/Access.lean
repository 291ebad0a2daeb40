import NestedQuery.Files.Path

/-! What the program asks of a file system, and why a file system may refuse. -/

namespace NestedQuery.Files

inductive Fault where
  | notFound
  | alreadyExists
  | notDirectory
  | isDirectory
  | nameTooLong
  | notText
  | zeroInName
  | other (text : String) (code : Nat)
  deriving DecidableEq, Repr

def systemMessage (text : String) (code : Nat) : String :=
  text ++ " (os error " ++ toString code ++ ")"

def Fault.message : Fault → String
  | notFound => systemMessage "No such file or directory" 2
  | alreadyExists => systemMessage "File exists" 17
  | notDirectory => systemMessage "Not a directory" 20
  | isDirectory => systemMessage "Is a directory" 21
  | nameTooLong => systemMessage "File name too long" 36
  | notText => "stream did not contain valid UTF-8"
  | zeroInName => "file name contained an unexpected NUL byte"
  | other text code => systemMessage text code

structure Access (m : Type → Type) where
  readText : (path : String) → m (Except Fault String)
  writeText : (path : String) → (text : String) → m (Except Fault Unit)
  makeDirectory : (path : String) → m (Except Fault Unit)
  isDirectory : (path : String) → m Bool

namespace Access

variable {m : Type → Type} [Monad m]

def unlessDirectory (access : Access m) (path : String) (fault : Fault) :
    m (Except Fault Unit) := do
  return if ← access.isDirectory path then .ok () else .error fault

def ensureDirectory (access : Access m) (path : String) : m (Except Fault Unit) := do
  match ← access.makeDirectory path with
  | .ok () => return .ok ()
  | .error fault => access.unlessDirectory path fault

/-- Make a directory and, where that fails for want of its parent, the parent first. Each round
shortens the path, so the number of its steps is enough fuel. -/
def makeDirectoriesFrom (access : Access m) (path : String) :
    (fuel : Nat) → m (Except Fault Unit)
  | 0 => return .error .notFound
  | fuel + 1 =>
      if path.isEmpty then return .ok ()
      else do
        match ← access.makeDirectory path, parent? path with
        | .ok (), _ => return .ok ()
        | .error .notFound, none => return .error .notFound
        | .error .notFound, some parent =>
            match ← access.makeDirectoriesFrom parent fuel with
            | .ok () => access.ensureDirectory path
            | .error fault => return .error fault
        | .error fault, _ => access.unlessDirectory path fault

def makeDirectories (access : Access m) (path : String) : m (Except Fault Unit) :=
  access.makeDirectoriesFrom path ((steps path).length + 2)

end Access

end NestedQuery.Files
