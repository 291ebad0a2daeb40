import NestedQuery.CommandLine.Run

/-! The program on the files of the machine. -/

namespace NestedQuery.CommandLine

def faultOf (error : IO.Error) : Files.Fault :=
  match error with
  | .noFileOrDirectory _ _ _ => .notFound
  | .alreadyExists _ _ _ => .alreadyExists
  | .inappropriateType _ code details => .other details code.toNat
  | .permissionDenied _ code details => .other details code.toNat
  | .resourceExhausted _ code details => .other details code.toNat
  | .invalidArgument _ code details => .other details code.toNat
  | other => .other (toString other) 0

def attempted {α : Type} (action : IO α) : IO (Except Files.Fault α) := do
  try
    return .ok (← action)
  catch error => return .error (faultOf error)

def readMachineText (path : String) : IO (Except Files.Fault String) := do
  match ← attempted (IO.FS.readBinFile path) with
  | .error fault => return .error fault
  | .ok content =>
      match String.fromUTF8? content with
      | some text => return .ok text
      | none => return .error .notText

/-- Only from a directory one can take a step that stays where it is. -/
def isMachineDirectory (path : String) : IO Bool := do
  match ← attempted (IO.FS.realPath (path ++ "/.")) with
  | .ok _ => return true
  | .error _ => return false

def machine : Files.Access IO where
  readText := readMachineText
  writeText path text := attempted (IO.FS.writeFile path text)
  makeDirectory path := attempted (IO.FS.createDir path)
  isDirectory := isMachineDirectory

end NestedQuery.CommandLine

open NestedQuery.CommandLine in
def main (arguments : List String) : IO UInt32 := do
  let outcome ← run machine arguments
  IO.print outcome.output
  match outcome.message with
  | some message => IO.eprintln message
  | none => pure ()
  return UInt32.ofNat outcome.exitCode
