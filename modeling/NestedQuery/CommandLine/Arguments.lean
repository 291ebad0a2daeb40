/-! What the arguments of the command line ask for. -/

namespace NestedQuery.CommandLine

inductive CatalogSource where
  | document (path : String)
  | dump (path : String) (product : Option String)
  deriving DecidableEq, Repr

structure Command where
  queries : String
  source : CatalogSource
  sqlDirectory : Option String := none
  typesFile : Option String := none
  verbose : Bool := false
  deriving DecidableEq, Repr

inductive Request where
  | run (command : Command)
  | version
  | help
  deriving DecidableEq, Repr

inductive Setting where
  | queries
  | document
  | dump
  | product
  | sqlDirectory
  | typesFile
  deriving DecidableEq, Repr

inductive Switch where
  | verbose
  | help
  | version
  deriving DecidableEq, Repr

inductive OptionKind where
  | setting (setting : Setting)
  | switch (switch : Switch)
  deriving DecidableEq, Repr

def longOptions : List (String × OptionKind) :=
  [("queries", .setting .queries), ("dbmd", .setting .document), ("ddl", .setting .dump),
   ("product", .setting .product), ("sql-dir", .setting .sqlDirectory),
   ("types-out", .setting .typesFile), ("verbose", .switch .verbose), ("help", .switch .help),
   ("version", .switch .version)]

def shortOptions : List (Char × OptionKind) :=
  [('q', .setting .queries), ('s', .setting .sqlDirectory), ('t', .setting .typesFile),
   ('v', .switch .verbose), ('h', .switch .help), ('V', .switch .version)]

structure Given where
  settings : List (Setting × String) := []
  verbose : Bool := false
  deriving DecidableEq, Repr

def Setting.accepts (setting : Setting) (value : String) : Bool :=
  setting == .product || !value.isEmpty

def Given.set (given : Given) (setting : Setting) (value : String) : Option Given :=
  if (given.settings.lookup setting).isSome || !setting.accepts value then none
  else some { given with settings := (setting, value) :: given.settings }

/-- An argument that starts with a dash is no value, unless it is only a dash. -/
def isOption (argument : List Char) : Bool :=
  match argument with
  | '-' :: _ :: _ => true
  | _ => false

inductive Step where
  | given (given : Given)
  | awaits (given : Given) (setting : Setting)
  | done (request : Request)
  deriving DecidableEq, Repr

def Given.flip (given : Given) : Switch → Option Step
  | .verbose => if given.verbose then none else some (.given { given with verbose := true })
  | .help => some (.done .help)
  | .version => some (.done .version)

def splitLong : List Char → List Char × Option (List Char)
  | [] => ([], none)
  | c :: rest =>
      if c = '=' then ([], some rest)
      else
        let (name, value) := splitLong rest
        (c :: name, value)

def readLong (given : Given) (argument : List Char) : Option Step :=
  let (name, value) := splitLong argument
  match longOptions.lookup (String.ofList name), value with
  | some (.setting setting), some value =>
      (given.set setting (String.ofList value)).map .given
  | some (.setting setting), none => some (.awaits given setting)
  | some (.switch switch), none => given.flip switch
  | some (.switch _), some _ => none
  | none, _ => none

def readShort (given : Given) : List Char → Option Step
  | [] => some (.given given)
  | letter :: rest =>
      match shortOptions.lookup letter with
      | none => none
      | some (.setting setting) =>
          match rest with
          | [] => some (.awaits given setting)
          | '=' :: value => (given.set setting (String.ofList value)).map .given
          | value => (given.set setting (String.ofList value)).map .given
      | some (.switch switch) =>
          match given.flip switch with
          | some (.given next) => readShort next rest
          | other => other

def Given.command? (given : Given) : Option Command := do
  let queries ← given.settings.lookup .queries
  let source ← match given.settings.lookup .document, given.settings.lookup .dump with
    | some path, none => some (CatalogSource.document path)
    | none, some path => some (CatalogSource.dump path (given.settings.lookup .product))
    | _, _ => none
  return {
    queries, source
    sqlDirectory := given.settings.lookup .sqlDirectory
    typesFile := given.settings.lookup .typesFile
    verbose := given.verbose }

/-- Read the arguments from left to right; `none` is a fault in their use. -/
def readArguments (given : Given) (awaited : Option Setting) : List String → Option Request
  | [] => if awaited.isSome then none else given.command?.map .run
  | argument :: rest =>
      let letters := argument.toList
      match awaited with
      | some setting =>
          if isOption letters then none
          else match given.set setting argument with
            | some next => readArguments next none rest
            | none => none
      | none =>
          match letters with
          | ['-', '-'] => if rest.isEmpty then given.command?.map .run else none
          | '-' :: '-' :: name => follow (readLong given name) rest
          | '-' :: letter :: more => follow (readShort given (letter :: more)) rest
          | _ => none
where
  follow (step : Option Step) (rest : List String) : Option Request :=
    match step with
    | none => none
    | some (.given next) => readArguments next none rest
    | some (.awaits next setting) => readArguments next (some setting) rest
    | some (.done request) => some request

def request? (arguments : List String) : Option Request := readArguments {} none arguments

end NestedQuery.CommandLine
