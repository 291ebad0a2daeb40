import NestedQuery.CommandLine.Arguments
import NestedQuery.Compile
import NestedQuery.Document.JsonPrint
import NestedQuery.Load
import NestedQuery.Text.Letter

/-! The program behind the command line, over any file system: read the catalog and the queries,
compile them, and write SQL and result types. The first step that fails ends the run. -/

namespace NestedQuery.CommandLine

structure Outcome where
  exitCode : Nat
  output : String := ""
  message : Option String := none
  deriving DecidableEq, Repr

def versionText : String := "sqljson 0.1.0\n"

def helpText : String :=
  Text.joinLines
    ["Generate SQL/JSON queries and result types from query specs",
     "",
     "Usage: sqljson [OPTIONS] --queries <QUERIES>",
     "",
     "Options:",
     "  -q, --queries <QUERIES>      Query group spec (.json, .yaml or .yml)",
     "      --dbmd <DBMD>            Database metadata JSON document",
     "      --ddl <DDL>              SQL schema dump to read database metadata from",
     "      --product <PRODUCT>      Database product of the schema dump: postgres, oracle, " ++
       "generic (default: detect)",
     "  -s, --sql-dir <SQL_DIR>      Directory for generated SQL files (default: print to stdout)",
     "  -t, --types-out <TYPES_OUT>  Output file for generated result types as JSON",
     "  -v, --verbose                Log debug output",
     "  -h, --help                   Print help",
     "  -V, --version                Print version",
     ""]

def fileChar (c : Char) : Char :=
  if Text.isLetterOrNumeral c || c == '-' || c == '_' then c else '-'

def fileSuffix : Representation → String
  | .objectRows => "-json-object-rows"
  | .arrayRow => "-json-array-row"
  | .columnRows => "-multi-column-rows"

/-- The file of one SQL text. Where a query has several, each names its representation. -/
def sqlFileName (queryName : String) (representation : Representation) (several : Bool) :
    String :=
  let base := String.ofList (queryName.toList.map fileChar)
  let suffix := if several then fileSuffix representation else ""
  base ++ suffix ++ ".sql"

def sqlFiles (query : GeneratedQuery) : List (String × String) :=
  query.sqls.map fun (representation, sql) =>
    (sqlFileName query.name representation (1 < query.sqls.length), sql ++ "\n")

def printedSql (query : GeneratedQuery) : String :=
  String.join (query.sqls.map fun (representation, sql) =>
    "-- [" ++ query.name ++ "] " ++ representation.displayName ++ "\n" ++ sql ++ ";\n\n")

def typesText (queries : List GeneratedQuery) : String :=
  Json.pretty (.list (queries.filterMap fun query =>
    query.resultType.map fun type => .list [.text query.name, type.json]))

section

variable {m : Type → Type} [Monad m]

def loadSource (access : Files.Access m) : CatalogSource → m (Except LoadError Catalog)
  | .document path => access.loadCatalog path
  | .dump path product => access.loadDump path product

def writeFiles (access : Files.Access m) (directory : String) :
    List (String × String) → m (Except Files.Fault Unit)
  | [] => return .ok ()
  | (name, text) :: rest => do
      match ← access.writeText (Files.join directory name) text with
      | .error fault => return .error fault
      | .ok () => writeFiles access directory rest

def writeSql (access : Files.Access m) (directory : String) (queries : List GeneratedQuery) :
    m (Except Files.Fault Unit) := do
  match ← access.makeDirectories directory with
  | .error fault => return .error fault
  | .ok () => writeFiles access directory (queries.flatMap sqlFiles)

def failure (output message : String) : Outcome :=
  { exitCode := 1, output, message := some message }

def writeTypes (access : Files.Access m) (command : Command) (queries : List GeneratedQuery)
    (output : String) : m Outcome := do
  match command.typesFile with
  | none => return { exitCode := 0, output }
  | some path =>
      match ← access.writeText path (typesText queries) with
      | .error fault => return failure output ("Failed to write " ++ path ++ ": " ++ fault.message)
      | .ok () => return { exitCode := 0, output }

def writeQueries (access : Files.Access m) (command : Command) (queries : List GeneratedQuery) :
    m Outcome := do
  match command.sqlDirectory with
  | none => writeTypes access command queries (String.join (queries.map printedSql))
  | some directory =>
      match ← writeSql access directory queries with
      | .error fault =>
          return failure ""
            ("Failed to write SQL files to " ++ directory ++ ": " ++ fault.message)
      | .ok () => writeTypes access command queries ""

def runCommand (access : Files.Access m) (command : Command) : m Outcome := do
  match ← loadSource access command.source with
  | .error error => return failure "" ("Failed to load database metadata: " ++ error.message)
  | .ok catalog =>
      match ← access.loadQueries command.queries with
      | .error error =>
          return failure "" ("Failed to load " ++ command.queries ++ ": " ++ error.message)
      | .ok group =>
          match group.compile catalog with
          | .error error => return failure "" ("Compile error: " ++ error.message)
          | .ok queries => writeQueries access command queries

/-- Run the program. A fault in the use of the arguments is told from all other faults by its exit
code. -/
def run (access : Files.Access m) (arguments : List String) : m Outcome :=
  match request? arguments with
  | none => return { exitCode := 2, message := some "invalid arguments" }
  | some .version => return { exitCode := 0, output := versionText }
  | some .help => return { exitCode := 0, output := helpText }
  | some (.run command) => runCommand access command

end

end NestedQuery.CommandLine
