import NestedQuery.Catalog.Document
import NestedQuery.Document.JsonParse
import NestedQuery.Files.Access
import NestedQuery.Files.Path
import NestedQuery.SchemaDump.Statement
import NestedQuery.Spec.Document
import NestedQuery.Yaml.Parse

/-! Catalogs and query groups from the texts of files. -/

namespace NestedQuery

inductive SpecFormat where
  | json
  | yaml
  deriving DecidableEq, Repr

def SpecFormat.ofPath? (path : String) : Option SpecFormat :=
  match (Files.extension? path).map Text.lower with
  | some "json" => some json
  | some "yaml" | some "yml" => some yaml
  | _ => none

inductive LoadError where
  | unreadable (path : String) (fault : Files.Fault)
  | invalid (format : SpecFormat)
  | invalidDump (error : SchemaDump.DumpError)
  | unknownFormat (path : String)
  deriving DecidableEq, Repr

def LoadError.message : LoadError → String
  | unreadable path fault => "Failed to read " ++ path ++ ": " ++ fault.message
  | invalid .json => "Invalid JSON"
  | invalid .yaml => "Invalid YAML"
  | invalidDump error => "Invalid DDL: " ++ error.message
  | unknownFormat path =>
      "Unknown file format: " ++ path ++ " (expected .json, .yaml or .yml)"

def Catalog.parse (text : String) : Except LoadError Catalog :=
  match (Json.parse text).bind Catalog.read with
  | some catalog => .ok catalog
  | none => .error (.invalid .json)

def QueryGroup.ofJson? (value : Json) : Option QueryGroup :=
  QueryGroup.read Json.view Json.view.depthLimit value

def QueryGroup.ofYaml? (document : Yaml.Document) : Option QueryGroup :=
  QueryGroup.read document.view document.view.depthLimit document.root

def QueryGroup.parse (format : SpecFormat) (text : String) : Except LoadError QueryGroup :=
  let read := match format with
    | .json => (Json.parse text).bind QueryGroup.ofJson?
    | .yaml => (Yaml.parse text).bind QueryGroup.ofYaml?
  match read with
  | some group => .ok group
  | none => .error (.invalid format)

namespace Files.Access

variable {m : Type → Type} [Monad m]

def readFor (access : Access m) (path : String) : m (Except LoadError String) := do
  return (← access.readText path).mapError (LoadError.unreadable path)

def loadCatalog (access : Access m) (path : String) : m (Except LoadError Catalog) := do
  return (← access.readFor path).bind Catalog.parse

def loadDump (access : Access m) (path : String) (product : Option String) :
    m (Except LoadError Catalog) := do
  return (← access.readFor path).bind fun text =>
    (SchemaDump.readCatalog text product).mapError LoadError.invalidDump

/-- The format is known by the path, before the file is read. -/
def loadQueries (access : Access m) (path : String) : m (Except LoadError QueryGroup) :=
  match SpecFormat.ofPath? path with
  | none => return .error (.unknownFormat path)
  | some format => do return (← access.readFor path).bind (QueryGroup.parse format)

end Files.Access

end NestedQuery
