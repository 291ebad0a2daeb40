import NestedQuery.Query.BaseQuery
import NestedQuery.ResultType

/-! Query groups compiled to SQL, result types and parameter names. -/

namespace NestedQuery

structure GeneratedQuery where
  name : String
  /-- In the order of `Representation.all`. -/
  sqls : List (Representation × String)
  resultType : Option ResultType
  parameters : List String

namespace GeneratedQuery

def json (query : GeneratedQuery) : Json :=
  .object
    [("queryName", .text query.name),
      ("sqls", .object (query.sqls.map fun entry => (entry.1.displayName, .text entry.2))),
      ("resultType", .ofOption ResultType.json query.resultType),
      ("paramNames", .ofTexts query.parameters)]

end GeneratedQuery

inductive CompileError where
  | unsupportedProduct (name : String)
  | spec (error : SpecError)
  deriving DecidableEq, Repr

def CompileError.message : CompileError → String
  | unsupportedProduct name =>
      "unsupported database product '" ++ name ++ "', expected PostgreSQL or Oracle"
  | spec error => error.message

namespace Compiler

/-- The SQL of the wanted representations. The first that cannot be made decides the error. -/
def querySqls (compiler : Compiler) (query : QuerySpec) :
    Except SpecError (List (Representation × String)) := do
  let made ← query.wantedRepresentations.mapM fun representation => do
    return (representation, ← compiler.querySql query representation)
  return Representation.all.filterMap fun representation =>
    (made.lookup representation).map (representation, ·)

def typing (compiler : Compiler) : Typing :=
  { catalog := compiler.catalog, options := compiler.options }

def compileQuery (compiler : Compiler) (query : QuerySpec) : Except SpecError GeneratedQuery := do
  let sqls ← compiler.querySqls query
  let resultType ← if query.wantsTypes then
      some <$> compiler.typing.resultType query.tableSpec { query := query.name }
    else pure none
  return {
    name := query.name
    sqls
    resultType
    parameters := query.tableSpec.parameters.eraseDups }

end Compiler

def Catalog.dialect (catalog : Catalog) : Except CompileError Dialect :=
  match Dialect.ofProduct? catalog.productName with
  | some dialect => .ok dialect
  | none => .error (.unsupportedProduct catalog.productName)

def QueryGroup.compile (group : QueryGroup) (catalog : Catalog) :
    Except CompileError (List GeneratedQuery) := do
  let dialect ← catalog.dialect
  let options := Options.ofGroup group catalog
  group.queries.mapM fun query =>
    let compiler : Compiler := { catalog, dialect, options := options.forQuery query }
    (compiler.compileQuery query).mapError CompileError.spec

end NestedQuery
