import NestedQuery.Query.Dialect
import NestedQuery.Query.Join
import NestedQuery.Query.Options

/-! The base query of a table specification selects its columns in a fixed order: the hidden key
where it is asked for, native fields, the fields of inlined parents, parent objects, child
collections. Inlined parents are derived tables, and the other related tables are nested queries
around base queries of their own. -/

namespace NestedQuery

structure Compiler where
  catalog : Catalog
  dialect : Dialect
  options : Options

structure Embedding where
  correlation : Option Correlation := none
  exportsKey : Bool := false
  filter : Option String := none
  orderBy : Option String := none

def Embedding.scope (embedding : Embedding) : QueryParts :=
  match embedding.correlation with
  | some correlation => QueryParts.addAlias {} correlation.otherAlias
  | none => {}

def Embedding.ownAlias (embedding : Embedding) (relation : Relation) : String :=
  embedding.scope.aliasFor relation.id.name

/-- A parent table joined for its fields: the alias of the derived table, the equated columns, and
the key columns that the derived table exports. -/
structure InlineJoin where
  aliasName : String
  pairs : List KeyPair
  exported : List SelectEntry
  deriving DecidableEq, Repr

structure BaseQuery where
  /-- The alias of the table itself. -/
  aliasName : String
  joins : List InlineJoin
  parts : QueryParts
  deriving DecidableEq, Repr

namespace BaseQuery

def columns (query : BaseQuery) : List SelectEntry :=
  query.parts.entries.filter fun entry => !entry.isHidden

def hiddenKey (query : BaseQuery) : List SelectEntry :=
  query.parts.entries.filter SelectEntry.isHidden

def boundAliases (query : BaseQuery) : List String :=
  query.aliasName :: query.joins.map (·.aliasName)

end BaseQuery

def hiddenMark : String := "_"

def wrapperAlias : String := "q"

namespace Compiler

def indented (compiler : Compiler) (text : String) : String :=
  Text.indent compiler.options.indent text

def sql (compiler : Compiler) (query : BaseQuery) : String :=
  query.parts.sql compiler.options.indent

def findRelation (compiler : Compiler) (table : String) (location : Location) :
    Except SpecError Relation :=
  compiler.catalog.findRelation table compiler.options.defaultSchema location

def sourceName (compiler : Compiler) (id : RelationId) : String :=
  match id.schema with
  | some schema =>
      if schema ∈ compiler.options.unqualifiedSchemas then id.name else id.display
  | none => id.name

def hiddenName (compiler : Compiler) (field : Field) : String :=
  compiler.catalog.quote (hiddenMark ++ field.name)

def hiddenEntries (compiler : Compiler) (relation : Relation) (aliasName : String) :
    List SelectEntry :=
  relation.primaryKey.map fun field =>
    .make (aliasName ++ "." ++ compiler.catalog.quote field.name) (compiler.hiddenName field)
      .hiddenKey

def fieldSql (compiler : Compiler) (relation : Relation) (aliasName : String) (spec : FieldSpec)
    (location : Location) : Except SpecError String :=
  match spec.field, spec.expression with
  | some field, none => do
      let _ ← compiler.catalog.findField relation field location
      return aliasName ++ "." ++ field
  | none, some expression =>
      .ok (Text.replace expression (spec.aliasMark.getD aliasMark) aliasName)
  | _, _ => location.reject .fieldOrExpression

def nativeEntry (compiler : Compiler) (relation : Relation) (aliasName : String)
    (location : Location) (spec : FieldSpec) : Except SpecError SelectEntry := do
  let name ← spec.propertyName compiler.options.naming location
  let expression ← compiler.fieldSql relation aliasName spec location
  return .make expression (compiler.catalog.quote name) .nativeField

def inlineEntries (table aliasName : String) (columns : List SelectEntry) : List SelectEntry :=
  let entry (comment : Option String) (column : SelectEntry) : SelectEntry :=
    { expression := aliasName ++ "." ++ column.outputName
      outputName := column.outputName
      origin := .inlineParent
      jsonValued := column.jsonValued
      comment }
  match columns with
  | [] => []
  | first :: rest =>
      entry (some ("-- field(s) inlined from parent table '" ++ table ++ "'")) first ::
        rest.map (entry none)

def inlineParts (compiler : Compiler) (table childAlias : String) (join : InlineJoin)
    (query : BaseQuery) : QueryParts :=
  let correlation : Correlation :=
    { restricted := .parent, otherAlias := childAlias, pairs := join.pairs }
  { entries := inlineEntries table join.aliasName query.columns
    sources :=
      ["-- parent table '" ++ table ++ "', joined for inlined fields\nleft join (\n" ++
        compiler.indented (compiler.sql query) ++ "\n) " ++ join.aliasName ++ " on " ++
        correlation.condition compiler.catalog join.aliasName hiddenMark]
    aliases := [join.aliasName] }

/-- A query that makes one column of the rows of a base query. -/
def wrapped (compiler : Compiler) (what table value : String) (query : BaseQuery) : String :=
  "select\n" ++ compiler.indented ("-- " ++ what ++ " for table '" ++ table ++ "'") ++ "\n" ++
    compiler.indented value ++ " json\nfrom (\n" ++
    compiler.indented ("-- base query for table '" ++ table ++ "'") ++ "\n" ++
    compiler.indented (compiler.sql query) ++ "\n) " ++ wrapperAlias

def objectRowsSql (compiler : Compiler) (table : String) (query : BaseQuery)
    (orderBy : Option String) : String :=
  let object := compiler.dialect.rowObject query.columns wrapperAlias compiler.options.indent
  let order := match orderBy with
    | some order => "\norder by " ++ Text.replace order aliasMark wrapperAlias
    | none => ""
  compiler.wrapped "row object builder" table object query ++ order

/-- The ordering of an array: the one stated, or else by the primary key. -/
def arrayOrder (compiler : Compiler) (relation : Relation) (orderBy : Option String) :
    Option String :=
  match orderBy with
  | some order => some order
  | none =>
      let names := relation.primaryKey.map fun field =>
        aliasMark ++ "." ++ compiler.hiddenName field
      if names.isEmpty then none else some (", ".intercalate names)

def arrayExportsKey (relation : Relation) (orderBy : Option String) : Bool :=
  orderBy.isNone && !relation.primaryKey.isEmpty

def arrayRowSql (compiler : Compiler) (table : String) (query : BaseQuery) (unwrap : Bool)
    (order : Option String) (location : Location) : Except SpecError String :=
  let make (value : String) : String :=
    compiler.wrapped "aggregated row objects builder" table value query
  if unwrap then
    match query.columns with
    | [column] => .ok (make (compiler.dialect.columnValues column order wrapperAlias))
    | columns => location.reject (.notUnwrappable table columns.length)
  else
    .ok (make (compiler.dialect.rowObjects query.columns order wrapperAlias
      compiler.options.indent))

def rowConditions (compiler : Compiler) (aliasName : String) (embedding : Embedding)
    (condition : Option RowCondition) : List String :=
  let correlated := embedding.correlation.map (·.condition compiler.catalog aliasName "")
  let filtered := embedding.filter.map fun filter =>
    "(" ++ Text.replace filter aliasMark aliasName ++ ")"
  let restricted := condition.map fun stated =>
    "(" ++ Text.replace stated.sql (stated.aliasMark.getD aliasMark) aliasName ++ ")"
  correlated.toList ++ filtered.toList ++ restricted.toList

mutual
def baseQuery (compiler : Compiler) (spec : TableSpec) (embedding : Embedding)
    (location : Location) : Except SpecError BaseQuery :=
  match spec with
  | ⟨table, fields, inlineParents, referencedParents, childCollections, condition⟩ => do
      let relation ← compiler.findRelation table location
      let aliasName := embedding.ownAlias relation
      let source := compiler.sourceName relation.id ++ " " ++ aliasName
      let hidden := if embedding.exportsKey then compiler.hiddenEntries relation aliasName else []
      let tableLocation := location.enterTable table
      let plain ← fields.mapM (compiler.nativeEntry relation aliasName tableLocation)
      let own := ((embedding.scope.addAlias aliasName).addSource source).addEntries
        (hidden ++ plain)
      let (joins, joined) ←
        inlineJoins compiler relation aliasName location own inlineParents
      let referenced ← referencedEntries compiler relation aliasName location referencedParents
      let children ← childEntries compiler relation aliasName location childCollections
      let conditions := compiler.rowConditions aliasName embedding condition
      let order := embedding.orderBy.map (Text.replace · aliasMark aliasName)
      let parts :=
        ((joined.addEntries (referenced ++ children)).addConditions conditions).setOrder order
      match parts.repeatedName? with
      | some name => tableLocation.reject (.duplicateName name)
      | none => return { aliasName, joins, parts }
termination_by structural spec

/-- The joins of inlined parents, and the query with what each of them adds to it. -/
def inlineJoins (compiler : Compiler) (child : Relation) (childAlias : String)
    (location : Location) (query : QueryParts) (parents : List InlineParent) :
    Except SpecError (List InlineJoin × QueryParts) :=
  match parents with
  | [] => .ok ([], query)
  | ⟨spec, link, optional⟩ :: rest => do
      let inside := location.enter (Related.inlineParent ⟨spec, link, optional⟩).describe
      let parent ← compiler.findRelation spec.table inside
      let pairs ← compiler.catalog.joinPairs link child parent inside
      let nested ← baseQuery compiler spec { exportsKey := true } inside
      let aliasName := Naming.fresh wrapperAlias "" query.aliases
      let join : InlineJoin := { aliasName, pairs, exported := nested.hiddenKey }
      let extended := query.merge (compiler.inlineParts spec.table childAlias join nested)
      let (others, joined) ← inlineJoins compiler child childAlias location extended rest
      return (join :: others, joined)
termination_by structural parents

def referencedEntries (compiler : Compiler) (child : Relation) (childAlias : String)
    (location : Location) (parents : List ReferencedParent) :
    Except SpecError (List SelectEntry) :=
  match parents with
  | [] => .ok []
  | ⟨name, spec, link, optional⟩ :: rest => do
      let inside := location.enter (Related.referencedParent ⟨name, spec, link, optional⟩).describe
      let parent ← compiler.findRelation spec.table inside
      let pairs ← compiler.catalog.joinPairs link child parent inside
      let correlation : Correlation := { restricted := .parent, otherAlias := childAlias, pairs }
      let query ← baseQuery compiler spec { correlation := some correlation } inside
      let nested := compiler.objectRowsSql spec.table query none
      let entry : SelectEntry := .make
        ("-- parent table '" ++ spec.table ++ "' referenced as '" ++ name ++ "'\n(\n" ++
          compiler.indented nested ++ "\n)")
        (compiler.catalog.quote name) .parentReference
      let others ← referencedEntries compiler child childAlias location rest
      return entry :: others
termination_by structural parents

def childEntries (compiler : Compiler) (parent : Relation) (parentAlias : String)
    (location : Location) (collections : List ChildCollection) :
    Except SpecError (List SelectEntry) :=
  match collections with
  | [] => .ok []
  | ⟨name, spec, link, filter, unwrap, orderBy⟩ :: rest => do
      let collection : ChildCollection := ⟨name, spec, link, filter, unwrap, orderBy⟩
      let inside := location.enter (Related.childCollection collection).describe
      let child ← compiler.findRelation spec.table inside
      let pairs ← compiler.catalog.joinPairs link child parent inside
      let correlation : Correlation := { restricted := .child, otherAlias := parentAlias, pairs }
      let query ← baseQuery compiler spec
        { correlation := some correlation, exportsKey := arrayExportsKey child orderBy, filter }
        inside
      let order := compiler.arrayOrder child orderBy
      let nested ← compiler.arrayRowSql spec.table query collection.isUnwrapped order inside
      let entry : SelectEntry := .make
        ("-- records from child table '" ++ spec.table ++ "' as collection '" ++ name ++
          "'\n(\n" ++ compiler.indented nested ++ "\n)")
        (compiler.catalog.quote name) .childCollection
      let others ← childEntries compiler parent parentAlias location rest
      return entry :: others
termination_by structural collections
end

def querySql (compiler : Compiler) (query : QuerySpec) (representation : Representation) :
    Except SpecError String := do
  let location : Location := { query := query.name }
  let spec := query.tableSpec
  if query.isForUpdate && representation != .columnRows then
    location.reject (.notForUpdate representation)
  else match representation with
    | .columnRows => do
        let base ← compiler.baseQuery spec { orderBy := query.orderBy } location
        return if query.isForUpdate then compiler.sql base ++ "\nfor update" else compiler.sql base
    | .objectRows => do
        let base ← compiler.baseQuery spec {} location
        return compiler.objectRowsSql spec.table base query.orderBy
    | .arrayRow => do
        let relation ← compiler.findRelation spec.table location
        let base ← compiler.baseQuery spec
          { exportsKey := arrayExportsKey relation query.orderBy } location
        compiler.arrayRowSql spec.table base false
          (compiler.arrayOrder relation query.orderBy) location

end Compiler

end NestedQuery
