import NestedQuery.Naming
import NestedQuery.Text.Layout

/-! Select queries while they are put together: columns, sources, conditions, an ordering, and the
aliases that are in scope. -/

namespace NestedQuery

inductive Origin where
  | nativeField
  | inlineParent
  | parentReference
  | childCollection
  | hiddenKey
  deriving DecidableEq, Repr

structure SelectEntry where
  expression : String
  /-- The name of the column, in quotes where it needs them. -/
  outputName : String
  origin : Origin
  /-- The column holds an object or array that a nested query makes. -/
  jsonValued : Bool
  comment : Option String := none
  deriving DecidableEq, Repr

def Origin.isNested : Origin → Bool
  | parentReference | childCollection => true
  | nativeField | inlineParent | hiddenKey => false

namespace SelectEntry

def make (expression outputName : String) (origin : Origin) : SelectEntry :=
  { expression, outputName, origin, jsonValued := origin.isNested }

def propertyName (entry : SelectEntry) : String := Naming.unquoted entry.outputName

def isHidden (entry : SelectEntry) : Bool := entry.origin == .hiddenKey

/-- A quoted name follows its expression directly, any other after `as`. -/
def sql (entry : SelectEntry) : String :=
  let separator := if entry.outputName.toList.head? == some '"' then " " else " as "
  let column := entry.expression ++ separator ++ entry.outputName
  match entry.comment with
  | some comment => comment ++ "\n" ++ column
  | none => column

end SelectEntry

structure QueryParts where
  entries : List SelectEntry := []
  sources : List String := []
  conditions : List String := []
  orderBy : Option String := none
  aliases : List String := []
  deriving DecidableEq, Repr

namespace QueryParts

def addAlias (parts : QueryParts) (aliasName : String) : QueryParts :=
  if aliasName ∈ parts.aliases then parts
  else { parts with aliases := parts.aliases ++ [aliasName] }

def addEntry (parts : QueryParts) (entry : SelectEntry) : QueryParts :=
  { parts with entries := parts.entries ++ [entry] }

def addSource (parts : QueryParts) (source : String) : QueryParts :=
  { parts with sources := parts.sources ++ [source] }

def addCondition (parts : QueryParts) (condition : String) : QueryParts :=
  { parts with conditions := parts.conditions ++ [condition] }

def addEntries (parts : QueryParts) (entries : List SelectEntry) : QueryParts :=
  entries.foldl addEntry parts

def addConditions (parts : QueryParts) (conditions : List String) : QueryParts :=
  conditions.foldl addCondition parts

def setOrder (parts : QueryParts) (orderBy : Option String) : QueryParts := { parts with orderBy }

def aliasFor (parts : QueryParts) (relationName : String) : String :=
  Naming.fresh (Naming.initials '_' relationName) "" parts.aliases

/-- Both queries' parts, those of the second after those of the first. An ordering of the second
takes the place of the first one's. -/
def merge (first second : QueryParts) : QueryParts where
  entries := first.entries ++ second.entries
  sources := first.sources ++ second.sources
  conditions := first.conditions ++ second.conditions
  orderBy := second.orderBy <|> first.orderBy
  aliases := first.aliases ++ second.aliases.filter (· ∉ first.aliases)

def sql (parts : QueryParts) (indent : Nat) : String :=
  let select := ",\n".intercalate (parts.entries.map SelectEntry.sql)
  let sources := Text.joinLines parts.sources
  let conditions :=
    if parts.conditions.isEmpty then ""
    else "\nwhere (\n" ++ Text.indent indent (" and\n".intercalate parts.conditions) ++ "\n)"
  let order := match parts.orderBy with
    | some order => "\norder by " ++ order
    | none => ""
  "select\n" ++ Text.indent indent select ++ "\nfrom\n" ++ Text.indent indent sources ++
    conditions ++ order

def repeatedName? (parts : QueryParts) : Option String :=
  firstRepeated [] (parts.entries.map SelectEntry.propertyName)
where
  firstRepeated (seen : List String) : List String → Option String
    | [] => none
    | name :: rest => if name ∈ seen then some name else firstRepeated (name :: seen) rest

end QueryParts

end NestedQuery
