import NestedQuery.Proofs.SchemaDump.Scanning
import NestedQuery.SchemaDump.Definition
import NestedQuery.SchemaDump.Phrase

/-! Designs of schemas, and the dumps in which they are written: one `CREATE TABLE` statement for
each table, with all names in double quotes. The tokens of such a dump are stated beside its text,
and the text reads as these tokens. -/

namespace NestedQuery.SchemaDump

structure TypeWord where
  text : String
  isWord : IsWord text.toList := by decide +kernel
  notKeyword : Keyword.ofWord? text.toList = none := by decide +kernel
  notStop : (Token.word text).isWordIn typeStops = false := by decide +kernel

structure Numeral where
  digits : String
  present : digits.toList ≠ [] := by decide +kernel
  allDigits : digits.toList.all Char.isDigit = true := by decide +kernel

structure TypeDesign where
  first : TypeWord
  more : List TypeWord := []
  arguments : Option (List Numeral) := none

structure ColumnDesign where
  name : String
  type : TypeDesign
  notNull : Bool := false

structure KeyDesign where
  parent : RelationId
  pairs : List KeyPair
  present : pairs ≠ [] := by decide +kernel
  deriving DecidableEq

structure TableDesign where
  id : RelationId
  columns : List ColumnDesign
  primaryKey : Option (List String) := none
  foreignKeys : List KeyDesign := []
  distinct : (columns.map (·.name)).Nodup := by decide +kernel
  keyDistinct : (primaryKey.getD []).Nodup := by decide +kernel
  keyColumns : ∀ name ∈ primaryKey.getD [], name ∈ columns.map (·.name) := by decide +kernel
  noKeyTwice : foreignKeys.Nodup := by decide +kernel

structure SchemaDesign where
  tables : List TableDesign
  distinct : (tables.map (·.id.display)).Nodup := by decide +kernel
  parentsKnown : ∀ table ∈ tables, ∀ key ∈ table.foreignKeys, key.parent ∈ tables.map (·.id) := by
    decide +kernel

def spacedText (texts : List (List Char)) : List Char := [' '].intercalate texts

def listedText (texts : List (List Char)) : List Char := [',', ' '].intercalate texts

def separated (tokens : List (List Token)) : List Token := [Token.comma].intercalate tokens

def phraseText (keywords : List Keyword) : List Char := spacedText (keywords.map (·.text.toList))

namespace TypeDesign

def argumentText (type : TypeDesign) : List Char :=
  match type.arguments with
  | none => []
  | some numerals => '(' :: ([','].intercalate (numerals.map (·.digits.toList)) ++ [')'])

def text (type : TypeDesign) : List Char :=
  spacedText ((type.first :: type.more).map (·.text.toList)) ++ type.argumentText

def argumentTokens (type : TypeDesign) : List Token :=
  match type.arguments with
  | none => []
  | some numerals =>
      .openParen :: (separated (numerals.map fun numeral => [.number numeral.digits])
        ++ [.closeParen])

def tokens (type : TypeDesign) : List Token :=
  (type.first :: type.more).map (Token.word ·.text) ++ type.argumentTokens

end TypeDesign

def ColumnDesign.field (product : Product) (key : List String) (column : ColumnDesign) : Field :=
  let type := product.columnType (String.ofList column.type.text)
  { name := column.name
    typeCode := type.code
    databaseType := type.databaseType
    length := type.length
    precision := type.precision
    fractionalDigits := type.fractionalDigits
    nullable := some !(column.notNull || column.name ∈ key)
    primaryKeyPart := (key.idxOf? column.name).map (· + 1) }

namespace TableDesign

def key (table : TableDesign) : List String := table.primaryKey.getD []

def relation (product : Product) (table : TableDesign) : Relation where
  id := table.id
  kind := .table
  fields := table.columns.map (ColumnDesign.field product table.key)

def references (table : TableDesign) : List ForeignKey :=
  table.foreignKeys.map fun key => { child := table.id, parent := key.parent, pairs := key.pairs }

end TableDesign

inductive Item where
  | column (design : ColumnDesign)
  | primaryKey (names : List String)
  | foreignKey (key : KeyDesign)

def TableDesign.items (table : TableDesign) : List Item :=
  table.columns.map .column ++
    (table.primaryKey.toList.map .primaryKey ++ table.foreignKeys.map .foreignKey)

def idText (id : RelationId) : List Char :=
  match id.schema with
  | none => inQuotes '"' id.name
  | some schema => inQuotes '"' schema ++ '.' :: inQuotes '"' id.name

def idTokens (id : RelationId) : List Token :=
  match id.schema with
  | none => [.quotedName id.name]
  | some schema => [.quotedName schema, .dot, .quotedName id.name]

def namesText (names : List String) : List Char :=
  '(' :: (listedText (names.map (inQuotes '"')) ++ [')'])

def namesTokens (names : List String) : List Token :=
  .openParen :: (separated (names.map fun name => [.quotedName name]) ++ [.closeParen])

namespace KeyDesign

def childFields (key : KeyDesign) : List String := key.pairs.map (·.childField)

def parentFields (key : KeyDesign) : List String := key.pairs.map (·.parentField)

end KeyDesign

namespace Item

def text : Item → List Char
  | column design =>
      inQuotes '"' design.name ++ ' ' :: (design.type.text ++
        if design.notNull then ' ' :: phraseText [.not, .null] else [])
  | primaryKey names => phraseText [.primary, .key] ++ ' ' :: namesText names
  | foreignKey key =>
      phraseText [.foreign, .key] ++ ' ' :: (namesText key.childFields ++ ' ' ::
        (phraseText [.references] ++ ' ' ::
          (idText key.parent ++ ' ' :: namesText key.parentFields)))

def tokens : Item → List Token
  | column design =>
      .quotedName design.name :: (design.type.tokens ++
        if design.notNull then [.keyword .not, .keyword .null] else [])
  | primaryKey names => .keyword .primary :: .keyword .key :: namesTokens names
  | foreignKey key =>
      .keyword .foreign :: .keyword .key :: (namesTokens key.childFields ++
        .keyword .references :: (idTokens key.parent ++ namesTokens key.parentFields))

end Item

namespace TableDesign

def text (table : TableDesign) : List Char :=
  phraseText [.create, .table] ++ ' ' :: (idText table.id ++ ' ' :: '(' ::
    (listedText (table.items.map Item.text) ++ [')', ';', '\n']))

def tokens (table : TableDesign) : List Token :=
  .keyword .create :: .keyword .table :: (idTokens table.id ++ .openParen ::
    (separated (table.items.map Item.tokens) ++ [.closeParen, .semicolon]))

end TableDesign

theorem intercalate_nil_map {α β : Type} (f : α → β) (items : List α) :
    ([] : List β).intercalate (items.map fun item => [f item]) = items.map f := by
  induction items with
  | nil => rfl
  | cons item rest ih =>
      cases rest with
      | nil => rfl
      | cons next rest => simpa [List.intercalate_cons_cons] using ih

namespace Reads

theorem spaced {α : Type} {text : α → List Char} {token : α → Token} {items : List α}
    (each : ∀ item ∈ items, Reads Breaks (text item) [token item]) :
    Reads Breaks (spacedText (items.map text)) (items.map token) := by
  have read := joined Delimiter.blank.reads Delimiter.blank.breaks each
  rwa [intercalate_nil_map] at read

theorem listed {α : Type} {text : α → List Char} {tokens : α → List Token} {items : List α}
    (each : ∀ item ∈ items, Reads Breaks (text item) (tokens item)) :
    Reads Breaks (listedText (items.map text)) (separated (items.map tokens)) := by
  have between : Reads Anything [',', ' '] [.comma] :=
    Delimiter.comma.reads.append Delimiter.blank.reads fun _ _ => trivial
  exact joined between (fun _ => Delimiter.comma.breaks _) each

theorem phrase (keywords : List Keyword) :
    Reads Breaks (phraseText keywords) (keywords.map .keyword) := by
  exact spaced fun keyword _ => Reads.keyword keyword

theorem parenthesized {text : List Char} {tokens : List Token} (read : Reads Breaks text tokens) :
    Reads Anything ('(' :: (text ++ [')'])) (.openParen :: (tokens ++ [.closeParen])) := by
  have closed : Reads Anything (text ++ [')']) (tokens ++ [.closeParen]) :=
    read.append Delimiter.closeParen.reads fun _ _ => Delimiter.closeParen.breaks _
  exact Delimiter.openParen.reads.append closed fun _ _ => trivial

theorem names (names : List String) : Reads Anything (namesText names) (namesTokens names) :=
  parenthesized <| listed fun name _ => (Reads.quotedName name).mono fun _ => Breaks.noQuote

theorem id (id : RelationId) : Reads Breaks (idText id) (idTokens id) := by
  have name := (Reads.quotedName id.name).mono fun _ => Breaks.noQuote
  unfold idText idTokens
  cases id.schema with
  | none => exact name
  | some schema =>
      have dot : Reads Anything ['.'] [.dot] := Reads.punctuation rfl
      have qualified := dot.append name fun _ _ => trivial
      refine (Reads.quotedName schema).append qualified fun rest _ => ?_
      simp [NoQuote]

theorem type (type : TypeDesign) : Reads Breaks type.text type.tokens := by
  have words : Reads Breaks
      (spacedText ((type.first :: type.more).map (·.text.toList)))
      ((type.first :: type.more).map (Token.word ·.text)) := by
    apply spaced
    intro word _
    have token : wordToken word.text.toList = .word word.text := by
      simp [wordToken, word.notKeyword]
    rw [← token]
    exact Reads.word word.isWord
  unfold TypeDesign.text TypeDesign.tokens TypeDesign.argumentText TypeDesign.argumentTokens
  cases type.arguments with
  | none => simpa using words
  | some numerals =>
      have numbers : Reads Breaks ([','].intercalate (numerals.map (·.digits.toList)))
          (separated (numerals.map fun numeral => [.number numeral.digits])) := by
        refine joined Delimiter.comma.reads Delimiter.comma.breaks fun numeral _ => ?_
        simpa using Reads.number numeral.present (List.all_eq_true.mp numeral.allDigits)
      exact words.append ((parenthesized numbers).mono fun _ _ => trivial)
        fun _ _ => Delimiter.openParen.breaks _

theorem item (item : Item) : Reads Breaks item.text item.tokens := by
  cases item with
  | column design =>
      have name := (Reads.quotedName design.name).mono fun _ => Breaks.noQuote
      have declared : Reads Breaks
          (design.type.text ++ if design.notNull then ' ' :: phraseText [.not, .null] else [])
          (design.type.tokens ++
            if design.notNull then [.keyword .not, .keyword .null] else []) := by
        cases design.notNull with
        | false => simpa using Reads.type design.type
        | true =>
            exact (Reads.type design.type).delimited .blank
              (Reads.phrase [.not, .null])
      exact name.delimited .blank declared
  | primaryKey names =>
      exact (Reads.phrase [.primary, .key]).delimited .blank
        ((Reads.names names).mono fun _ _ => trivial)
  | foreignKey key =>
      have parent := (Reads.id key.parent).delimited .blank
        (Reads.names key.parentFields)
      have target := (Reads.phrase [.references]).delimited .blank parent
      have child := ((Reads.names key.childFields).mono fun _ _ => trivial).delimited
        .blank target
      have whole := (Reads.phrase [.foreign, .key]).delimited .blank child
      exact whole.mono fun _ _ => trivial

theorem table (table : TableDesign) : Reads Anything table.text table.tokens := by
  have items := Reads.listed fun item (_ : item ∈ table.items) => Reads.item item
  have lineEnd : Reads Anything [';', '\n'] [.semicolon] :=
    (Reads.punctuation rfl).append (Reads.blank (by decide)) fun _ _ => trivial
  have body : Reads Anything ('(' :: (listedText (table.items.map Item.text) ++ [')', ';', '\n']))
      (.openParen :: (separated (table.items.map Item.tokens) ++ [.closeParen, .semicolon])) := by
    simpa using (parenthesized items).append lineEnd fun _ _ => trivial
  have named := (Reads.id table.id).delimited .blank body
  have statement := (Reads.phrase [.create, .table]).delimited .blank named
  exact statement

end Reads

/-- The tables of a schema as they are written out, in the given order. -/
def dumpText (tables : List TableDesign) : String :=
  String.ofList (tables.flatMap TableDesign.text)

theorem scan_dumpText (tables : List TableDesign) :
    scan (dumpText tables) = tables.flatMap TableDesign.tokens := by
  have read : Reads Anything (tables.flatMap TableDesign.text)
      (tables.flatMap TableDesign.tokens) := by
    induction tables with
    | nil => exact Reads.nil Anything
    | cons table rest ih => exact (Reads.table table).append ih fun _ _ => trivial
  have whole := read [] trivial
  rw [scanChars] at whole
  simpa [scan, dumpText] using whole

namespace Harbor

def line : TypeDesign where
  first := { text := "varchar2" }
  arguments := some [{ digits := "20" }]

def number : TypeDesign where
  first := { text := "Number" }
  arguments := some [{ digits := "10" }, { digits := "2" }]

def length : TypeDesign where
  first := { text := "double" }
  more := [{ text := "precision" }]

def ship : TableDesign where
  id := ⟨some "sea", "ship"⟩
  columns := [⟨"line", line, false⟩, ⟨"no", number, false⟩, ⟨"so-called \"length\"", length, true⟩]
  primaryKey := some ["no", "line"]

def berth : TableDesign where
  id := ⟨none, "TABLE"⟩
  columns := [⟨"ship no", number, true⟩, ⟨"ship line", line, false⟩]
  foreignKeys :=
    [{ parent := ⟨some "sea", "ship"⟩, pairs := [⟨"ship no", "no"⟩, ⟨"ship line", "line"⟩] }]

def schema : SchemaDesign where
  tables := [ship, berth]

end Harbor

example : dumpText [Harbor.ship] =
    "CREATE TABLE \"sea\".\"ship\" (\"line\" varchar2(20), \"no\" Number(10,2), " ++
    "\"so-called \"\"length\"\"\" double precision NOT NULL, " ++
    "PRIMARY KEY (\"no\", \"line\"));\n" := by
  decide +kernel

end NestedQuery.SchemaDump
