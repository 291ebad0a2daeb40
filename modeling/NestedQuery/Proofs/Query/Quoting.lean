import NestedQuery.Proofs.Naming
import NestedQuery.Proofs.SchemaDump.Parsing
import NestedQuery.Proofs.SchemaDump.Printing
import NestedQuery.Proofs.Text.CaseMap
import NestedQuery.Proofs.Text.Layout
import NestedQuery.Query.Dialect

/-! Names in the expression for a row object. A property states its name as a text and refers to its
column by the same name, bare or in quotes, and scanning the expression gives both back. -/

namespace NestedQuery

open NestedQuery.Text NestedQuery.SchemaDump

structure NamedColumn (rule : CaseRule) where
  entry : SelectEntry
  name : String
  written : entry.outputName = rule.quote name
  unquoted : Naming.isQuoted name = false

def Dialect.opening : Dialect → (jsonValued : Bool) → List Token
  | .postgres, _ => [.comma, .word "q", .dot]
  | .oracle, false => [.word "value", .word "q", .dot]
  | .oracle, true => [.word "value", .word "treat", .openParen, .word "q", .dot]

def Dialect.closing : Dialect → (jsonValued : Bool) → List Token
  | .oracle, true => [.word "as", .word "json", .closeParen]
  | _, _ => []

def Dialect.propertyTokens {rule : CaseRule} (dialect : Dialect) (column : NamedColumn rule)
    (id : Token) : List Token :=
  .text column.name ::
    (dialect.opening column.entry.jsonValued ++ id :: dialect.closing column.entry.jsonValued)

def Dialect.rowTokens (dialect : Dialect) (properties : List (List Token)) : List Token :=
  match dialect with
  | .postgres => .word "jsonb_build_object" :: .openParen :: (separated properties ++ [.closeParen])
  | .oracle => .word "json_object" :: .openParen ::
      (separated properties ++ [.word "returning", .word "clob", .closeParen])

/-- The row object is scanned as a property to each column, in order, and what refers to a column
stands in the given relation to its name. -/
def ReadsAs {rule : CaseRule} (identifies : String → Token → Prop) (dialect : Dialect)
    (spaces : Nat) (columns : List (NamedColumn rule)) : Prop :=
  ∃ ids, List.Forall₂ (fun column id => identifies column.name id) columns ids ∧
    scan (dialect.rowObject (columns.map (·.entry)) "q" spaces) =
      dialect.rowTokens (List.zipWith dialect.propertyTokens columns ids)

/-- No character of the name ends its quotes, and none of its lines is indented. -/
structure Plain (spaces : Nat) (name : String) : Prop where
  noApostrophe : '\'' ∉ name.toList
  noQuote : '"' ∉ name.toList
  unpadded : spaces = 0 ∨ '\n' ∉ name.toList

def BareKeyword (rule : CaseRule) (name : String) : Prop :=
  rule.isBare name.toList = true ∧ ∃ keyword : Keyword,
    sameWord keyword.text.toList name.toList = true

/-- The token is read as the name, or is the keyword as which a bare name is spelled. -/
structure Identifies (rule : CaseRule) (name : String) (id : Token) : Prop where
  readsName : ¬BareKeyword rule name → nameOf? rule id = some name
  isKeyword : BareKeyword rule name → ∃ keyword, id = .keyword keyword ∧
    sameWord keyword.text.toList name.toList = true

section BareNames

variable {rule : CaseRule} {name : String}

theorem CaseRule.isBareChar_cases {c : Char} (bare : rule.isBareChar c = true) :
    c.isAlpha = true ∨ c = '_' := by
  cases rule with
  | storedLower =>
      simp only [isBareChar, Bool.or_eq_true, beq_iff_eq] at bare
      exact bare.imp_left fun lower => Bool.or_eq_true_iff.mpr (.inr lower)
  | storedUpper =>
      simp only [isBareChar, Bool.or_eq_true, beq_iff_eq] at bare
      exact bare.imp_left fun upper => Bool.or_eq_true_iff.mpr (.inl upper)
  | storedMixed => cases bare
  | sensitive => cases bare

theorem CaseRule.isBareChar_of_isBare (bare : rule.isBare name.toList = true) :
    ∀ c ∈ name.toList, rule.isBareChar c = true := by
  simp only [isBare, Bool.and_eq_true, List.all_eq_true] at bare
  exact bare.2

theorem isWord_of_isBare (bare : rule.isBare name.toList = true) : IsWord name.toList := by
  have letters : ∀ c ∈ name.toList, startsWord c = true := by
    intro c member
    rcases CaseRule.isBareChar_cases (CaseRule.isBareChar_of_isBare bare c member) with alpha | rfl
    · simp [startsWord, isLetter_of_isAlpha alpha]
    · rfl
  cases chars : name.toList with
  | nil => simp [CaseRule.isBare, chars] at bare
  | cons first rest =>
      rw [chars] at letters
      refine ⟨first, rest, rfl, letters first List.mem_cons_self, ?_⟩
      intro c member
      have starts := letters c (List.mem_cons_of_mem _ member)
      simp only [startsWord, Bool.or_eq_true, beq_iff_eq] at starts
      rcases starts with letter | rfl
      · simp [continuesWord, isLetterOrNumeral, letter]
      · decide

theorem normalize_of_isBare (unquoted : Naming.isQuoted name = false)
    (bare : rule.isBare name.toList = true) : rule.normalize name = name := by
  have chars := CaseRule.isBareChar_of_isBare bare
  have kept {isCase : Char → Bool} {change : Char → List Char}
      (letter : ∀ c, isCase c = true → change c = [c]) (mark : change '_' = ['_'])
      (all : ∀ c ∈ name.toList, (isCase c || c == '_') = true) :
      ∀ c ∈ name.toList, change c = [c] := by
    intro c member
    rcases Bool.or_eq_true_iff.mp (all c member) with isLetter | isMark
    · exact letter c isLetter
    · rw [eq_of_beq isMark, mark]
  cases rule with
  | storedLower =>
      have lowered := kept (fun _ => lowerChar_of_isLower) (by decide +kernel) chars
      simp [CaseRule.normalize, unquoted, lower, lowerChars, lowerAfter_of_kept lowered]
  | storedUpper =>
      have raised := kept (fun _ => upperChar_of_isUpper) (by decide +kernel) chars
      simp [CaseRule.normalize, unquoted, upper, upperChars_of_kept raised]
  | storedMixed => simp [CaseRule.normalize]
  | sensitive => simp [CaseRule.normalize]

def referenceToken (rule : CaseRule) (name : String) : Token :=
  if rule.isBare name.toList then wordToken name.toList else .quotedName name

theorem identifies_referenceToken (unquoted : Naming.isQuoted name = false) :
    Identifies rule name (referenceToken rule name) := by
  constructor
  · intro plain
    unfold referenceToken
    split
    · rename_i bare
      have noKeyword : Keyword.ofWord? name.toList = none := by
        rw [Keyword.ofWord?_eq_none_iff]
        intro keyword
        by_contra same
        exact plain ⟨bare, keyword, by simpa using same⟩
      rw [wordToken, noKeyword, String.ofList_toList, nameOf?, normalize_of_isBare unquoted bare]
    · rfl
  · rintro ⟨bare, keyword, same⟩
    refine ⟨keyword, ?_, same⟩
    rw [referenceToken, if_pos bare, wordToken, Keyword.ofWord?_of_sameWord same]

end BareNames

section Scanning

theorem doubling_of_not_mem {quote : Char} {text : List Char} (free : quote ∉ text) :
    doubling quote text = text := by
  induction text with
  | nil => rfl
  | cons c rest ih =>
      obtain ⟨first, others⟩ := not_or.mp (List.mem_cons.not.mp free)
      rw [doubling, List.flatMap_cons, if_neg (Ne.symm first)]
      exact congrArg (c :: ·) (ih others)

theorem SchemaDump.Reads.plainText {name : String} (free : '\'' ∉ name.toList) :
    Reads (fun rest => rest.head? ≠ some '\'') ('\'' :: (name.toList ++ ['\''])) [.text name] := by
  have read : Reads _ (SchemaDump.inQuotes '\'' name) [.text name] :=
    Reads.inQuotes (fun _ => rfl) name
  rwa [SchemaDump.inQuotes, doubling_of_not_mem free] at read

theorem SchemaDump.Reads.reference (rule : CaseRule) {name : String}
    (unquoted : Naming.isQuoted name = false) (free : '"' ∉ name.toList) :
    Reads Breaks (rule.quote name).toList [referenceToken rule name] := by
  unfold referenceToken
  by_cases bare : rule.isBare name.toList = true
  · rw [CaseRule.quote, if_pos (by simp [bare]), if_pos bare]
    exact Reads.word (isWord_of_isBare bare)
  · rw [CaseRule.quote, if_neg (by simp [unquoted, bare]), if_neg bare]
    have read := (Reads.quotedName name).mono fun _ ends => Breaks.noQuote ends
    have chars : ("\"" ++ name ++ "\"").toList = SchemaDump.inQuotes '"' name := by
      simp [SchemaDump.inQuotes, doubling_of_not_mem free]
    rwa [chars]

def Dialect.openingText : Dialect → (jsonValued : Bool) → String
  | .postgres, _ => ", q."
  | .oracle, false => " value q."
  | .oracle, true => " value treat(q."

def Dialect.closingText : Dialect → (jsonValued : Bool) → String
  | .oracle, true => " as json)"
  | _, _ => ""

theorem SchemaDump.Reads.wordBefore (text : String) (c : Char) {mark : List Token}
    (isWord : IsWord text.toList ∧ wordToken text.toList = .word text ∧ continuesWord c = false)
    (after : Reads Anything [c] mark) :
    Reads Anything (text.toList ++ [c]) (.word text :: mark) := by
  obtain ⟨isWord, named, ends⟩ := isWord
  rw [← named]
  refine (Reads.wholeWord isWord).append after fun rest _ => ?_
  intro first same
  cases same
  exact ends

theorem SchemaDump.Reads.followed {condition : List Char → Prop} {text more : List Char}
    {tokens moreTokens : List Token} (start : Reads Anything text tokens)
    (later : Reads condition more moreTokens) :
    Reads condition (text ++ more) (tokens ++ moreTokens) :=
  start.append later fun _ _ => trivial

theorem SchemaDump.Reads.space : Reads Anything [' '] [] := Reads.blank (by decide)

theorem SchemaDump.Reads.newline : Reads Anything ['\n'] [] := Reads.blank (by decide)

theorem SchemaDump.Reads.spaces (count : Nat) : Reads Anything (List.replicate count ' ') [] := by
  induction count with
  | zero => exact Reads.nil Anything
  | succ count ih => exact Reads.space.followed ih

theorem Dialect.reads_opening (dialect : Dialect) (jsonValued : Bool) :
    Reads Anything (dialect.openingText jsonValued).toList (dialect.opening jsonValued) := by
  have row := Reads.wordBefore "q" '.' (by decide) (Reads.punctuation rfl)
  have value := Reads.space.followed (Reads.wordBefore "value" ' ' (by decide) Reads.space)
  have treat := Reads.wordBefore "treat" '(' (by decide) (Reads.punctuation rfl)
  cases dialect with
  | postgres => cases jsonValued <;> exact Delimiter.comma.reads.followed (Reads.space.followed row)
  | oracle =>
      cases jsonValued with
      | false => exact value.followed row
      | true => exact value.followed (treat.followed row)

theorem Dialect.reads_closing (dialect : Dialect) (jsonValued : Bool) :
    Reads Anything (dialect.closingText jsonValued).toList (dialect.closing jsonValued) := by
  have start := Reads.space.followed (Reads.wordBefore "as" ' ' (by decide) Reads.space)
  have json := Reads.wordBefore "json" ')' (by decide) (Reads.punctuation rfl)
  cases dialect with
  | postgres => exact Reads.nil Anything
  | oracle =>
      cases jsonValued with
      | false => exact Reads.nil Anything
      | true => exact start.followed json

theorem Dialect.breaks_closing (dialect : Dialect) (jsonValued : Bool) {rest : List Char}
    (ends : Breaks rest) : Breaks ((dialect.closingText jsonValued).toList ++ rest) := by
  cases dialect with
  | postgres => exact ends
  | oracle =>
      cases jsonValued with
      | false => exact ends
      | true => exact Delimiter.blank.breaks _

theorem Dialect.head_opening (dialect : Dialect) (jsonValued : Bool) (rest : List Char) :
    ((dialect.openingText jsonValued).toList ++ rest).head? ≠ some '\'' := by
  cases dialect with
  | postgres => simp [Dialect.openingText]
  | oracle => cases jsonValued <;> simp [Dialect.openingText]

variable {rule : CaseRule} {spaces : Nat}

theorem NamedColumn.property_toList (dialect : Dialect) (column : NamedColumn rule) :
    (dialect.property "q" column.entry).toList =
      '\'' :: (column.name.toList ++ ['\'']) ++
        ((dialect.openingText column.entry.jsonValued).toList ++
          ((rule.quote column.name).toList ++
            (dialect.closingText column.entry.jsonValued).toList)) := by
  have name : column.entry.propertyName = column.name := by
    rw [SelectEntry.propertyName, column.written, CaseRule.unquoted_quote,
      Naming.unquoted_of_isQuoted_eq_false column.unquoted]
  unfold Dialect.property Dialect.columnValue
  rw [name, column.written]
  cases dialect with
  | postgres => simp [Dialect.openingText, Dialect.closingText]
  | oracle =>
      cases column.entry.jsonValued with
      | false => simp [Dialect.openingText, Dialect.closingText]
      | true => simp [Dialect.openingText, Dialect.closingText]

theorem NamedColumn.reads (dialect : Dialect) (column : NamedColumn rule)
    (plain : Plain spaces column.name) :
    Reads Breaks (dialect.property "q" column.entry).toList
      (dialect.propertyTokens column (referenceToken rule column.name)) := by
  have reference := Reads.reference rule column.unquoted plain.noQuote
  have closed : Reads Breaks ((rule.quote column.name).toList ++
      (dialect.closingText column.entry.jsonValued).toList)
      ([referenceToken rule column.name] ++ dialect.closing column.entry.jsonValued) := by
    refine reference.append ((dialect.reads_closing _).mono fun _ _ => trivial) ?_
    exact fun rest ends => dialect.breaks_closing _ ends
  have opened := (dialect.reads_opening column.entry.jsonValued).followed closed
  rw [column.property_toList]
  refine (Reads.plainText plain.noApostrophe).append opened ?_
  intro rest _
  rw [List.append_assoc]
  exact dialect.head_opening _ _

theorem NamedColumn.padLines_property (dialect : Dialect) (column : NamedColumn rule)
    (plain : Plain spaces column.name) :
    padLines (List.replicate spaces ' ') (dialect.property "q" column.entry).toList =
      (dialect.property "q" column.entry).toList := by
  apply padLines_eq_self
  refine plain.unpadded.imp_right fun noLine => ?_
  have opening : '\n' ∉ (dialect.openingText column.entry.jsonValued).toList := by
    cases dialect <;> cases column.entry.jsonValued <;> decide
  have closing : '\n' ∉ (dialect.closingText column.entry.jsonValued).toList := by
    cases dialect <;> cases column.entry.jsonValued <;> decide
  have reference : '\n' ∉ (rule.quote column.name).toList := by
    unfold CaseRule.quote
    split
    · exact noLine
    · simp [noLine]
  rw [column.property_toList]
  simp [noLine, opening, closing, reference]

theorem reads_properties (dialect : Dialect) {columns : List (NamedColumn rule)}
    (plain : ∀ column ∈ columns, Plain spaces column.name) :
    Reads Breaks
      (indentChars spaces
        (",\n".intercalate ((columns.map (·.entry)).map (dialect.property "q"))).toList)
      (separated (columns.map fun column =>
        dialect.propertyTokens column (referenceToken rule column.name))) := by
  have line : Reads Anything (',' :: '\n' :: List.replicate spaces ' ') [.comma] :=
    Delimiter.comma.reads.followed (Reads.newline.followed (Reads.spaces spaces))
  have separator : padLines (List.replicate spaces ' ') ",\n".toList =
      ',' :: '\n' :: List.replicate spaces ' ' := by
    simp [padLines]
  have texts : (((columns.map (·.entry)).map (dialect.property "q")).map String.toList).map
      (padLines (List.replicate spaces ' ')) =
      columns.map fun column => (dialect.property "q" column.entry).toList := by
    simp only [List.map_map]
    exact List.map_congr_left fun column member =>
      column.padLines_property dialect (plain column member)
  rw [indentChars, String.toList_intercalate, padLines_intercalate, texts, separator]
  refine (Reads.spaces spaces).followed
    (Reads.joined line (fun rest => Delimiter.comma.breaks _) ?_)
  intro column member
  exact column.reads dialect (plain column member)

theorem scan_rowObject (dialect : Dialect) {columns : List (NamedColumn rule)}
    (plain : ∀ column ∈ columns, Plain spaces column.name) :
    scan (dialect.rowObject (columns.map (·.entry)) "q" spaces) =
      dialect.rowTokens (columns.map fun column =>
        dialect.propertyTokens column (referenceToken rule column.name)) := by
  have properties := reads_properties dialect plain
  have newline (rest : List Char) : Breaks ('\n' :: rest) := by
    intro c same
    cases same
    decide
  have close : Reads Anything "\n)".toList [.closeParen] :=
    Reads.newline.followed Delimiter.closeParen.reads
  unfold scan Dialect.rowObject Dialect.rowTokens
  cases dialect with
  | postgres =>
      have start := (Reads.wordBefore "jsonb_build_object" '(' (by decide)
        Delimiter.openParen.reads).followed Reads.newline
      have whole := start.followed (properties.append close fun rest _ => newline _)
      have read := whole [] trivial
      simpa [indent, scanChars] using read
  | oracle =>
      have start := (Reads.wordBefore "json_object" '(' (by decide)
        Delimiter.openParen.reads).followed Reads.newline
      have returning := Reads.wordBefore "returning" ' ' (by decide) Reads.space
      have clob := (Reads.wordBefore "clob" '\n' (by decide) Reads.newline).followed
        Delimiter.closeParen.reads
      have ending := Reads.newline.followed
        ((Reads.spaces spaces).followed (returning.followed clob))
      have whole := start.followed (properties.append ending fun rest _ => newline _)
      have read := whole [] trivial
      simpa [indent, scanChars, indentChars, padLines] using read

end Scanning

/-- Plain names survive quoting: the row object is scanned as the names in order, each as a text and
as what refers to its column. Only a bare name that is spelled as a keyword is scanned as that. -/
theorem names_survive_quoting (dialect : Dialect) {rule : CaseRule} {spaces : Nat}
    (columns : List (NamedColumn rule)) (plain : ∀ column ∈ columns, Plain spaces column.name) :
    ReadsAs (Identifies rule) dialect spaces columns := by
  refine ⟨columns.map fun column => referenceToken rule column.name, ?_, ?_⟩
  · rw [List.forall₂_map_right_iff, List.forall₂_same]
    intro column _
    exact identifies_referenceToken column.unquoted
  · rw [scan_rowObject dialect plain, List.zipWith_map_right, List.zipWith_self]

namespace Label

def column (rule : CaseRule) (name : String) (origin : Origin)
    (unquoted : Naming.isQuoted name = false) : NamedColumn rule where
  entry := .make "t.x" (rule.quote name) origin
  name := name
  written := rfl
  unquoted := unquoted

def columns : List (NamedColumn .storedUpper) :=
  [column .storedUpper "DRUG_ID" .nativeField (by decide),
   column .storedUpper "" .nativeField (by decide),
   column .storedUpper "größe\n; --" .childCollection (by decide),
   column .storedUpper "KEY" .parentReference (by decide)]

end Label

theorem names_survive_quoting_label :
    (∀ column ∈ Label.columns, Plain 0 column.name) ∧
      ReadsAs (Identifies .storedUpper) .oracle 0 Label.columns := by
  have plain : ∀ column ∈ Label.columns, Plain 0 column.name := by
    intro column member
    simp only [Label.columns, List.mem_cons, List.not_mem_nil, or_false] at member
    rcases member with rfl | rfl | rfl | rfl
    all_goals exact ⟨by decide +kernel, by decide +kernel, .inl rfl⟩
  exact ⟨plain, names_survive_quoting .oracle Label.columns plain⟩

theorem ReadsAs.single {rule : CaseRule} {identifies : String → Token → Prop} {spaces : Nat}
    {column : NamedColumn rule} (reads : ReadsAs identifies .postgres spaces [column]) :
    (scan (Dialect.postgres.rowObject [column.entry] "q" spaces))[2]? = some (.text column.name) ∧
      ∃ id, identifies column.name id ∧
        (scan (Dialect.postgres.rowObject [column.entry] "q" spaces))[6]? = some id := by
  obtain ⟨ids, named, tokens⟩ := reads
  cases named with
  | @cons _ id _ _ first rest =>
      cases rest
      rw [List.map_cons, List.map_nil] at tokens
      rw [tokens]
      exact ⟨rfl, id, first, rfl⟩

/-- A bare keyword does not identify its column, and names that hold a quote or an indented line are
not read as they are. -/
theorem names_lost :
    ¬ReadsAs (fun name id => nameOf? .storedLower id = some name) .postgres 2
      [Label.column .storedLower "key" .nativeField (by decide)] ∧
    ¬ReadsAs (fun name id => nameOf? .storedLower id = some name) .postgres 2
      [Label.column .storedLower "it's" .nativeField (by decide)] ∧
    ¬ReadsAs (fun name id => nameOf? .storedLower id = some name) .postgres 2
      [Label.column .storedLower "a\"b" .nativeField (by decide)] ∧
    ¬ReadsAs (fun name id => nameOf? .storedLower id = some name) .postgres 2
      [Label.column .storedLower "a\nb" .nativeField (by decide)] := by
  refine ⟨?_, ?_, ?_, ?_⟩
  · intro reads
    obtain ⟨id, identified, found⟩ := reads.single.2
    have keyword : id = .keyword .key := by
      rw [← Option.some.injEq, ← found]
      decide +kernel
    rw [keyword] at identified
    cases identified
  · exact fun reads => absurd reads.single.1 (by decide +kernel)
  · intro reads
    obtain ⟨id, identified, found⟩ := reads.single.2
    have cut : id = .quotedName "a" := by
      rw [← Option.some.injEq, ← found]
      decide +kernel
    rw [cut] at identified
    exact absurd identified (by decide)
  · exact fun reads => absurd reads.single.1 (by decide +kernel)

end NestedQuery
