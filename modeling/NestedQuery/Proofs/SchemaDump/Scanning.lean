import Mathlib.Data.List.Basic
import NestedQuery.SchemaDump.Scan

/-! How written tokens are read back. A text reads as certain tokens if it does so before every
continuation of a given kind; such texts are put together piece by piece. -/

namespace NestedQuery.Text

def spanCodes (spans : List (Nat × Nat)) : List Nat :=
  spans.flatMap fun span => List.range' span.1 (span.2 + 1 - span.1)

theorem mem_spanCodes_of_inSpans {spans : List (Nat × Nat)} {code : Nat}
    (inside : inSpans spans code = true) : code ∈ spanCodes spans := by
  induction spans with
  | nil => cases inside
  | cons span rest ih =>
      simp only [inSpans, Bool.if_false_left, Bool.and_eq_true, Bool.not_eq_eq_eq_not,
        Bool.not_true, decide_eq_false_iff_not, Bool.or_eq_true, decide_eq_true_eq] at inside
      simp only [spanCodes, List.flatMap_cons, List.mem_append, List.mem_range'_1]
      rcases inside.2 with upper | later
      · exact .inl (by omega)
      · exact .inr (ih later)

theorem isLetter_of_isBlank {c : Char} (blank : isBlank c = true) : isLetter c = false := by
  have none : ∀ code ∈ spanCodes blankSpans, inSpans letterSpans code = false := by
    decide +kernel
  exact none c.toNat (mem_spanCodes_of_inSpans blank)

theorem toNat_of_isDigit {c : Char} (digit : c.isDigit = true) :
    0x30 ≤ c.toNat ∧ c.toNat ≤ 0x39 := by
  simp only [Char.isDigit, Bool.and_eq_true, decide_eq_true_eq] at digit
  exact ⟨digit.1, digit.2⟩

theorem isNumeral_of_isDigit {c : Char} (digit : c.isDigit = true) : isNumeral c = true := by
  have bounds := toNat_of_isDigit digit
  unfold isNumeral numeralSpans
  rw [inSpans, if_neg (by omega)]
  simp [bounds.2]

theorem isLetter_of_isDigit {c : Char} (digit : c.isDigit = true) : isLetter c = false := by
  have bounds := toNat_of_isDigit digit
  unfold isLetter letterSpans
  rw [inSpans, if_pos (by omega)]

theorem isBlank_of_isDigit {c : Char} (digit : c.isDigit = true) : isBlank c = false := by
  have bounds := toNat_of_isDigit digit
  unfold isBlank blankSpans
  rw [inSpans, if_neg (by omega), inSpans, if_neg (by omega), inSpans, if_pos (by omega)]
  simp only [Bool.or_false, Bool.or_eq_false_iff, decide_eq_false_iff_not]
  omega

end NestedQuery.Text

namespace NestedQuery.SchemaDump

open NestedQuery.Text

theorem scanChars_cons {c : Char} {text left : List Char} {token : Option Token}
    (read : readToken c text = (token, left)) :
    scanChars (c :: text) = token.toList ++ scanChars left := by
  rw [scanChars, read]

/-- The text reads as the tokens before every continuation that meets the condition. -/
def Reads (condition : List Char → Prop) (text : List Char) (tokens : List Token) : Prop :=
  ∀ rest, condition rest → scanChars (text ++ rest) = tokens ++ scanChars rest

def Anything (_ : List Char) : Prop := True

/-- A quoted name, a word or a number before this text ends there. -/
def Breaks (rest : List Char) : Prop :=
  ∀ c, rest.head? = some c → continuesWord c = false ∧ c ≠ '"' ∧ c ≠ '.'

namespace Reads

theorem nil (condition : List Char → Prop) : Reads condition [] [] := fun _ _ => rfl

theorem append {first second : List Char → Prop} {text more : List Char}
    {tokens moreTokens : List Token} (start : Reads first text tokens)
    (later : Reads second more moreTokens)
    (meets : ∀ rest, second rest → first (more ++ rest)) :
    Reads second (text ++ more) (tokens ++ moreTokens) := by
  intro rest condition
  rw [List.append_assoc, start _ (meets rest condition), later rest condition, List.append_assoc]

theorem mono {strong weak : List Char → Prop} {text : List Char} {tokens : List Token}
    (read : Reads weak text tokens) (implied : ∀ rest, strong rest → weak rest) :
    Reads strong text tokens :=
  fun rest condition => read rest (implied rest condition)

theorem blank {c : Char} (isBlank : isBlank c = true) : Reads Anything [c] [] := by
  intro rest _
  have read : readToken c rest = (none, rest) := by simp [readToken, isBlank]
  exact scanChars_cons read

end Reads

theorem startsWord_facts {c : Char} (starts : startsWord c = true) :
    isBlank c = false ∧ c.isDigit = false ∧ c ∉ ['-', '/', '"', backquote, '\''] := by
  have underscore (other : isLetter c = false) : c = '_' := by
    simpa [startsWord, other] using starts
  refine ⟨?_, ?_, ?_⟩
  · by_contra blank
    have blank : isBlank c = true := by simpa using blank
    obtain rfl := underscore (isLetter_of_isBlank blank)
    exact absurd blank (by decide)
  · by_contra digit
    have digit : c.isDigit = true := by simpa using digit
    obtain rfl := underscore (isLetter_of_isDigit digit)
    exact absurd digit (by decide)
  · intro member
    have none : ['-', '/', '"', backquote, '\''].all (fun c => !startsWord c) = true := by
      decide
    have other := List.all_eq_true.mp none c member
    simp [starts] at other

theorem takeWhile_append_of_head {p : Char → Bool} {text rest : List Char}
    (all : ∀ c ∈ text, p c = true) (ends : ∀ c, rest.head? = some c → p c = false) :
    (text ++ rest).takeWhile p = text ∧ (text ++ rest).dropWhile p = rest := by
  rw [List.takeWhile_append_of_pos all, List.dropWhile_append_of_pos all]
  cases rest with
  | nil => simp
  | cons c rest => simp [ends c rfl]

def IsWord (text : List Char) : Prop :=
  ∃ first rest, text = first :: rest ∧ startsWord first = true ∧ ∀ c ∈ rest, continuesWord c = true

instance (text : List Char) : Decidable (IsWord text) :=
  match text with
  | [] => .isFalse fun ⟨_, _, same, _⟩ => by cases same
  | first :: rest =>
      decidable_of_iff (startsWord first = true ∧ rest.all continuesWord = true)
        ⟨fun ⟨starts, continues⟩ => ⟨first, rest, rfl, starts, List.all_eq_true.mp continues⟩,
          fun ⟨_, _, same, starts, continues⟩ => by
            cases same
            exact ⟨starts, List.all_eq_true.mpr continues⟩⟩

def EndsWord (rest : List Char) : Prop := ∀ c, rest.head? = some c → continuesWord c = false

theorem Reads.wholeWord {text : List Char} (isWord : IsWord text) :
    Reads EndsWord text [wordToken text] := by
  obtain ⟨first, tail, rfl, starts, continues⟩ := isWord
  intro rest ends
  obtain ⟨notBlank, notDigit, others⟩ := startsWord_facts starts
  simp only [List.mem_cons, List.not_mem_nil, or_false, not_or] at others
  have pieces := takeWhile_append_of_head continues ends
  have read : readToken first (tail ++ rest) = (some (wordToken (first :: tail)), rest) := by
    simp [readToken, notBlank, notDigit, others, starts, pieces]
  exact scanChars_cons read

theorem Reads.word {text : List Char} (isWord : IsWord text) :
    Reads Breaks text [wordToken text] :=
  (Reads.wholeWord isWord).mono fun _ ends c found => (ends c found).1

theorem Reads.keyword (keyword : Keyword) :
    Reads Breaks keyword.text.toList [.keyword keyword] := by
  have isWord : IsWord keyword.text.toList := by cases keyword <;> decide
  have token : wordToken keyword.text.toList = .keyword keyword := by
    cases keyword <;> decide
  rw [← token]
  exact Reads.word isWord

theorem continuesWord_of_isDigit {c : Char} (digit : c.isDigit = true) :
    continuesWord c = true := by
  simp [continuesWord, isLetterOrNumeral, isNumeral_of_isDigit digit]

theorem Breaks.noDigit {rest : List Char} (ends : Breaks rest) :
    ∀ c, rest.head? = some c → c.isDigit = false := by
  intro c found
  by_contra digit
  have continues := continuesWord_of_isDigit (c := c) (by simpa using digit)
  rw [(ends c found).1] at continues
  cases continues

theorem readNumber_digits {digits rest : List Char} (all : ∀ c ∈ digits, c.isDigit = true)
    (ends : Breaks rest) : readNumber (digits ++ rest) = (digits, rest) := by
  have pieces := takeWhile_append_of_head all ends.noDigit
  unfold readNumber
  rw [pieces.1, pieces.2]
  -- A point after the digits could belong to the number.
  split
  · exact absurd rfl (ends '.' rfl).2.2
  · rfl

theorem readToken_digit {first : Char} (digit : first.isDigit = true) (rest : List Char) :
    readToken first rest = (some (.number (String.ofList (readNumber (first :: rest)).1)),
      (readNumber (first :: rest)).2) := by
  have notBlank := isBlank_of_isDigit digit
  have minus : first ≠ '-' := by
    rintro rfl
    exact absurd digit (by decide)
  have slash : first ≠ '/' := by
    rintro rfl
    exact absurd digit (by decide)
  simp [readToken, notBlank, digit, minus, slash]

theorem Reads.number {digits : List Char} (present : digits ≠ [])
    (all : ∀ c ∈ digits, c.isDigit = true) :
    Reads Breaks digits [.number (String.ofList digits)] := by
  intro rest ends
  have number := readNumber_digits all ends
  obtain ⟨first, tail, rfl⟩ := List.exists_cons_of_ne_nil present
  have read := readToken_digit (all first List.mem_cons_self) (tail ++ rest)
  rw [← List.cons_append, number] at read
  exact scanChars_cons read

theorem Reads.punctuation {c : Char} {token : Token} (known : punctuation? c = some token) :
    Reads Anything [c] [token] := by
  intro rest _
  have read : readToken c rest = (some token, rest) := by
    unfold punctuation? at known
    split at known <;> cases known <;> rfl
  exact scanChars_cons read

def doubling (quote : Char) (text : List Char) : List Char :=
  text.flatMap fun c => if c = quote then [quote, quote] else [c]

theorem readQuoted_doubling {quote : Char} (text : List Char) {rest : List Char}
    (ends : rest.head? ≠ some quote) :
    readQuoted quote (doubling quote text ++ quote :: rest) = (text, rest) := by
  induction text with
  | nil =>
      cases rest with
      | nil => simp [doubling, readQuoted]
      | cons next after =>
          have other : next ≠ quote := fun same => ends (by rw [same]; rfl)
          simp [doubling, readQuoted, other]
  | cons c text ih =>
      by_cases same : c = quote
      · have start : doubling quote (c :: text) = quote :: quote :: doubling quote text := by
          simp [doubling, same]
        rw [start, List.cons_append, List.cons_append, readQuoted, if_pos rfl]
        simp [ih, same]
      · have start : doubling quote (c :: text) = c :: doubling quote text := by
          simp [doubling, same]
        rw [start, List.cons_append, readQuoted.eq_def]
        simp [ih, same]

def inQuotes (quote : Char) (text : String) : List Char :=
  quote :: (doubling quote text.toList ++ [quote])

theorem Reads.inQuotes {quote : Char} {token : String → Token}
    (reads : ∀ rest, readToken quote rest =
      (some (token (String.ofList (readQuoted quote rest).1)), (readQuoted quote rest).2))
    (text : String) :
    Reads (fun rest => rest.head? ≠ some quote) (inQuotes quote text) [token text] := by
  intro rest ends
  have read := reads (doubling quote text.toList ++ quote :: rest)
  rw [readQuoted_doubling text.toList ends, String.ofList_toList] at read
  simpa [SchemaDump.inQuotes] using scanChars_cons read

def NoQuote (rest : List Char) : Prop := rest.head? ≠ some '"'

theorem Breaks.noQuote {rest : List Char} (ends : Breaks rest) : NoQuote rest :=
  fun first => (ends '"' first).2.1 rfl

theorem Reads.quotedName (name : String) :
    Reads NoQuote (SchemaDump.inQuotes '"' name) [.quotedName name] :=
  Reads.inQuotes (fun _ => rfl) name

/-- A character that ends names, words and numbers, and what it reads as. -/
structure Delimiter (c : Char) (mark : List Token) : Prop where
  reads : Reads Anything [c] mark
  ends : continuesWord c = false ∧ c ≠ '"' ∧ c ≠ '.'

namespace Delimiter

theorem breaks {c : Char} {mark : List Token} (delimiter : Delimiter c mark) (rest : List Char) :
    Breaks (c :: rest) := by
  intro first same
  cases same
  exact delimiter.ends

theorem blank : Delimiter ' ' [] := ⟨Reads.blank (by decide), by decide⟩

theorem comma : Delimiter ',' [.comma] := ⟨Reads.punctuation rfl, by decide⟩

theorem openParen : Delimiter '(' [.openParen] := ⟨Reads.punctuation rfl, by decide⟩

theorem closeParen : Delimiter ')' [.closeParen] := ⟨Reads.punctuation rfl, by decide⟩

end Delimiter

namespace Reads

theorem delimited {condition : List Char → Prop} {c : Char} {text more : List Char}
    {tokens mark moreTokens : List Token} (start : Reads Breaks text tokens)
    (delimiter : Delimiter c mark) (later : Reads condition more moreTokens) :
    Reads condition (text ++ c :: more) (tokens ++ (mark ++ moreTokens)) := by
  have following : Reads condition (c :: more) (mark ++ moreTokens) :=
    delimiter.reads.append later fun _ _ => trivial
  exact start.append following fun _ _ => delimiter.breaks _

theorem joined {α : Type} {separator : List Char} {mark : List Token}
    (between : Reads Anything separator mark) (ends : ∀ rest, Breaks (separator ++ rest))
    {text : α → List Char} {tokens : α → List Token} {items : List α}
    (each : ∀ item ∈ items, Reads Breaks (text item) (tokens item)) :
    Reads Breaks (separator.intercalate (items.map text))
      (mark.intercalate (items.map tokens)) := by
  induction items with
  | nil => exact nil Breaks
  | cons item rest ih =>
      have start := each item List.mem_cons_self
      have later := ih fun other member => each other (List.mem_cons_of_mem _ member)
      cases rest with
      | nil => simpa using start
      | cons next rest =>
          simp only [List.map_cons, List.intercalate_cons_cons, List.append_assoc] at later ⊢
          have following := between.append later fun _ _ => trivial
          refine start.append following fun after _ => ?_
          rw [List.append_assoc]
          exact ends _

end Reads

end NestedQuery.SchemaDump
