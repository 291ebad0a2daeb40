import Mathlib.Data.List.TakeWhile
import NestedQuery.Proofs.SchemaDump.Scanning

/-! Tokens as they may be printed. Keywords have any letter case, names and texts stand in quotes,
and between two tokens there are blanks and comments. Whatever is printed in this way is scanned as
the tokens that were printed, and no text is scanned as tokens that cannot be printed. -/

namespace NestedQuery.SchemaDump

open NestedQuery.Text

def IsDigits (text : List Char) : Prop := text ≠ [] ∧ ∀ c ∈ text, c.isDigit = true

instance (text : List Char) : Decidable (IsDigits text) :=
  @instDecidableAnd _ _ _ (List.decidableBAll (·.isDigit = true) text)

inductive IsUnsigned : List Char → Prop
  | whole {digits} : IsDigits digits → IsUnsigned digits
  | decimal {digits fraction} : IsDigits digits → IsDigits fraction →
      IsUnsigned (digits ++ '.' :: fraction)

def IsNumber (text : List Char) : Prop :=
  IsUnsigned text ∨ ∃ digits, text = '-' :: digits ∧ IsUnsigned digits

/-- A token that some text is scanned as. -/
def Token.WellFormed : Token → Prop
  | .word name =>
      IsWord name.toList ∧ ∀ keyword : Keyword, sameWord keyword.text.toList name.toList = false
  | .number digits => IsNumber digits.toList
  | _ => True

inductive Token.Spelled : Token → List Char → Prop
  | keyword {keyword text} : sameWord keyword.text.toList text = true →
      Spelled (.keyword keyword) text
  | word (text) : Spelled (.word text) text.toList
  | quotedName (name) : Spelled (.quotedName name) (inQuotes '"' name)
  | text (text) : Spelled (.text text) (inQuotes '\'' text)
  | number (digits) : Spelled (.number digits) digits.toList
  | punctuation {c token} : punctuation? c = some token → Spelled token [c]

/-- What may stand between tokens: blanks, line comments with the end of their line, and block
comments with their end. -/
inductive Gap : List Char → Prop
  | empty : Gap []
  | blank {c rest} : isBlank c = true → Gap rest → Gap (c :: rest)
  | lineComment {body rest} : '\n' ∉ body → Gap rest → Gap ('-' :: '-' :: body ++ '\n' :: rest)
  | blockComment {body rest} : ¬ ['*', '/'] <:+: body → Gap rest →
      Gap ('/' :: '*' :: body ++ '*' :: '/' :: rest)

/-- The tokens one after another, each followed by a gap that is not empty where another token
follows. -/
inductive Printed : List Token → List Char → Prop
  | nil : Printed [] []
  | cons {token text gap tokens rest} : Token.Spelled token text → Gap gap →
      (tokens ≠ [] → gap ≠ []) → Printed tokens rest →
      Printed (token :: tokens) (text ++ (gap ++ rest))

theorem continuesWord_of_isBlank {c : Char} (blank : isBlank c = true) :
    continuesWord c = false := by
  have none : ∀ code ∈ spanCodes blankSpans,
      (inSpans letterSpans code || inSpans numeralSpans code) = false := by
    decide +kernel
  have unlettered : isLetterOrNumeral c = false :=
    none c.toNat (mem_spanCodes_of_inSpans blank)
  have other {mark : Char} (visible : isBlank mark = false) : c ≠ mark := by
    rintro rfl
    rw [blank] at visible
    cases visible
  have underscore : c ≠ '_' := other (by decide)
  have dollar : c ≠ '$' := other (by decide)
  have hash : c ≠ '#' := other (by decide)
  simp [continuesWord, unlettered, underscore, dollar, hash]

def Apart (rest : List Char) : Prop :=
  ∀ c, rest.head? = some c → isBlank c = true ∨ c = '-' ∨ c = '/'

theorem Apart.breaks {rest : List Char} (apart : Apart rest) : Breaks rest := by
  intro c found
  rcases apart c found with blank | rfl | rfl
  · refine ⟨continuesWord_of_isBlank blank, ?_, ?_⟩
    · rintro rfl
      exact absurd blank (by decide)
    · rintro rfl
      exact absurd blank (by decide)
  · decide
  · decide

theorem Apart.ne_quote {rest : List Char} (apart : Apart rest) {quote : Char}
    (isQuote : quote = '"' ∨ quote = '\'') : rest.head? ≠ some quote := by
  intro found
  rcases isQuote with rfl | rfl
  · exact absurd (apart _ found) (by decide)
  · exact absurd (apart _ found) (by decide)

theorem Gap.apart {gap : List Char} (isGap : Gap gap) (present : gap ≠ []) (rest : List Char) :
    Apart (gap ++ rest) := by
  intro c found
  cases isGap with
  | empty => exact absurd rfl present
  | blank blank _ =>
      cases found
      exact .inl blank
  | lineComment _ _ =>
      cases found
      exact .inr (.inl rfl)
  | blockComment _ _ =>
      cases found
      exact .inr (.inr rfl)

theorem skipPast_first {mark body rest : List Char} (present : mark ≠ [])
    (first : ∀ after, after <:+ body → after ≠ [] → ¬ mark <+: after ++ (mark ++ rest)) :
    skipPast mark (body ++ (mark ++ rest)) = rest := by
  induction body with
  | nil =>
      obtain ⟨c, tail, rfl⟩ := List.exists_cons_of_ne_nil present
      simp [skipPast]
  | cons c body ih =>
      have here := first (c :: body) List.suffix_rfl (List.cons_ne_nil c body)
      have later := ih fun after ends => first after (ends.trans (List.suffix_cons c body))
      rw [List.cons_append] at here ⊢
      rw [skipPast, if_neg (by simpa using here)]
      exact later

theorem skipPast_line {body : List Char} (single : '\n' ∉ body) (rest : List Char) :
    skipPast ['\n'] (body ++ '\n' :: rest) = rest := by
  apply @skipPast_first ['\n'] body rest (by simp)
  intro after ends present starts
  obtain ⟨c, tail, rfl⟩ := List.exists_cons_of_ne_nil present
  obtain ⟨rfl, _⟩ := List.cons_prefix_cons.mp starts
  exact single (ends.subset List.mem_cons_self)

theorem skipPast_block {body : List Char} (inside : ¬ ['*', '/'] <:+: body) (rest : List Char) :
    skipPast ['*', '/'] (body ++ '*' :: '/' :: rest) = rest := by
  apply @skipPast_first ['*', '/'] body rest (by simp)
  intro after ends present starts
  rcases after with _ | ⟨c, _ | ⟨d, tail⟩⟩
  · exact present rfl
  · -- The star at the end of the comment follows, and not a slash.
    simp [List.cons_prefix_cons] at starts
  · obtain ⟨rfl, afterStar⟩ := List.cons_prefix_cons.mp starts
    obtain ⟨rfl, _⟩ := List.cons_prefix_cons.mp afterStar
    exact inside ((List.prefix_append ['*', '/'] tail).isInfix.trans ends.isInfix)

theorem Gap.reads {gap : List Char} (isGap : Gap gap) : Reads Anything gap [] := by
  induction isGap with
  | empty => exact Reads.nil Anything
  | blank blank _ ih => exact (Reads.blank blank).append ih fun _ _ => trivial
  | @lineComment body rest single _ ih =>
      intro more _
      have line := @skipPast_line ('-' :: body) (by simpa using single) (rest ++ more)
      have skipped : readToken '-' ('-' :: (body ++ '\n' :: (rest ++ more))) =
          (none, rest ++ more) := by
        have notBlank : isBlank '-' = false := by decide
        simpa [readToken, notBlank] using line
      have start := scanChars_cons skipped
      simpa [ih more trivial] using start
  | @blockComment body rest inside _ ih =>
      intro more _
      have skipped : readToken '/' ('*' :: (body ++ '*' :: '/' :: (rest ++ more))) =
          (none, rest ++ more) := by
        have notBlank : isBlank '/' = false := by decide
        simp [readToken, notBlank, skipPast_block inside]
      have start := scanChars_cons skipped
      simpa [ih more trivial] using start

theorem readNumber_decimal {digits fraction rest : List Char}
    (all : ∀ c ∈ digits, c.isDigit = true) (isFraction : IsDigits fraction)
    (ends : ∀ c, rest.head? = some c → c.isDigit = false) :
    readNumber (digits ++ '.' :: (fraction ++ rest)) = (digits ++ '.' :: fraction, rest) := by
  have stop : ∀ c, ('.' :: (fraction ++ rest)).head? = some c → c.isDigit = false := by
    intro c found
    cases found
    decide
  have whole := takeWhile_append_of_head all stop
  have later := takeWhile_append_of_head isFraction.2 ends
  obtain ⟨first, tail, rfl⟩ := List.exists_cons_of_ne_nil isFraction.1
  have starts : startsWithDigit (first :: (tail ++ rest)) = true :=
    isFraction.2 first List.mem_cons_self
  unfold readNumber
  rw [whole.1, whole.2]
  simp only [List.cons_append] at later ⊢
  rw [if_pos starts, later.1, later.2]

theorem readNumber_unsigned {text rest : List Char} (number : IsUnsigned text)
    (ends : Breaks rest) : readNumber (text ++ rest) = (text, rest) := by
  cases number with
  | whole digits => exact readNumber_digits digits.2 ends
  | decimal digits fraction =>
      rw [List.append_assoc]
      exact readNumber_decimal digits.2 fraction ends.noDigit

theorem IsUnsigned.startsWithDigit {text : List Char} (number : IsUnsigned text) :
    ∃ first rest, text = first :: rest ∧ first.isDigit = true := by
  obtain ⟨digits, more, rfl, present, all⟩ :
      ∃ digits more, text = digits ++ more ∧ digits ≠ [] ∧ ∀ c ∈ digits, c.isDigit = true := by
    cases number with
    | whole digits => exact ⟨text, [], by simp, digits.1, digits.2⟩
    | @decimal digits fraction whole _ => exact ⟨digits, '.' :: fraction, rfl, whole.1, whole.2⟩
  obtain ⟨first, tail, rfl⟩ := List.exists_cons_of_ne_nil present
  exact ⟨first, tail ++ more, rfl, all first List.mem_cons_self⟩

theorem IsNumber.reads {text : List Char} (number : IsNumber text) :
    Reads Breaks text [.number (String.ofList text)] := by
  intro rest ends
  rcases number with number | ⟨digits, rfl, number⟩
  · have whole := readNumber_unsigned number ends
    obtain ⟨first, tail, rfl, digit⟩ := number.startsWithDigit
    have read := readToken_digit digit (tail ++ rest)
    rw [← List.cons_append, whole] at read
    exact scanChars_cons read
  · have whole := readNumber_unsigned number ends
    obtain ⟨first, tail, rfl, digit⟩ := number.startsWithDigit
    have read : readToken '-' (first :: (tail ++ rest)) =
        (some (.number (String.ofList ('-' :: first :: tail))), rest) := by
      have notBlank : isBlank '-' = false := by decide
      have notMinus : first ≠ '-' := by
        rintro rfl
        exact absurd digit (by decide)
      rw [List.cons_append] at whole
      simp [readToken, notBlank, notMinus, startsWithDigit, digit, whole]
    exact scanChars_cons read

theorem isLetter_of_isAlpha {c : Char} (alpha : c.isAlpha = true) : isLetter c = true := by
  have bounds : 0x41 ≤ c.toNat ∧ c.toNat ≤ 0x5A ∨ 0x61 ≤ c.toNat ∧ c.toNat ≤ 0x7A := by
    have either : c.isUpper = true ∨ c.isLower = true := Bool.or_eq_true_iff.mp alpha
    rcases either with upper | lower
    · exact .inl (of_decide_eq_true upper)
    · obtain ⟨first, last⟩ := Bool.and_eq_true_iff.mp lower
      exact .inr ⟨of_decide_eq_true first, of_decide_eq_true last⟩
  unfold isLetter letterSpans
  rcases bounds with bounds | bounds
  · rw [inSpans, if_neg (by omega), Bool.or_eq_true]
    exact .inl (decide_eq_true bounds.2)
  · rw [inSpans, if_neg (by omega), inSpans, if_neg (by omega), Bool.or_eq_true, Bool.or_eq_true]
    exact .inr (.inl (decide_eq_true bounds.2))

theorem isAlpha_of_toLower {c : Char} (alpha : c.toLower.isAlpha = true) : c.isAlpha = true := by
  unfold Char.toLower at alpha
  split at alpha
  · rename_i upper
    have isUpper : c.isUpper = true := decide_eq_true upper
    exact Bool.or_eq_true_iff.mpr (.inl isUpper)
  · exact alpha

theorem sameWord_iff {left right : List Char} :
    sameWord left right = true ↔ left.map Char.toLower = right.map Char.toLower := by
  simp [sameWord]

theorem Keyword.isLetter_of_sameWord {keyword : Keyword} {text : List Char}
    (same : sameWord keyword.text.toList text = true) : ∀ c ∈ text, isLetter c = true := by
  rw [sameWord_iff] at same
  have lettered : keyword.text.toList.all (·.toLower.isAlpha) = true := by
    cases keyword <;> decide
  rw [List.all_eq_true] at lettered
  intro c member
  have lowered : c.toLower ∈ keyword.text.toList.map Char.toLower := by
    rw [same]
    exact List.mem_map_of_mem member
  obtain ⟨d, inKeyword, sameLetter⟩ := List.mem_map.mp lowered
  have alpha := lettered d inKeyword
  rw [sameLetter] at alpha
  exact isLetter_of_isAlpha (isAlpha_of_toLower alpha)

theorem Keyword.isWord_of_sameWord {keyword : Keyword} {text : List Char}
    (same : sameWord keyword.text.toList text = true) : IsWord text := by
  have alpha := Keyword.isLetter_of_sameWord same
  rw [sameWord_iff] at same
  cases text with
  | nil =>
      have empty : keyword.text.toList = [] := by simpa using same
      exact absurd empty (by cases keyword <;> decide)
  | cons first rest =>
      refine ⟨first, rest, rfl, ?_, ?_⟩
      · simp [startsWord, alpha first List.mem_cons_self]
      · intro c member
        simp [continuesWord, isLetterOrNumeral, alpha c (List.mem_cons_of_mem first member)]

theorem Keyword.ofWord?_of_sameWord {keyword : Keyword} {text : List Char}
    (same : sameWord keyword.text.toList text = true) : Keyword.ofWord? text = some keyword := by
  have itself : Keyword.ofWord? keyword.text.toList = some keyword := by
    cases keyword <;> decide
  -- Only the lower case of a word is looked at.
  have alike (other : List Char) : sameWord other text = sameWord other keyword.text.toList := by
    rw [sameWord_iff] at same
    simp only [sameWord, same]
  rw [← itself]
  simp only [Keyword.ofWord?, alike]

theorem Keyword.ofWord?_eq_none_iff {text : List Char} :
    Keyword.ofWord? text = none ↔
      ∀ keyword : Keyword, sameWord keyword.text.toList text = false := by
  have listed : ∀ keyword : Keyword, keyword ∈ Keyword.all := by
    intro keyword
    cases keyword <;> decide
  simp only [Keyword.ofWord?, List.find?_eq_none, Bool.not_eq_true]
  exact ⟨fun none keyword => none keyword (listed keyword), fun none keyword _ => none keyword⟩

theorem Token.Spelled.reads {token : Token} {text : List Char} (spelled : token.Spelled text)
    (wellFormed : token.WellFormed) : Reads Apart text [token] := by
  cases spelled with
  | keyword same =>
      have token := Keyword.ofWord?_of_sameWord same
      have read := Reads.word (Keyword.isWord_of_sameWord same)
      simp only [wordToken, token] at read
      exact read.mono fun _ => Apart.breaks
  | word name =>
      obtain ⟨isWord, noKeyword⟩ := wellFormed
      have read := Reads.word isWord
      simp only [wordToken, Keyword.ofWord?_eq_none_iff.mpr noKeyword, String.ofList_toList] at read
      exact read.mono fun _ => Apart.breaks
  | quotedName name =>
      exact (Reads.quotedName name).mono fun _ apart => apart.ne_quote (.inl rfl)
  | text value =>
      exact (Reads.inQuotes (fun _ => rfl) value).mono fun _ apart => apart.ne_quote (.inr rfl)
  | number digits =>
      have read := IsNumber.reads wellFormed
      rw [String.ofList_toList] at read
      exact read.mono fun _ => Apart.breaks
  | punctuation known => exact (Reads.punctuation known).mono fun _ _ => trivial

theorem Printed.scanChars {tokens : List Token} {text : List Char} (printed : Printed tokens text)
    (wellFormed : ∀ token ∈ tokens, token.WellFormed) : scanChars text = tokens := by
  induction printed with
  | nil => rw [SchemaDump.scanChars]
  | @cons token text gap tokens rest spelled isGap apart printed ih =>
      have first := spelled.reads (wellFormed token List.mem_cons_self)
      have others := ih fun token member => wellFormed token (List.mem_cons_of_mem _ member)
      have following : Apart (gap ++ rest) := by
        by_cases present : gap = []
        · -- Only after the last token is a gap empty, and then nothing follows.
          have last : tokens = [] := by
            by_contra more
            exact apart more present
          subst present last
          cases printed
          intro c found
          cases found
        · exact isGap.apart present rest
      rw [first _ following, isGap.reads rest trivial, others]
      rfl

theorem isDigits_takeWhile {text : List Char} (starts : startsWithDigit text = true) :
    IsDigits (text.takeWhile Char.isDigit) := by
  cases text with
  | nil => cases starts
  | cons first rest =>
      have digit : first.isDigit = true := starts
      exact ⟨by simp [digit], fun c member => List.mem_takeWhile_imp member⟩

theorem readNumber_isUnsigned {text : List Char} (starts : startsWithDigit text = true) :
    IsUnsigned (readNumber text).1 := by
  have whole := isDigits_takeWhile starts
  unfold readNumber
  split
  · split
    · rename_i fraction
      exact .decimal whole (isDigits_takeWhile fraction)
    · exact .whole whole
  · exact .whole whole

theorem wellFormed_wordToken {text : List Char} (isWord : IsWord text) :
    (wordToken text).WellFormed := by
  unfold wordToken
  split
  · trivial
  · rename_i noKeyword
    rw [Token.WellFormed, String.toList_ofList]
    exact ⟨isWord, Keyword.ofWord?_eq_none_iff.mp noKeyword⟩

theorem wellFormed_punctuation {c : Char} {token : Token} (known : punctuation? c = some token) :
    token.WellFormed := by
  unfold punctuation? at known
  split at known <;> cases known <;> trivial

theorem wellFormed_readToken {c : Char} {rest : List Char} {token : Token}
    (read : (readToken c rest).1 = some token) : token.WellFormed := by
  unfold readToken at read
  split at read
  · cases read
  split at read
  · cases read
  split at read
  · cases read
  split at read
  · rename_i negative
    cases read
    have starts : startsWithDigit rest = true := by simp_all
    rw [Token.WellFormed, String.toList_ofList]
    exact .inr ⟨_, rfl, readNumber_isUnsigned starts⟩
  split at read
  · rename_i digit
    cases read
    rw [Token.WellFormed, String.toList_ofList]
    exact .inl (readNumber_isUnsigned digit)
  split at read
  · cases read
    trivial
  split at read
  · cases read
    trivial
  split at read
  · rename_i starts
    cases read
    exact wellFormed_wordToken ⟨c, _, rfl, starts, fun c member => List.mem_takeWhile_imp member⟩
  · exact wellFormed_punctuation read

theorem wellFormed_scanChars (text : List Char) : ∀ token ∈ scanChars text, token.WellFormed := by
  fun_induction scanChars text with
  | case1 => simp
  | case2 c rest ih =>
      intro token member
      rcases List.mem_append.mp member with first | later
      · exact wellFormed_readToken (Option.mem_toList.mp first)
      · exact ih token later

/-- Scanning undoes printing, whatever stands between the tokens, and every text is scanned as
well-formed tokens. -/
theorem scan_printed :
    (∀ (tokens : List Token) (before text : List Char), (∀ token ∈ tokens, token.WellFormed) →
      Gap before → Printed tokens text → scan (String.ofList (before ++ text)) = tokens) ∧
    ∀ (text : String), ∀ token ∈ scan text, token.WellFormed := by
  constructor
  · intro tokens before text wellFormed isGap printed
    unfold scan
    rw [String.toList_ofList, isGap.reads text trivial, printed.scanChars wellFormed]
    rfl
  · intro text
    exact wellFormed_scanChars text.toList

namespace Ledger

def tokens : List Token :=
  [.keyword .create, .number "-1.5", .quotedName "a\"b", .text "it's", .word "größe", .dot]

def heading : List Char := ['-', '-', '\'', '\n']

def note : List Char := ['/', '*', '/', '"', '*', '*', '/']

def printed : List Char :=
  ['c', 'R', 'e', 'A', 't', 'E'] ++ (note ++
    (['-', '1', '.', '5'] ++ (heading ++
      (['"', 'a', '"', '"', 'b', '"'] ++ ([' '] ++
        (['\'', 'i', 't', '\'', '\'', 's', '\''] ++ (note ++
          (['g', 'r', 'ö', 'ß', 'e'] ++ (['\t'] ++ (['.'] ++ ([] ++ [])))))))))))

theorem isGap_heading : Gap heading := @Gap.lineComment ['\''] [] (by decide) .empty

theorem isGap_note : Gap note := @Gap.blockComment ['/', '"', '*'] [] (by decide) .empty

theorem printed_tokens : Printed tokens printed := by
  have blank {c : Char} (isBlank : isBlank c = true) : Gap [c] := .blank isBlank .empty
  refine .cons (.keyword (by decide)) isGap_note (by decide) ?_
  refine .cons (.number "-1.5") isGap_heading (by decide) ?_
  refine .cons (.quotedName "a\"b") (blank (by decide)) (by decide) ?_
  refine .cons (.text "it's") isGap_note (by decide) ?_
  refine .cons (.word "größe") (blank (by decide)) (by decide) ?_
  exact .cons (.punctuation rfl) .empty (by decide) .nil

end Ledger

theorem scan_printed_ledger :
    (∀ token ∈ Ledger.tokens, token.WellFormed) ∧ Gap Ledger.heading ∧
      Printed Ledger.tokens Ledger.printed ∧
      scan (String.ofList (Ledger.heading ++ Ledger.printed)) = Ledger.tokens := by
  have wellFormed : ∀ token ∈ Ledger.tokens, token.WellFormed := by
    have number : IsNumber "-1.5".toList :=
      .inr ⟨['1', '.', '5'], by decide, @IsUnsigned.decimal ['1'] ['5'] (by decide) (by decide)⟩
    have word : (Token.word "größe").WellFormed := by
      refine ⟨by decide +kernel, ?_⟩
      intro keyword
      cases keyword <;> decide
    simp only [Ledger.tokens, List.forall_mem_cons]
    exact ⟨trivial, number, trivial, trivial, word, trivial, by simp⟩
  exact ⟨wellFormed, Ledger.isGap_heading, Ledger.printed_tokens,
    scan_printed.1 _ _ _ wellFormed Ledger.isGap_heading Ledger.printed_tokens⟩

end NestedQuery.SchemaDump
