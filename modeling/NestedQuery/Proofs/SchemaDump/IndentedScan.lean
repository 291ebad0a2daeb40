import NestedQuery.Proofs.Query.Quoting

/-! The tokens of an indented text. Spaces at the start of a line make no difference between tokens
and in comments, but a line that starts inside quotes has them in the quoted text. An indented text
has the tokens of the text, except that the lines of quoted texts are indented too. -/

namespace NestedQuery.SchemaDump

open NestedQuery.Text

def padded (spaces : Nat) (text : List Char) : List Char :=
  padLines (List.replicate spaces ' ') text

/-- How a token is read from an indented text. -/
def Token.indented (spaces : Nat) : Token → Token
  | .text value => .text (String.ofList (padded spaces value.toList))
  | .quotedName value => .quotedName (String.ofList (padded spaces value.toList))
  | token => token

/-- The token is a text or a name in quotes that goes over a line end. -/
def Token.SpansLines : Token → Prop
  | .text value => '\n' ∈ value.toList
  | .quotedName value => '\n' ∈ value.toList
  | _ => False

section Padded

variable {spaces : Nat} {c : Char} {text rest : List Char}

theorem padded_newline : padded spaces ('\n' :: rest) =
    '\n' :: (List.replicate spaces ' ' ++ padded spaces rest) := by
  rw [padded, padLines, if_pos rfl]
  rfl

theorem padded_cons (inLine : c ≠ '\n') : padded spaces (c :: rest) = c :: padded spaces rest := by
  rw [padded, padLines, if_neg inLine]
  rfl

theorem head?_padded : (padded spaces text).head? = text.head? := by
  cases text with
  | nil => rfl
  | cons c rest =>
      by_cases newline : c = '\n'
      · rw [newline, padded_newline]
        rfl
      · rw [padded_cons newline]
        rfl

theorem startsWithDigit_padded : startsWithDigit (padded spaces text) = startsWithDigit text := by
  have byHead (text : List Char) : startsWithDigit text = text.head?.any Char.isDigit := by
    cases text <;> rfl
  rw [byHead, byHead, head?_padded]

theorem takeWhile_padded (spaces : Nat) (text : List Char) {p : Char → Bool}
    (stops : p '\n' = false) :
    (padded spaces text).takeWhile p = text.takeWhile p ∧
      (padded spaces text).dropWhile p = padded spaces (text.dropWhile p) := by
  induction text with
  | nil => exact ⟨rfl, rfl⟩
  | cons c rest ih =>
      by_cases newline : c = '\n'
      · subst newline
        rw [padded_newline]
        simp [stops, padded_newline]
      · rw [padded_cons newline]
        by_cases goesOn : p c = true
        · simp [goesOn, ih]
        · simp [goesOn, padded_cons newline]

theorem readNumber_padded : readNumber (padded spaces text) =
    ((readNumber text).1, padded spaces (readNumber text).2) := by
  have stops : '\n'.isDigit = false := rfl
  obtain ⟨digits, left⟩ := takeWhile_padded spaces text stops
  unfold readNumber
  rw [digits, left]
  cases text.dropWhile Char.isDigit with
  | nil => rfl
  | cons c after =>
      by_cases point : c = '.'
      · subst point
        obtain ⟨fraction, beyond⟩ := takeWhile_padded spaces after stops
        rw [padded_cons (by decide)]
        simp only [startsWithDigit_padded, fraction, beyond]
        split
        · rfl
        · rw [padded_cons (by decide)]
      · by_cases newline : c = '\n'
        · rw [newline, padded_newline]
          simp [padded_newline]
        · rw [padded_cons newline]
          simp [point, padded_cons newline]

theorem readQuoted_inside {quote : Char} (inside : c ≠ quote) : readQuoted quote (c :: rest) =
    (c :: (readQuoted quote rest).1, (readQuoted quote rest).2) := by
  rw [readQuoted.eq_def]
  simp [inside]

theorem readQuoted_closed {quote : Char} (closed : rest.head? ≠ some quote) :
    readQuoted quote (quote :: rest) = ([], rest) := by
  cases rest with
  | nil => simp [readQuoted]
  | cons next after =>
      have other : next ≠ quote := fun same => closed (by rw [same]; rfl)
      simp [readQuoted, other]

theorem readQuoted_spaces {quote : Char} (noSpace : quote ≠ ' ') :
    readQuoted quote (List.replicate spaces ' ' ++ text) =
      (List.replicate spaces ' ' ++ (readQuoted quote text).1, (readQuoted quote text).2) := by
  induction spaces with
  | zero => rfl
  | succ spaces ih =>
      rw [List.replicate_succ, List.cons_append, readQuoted_inside (Ne.symm noSpace), ih]
      rfl

theorem readQuoted_padded {quote : Char} (noNewline : quote ≠ '\n') (noSpace : quote ≠ ' ') :
    readQuoted quote (padded spaces text) =
      (padded spaces (readQuoted quote text).1, padded spaces (readQuoted quote text).2) := by
  fun_induction readQuoted quote text with
  | case1 => rfl
  | case2 =>
      rw [padded_cons noNewline, readQuoted_closed (by simp [head?_padded])]
      rfl
  | case3 after value left read ih =>
      rw [padded_cons noNewline, padded_cons noNewline]
      simp [readQuoted, ih, read, padded_cons noNewline]
  | case4 next after other =>
      rw [padded_cons noNewline, readQuoted_closed (by simpa [head?_padded] using other)]
      rfl
  | case5 c rest inside value left read ih =>
      by_cases newline : c = '\n'
      · subst newline
        rw [padded_newline, readQuoted_inside inside, readQuoted_spaces noSpace, ih, read,
          padded_newline]
      · rw [padded_cons newline, readQuoted_inside inside, ih, read, padded_cons newline]

theorem skipPast_line_padded (spaces : Nat) (text : List Char) :
    ∃ count, skipPast ['\n'] (padded spaces text) =
      List.replicate count ' ' ++ padded spaces (skipPast ['\n'] text) := by
  induction text with
  | nil => exact ⟨0, rfl⟩
  | cons c rest ih =>
      by_cases newline : c = '\n'
      · subst newline
        rw [padded_newline]
        exact ⟨spaces, by simp [skipPast]⟩
      · rw [padded_cons newline]
        simpa [skipPast, Ne.symm newline] using ih

theorem skipPast_spaces : skipPast ['*', '/'] (List.replicate spaces ' ' ++ text) =
    skipPast ['*', '/'] text := by
  induction spaces with
  | zero => rfl
  | succ spaces ih => simpa [List.replicate_succ, skipPast] using ih

theorem blockEnd_iff :
    ['*', '/'].isPrefixOf (c :: text) = true ↔ c = '*' ∧ text.head? = some '/' := by
  cases text with
  | nil => simp [List.isPrefixOf]
  | cons next after =>
      simp only [List.isPrefixOf, Bool.and_true, Bool.and_eq_true, beq_iff_eq, List.head?_cons,
        Option.some.injEq]
      exact and_congr eq_comm eq_comm

theorem skipPast_block_padded :
    skipPast ['*', '/'] (padded spaces text) = padded spaces (skipPast ['*', '/'] text) := by
  induction text with
  | nil => rfl
  | cons c rest ih =>
      by_cases newline : c = '\n'
      · subst newline
        rw [padded_newline]
        simpa [skipPast, skipPast_spaces] using ih
      · rw [padded_cons newline, skipPast, skipPast]
        simp only [blockEnd_iff, head?_padded]
        split
        · rename_i ends
          obtain ⟨after, rfl⟩ := List.head?_eq_some_iff.mp ends.2
          rw [padded_cons (by decide)]
          rfl
        · exact ih

end Padded

theorem map_indented_punctuation (spaces : Nat) (c : Char) :
    (punctuation? c).map (Token.indented spaces) = punctuation? c := by
  unfold punctuation?
  split <;> rfl

theorem indented_wordToken (spaces : Nat) (word : List Char) :
    (wordToken word).indented spaces = wordToken word := by
  unfold wordToken
  cases Keyword.ofWord? word <;> rfl

/-- A token that does not start at a line end is read from a padded text as from the text, apart
from the lines inside quotes and from spaces after it. -/
theorem readToken_padded (spaces : Nat) {c : Char} (inLine : c ≠ '\n') (rest : List Char) :
    ∃ count, readToken c (padded spaces rest) =
      ((readToken c rest).1.map (Token.indented spaces),
        List.replicate count ' ' ++ padded spaces (readToken c rest).2) := by
  unfold readToken
  simp only [head?_padded, startsWithDigit_padded]
  split
  · exact ⟨0, rfl⟩
  rename_i notBlank
  have noSpace : c ≠ ' ' := by
    rintro rfl
    exact notBlank (by decide)
  split
  · obtain ⟨count, skipped⟩ := skipPast_line_padded spaces rest
    exact ⟨count, by rw [skipped]; rfl⟩
  split
  · rename_i block
    simp only [Bool.and_eq_true, decide_eq_true_eq, beq_iff_eq] at block
    obtain ⟨inside, rfl⟩ := List.head?_eq_some_iff.mp block.2
    refine ⟨0, ?_⟩
    rw [padded_cons (by decide), List.tail_cons, skipPast_block_padded]
    rfl
  split
  · exact ⟨0, by rw [readNumber_padded]; rfl⟩
  split
  · exact ⟨0, by rw [← padded_cons inLine, readNumber_padded]; rfl⟩
  split
  · exact ⟨0, by rw [readQuoted_padded inLine noSpace]; simp [Token.indented]⟩
  split
  · exact ⟨0, by rw [readQuoted_padded inLine noSpace]; simp [Token.indented]⟩
  split
  · have newline : isBlank '\n' = true := by decide
    obtain ⟨word, left⟩ := takeWhile_padded spaces rest (continuesWord_of_isBlank newline)
    exact ⟨0, by simp [word, left, indented_wordToken]⟩
  · exact ⟨0, by rw [map_indented_punctuation]; rfl⟩

theorem scanChars_spaces (count : Nat) (text : List Char) :
    scanChars (List.replicate count ' ' ++ text) = scanChars text :=
  Reads.spaces count text trivial

theorem scanChars_padded (spaces : Nat) (text : List Char) :
    scanChars (padded spaces text) = (scanChars text).map (Token.indented spaces) := by
  fun_induction scanChars text with
  | case1 => rw [padded, padLines, scanChars, List.map_nil]
  | case2 c rest ih =>
      by_cases newline : c = '\n'
      · subst newline
        have blank (after : List Char) : readToken '\n' after = (none, after) := rfl
        rw [blank] at ih ⊢
        rw [padded_newline, scanChars_cons (blank _), scanChars_spaces, ih]
        rfl
      · obtain ⟨count, read⟩ := readToken_padded spaces newline rest
        rw [padded_cons newline, scanChars_cons read, scanChars_spaces, ih, List.map_append]
        cases (readToken c rest).1 <;> rfl

theorem length_padded (spaces : Nat) (text : List Char) :
    (padded spaces text).length = text.length + spaces * text.count '\n' := by
  induction text with
  | nil => rfl
  | cons c rest ih =>
      by_cases newline : c = '\n'
      · subst newline
        rw [padded_newline, List.count_cons_self]
        simp only [List.length_cons, List.length_append, List.length_replicate, ih, Nat.mul_add]
        omega
      · rw [padded_cons newline, List.count_cons_of_ne newline]
        simp only [List.length_cons, ih]
        omega

theorem padded_eq_self_iff {spaces : Nat} {text : List Char} :
    padded spaces text = text ↔ spaces = 0 ∨ '\n' ∉ text := by
  refine ⟨fun same => ?_, padLines_eq_self⟩
  have lengths := length_padded spaces text
  rw [same, left_eq_add, Nat.mul_eq_zero] at lengths
  exact lengths.imp_right List.count_eq_zero.mp

theorem Token.indented_eq_self_iff {spaces : Nat} {token : Token} :
    token.indented spaces = token ↔ spaces = 0 ∨ ¬token.SpansLines := by
  have kept {value : String} : String.ofList (padded spaces value.toList) = value ↔
      spaces = 0 ∨ '\n' ∉ value.toList := by
    rw [← padded_eq_self_iff, ← String.toList_inj, String.toList_ofList]
  cases token with
  | text value => simpa [Token.indented, Token.SpansLines] using kept
  | quotedName value => simpa [Token.indented, Token.SpansLines] using kept
  | _ => simp [Token.indented, Token.SpansLines]

/-- An indented text has the tokens of the text, with the lines inside quotes indented. The tokens
are the same if and only if none of them goes over a line end in quotes. -/
theorem scan_indent_eq_iff (spaces : Nat) (text : String) :
    scan (indent spaces text) = (scan text).map (Token.indented spaces) ∧
      (scan (indent spaces text) = scan text ↔
        spaces = 0 ∨ ∀ token ∈ scan text, ¬token.SpansLines) := by
  have tokens : scan (indent spaces text) = (scan text).map (Token.indented spaces) := by
    rw [scan, indent, String.toList_ofList, indentChars, scanChars_spaces]
    exact scanChars_padded spaces text.toList
  refine ⟨tokens, ?_⟩
  have unchanged : (scan text).map (Token.indented spaces) = scan text ↔
      ∀ token ∈ scan text, token.indented spaces = token := by
    simpa using List.map_inj_left (f := Token.indented spaces) (g := id) (l := scan text)
  rw [tokens, unchanged]
  simp only [Token.indented_eq_self_iff, forall_or_left]

/-- A text that goes over a line end is not the same after indentation. -/
theorem indented_text_changed :
    scan "note = 'a\nb'" = [.word "note", .text "a\nb"] ∧
      scan (indent 2 "note = 'a\nb'") = [.word "note", .text "a\n  b"] ∧
      scan (indent 2 "note = 'a\nb'") ≠ scan "note = 'a\nb'" := by
  decide +kernel

end NestedQuery.SchemaDump
