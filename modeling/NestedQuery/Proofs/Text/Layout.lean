import Mathlib.Data.List.Forall2
import NestedQuery.Text.Layout
import NestedQuery.Text.Search

/-! Texts up to the spaces at the start of their lines. By how much a text is indented does not
matter to its lines in this sense, and texts that are put together of such texts have the same lines
too, as long as the parts that differ start on lines of their own. -/

namespace NestedQuery.Text

def dropSpaces (line : List Char) : List Char := line.dropWhile (· == ' ')

/-- The text without the spaces at the start of its lines. -/
def unindented (text : String) : String :=
  joinLines ((pieces (· == '\n') text.toList).map fun line => String.ofList (dropSpaces line))

/-- The same from left to right; a space is left out where nothing else has come in its line. -/
def flushFrom : (fresh : Bool) → List Char → List Char
  | _, [] => []
  | fresh, c :: rest =>
      if c = '\n' then c :: flushFrom true rest
      else if fresh && c == ' ' then flushFrom true rest
      else c :: flushFrom false rest

def freshAfter : (fresh : Bool) → List Char → Bool
  | fresh, [] => fresh
  | fresh, c :: rest =>
      if c = '\n' then freshAfter true rest
      else if fresh && c == ' ' then freshAfter true rest
      else freshAfter false rest

theorem flushFrom_append (fresh : Bool) (first second : List Char) :
    flushFrom fresh (first ++ second) =
      flushFrom fresh first ++ flushFrom (freshAfter fresh first) second := by
  induction first generalizing fresh with
  | nil => rfl
  | cons c rest ih =>
      rw [List.cons_append, flushFrom, flushFrom, freshAfter]
      split
      · rw [ih, List.cons_append]
      · split
        · exact ih true
        · rw [ih, List.cons_append]

theorem freshAfter_eq (fresh : Bool) (text : List Char) :
    freshAfter fresh text = ((flushFrom fresh text).getLast?.map (· == '\n')).getD fresh := by
  have last (c : Char) (kept : List Char) (other : Bool) :
      ((c :: kept).getLast?.map (· == '\n')).getD other =
        (kept.getLast?.map (· == '\n')).getD (c == '\n') := by
    rw [List.getLast?_cons]
    cases kept.getLast? <;> rfl
  induction text generalizing fresh with
  | nil => rfl
  | cons c rest ih =>
      rw [freshAfter, flushFrom]
      split
      · rename_i newline
        rw [ih, last, newline]
        rfl
      · rename_i inLine
        split
        · rename_i space
          rw [ih, (Bool.and_eq_true_iff.mp space).1]
        · rw [ih, last, beq_eq_false_iff_ne.mpr inLine]

theorem flushFrom_newline (fresh : Bool) (rest : List Char) :
    flushFrom fresh ('\n' :: rest) = '\n' :: flushFrom true rest := by
  rw [flushFrom, if_pos rfl]

theorem flushFrom_spaces (spaces : Nat) (text : List Char) :
    flushFrom true (List.replicate spaces ' ' ++ text) = flushFrom true text := by
  induction spaces with
  | zero => rfl
  | succ spaces ih =>
      rw [List.replicate_succ, List.cons_append, flushFrom, if_neg (by decide), if_pos (by rfl), ih]

theorem flushFrom_padLines (spaces : Nat) (fresh : Bool) (text : List Char) :
    flushFrom fresh (padLines (List.replicate spaces ' ') text) = flushFrom fresh text := by
  induction text generalizing fresh with
  | nil => rfl
  | cons c rest ih =>
      rw [padLines]
      split
      · rename_i newline
        rw [newline, flushFrom_newline, flushFrom_newline, flushFrom_spaces, ih]
      · rename_i inLine
        rw [flushFrom, flushFrom, if_neg inLine, if_neg inLine, ih, ih]

theorem flushFrom_indentChars (spaces : Nat) (text : List Char) :
    flushFrom true (indentChars spaces text) = flushFrom true text := by
  rw [indentChars, flushFrom_spaces, flushFrom_padLines]

theorem pieces_ne_nil (separates : Char → Bool) (text : List Char) :
    pieces separates text ≠ [] := by
  cases text with
  | nil => simp [pieces]
  | cons c rest =>
      rw [pieces]
      split
      · simp
      · split <;> simp

theorem intercalate_cons_head {separator : List Char} (c : Char) (line : List Char)
    (lines : List (List Char)) :
    separator.intercalate ((c :: line) :: lines) = c :: separator.intercalate (line :: lines) := by
  cases lines with
  | nil => rfl
  | cons next lines => simp only [List.intercalate_cons_cons, List.cons_append]

theorem flushFrom_eq_pieces {text line : List Char} {lines : List (List Char)}
    (cut : pieces (· == '\n') text = line :: lines) :
    flushFrom false text = ['\n'].intercalate (line :: lines.map dropSpaces) ∧
      flushFrom true text = ['\n'].intercalate (dropSpaces line :: lines.map dropSpaces) := by
  induction text generalizing line lines with
  | nil =>
      cases cut
      exact ⟨rfl, rfl⟩
  | cons c rest ih =>
      obtain ⟨next, others, later⟩ := List.exists_cons_of_ne_nil (pieces_ne_nil (· == '\n') rest)
      obtain ⟨within, atStart⟩ := ih later
      by_cases newline : c = '\n'
      · subst newline
        rw [pieces, if_pos (by rfl), later] at cut
        cases cut
        rw [flushFrom_newline, flushFrom_newline, atStart]
        exact ⟨rfl, rfl⟩
      · rw [pieces, if_neg (by simpa using newline), later] at cut
        cases cut
        rw [flushFrom, flushFrom, if_neg newline, if_neg newline, within, atStart,
          intercalate_cons_head, Bool.false_and, if_neg (by simp)]
        refine ⟨rfl, ?_⟩
        by_cases space : c = ' '
        · simp [space, dropSpaces]
        · simp [space, dropSpaces]

theorem toList_unindented (text : String) :
    (unindented text).toList = flushFrom true text.toList := by
  obtain ⟨line, lines, cut⟩ := List.exists_cons_of_ne_nil (pieces_ne_nil (· == '\n') text.toList)
  rw [unindented, joinLines, String.toList_intercalate, cut, (flushFrom_eq_pieces cut).2]
  simp [Function.comp_def]

/-- The texts differ at most in the spaces at the start of lines. -/
def SameLines (first second : String) : Prop := unindented first = unindented second

theorem sameLines_iff {first second : String} :
    SameLines first second ↔ flushFrom true first.toList = flushFrom true second.toList := by
  rw [SameLines, ← String.toList_inj, toList_unindented, toList_unindented]

def EndsLine (text : String) : Prop := text.toList.getLast? = some '\n'

theorem EndsLine.exists_start {text : String} (ends : EndsLine text) :
    ∃ start, text = start ++ "\n" := by
  obtain ⟨start, whole⟩ := List.getLast?_eq_some_iff.mp ends
  refine ⟨String.ofList start, ?_⟩
  rw [← String.toList_inj, whole, String.toList_append, String.toList_ofList]
  rfl

namespace SameLines

theorem refl (text : String) : SameLines text text := Eq.refl (unindented text)

variable {first second other another : String}

theorem indent (same : SameLines first second) (spaces otherSpaces : Nat) :
    SameLines (Text.indent spaces first) (Text.indent otherSpaces second) := by
  rw [sameLines_iff] at same ⊢
  simp only [Text.indent, String.toList_ofList, flushFrom_indentChars, same]

theorem append (same : SameLines first second) (text : String) :
    SameLines (first ++ text) (second ++ text) := by
  rw [sameLines_iff] at same ⊢
  simp only [String.toList_append, flushFrom_append, freshAfter_eq, same]

theorem line (same : SameLines first second) (rest : SameLines other another) :
    SameLines (first ++ "\n" ++ other) (second ++ "\n" ++ another) := by
  rw [sameLines_iff] at same rest ⊢
  have newline : "\n".toList = ['\n'] := rfl
  simp only [String.toList_append, newline, List.append_assoc, List.singleton_append,
    flushFrom_append, flushFrom_newline, same, rest]

theorem lineAfter (same : SameLines first second) (between : String) (ends : EndsLine between)
    (rest : SameLines other another) :
    SameLines (first ++ between ++ other) (second ++ between ++ another) := by
  obtain ⟨start, rfl⟩ := ends.exists_start
  rw [← String.append_assoc, ← String.append_assoc]
  exact (same.append start).line rest

theorem joined {separator : String} (ends : EndsLine separator) {texts others : List String}
    (same : List.Forall₂ SameLines texts others) :
    SameLines (separator.intercalate texts) (separator.intercalate others) := by
  induction same with
  | nil => exact .refl _
  | cons first rest ih =>
      cases rest with
      | nil => simpa using first
      | cons second rest =>
          rw [String.intercalate_cons_cons, String.intercalate_cons_cons]
          exact first.lineAfter separator ends ih

end SameLines

theorem padLines_append (pad first second : List Char) :
    padLines pad (first ++ second) = padLines pad first ++ padLines pad second := by
  induction first with
  | nil => rfl
  | cons c rest ih =>
      rw [List.cons_append, padLines, padLines, ih]
      split
      · rw [List.cons_append, List.append_assoc]
      · rfl

theorem padLines_intercalate (pad separator : List Char) (texts : List (List Char)) :
    padLines pad (separator.intercalate texts) =
      (padLines pad separator).intercalate (texts.map (padLines pad)) := by
  induction texts with
  | nil => rfl
  | cons text rest ih =>
      cases rest with
      | nil => simp
      | cons next rest =>
          simp only [List.map_cons, List.intercalate_cons_cons, padLines_append] at ih ⊢
          rw [ih]

theorem padLines_eq_self {spaces : Nat} {text : List Char}
    (unpadded : spaces = 0 ∨ '\n' ∉ text) : padLines (List.replicate spaces ' ') text = text := by
  induction text with
  | nil => rfl
  | cons c rest ih =>
      rcases unpadded with rfl | noLine
      · rw [padLines, ih (.inl rfl)]
        exact ite_self _
      · obtain ⟨first, others⟩ := not_or.mp (List.mem_cons.not.mp noLine)
        rw [padLines, if_neg (Ne.symm first), ih (.inr others)]

end NestedQuery.Text
