import NestedQuery.Proofs.SchemaDump.Scanning
import NestedQuery.Proofs.Text.CaseMap
import NestedQuery.Proofs.Text.Layout

/-! Lower case concerns letters alone. Only letters have another lower case, and it consists of
letters again, apart from the dot that a dotted capital I leaves behind. A text in lower case
therefore has its digits, blanks and punctuation where they were. -/

namespace NestedQuery.Text

def dottedCapital : Char := Char.ofNat 0x130

/-- The dot above, which follows a small i in the lower case of the dotted capital. -/
def combiningDot : Char := Char.ofNat 0x307

def spansMask (spans : List (Nat × Nat)) : Nat :=
  spans.foldr (fun span mask => mask ||| (2 ^ (span.2 + 1 - span.1) - 1) <<< span.1) 0

theorem exists_span_of_testBit {spans : List (Nat × Nat)} {code : Nat}
    (inside : (spansMask spans).testBit code = true) :
    ∃ span ∈ spans, span.1 ≤ code ∧ code ≤ span.2 := by
  induction spans with
  | nil => simp [spansMask] at inside
  | cons span rest ih =>
      rw [spansMask, List.foldr_cons, Nat.testBit_or, Bool.or_eq_true] at inside
      rcases inside with later | first
      · obtain ⟨other, listed, bounds⟩ := ih later
        exact ⟨other, List.mem_cons_of_mem _ listed, bounds⟩
      · rw [Nat.testBit_shiftLeft, Nat.testBit_two_pow_sub_one] at first
        simp only [ge_iff_le, Bool.and_eq_true, decide_eq_true_eq] at first
        exact ⟨span, List.mem_cons_self, first.1, by omega⟩

theorem inSpans_of_testBit {spans : List (Nat × Nat)} {code : Nat}
    (ascending : spans.Pairwise fun left right => left.1 ≤ right.1)
    (inside : (spansMask spans).testBit code = true) : inSpans spans code = true := by
  obtain ⟨span, listed, lower, upper⟩ := exists_span_of_testBit inside
  clear inside
  induction spans with
  | nil => exact absurd listed List.not_mem_nil
  | cons first rest ih =>
      obtain ⟨before, later⟩ := List.pairwise_cons.mp ascending
      rcases List.mem_cons.mp listed with rfl | listed
      · simp [inSpans, Nat.not_lt.mpr lower, upper]
      · have start := Nat.le_trans (before span listed) lower
        simp [inSpans, Nat.not_lt.mpr start, ih later listed]

def runsChecked (runs : List CaseRun) : Bool :=
  runsMask (·.first) runs &&& spansMask letterSpans == runsMask (·.first) runs &&
    (runsMask (fun run => (run.first + run.offset).toNat) runs &&& spansMask letterSpans ==
      runsMask (fun run => (run.first + run.offset).toNat) runs)

theorem lowerRuns_checked : runsChecked lowerRuns = true := by decide +kernel

theorem letterSpans_ascending : letterSpans.Pairwise fun left right => left.1 ≤ right.1 := by
  have trans : IsTrans (Nat × Nat) fun left right => left.1 ≤ right.1 :=
    ⟨fun _ _ _ lower upper => Nat.le_trans lower upper⟩
  rw [← List.isChain_iff_pairwise]
  decide +kernel

theorem letter_of_mask {codes code : Nat}
    (letters : (codes &&& spansMask letterSpans == codes) = true)
    (inside : codes.testBit code = true) : inSpans letterSpans code = true := by
  apply inSpans_of_testBit letterSpans_ascending
  rw [← eq_of_beq letters, Nat.testBit_and, Bool.and_eq_true] at inside
  exact inside.2

theorem letters_of_checked {runs : List CaseRun} (checked : runsChecked runs = true)
    (ends : ∀ run ∈ runs, RunEnds run) :
    (∀ code ∈ changedCodes [] runs, inSpans letterSpans code = true) ∧
      ∀ code ∈ imageCodes [] runs, inSpans letterSpans code = true := by
  obtain ⟨changed, images⟩ := Bool.and_eq_true_iff.mp checked
  refine ⟨fun code member => letter_of_mask changed ?_, fun code member => letter_of_mask images ?_⟩
  · simpa [codeMask] using testBit_changed ends member
  · simpa [codeMask] using testBit_image ends member

theorem lowerRuns_letters :
    (∀ code ∈ changedCodes [] lowerRuns, inSpans letterSpans code = true) ∧
      ∀ code ∈ imageCodes [] lowerRuns, inSpans letterSpans code = true := by
  obtain ⟨ends, -⟩ := Bool.and_eq_true_iff.mp (Bool.and_eq_true_iff.mp tables_checked).1
  exact letters_of_checked lowerRuns_checked (endsChecked_iff.mp ends).2

theorem lowerChar_dottedCapital : lowerChar dottedCapital = ['i', combiningDot] := by
  decide

theorem lowerChar_eq_mapCase {c : Char} (plain : c ≠ dottedCapital) :
    lowerChar c = mapCase [] lowerRuns c := by
  have other : (c.toNat == 0x130) = false := by
    rw [beq_eq_false_iff_ne]
    intro same
    apply plain
    rw [← Char.ofNat_toNat c, same]
    rfl
  have unlisted : lowerExpansions.lookup c.toNat = none := by
    rw [lowerExpansions, List.lookup_cons, other]
    rfl
  rw [lowerChar, mapCase, unlisted]
  rfl

theorem lowerChar_cases {c : Char} (plain : c ≠ dottedCapital) :
    lowerChar c = [c] ∨
      isLetter c = true ∧ ∃ d, lowerChar c = [d] ∧ isLetter d = true := by
  rw [lowerChar_eq_mapCase plain]
  by_cases changed : c.toNat ∈ changedCodes [] lowerRuns
  · have single : mapCase [] lowerRuns c = [Char.ofNat (shift lowerRuns c.toNat)] := rfl
    have member : Char.ofNat (shift lowerRuns c.toNat) ∈ mapCase [] lowerRuns c := by
      rw [single]
      exact List.mem_singleton_self _
    rcases mem_mapCase member with ⟨-, kept⟩ | ⟨code, image, same⟩
    · exact .inl kept
    · refine .inr ⟨lowerRuns_letters.1 _ changed, _, single, ?_⟩
      have valid : code.isValidChar :=
        (lower_settles.images code (List.mem_append_right _ image)).1
      rw [same, isLetter, toNat_ofNat_of_valid valid]
      exact lowerRuns_letters.2 _ image
  · exact .inl (mapCase_of_unchanged changed)

/-- What may take the place of a character in lower case: only a letter is changed, and it is
changed to letters and combining dots. -/
def LowersTo (c : Char) (piece : List Char) : Prop :=
  piece = [c] ∨ isLetter c = true ∧ piece ≠ [] ∧ ∀ d ∈ piece, isLetter d = true ∨ d = combiningDot

theorem lowersTo_lowerChar (c : Char) : LowersTo c (lowerChar c) := by
  by_cases dotted : c = dottedCapital
  · subst dotted
    refine .inr ⟨by decide, ?_, ?_⟩
    · simp [lowerChar_dottedCapital]
    · have letter : isLetter 'i' = true := by decide
      simp [lowerChar_dottedCapital, letter]
  · rcases lowerChar_cases dotted with kept | ⟨letter, d, changed, lowered⟩
    · exact .inl kept
    · exact .inr ⟨letter, by simp [changed], by simp [changed, lowered]⟩

/-- The second text may be the lower case of the first, whatever stands around it. -/
inductive Lowers : List Char → List Char → Prop
  | nil : Lowers [] []
  | cons {c piece text lowered} : LowersTo c piece → Lowers text lowered →
      Lowers (c :: text) (piece ++ lowered)

theorem exists_lowerAfter_append (before text rest : List Char) :
    ∃ lowered, Lowers text lowered ∧
      lowerAfter before (text ++ rest) = lowered ++ lowerAfter (text.reverse ++ before) rest := by
  induction text generalizing before with
  | nil => exact ⟨[], .nil, rfl⟩
  | cons c text ih =>
      obtain ⟨lowered, lowers, whole⟩ := ih (c :: before)
      rw [List.cons_append, lowerAfter, whole, List.reverse_cons, List.append_assoc,
        List.singleton_append, ← List.append_assoc]
      refine ⟨_, .cons ?_ lowers, rfl⟩
      split
      · -- A sigma becomes one of two letters.
        rename_i sigma
        refine .inr ⟨by rw [sigma]; decide, List.cons_ne_nil _ _, ?_⟩
        rw [List.forall_mem_singleton]
        have small : isLetter smallSigma = true := by decide
        have final : isLetter finalSigma = true := by decide
        split
        · exact .inl final
        · exact .inl small
      · exact lowersTo_lowerChar c

def IsMark (c : Char) : Prop := isLetter c = false ∧ c ≠ combiningDot

instance (c : Char) : Decidable (IsMark c) := inferInstanceAs (Decidable (_ ∧ _))

theorem LowersTo.ne_nil {c : Char} {piece : List Char} (lowers : LowersTo c piece) :
    piece ≠ [] := by
  rcases lowers with rfl | ⟨-, filled, -⟩
  · exact List.cons_ne_nil _ _
  · exact filled

theorem LowersTo.of_mark {c : Char} {piece : List Char} (lowers : LowersTo c piece)
    (mark : IsMark c) : piece = [c] := by
  rcases lowers with same | ⟨letter, -⟩
  · exact same
  · rw [mark.1] at letter
    cases letter

theorem LowersTo.of_mem {c d : Char} {piece : List Char} (lowers : LowersTo c piece)
    (mark : IsMark d) (member : d ∈ piece) : piece = [c] ∧ d = c := by
  rcases lowers with rfl | ⟨-, -, letters⟩
  · exact ⟨rfl, List.mem_singleton.mp member⟩
  · rcases letters d member with letter | dot
    · rw [mark.1] at letter
      cases letter
    · exact absurd dot mark.2

namespace Lowers

variable {text lowered : List Char}

theorem mark_mem_iff {c : Char} (lowers : Lowers text lowered) (mark : IsMark c) :
    c ∈ lowered ↔ c ∈ text := by
  induction lowers with
  | nil => rfl
  | cons first rest ih =>
      rw [List.mem_append, List.mem_cons, ih]
      refine or_congr_left ⟨fun member => (first.of_mem mark member).2, ?_⟩
      rintro rfl
      rw [first.of_mark mark]
      exact List.mem_singleton_self _

theorem eq_of_marks (lowers : Lowers text lowered) (marks : ∀ c ∈ text, IsMark c) :
    lowered = text := by
  induction lowers with
  | nil => rfl
  | cons first rest ih =>
      obtain ⟨mark, others⟩ := List.forall_mem_cons.mp marks
      rw [first.of_mark mark, ih others]
      rfl

theorem marks_of_marks (lowers : Lowers text lowered) (marks : ∀ c ∈ lowered, IsMark c) :
    ∀ c ∈ text, IsMark c := by
  induction lowers with
  | nil => exact List.forall_mem_nil _
  | cons first rest ih =>
      rename_i c piece text lowered
      obtain ⟨inPiece, later⟩ := List.forall_mem_append.mp marks
      refine List.forall_mem_cons.mpr ⟨?_, ih later⟩
      -- The piece holds a mark, which can only be the character itself.
      obtain ⟨d, member⟩ := List.exists_mem_of_ne_nil piece first.ne_nil
      rw [← (first.of_mem (inPiece d member) member).2]
      exact inPiece d member

theorem pieces {separates : Char → Bool} (marks : ∀ c, separates c = true → IsMark c)
    (lowers : Lowers text lowered) :
    List.Forall₂ Lowers (Text.pieces separates text) (Text.pieces separates lowered) := by
  have within {piece rest first : List Char} {others : List (List Char)}
      (none : ∀ c ∈ piece, separates c = false)
      (cut : Text.pieces separates rest = first :: others) :
      Text.pieces separates (piece ++ rest) = (piece ++ first) :: others := by
    induction piece with
    | nil => exact cut
    | cons c piece ih =>
        obtain ⟨goesOn, later⟩ := List.forall_mem_cons.mp none
        rw [List.cons_append, Text.pieces, if_neg (by simp [goesOn]), ih later]
        rfl
  induction lowers with
  | nil => exact .cons .nil .nil
  | cons first rest ih =>
      rename_i c piece text lowered
      by_cases separator : separates c = true
      · rw [first.of_mark (marks c separator), List.singleton_append, Text.pieces, Text.pieces,
          if_pos separator, if_pos separator]
        exact .cons .nil ih
      · have none : ∀ d ∈ piece, separates d = false := by
          intro d member
          by_contra cuts
          have cuts : separates d = true := by simpa using cuts
          exact separator ((first.of_mem (marks d cuts) member).2 ▸ cuts)
        rw [Text.pieces, if_neg separator]
        generalize Text.pieces separates text = cut at ih ⊢
        generalize same : Text.pieces separates lowered = loweredCut at ih
        cases ih with
        | nil => exact absurd same (pieces_ne_nil _ _)
        | cons start others =>
            rw [within none same]
            exact .cons (.cons first start) others

end Lowers

end NestedQuery.Text
