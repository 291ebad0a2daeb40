import Mathlib.Algebra.Order.Ring.GeomSum
import Mathlib.Data.List.Forall2
import Mathlib.Data.Nat.Bitwise
import NestedQuery.Catalog.CaseRule

/-! Changing the case of a text twice changes nothing more: the characters to which others are
changed are never changed themselves. None of them is a dot or a double quote, so that dots stay
where they are and names stay as quoted as they were. The case of the letters A to Z makes no
difference to the case map. -/

namespace NestedQuery.Text

variable {expansions : List (Nat × List Nat)} {runs : List CaseRun}

def CaseRun.codes (run : CaseRun) : List Nat :=
  (List.range ((run.last - run.first) / run.stride + 1)).map (run.first + · * run.stride)

def changedCodes (expansions : List (Nat × List Nat)) (runs : List CaseRun) : List Nat :=
  expansions.map (·.1) ++ runs.flatMap CaseRun.codes

def imageCodes (expansions : List (Nat × List Nat)) (runs : List CaseRun) : List Nat :=
  expansions.flatMap (·.2) ++
    runs.flatMap fun run => run.codes.map fun (code : Nat) => (code + run.offset).toNat

theorem CaseRun.mem_codes {run : CaseRun} {code : Nat} (covered : run.covers code = true) :
    code ∈ run.codes := by
  simp only [CaseRun.covers, Bool.and_eq_true, decide_eq_true_eq, beq_iff_eq] at covered
  obtain ⟨⟨lower, upper⟩, whole⟩ := covered
  refine List.mem_map.mpr ⟨(code - run.first) / run.stride, ?_, ?_⟩
  · have place : (code - run.first) / run.stride ≤ (run.last - run.first) / run.stride :=
      Nat.div_le_div_right (by omega)
    rw [List.mem_range]
    omega
  · rw [Nat.div_mul_cancel (Nat.dvd_of_mod_eq_zero whole)]
    omega

/-- A set of codes as the bits of one number. -/
def codeMask (codes : List Nat) : Nat := codes.foldr (fun code mask => mask ||| 1 <<< code) 0

theorem testBit_codeMask_iff {codes : List Nat} {code : Nat} :
    (codeMask codes).testBit code = true ↔ code ∈ codes := by
  induction codes with
  | nil => simp [codeMask]
  | cons first rest ih =>
      rw [codeMask, List.foldr_cons, Nat.testBit_or, Bool.or_eq_true, Nat.one_shiftLeft,
        Nat.testBit_two_pow, decide_eq_true_eq, List.mem_cons, or_comm, eq_comm]
      exact or_congr_right ih

theorem testBit_codeMask {codes : List Nat} {code : Nat} (member : code ∈ codes) :
    (codeMask codes).testBit code = true := testBit_codeMask_iff.mpr member

/-- The bits 0, `stride`, and so on, as many as are asked for: a geometric sum. -/
def spacedBits (stride count : Nat) : Nat := ((2 ^ stride) ^ count - 1) / (2 ^ stride - 1)

theorem testBit_spacedBits {stride count place : Nat} (positive : 0 < stride)
    (inside : place < count) : (spacedBits stride count).testBit (place * stride) = true := by
  have base : 2 ≤ 2 ^ stride := Nat.le_self_pow (Nat.ne_of_gt positive) 2
  rw [spacedBits, ← Nat.geomSum_eq base]
  induction count generalizing place with
  | zero => exact absurd inside (Nat.not_lt_zero _)
  | succ count ih =>
      -- The sum is one, and the sum of one term less moved by the stride.
      rw [geom_sum_succ, Nat.testBit_two_pow_mul_add _ base]
      cases place with
      | zero => simp [positive]
      | succ place =>
          rw [if_neg (by rw [Nat.succ_mul]; omega), Nat.succ_mul, Nat.add_sub_cancel]
          exact ih (Nat.lt_of_succ_lt_succ inside)

def CaseRun.mask (run : CaseRun) (start : Nat) : Nat :=
  spacedBits run.stride ((run.last - run.first) / run.stride + 1) <<< start

def runsMask (start : CaseRun → Nat) (runs : List CaseRun) : Nat :=
  runs.foldr (fun run mask => mask ||| run.mask (start run)) 0

theorem testBit_runsMask {start : CaseRun → Nat} {run : CaseRun} {place : Nat}
    (positive : 0 < run.stride) (inside : place < (run.last - run.first) / run.stride + 1)
    (listed : run ∈ runs) :
    (runsMask start runs).testBit (start run + place * run.stride) = true := by
  induction runs with
  | nil => exact absurd listed List.not_mem_nil
  | cons first rest ih =>
      rw [runsMask, List.foldr_cons, Nat.testBit_or, Bool.or_eq_true]
      rcases List.mem_cons.mp listed with rfl | later
      · refine .inr ?_
        rw [CaseRun.mask, Nat.testBit_shiftLeft, Nat.add_sub_cancel_left,
          testBit_spacedBits positive inside]
        simp
      · exact .inl (ih later)

/-- The images are characters, no dots, and no characters that are changed. -/
structure Settles (expansions : List (Nat × List Nat)) (runs : List CaseRun) : Prop where
  apart : codeMask (changedCodes expansions runs) &&& codeMask (imageCodes expansions runs) = 0
  images : ∀ code ∈ imageCodes expansions runs, code.isValidChar ∧ code ≠ '.'.toNat
  dot : '.'.toNat ∉ changedCodes expansions runs

def afterDot (first last : Int) : Bool :=
  '.'.toNat < first && (last < 0xD800 || 0xDFFF < first && last < 0x110000)

theorem valid_of_afterDot {first last : Int} {code : Nat} (after : afterDot first last = true)
    (lower : first ≤ code) (upper : code ≤ last) : code.isValidChar ∧ code ≠ '.'.toNat := by
  simp only [afterDot, Bool.and_eq_true, Bool.or_eq_true, decide_eq_true_eq] at after
  unfold Nat.isValidChar
  omega

theorem CaseRun.bounds_of_mem_codes {run : CaseRun} {code : Nat} (ordered : run.first ≤ run.last)
    (member : code ∈ run.codes) : run.first ≤ code ∧ code ≤ run.last := by
  obtain ⟨place, inside, rfl⟩ := List.mem_map.mp member
  have steps : place * run.stride ≤ run.last - run.first := by
    rw [List.mem_range] at inside
    exact Nat.le_trans (Nat.mul_le_mul_right _ (Nat.le_of_lt_succ inside)) (Nat.div_mul_le_self _ _)
  omega

def endsChecked (expansions : List (Nat × List Nat)) (runs : List CaseRun) : Bool :=
  (expansions.all fun expansion => afterDot expansion.1 expansion.1 &&
    expansion.2.all fun code => afterDot code code) &&
  runs.all fun run => decide (run.first ≤ run.last) && decide (0 < run.stride) &&
    afterDot run.first run.last && afterDot (run.first + run.offset) (run.last + run.offset)

/-- No character is both changed and an image. -/
def masksApart (expansions : List (Nat × List Nat)) (runs : List CaseRun) : Bool :=
  (codeMask (expansions.map (·.1)) ||| runsMask (·.first) runs) &&&
    (codeMask (expansions.flatMap (·.2)) |||
      runsMask (fun run => (run.first + run.offset).toNat) runs) == 0

structure RunEnds (run : CaseRun) : Prop where
  ordered : run.first ≤ run.last
  positive : 0 < run.stride
  changed : afterDot run.first run.last = true
  images : afterDot (run.first + run.offset) (run.last + run.offset) = true

theorem RunEnds.image_positive {run : CaseRun} (ends : RunEnds run) :
    '.'.toNat < (run.first : Int) + run.offset := by
  have images := ends.images
  simp only [afterDot, Bool.and_eq_true, decide_eq_true_eq] at images
  exact images.1

theorem endsChecked_iff : endsChecked expansions runs = true ↔
    (∀ expansion ∈ expansions, afterDot expansion.1 expansion.1 = true ∧
      ∀ code ∈ expansion.2, afterDot code code = true) ∧ ∀ run ∈ runs, RunEnds run := by
  simp only [endsChecked, Bool.and_eq_true, List.all_eq_true, decide_eq_true_eq]
  refine and_congr_right fun _ => forall₂_congr fun run _ => ?_
  exact ⟨fun ⟨⟨⟨ordered, positive⟩, changed⟩, images⟩ => ⟨ordered, positive, changed, images⟩,
    fun ends => ⟨⟨⟨ends.ordered, ends.positive⟩, ends.changed⟩, ends.images⟩⟩

section Ends

variable (ends : ∀ run ∈ runs, RunEnds run)
include ends

theorem testBit_changed {code : Nat} (member : code ∈ changedCodes expansions runs) :
    (codeMask (expansions.map (·.1)) ||| runsMask (·.first) runs).testBit code = true := by
  rw [Nat.testBit_or, Bool.or_eq_true]
  rcases List.mem_append.mp member with inExpansion | inRun
  · exact .inl (testBit_codeMask inExpansion)
  · obtain ⟨run, listed, inside⟩ := List.mem_flatMap.mp inRun
    obtain ⟨place, bound, rfl⟩ := List.mem_map.mp inside
    exact .inr (testBit_runsMask (ends run listed).positive (List.mem_range.mp bound) listed)

theorem testBit_image {code : Nat} (member : code ∈ imageCodes expansions runs) :
    (codeMask (expansions.flatMap (·.2)) |||
      runsMask (fun run => (run.first + run.offset).toNat) runs).testBit code = true := by
  rw [Nat.testBit_or, Bool.or_eq_true]
  rcases List.mem_append.mp member with inExpansion | inRun
  · exact .inl (testBit_codeMask inExpansion)
  · obtain ⟨run, listed, inside⟩ := List.mem_flatMap.mp inRun
    obtain ⟨source, changed, rfl⟩ := List.mem_map.mp inside
    obtain ⟨place, bound, rfl⟩ := List.mem_map.mp changed
    have positive := (ends run listed).image_positive
    have moved : (((run.first + place * run.stride : Nat) : Int) + run.offset).toNat =
        ((run.first : Int) + run.offset).toNat + place * run.stride := by
      push_cast
      omega
    rw [moved]
    exact .inr (testBit_runsMask (ends run listed).positive (List.mem_range.mp bound) listed)

end Ends

theorem Settles.of_checked (checked : endsChecked expansions runs = true)
    (masks : masksApart expansions runs = true) : Settles expansions runs := by
  obtain ⟨expanded, ends⟩ := endsChecked_iff.mp checked
  refine ⟨?_, ?_, ?_⟩
  · apply Nat.eq_of_testBit_eq
    intro code
    rw [Nat.testBit_and, Nat.zero_testBit, Bool.and_eq_false_iff]
    by_contra both
    rw [not_or, Bool.not_eq_false, Bool.not_eq_false, testBit_codeMask_iff,
      testBit_codeMask_iff] at both
    have none := congrArg (Nat.testBit · code) (eq_of_beq masks)
    rw [Nat.testBit_and, testBit_changed ends both.1, testBit_image ends both.2] at none
    simp at none
  · intro code member
    rcases List.mem_append.mp member with inExpansion | inRun
    · obtain ⟨expansion, listed, inside⟩ := List.mem_flatMap.mp inExpansion
      exact valid_of_afterDot ((expanded expansion listed).2 code inside) (by omega) (by omega)
    · obtain ⟨run, listed, inside⟩ := List.mem_flatMap.mp inRun
      obtain ⟨source, changed, rfl⟩ := List.mem_map.mp inside
      obtain ⟨lower, upper⟩ := CaseRun.bounds_of_mem_codes (ends run listed).ordered changed
      have positive := (ends run listed).image_positive
      exact valid_of_afterDot (ends run listed).images (by omega) (by omega)
  · intro member
    rcases List.mem_append.mp member with inExpansion | inRun
    · obtain ⟨expansion, listed, same⟩ := List.mem_map.mp inExpansion
      exact (valid_of_afterDot (expanded expansion listed).1 (by omega) (by omega)).2 same
    · obtain ⟨run, listed, inside⟩ := List.mem_flatMap.mp inRun
      obtain ⟨lower, upper⟩ := CaseRun.bounds_of_mem_codes (ends run listed).ordered inside
      exact (valid_of_afterDot (ends run listed).changed (by omega) (by omega)).2 rfl

def tableChecked (expansions : List (Nat × List Nat)) (runs : List CaseRun) : Bool :=
  endsChecked expansions runs && masksApart expansions runs

theorem tables_checked : (tableChecked lowerExpansions lowerRuns &&
    tableChecked upperExpansions upperRuns) = true := by
  decide +kernel

theorem lower_settles : Settles lowerExpansions lowerRuns := by
  obtain ⟨ends, masks⟩ := Bool.and_eq_true_iff.mp (Bool.and_eq_true_iff.mp tables_checked).1
  exact .of_checked ends masks

theorem upper_settles : Settles upperExpansions upperRuns := by
  obtain ⟨ends, masks⟩ := Bool.and_eq_true_iff.mp (Bool.and_eq_true_iff.mp tables_checked).2
  exact .of_checked ends masks

theorem toNat_ofNat_of_valid {code : Nat} (valid : code.isValidChar) :
    (Char.ofNat code).toNat = code := by
  rw [Char.ofNat, dif_pos valid]
  rfl

theorem mapCase_of_unchanged {c : Char} (unchanged : c.toNat ∉ changedCodes expansions runs) :
    mapCase expansions runs c = [c] := by
  have unchangedBy := List.mem_append.not.mp unchanged
  have noExpansion : expansions.lookup c.toNat = none := by
    rw [List.lookup_eq_none_iff]
    intro expansion member
    rw [bne_iff_ne]
    intro same
    exact unchangedBy (.inl (same ▸ List.mem_map_of_mem member))
  have noRun : runs.find? (·.covers c.toNat) = none := by
    rw [List.find?_eq_none]
    intro run member covered
    exact unchangedBy (.inr (List.mem_flatMap.mpr ⟨run, member, run.mem_codes covered⟩))
  rw [mapCase, noExpansion, shift, noRun, Char.ofNat_toNat]

theorem mem_mapCase {c d : Char} (member : d ∈ mapCase expansions runs c) :
    (d = c ∧ mapCase expansions runs c = [c]) ∨
      ∃ code ∈ imageCodes expansions runs, d = Char.ofNat code := by
  cases expansion : expansions.lookup c.toNat with
  | some codes =>
      simp only [mapCase, expansion] at member
      obtain ⟨code, inside, rfl⟩ := List.mem_map.mp member
      have expanded : (c.toNat, codes) ∈ expansions := by
        obtain ⟨before, after, whole, -⟩ := List.lookup_eq_some_iff.mp expansion
        rw [whole]
        exact List.mem_append_right _ List.mem_cons_self
      exact .inr ⟨code, List.mem_append_left _ (List.mem_flatMap.mpr ⟨_, expanded, inside⟩), rfl⟩
  | none =>
      cases covering : runs.find? (·.covers c.toNat) with
      | some run =>
          simp only [mapCase, expansion, shift, covering, List.mem_singleton] at member
          have covered : run.covers c.toNat = true := by
            simpa using List.find?_some covering
          refine .inr ⟨_, List.mem_append_right _ (List.mem_flatMap.mpr
            ⟨run, List.mem_of_find?_eq_some covering, ?_⟩), member⟩
          exact List.mem_map.mpr ⟨c.toNat, run.mem_codes covered, rfl⟩
      | none =>
          have kept : mapCase expansions runs c = [c] := by
            rw [mapCase, expansion, shift, covering, Char.ofNat_toNat]
          rw [kept, List.mem_singleton] at member
          exact .inl ⟨member, kept⟩

namespace Settles

variable (settles : Settles expansions runs)

include settles

theorem image_unchanged {code : Nat} (image : code ∈ imageCodes expansions runs) :
    code ∉ changedCodes expansions runs := by
  intro changed
  have both : (codeMask (changedCodes expansions runs) &&&
      codeMask (imageCodes expansions runs)).testBit code = true := by
    rw [Nat.testBit_and, testBit_codeMask changed, testBit_codeMask image, Bool.and_self]
  rw [settles.apart, Nat.zero_testBit] at both
  cases both

theorem mapCase_of_mem {c d : Char} (member : d ∈ mapCase expansions runs c) :
    mapCase expansions runs d = [d] := by
  rcases mem_mapCase member with ⟨rfl, kept⟩ | ⟨code, image, rfl⟩
  · exact kept
  · apply mapCase_of_unchanged
    rw [toNat_ofNat_of_valid (settles.images code image).1]
    exact settles.image_unchanged image

theorem dot_mem_mapCase {c : Char} : '.' ∈ mapCase expansions runs c ↔ c = '.' := by
  constructor
  · intro member
    rcases mem_mapCase member with ⟨same, -⟩ | ⟨code, image, same⟩
    · exact same.symm
    · obtain ⟨valid, noDot⟩ := settles.images code image
      rw [same, toNat_ofNat_of_valid valid] at noDot
      exact absurd rfl noDot
  · rintro rfl
    rw [mapCase_of_unchanged settles.dot]
    exact List.mem_singleton_self _

end Settles

theorem upperChars_of_kept {text : List Char} (kept : ∀ c ∈ text, upperChar c = [c]) :
    upperChars text = text := by
  induction text with
  | nil => rfl
  | cons c rest ih =>
      obtain ⟨first, others⟩ := List.forall_mem_cons.mp kept
      rw [upperChars, List.flatMap_cons, first]
      exact congrArg (c :: ·) (ih others)

theorem upperChar_of_mem_upperChars {text : List Char} {d : Char}
    (member : d ∈ upperChars text) : upperChar d = [d] := by
  obtain ⟨c, -, image⟩ := List.mem_flatMap.mp member
  exact upper_settles.mapCase_of_mem image

theorem dot_mem_upperChars {text : List Char} : '.' ∈ upperChars text ↔ '.' ∈ text := by
  simp [upperChars, upperChar, upper_settles.dot_mem_mapCase]

theorem sigma_facts : lowerChar capitalSigma ≠ [capitalSigma] ∧
    lowerChar finalSigma = [finalSigma] ∧ lowerChar smallSigma = [smallSigma] := by
  decide +kernel

theorem lowerAfter_of_kept {text : List Char} (kept : ∀ c ∈ text, lowerChar c = [c])
    (before : List Char) : lowerAfter before text = text := by
  induction text generalizing before with
  | nil => rfl
  | cons c rest ih =>
      obtain ⟨first, others⟩ := List.forall_mem_cons.mp kept
      have noSigma : c ≠ capitalSigma := by
        rintro rfl
        exact sigma_facts.1 first
      rw [lowerAfter, if_neg noSigma, first, ih others]
      rfl

theorem lowerChar_of_mem_lowerAfter {before text : List Char} {d : Char}
    (member : d ∈ lowerAfter before text) : lowerChar d = [d] := by
  induction text generalizing before with
  | nil => exact absurd member List.not_mem_nil
  | cons c rest ih =>
      rw [lowerAfter] at member
      rcases List.mem_append.mp member with first | later
      · split at first
        · rw [List.mem_singleton] at first
          split at first
          · rw [first, sigma_facts.2.1]
          · rw [first, sigma_facts.2.2]
        · exact lower_settles.mapCase_of_mem first
      · exact ih later

theorem dot_mem_lowerAfter {before text : List Char} :
    '.' ∈ lowerAfter before text ↔ '.' ∈ text := by
  induction text generalizing before with
  | nil => rfl
  | cons c rest ih =>
      rw [lowerAfter, List.mem_append, List.mem_cons, ih]
      refine or_congr_left ?_
      split
      · rename_i sigma
        subst sigma
        split <;> decide
      · rw [eq_comm]
        exact lower_settles.dot_mem_mapCase

def lettersFrom (first : Char) : List Char := (List.range' first.toNat 26).map Char.ofNat

theorem mem_lettersFrom {first c : Char} (lower : first.toNat ≤ c.toNat)
    (upper : c.toNat < first.toNat + 26) : c ∈ lettersFrom first :=
  List.mem_map.mpr ⟨c.toNat, List.mem_range'_1.mpr ⟨lower, upper⟩, Char.ofNat_toNat c⟩

def capitalLetters : List Char := lettersFrom 'A'

theorem mem_smallLetters {c : Char} (lower : 'a'.toNat ≤ c.toNat)
    (upper : c.toNat < 'a'.toNat + 26) : c ∈ capitalLetters.map Char.toLower := by
  have small : lettersFrom 'a' = capitalLetters.map Char.toLower := by rfl
  rw [← small]
  exact mem_lettersFrom lower upper

theorem mem_capitalLetters {c : Char} (changed : c.toLower ≠ c) : c ∈ capitalLetters := by
  have bounds : c.val ≥ 'A'.val ∧ c.val ≤ 'Z'.val := by
    by_contra outside
    exact changed (dif_neg outside)
  exact mem_lettersFrom bounds.1 (Nat.lt_succ_of_le bounds.2)

def letterChecked (c : Char) : Bool :=
  (c.isAlpha && c.toLower.isAlpha) && (lowerChar c == [c.toLower] && upperChar c.toLower == [c]) &&
    (inSpans caseIgnorableSpans c.toLower.toNat == inSpans caseIgnorableSpans c.toNat &&
      inSpans casedSpans c.toLower.toNat == inSpans casedSpans c.toNat)

structure LetterFacts (c : Char) : Prop where
  capital : c.isAlpha = true
  small : c.toLower.isAlpha = true
  lowered : lowerChar c = [c.toLower]
  raised : upperChar c.toLower = [c]
  ignorable : inSpans caseIgnorableSpans c.toLower.toNat = inSpans caseIgnorableSpans c.toNat
  cased : inSpans casedSpans c.toLower.toNat = inSpans casedSpans c.toNat

theorem capitalLetters_facts {c : Char} (letter : c ∈ capitalLetters) : LetterFacts c := by
  have all : capitalLetters.all letterChecked = true := by decide +kernel
  have checked := List.all_eq_true.mp all c letter
  simp only [letterChecked, Bool.and_eq_true, beq_iff_eq] at checked
  obtain ⟨⟨⟨capital, small⟩, lowered, raised⟩, ignorable, cased⟩ := checked
  exact ⟨capital, small, lowered, raised, ignorable, cased⟩

theorem lowerChar_small {c : Char} (letter : c ∈ capitalLetters) :
    lowerChar c.toLower = [c.toLower] := by
  apply lower_settles.mapCase_of_mem
  change c.toLower ∈ lowerChar c
  rw [(capitalLetters_facts letter).lowered]
  exact List.mem_singleton_self _

theorem upperChar_capital {c : Char} (letter : c ∈ capitalLetters) : upperChar c = [c] := by
  have member : c ∈ upperChar c.toLower := by
    rw [(capitalLetters_facts letter).raised]
    exact List.mem_singleton_self _
  exact upper_settles.mapCase_of_mem member

theorem lowerChar_of_isLower {c : Char} (lower : c.isLower = true) : lowerChar c = [c] := by
  obtain ⟨first, last⟩ := Bool.and_eq_true_iff.mp lower
  have member : c ∈ capitalLetters.map Char.toLower :=
    mem_smallLetters (of_decide_eq_true first) (Nat.lt_succ_of_le (of_decide_eq_true last))
  obtain ⟨capital, letter, rfl⟩ := List.mem_map.mp member
  exact lowerChar_small letter

theorem upperChar_of_isUpper {c : Char} (upper : c.isUpper = true) : upperChar c = [c] := by
  obtain ⟨first, last⟩ : c.val ≥ 'A'.val ∧ c.val ≤ 'Z'.val := of_decide_eq_true upper
  exact upperChar_capital (mem_lettersFrom first (Nat.lt_succ_of_le last))

/-- What does not depend on the case of the letters A to Z is shown of these letters. -/
theorem toLower_eq {α : Type} (view : Char → α)
    (letters : ∀ c ∈ capitalLetters, view c.toLower = view c) (c : Char) :
    view c.toLower = view c := by
  by_cases kept : c.toLower = c
  · rw [kept]
  · exact letters c (mem_capitalLetters kept)

theorem toLower_eq_iff {d : Char} (noLetter : d.isAlpha = false) (c : Char) :
    c.toLower = d ↔ c = d := by
  by_cases kept : c.toLower = c
  · rw [kept]
  · -- A letter that is changed is the character neither before nor after.
    have facts := capitalLetters_facts (mem_capitalLetters kept)
    refine iff_of_false ?_ ?_
    · rintro rfl
      rw [facts.small] at noLetter
      cases noLetter
    · rintro rfl
      rw [facts.capital] at noLetter
      cases noLetter

theorem toLower_toLower (c : Char) : c.toLower.toLower = c.toLower := by
  by_cases kept : c.toLower = c
  · rw [kept, kept]
  · -- The small letter is its own lower case, so it is no capital letter.
    by_contra changed
    have small := lowerChar_small (mem_capitalLetters kept)
    rw [(capitalLetters_facts (mem_capitalLetters changed)).lowered] at small
    exact changed (List.cons.inj small).1

theorem lowerChar_toLower (c : Char) : lowerChar c.toLower = lowerChar c := by
  apply toLower_eq
  intro capital letter
  rw [lowerChar_small letter, (capitalLetters_facts letter).lowered]

theorem upperChar_toLower (c : Char) : upperChar c.toLower = upperChar c := by
  apply toLower_eq
  intro capital letter
  rw [upperChar_capital letter, (capitalLetters_facts letter).raised]

theorem casedNext_toLower (text : List Char) :
    casedNext (text.map Char.toLower) = casedNext text := by
  have ignorable (c : Char) : inSpans caseIgnorableSpans c.toLower.toNat =
      inSpans caseIgnorableSpans c.toNat :=
    toLower_eq (fun c => inSpans caseIgnorableSpans c.toNat)
      (fun _ letter => (capitalLetters_facts letter).ignorable) c
  have cased (c : Char) : inSpans casedSpans c.toLower.toNat = inSpans casedSpans c.toNat :=
    toLower_eq (fun c => inSpans casedSpans c.toNat)
      (fun _ letter => (capitalLetters_facts letter).cased) c
  induction text with
  | nil => rfl
  | cons c rest ih => rw [List.map_cons, casedNext, casedNext, ignorable, cased, ih]

theorem lowerAfter_toLower (before text : List Char) :
    lowerAfter (before.map Char.toLower) (text.map Char.toLower) = lowerAfter before text := by
  induction text generalizing before with
  | nil => rfl
  | cons c rest ih =>
      have sigma : c.toLower = capitalSigma ↔ c = capitalSigma :=
        toLower_eq_iff rfl c
      have others := ih (c :: before)
      rw [List.map_cons] at others
      rw [List.map_cons, lowerAfter, lowerAfter, casedNext_toLower, casedNext_toLower,
        lowerChar_toLower, others]
      simp only [sigma]

theorem lowerChars_toLower (text : List Char) :
    lowerChars (text.map Char.toLower) = lowerChars text := lowerAfter_toLower [] text

theorem upperChars_toLower (text : List Char) :
    upperChars (text.map Char.toLower) = upperChars text := by
  simp only [upperChars, List.flatMap_map, upperChar_toLower]

def keepsQuotes (expansions : List (Nat × List Nat)) (runs : List CaseRun) : Bool :=
  expansions.all (fun expansion => !expansion.2.isEmpty) &&
    '"'.toNat ∉ imageCodes expansions runs

theorem tables_keepQuotes : (keepsQuotes lowerExpansions lowerRuns &&
    keepsQuotes upperExpansions upperRuns) = true := by
  decide +kernel

/-- What may take the place of a character: not nothing, and a quote only for a quote. -/
def StandsFor (piece : List Char) (c : Char) : Prop :=
  piece ≠ [] ∧ ('"' ∈ piece → c = '"' ∧ piece = ['"'])

theorem Settles.standsFor (settles : Settles expansions runs)
    (kept : keepsQuotes expansions runs = true) (c : Char) :
    StandsFor (mapCase expansions runs c) c := by
  simp only [keepsQuotes, Bool.and_eq_true, List.all_eq_true, decide_eq_true_eq] at kept
  obtain ⟨filled, noImage⟩ := kept
  constructor
  · unfold mapCase
    split
    · rename_i codes expansion
      obtain ⟨before, after, whole, -⟩ := List.lookup_eq_some_iff.mp expansion
      have listed : (c.toNat, codes) ∈ expansions := by
        rw [whole]
        exact List.mem_append_right _ List.mem_cons_self
      simpa using filled _ listed
    · exact List.cons_ne_nil _ _
  · intro member
    rcases mem_mapCase member with ⟨same, alone⟩ | ⟨code, image, same⟩
    · rw [alone, ← same]
      exact ⟨rfl, rfl⟩
    · have isQuote : '"'.toNat = code := by
        rw [same, toNat_ofNat_of_valid (settles.images code image).1]
      exact absurd (isQuote ▸ image) noImage

theorem lowerChar_standsFor (c : Char) : StandsFor (lowerChar c) c :=
  lower_settles.standsFor (Bool.and_eq_true_iff.mp tables_keepQuotes).1 c

theorem upperChar_standsFor (c : Char) : StandsFor (upperChar c) c :=
  upper_settles.standsFor (Bool.and_eq_true_iff.mp tables_keepQuotes).2 c

theorem exists_pieces_lowerAfter (before text : List Char) :
    ∃ pieces, lowerAfter before text = pieces.flatten ∧ List.Forall₂ StandsFor pieces text := by
  induction text generalizing before with
  | nil => exact ⟨[], rfl, .nil⟩
  | cons c rest ih =>
      obtain ⟨pieces, whole, each⟩ := ih (c :: before)
      rw [lowerAfter, whole]
      refine ⟨_ :: pieces, rfl, .cons ?_ each⟩
      split
      · -- A sigma becomes a sigma.
        refine ⟨List.cons_ne_nil _ _, fun member => ?_⟩
        split at member
        · exact absurd member (by decide)
        · exact absurd member (by decide)
      · exact lowerChar_standsFor c

theorem getLast?_of_pieces {pieces : List (List Char)} {text : List Char}
    (each : List.Forall₂ StandsFor pieces text) (ends : pieces.flatten.getLast? = some '"') :
    text.getLast? = some '"' := by
  induction each with
  | nil => cases ends
  | cons first rest ih =>
      rw [List.flatten_cons, List.getLast?_append] at ends
      cases rest with
      | nil =>
          have last := first.2 (List.mem_of_getLast? (by simpa using ends))
          rw [last.1]
          rfl
      | cons second others =>
          rename_i piece c next d pieces text
          have filled : (next :: pieces).flatten ≠ [] :=
            List.append_ne_nil_of_left_ne_nil second.1 _
          rw [List.getLast?_eq_some_getLast filled, Option.some_or] at ends
          rw [List.getLast?_cons_cons]
          exact ih ((List.getLast?_eq_some_getLast filled).trans ends)

theorem isQuotedChars_of_pieces {pieces : List (List Char)} {text : List Char}
    (each : List.Forall₂ StandsFor pieces text)
    (quoted : Naming.isQuotedChars pieces.flatten = true) : Naming.isQuotedChars text = true := by
  simp only [Naming.isQuotedChars, Bool.and_eq_true, decide_eq_true_eq, beq_iff_eq] at quoted ⊢
  obtain ⟨⟨long, starts⟩, ends⟩ := quoted
  refine ⟨?_, getLast?_of_pieces each ends⟩
  cases each with
  | nil => cases starts
  | cons first rest =>
      rename_i piece c pieces text
      obtain ⟨d, others, rfl⟩ := List.exists_cons_of_ne_nil first.1
      obtain rfl : d = '"' := Option.some.inj starts
      obtain ⟨rfl, alone⟩ := first.2 List.mem_cons_self
      refine ⟨?_, rfl⟩
      -- A quote alone is no quoted text, so more characters follow.
      cases rest with
      | nil => simp [alone] at long
      | cons second others => simp

end NestedQuery.Text

namespace NestedQuery.CaseRule

theorem normalize_of_quoted (rule : CaseRule) {name : String}
    (quoted : Naming.isQuoted name = true) : rule.normalize name = name := by
  unfold normalize
  rw [if_pos quoted]

def mapChar : CaseRule → Char → List Char
  | storedLower => Text.lowerChar
  | storedUpper => Text.upperChar
  | storedMixed | sensitive => fun c => [c]

/-- A name as it is stored: in quotes, or without a character that the rule changes. -/
def IsStored (rule : CaseRule) (name : String) : Prop :=
  Naming.isQuoted name = true ∨ ∀ c ∈ name.toList, rule.mapChar c = [c]

theorem isStored_normalize (rule : CaseRule) (name : String) :
    rule.IsStored (rule.normalize name) := by
  by_cases quoted : Naming.isQuoted name = true
  · rw [rule.normalize_of_quoted quoted]
    exact .inl quoted
  · refine .inr fun c member => ?_
    cases rule with
    | storedLower =>
        rw [normalize, if_neg quoted, Text.lower, String.toList_ofList] at member
        exact Text.lowerChar_of_mem_lowerAfter member
    | storedUpper =>
        rw [normalize, if_neg quoted, Text.upper, String.toList_ofList] at member
        exact Text.upperChar_of_mem_upperChars member
    | storedMixed => rfl
    | sensitive => rfl

theorem IsStored.normalize_eq {rule : CaseRule} {name : String} (stored : rule.IsStored name) :
    rule.normalize name = name := by
  rcases stored with quoted | kept
  · exact rule.normalize_of_quoted quoted
  · unfold normalize
    split
    · rfl
    · cases rule with
      | storedLower =>
          simp only [Text.lower, Text.lowerChars, Text.lowerAfter_of_kept kept, String.ofList_toList]
      | storedUpper => simp only [Text.upper, Text.upperChars_of_kept kept, String.ofList_toList]
      | storedMixed => rfl
      | sensitive => rfl

theorem normalize_eq_self_iff {rule : CaseRule} {name : String} :
    rule.normalize name = name ↔ rule.IsStored name := by
  refine ⟨fun same => ?_, IsStored.normalize_eq⟩
  rw [← same]
  exact rule.isStored_normalize name

theorem normalize_normalize (rule : CaseRule) (name : String) :
    rule.normalize (rule.normalize name) = rule.normalize name :=
  (rule.isStored_normalize name).normalize_eq

theorem dot_mem_normalize {rule : CaseRule} {name : String} :
    '.' ∈ (rule.normalize name).toList ↔ '.' ∈ name.toList := by
  unfold normalize
  split
  · rfl
  · cases rule with
    | storedLower => simp [Text.lower, Text.lowerChars, Text.dot_mem_lowerAfter]
    | storedUpper => simp [Text.upper, Text.dot_mem_upperChars]
    | storedMixed => rfl
    | sensitive => rfl

@[simp] theorem isQuoted_normalize (rule : CaseRule) (name : String) :
    Naming.isQuoted (rule.normalize name) = Naming.isQuoted name := by
  cases quoted : Naming.isQuoted name with
  | true => rw [rule.normalize_of_quoted quoted, quoted]
  | false =>
      rw [Bool.eq_false_iff] at quoted ⊢
      intro made
      apply quoted
      cases rule with
      | storedLower =>
          obtain ⟨pieces, whole, each⟩ := Text.exists_pieces_lowerAfter [] name.toList
          rw [normalize, if_neg quoted, Naming.isQuoted, Text.lower, String.toList_ofList,
            Text.lowerChars, whole] at made
          exact Text.isQuotedChars_of_pieces each made
      | storedUpper =>
          have each : List.Forall₂ Text.StandsFor (name.toList.map Text.upperChar) name.toList := by
            rw [List.forall₂_map_left_iff]
            exact List.forall₂_same.mpr fun c _ => Text.upperChar_standsFor c
          rw [normalize, if_neg quoted, Naming.isQuoted, Text.upper, String.toList_ofList,
            Text.upperChars, List.flatMap_def] at made
          exact Text.isQuotedChars_of_pieces each made
      | storedMixed => simpa [normalize] using made
      | sensitive => simpa [normalize] using made

end NestedQuery.CaseRule

namespace NestedQuery

theorem Naming.isQuotedChars_toLower (name : List Char) :
    isQuotedChars (name.map Char.toLower) = isQuotedChars name := by
  have quote (c : Char) : c.toLower = '"' ↔ c = '"' := Text.toLower_eq_iff rfl c
  have ends (side : Option Char) : (side.map Char.toLower == some '"') = (side == some '"') := by
    cases side with
    | none => rfl
    | some c =>
        rw [Bool.eq_iff_iff]
        simp [quote]
  simp only [isQuotedChars, List.length_map, List.head?_map, List.getLast?_map, ends]

theorem CaseRule.normalize_toLower {rule : CaseRule}
    (oneCase : rule = .storedLower ∨ rule = .storedUpper) {name : String}
    (bare : Naming.isQuoted name = false) :
    rule.normalize (String.ofList (name.toList.map Char.toLower)) = rule.normalize name := by
  have stillBare : Naming.isQuoted (String.ofList (name.toList.map Char.toLower)) = false := by
    rw [Naming.isQuoted, String.toList_ofList, Naming.isQuotedChars_toLower]
    exact bare
  rcases oneCase with rfl | rfl
  · simp [normalize, stillBare, bare, Text.lower, Text.lowerChars_toLower]
  · simp [normalize, stillBare, bare, Text.upper, Text.upperChars_toLower]

end NestedQuery
