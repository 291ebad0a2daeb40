import Mathlib.Data.Finset.Card
import Mathlib.Data.PFun
import Mathlib.Order.Bounds.Basic
import Mathlib.Order.Interval.Finset.Nat
import NestedQuery.Catalog.CaseRule

/-! Names that are made from names: a quoted name read without its quotes, and numbered names beside
taken ones. The least number that makes a taken name free is at most the number of taken names, and
so a search without a bound finds it. -/

namespace NestedQuery

namespace Naming

theorem isQuotedChars_quotes (name : List Char) :
    isQuotedChars ('"' :: (name ++ ['"'])) = true := by
  have last : ('"' :: (name ++ ['"'])).getLast? = some '"' := by
    rw [← List.cons_append, List.getLast?_concat]
  simp [isQuotedChars, last]

theorem unquoted_of_isQuoted_eq_false {name : String} (bare : isQuoted name = false) :
    unquoted name = name := by
  simp [unquoted, bare]

theorem unquoted_quotes (name : String) : unquoted ("\"" ++ name ++ "\"") = name := by
  have chars : ("\"" ++ name ++ "\"").toList = '"' :: (name.toList ++ ['"']) := by
    simp [String.toList_append]
  have quoted : isQuoted ("\"" ++ name ++ "\"") = true := by
    rw [isQuoted, chars]
    exact isQuotedChars_quotes name.toList
  rw [unquoted, if_pos quoted, chars]
  simp

theorem exists_of_isQuotedChars {name : List Char} (quoted : isQuotedChars name = true) :
    ∃ inner, name = '"' :: (inner ++ ['"']) := by
  simp only [isQuotedChars, Bool.and_eq_true, decide_eq_true_eq, beq_iff_eq] at quoted
  obtain ⟨⟨long, starts⟩, ends⟩ := quoted
  obtain ⟨rest, rfl⟩ := List.head?_eq_some_iff.mp starts
  have more : rest ≠ [] := by
    rintro rfl
    simp at long
  obtain ⟨c, others, rfl⟩ := List.exists_cons_of_ne_nil more
  rw [List.getLast?_cons_cons] at ends
  obtain ⟨inner, same⟩ := List.getLast?_eq_some_iff.mp ends
  exact ⟨inner, congrArg ('"' :: ·) same⟩

theorem quotes_unquoted {name : String} (quoted : isQuoted name = true) :
    "\"" ++ unquoted name ++ "\"" = name := by
  obtain ⟨inner, chars⟩ := exists_of_isQuotedChars quoted
  rw [← String.toList_inj, unquoted, if_pos quoted]
  simp [String.toList_append, chars]

end Naming

theorem CaseRule.unquoted_quote (rule : CaseRule) (name : String) :
    Naming.unquoted (rule.quote name) = Naming.unquoted name := by
  unfold CaseRule.quote
  split
  · rfl
  · rename_i needed
    have bare : Naming.isQuoted name = false := by
      cases quoted : Naming.isQuoted name with
      | false => rfl
      | true => simp [quoted] at needed
    rw [Naming.unquoted_quotes, Naming.unquoted_of_isQuoted_eq_false bare]

namespace Naming

theorem numbered_injective (base separator : String) :
    Function.Injective (numbered base separator) := by
  intro first second same
  have digits : (toString first).toList = (toString second).toList := by
    simpa [numbered, String.toList_append] using congrArg String.toList same
  rw [Nat.toString_eq_repr, Nat.toString_eq_repr, Nat.toList_repr, Nat.toList_repr] at digits
  simpa using congrArg (fun chars => Nat.ofDigitChars 10 chars 0) digits

theorem numbered_ne_base (base separator : String) (number : Nat) :
    numbered base separator number ≠ base := by
  intro same
  have lengths := congrArg (fun text => text.toList.length) same
  have digits : 0 < (toString number).toList.length := by
    rw [Nat.toString_eq_repr, Nat.toList_repr]
    exact Nat.length_toDigits_pos
  simp only [numbered, String.toList_append, List.length_append] at lengths
  omega

def freeNumbers (base separator : String) (taken : List String) : Set Nat :=
  {number | 1 ≤ number ∧ numbered base separator number ∉ taken}

/-- The candidates up to the number of taken names are too many to be all taken along with the
base. -/
theorem exists_mem_freeNumbers {base : String} (separator : String) {taken : List String}
    (used : base ∈ taken) :
    ∃ number ∈ freeNumbers base separator taken, number ≤ taken.toFinset.card := by
  by_contra none
  push Not at none
  let candidates := (Finset.Icc 1 taken.toFinset.card).image (numbered base separator)
  have apart : base ∉ candidates := by
    intro member
    obtain ⟨number, -, same⟩ := Finset.mem_image.mp member
    exact numbered_ne_base base separator number same
  have count : candidates.card = taken.toFinset.card := by
    rw [Finset.card_image_of_injective _ (numbered_injective base separator), Nat.card_Icc,
      Nat.add_sub_cancel]
  have allTaken : insert base candidates ⊆ taken.toFinset := by
    refine Finset.insert_subset (List.mem_toFinset.mpr used) ?_
    intro candidate member
    obtain ⟨number, bounds, rfl⟩ := Finset.mem_image.mp member
    obtain ⟨positive, inside⟩ := Finset.mem_Icc.mp bounds
    by_contra free
    have beyond := none number ⟨positive, fun member => free (List.mem_toFinset.mpr member)⟩
    omega
  have fits := Finset.card_le_card allTaken
  rw [Finset.card_insert_of_notMem apart, count] at fits
  omega

theorem exists_isLeast_freeNumbers {base : String} (separator : String) {taken : List String}
    (used : base ∈ taken) :
    ∃ number, IsLeast (freeNumbers base separator taken) number ∧
      number ≤ taken.toFinset.card := by
  classical
  obtain ⟨witness, free, bound⟩ := exists_mem_freeNumbers separator used
  have nonempty : ∃ number, number ∈ freeNumbers base separator taken := ⟨witness, free⟩
  refine ⟨Nat.find nonempty, ⟨Nat.find_spec nonempty, ?_⟩, ?_⟩
  · intro number member
    exact Nat.find_min' nonempty member
  · exact Nat.le_trans (Nat.find_min' nonempty free) bound

def searchTurn (base separator : String) (taken : List String) (number : Nat) : String ⊕ Nat :=
  if numbered base separator number ∈ taken then .inr (number + 1)
  else .inl (numbered base separator number)

/-- The base where it is free, and otherwise what the search from 1 on ends with, if it does. There
is no bound on the turns. -/
def searched (base separator : String) (taken : List String) : Part String :=
  if base ∈ taken then PFun.fix (searchTurn base separator taken) 1 else .some base

section Least

variable {base separator : String} {taken : List String} {number : Nat}

theorem mem_of_lt_least (least : IsLeast (freeNumbers base separator taken) number)
    {earlier : Nat} (positive : 1 ≤ earlier) (before : earlier < number) :
    numbered base separator earlier ∈ taken := by
  by_contra free
  have beyond := least.2 ⟨positive, free⟩
  omega

theorem fresh_of_isLeast (used : base ∈ taken)
    (least : IsLeast (freeNumbers base separator taken) number) (bound : number ≤ taken.length) :
    fresh base separator taken = numbered base separator number := by
  obtain ⟨positive, free⟩ := least.1
  have found : ((List.range taken.length).map (· + 1)).find?
      (fun number => numbered base separator number ∉ taken) = some number := by
    rw [List.find?_map, Option.map_eq_some_iff]
    refine ⟨number - 1, ?_, by omega⟩
    rw [List.find?_range_eq_some]
    refine ⟨?_, ?_, ?_⟩
    · simpa [Nat.sub_add_cancel positive] using free
    · rw [List.mem_range]
      omega
    · intro earlier before
      simpa using mem_of_lt_least least (Nat.succ_pos earlier) (by omega)
  rw [fresh, if_pos used]
  simp only [found, Option.getD_some]

theorem fix_searchTurn (least : IsLeast (freeNumbers base separator taken) number)
    {start : Nat} (positive : 1 ≤ start) (before : start ≤ number) :
    numbered base separator number ∈ PFun.fix (searchTurn base separator taken) start := by
  -- Downwards from the least number, where the search ends.
  induction before using Nat.decreasingInduction with
  | self =>
      apply PFun.fix_stop
      rw [PFun.coe_val, Part.mem_some_iff, searchTurn, if_neg least.1.2]
  | of_succ earlier before ih =>
      have goesOn : Sum.inr (earlier + 1) ∈
          (searchTurn base separator taken : Nat →. String ⊕ Nat) earlier := by
        rw [PFun.coe_val, Part.mem_some_iff, searchTurn,
          if_pos (mem_of_lt_least least positive before)]
      rw [PFun.fix_fwd_eq goesOn]
      exact ih (by omega)

end Least

theorem fresh_of_mem {base : String} (separator : String) {taken : List String}
    (used : base ∈ taken) :
    ∃ number, fresh base separator taken = numbered base separator number ∧
      IsLeast (freeNumbers base separator taken) number ∧ number ≤ taken.toFinset.card := by
  obtain ⟨number, least, bound⟩ := exists_isLeast_freeNumbers separator used
  have short : number ≤ taken.length := Nat.le_trans bound taken.toFinset_card_le
  exact ⟨number, fresh_of_isLeast used least short, least, bound⟩

theorem fresh_not_mem (base separator : String) (taken : List String) :
    fresh base separator taken ∉ taken := by
  by_cases used : base ∈ taken
  · obtain ⟨number, same, least, -⟩ := fresh_of_mem separator used
    rw [same]
    exact least.1.2
  · simp [fresh, used]

theorem fresh_eq_base_iff (base separator : String) (taken : List String) :
    fresh base separator taken = base ↔ base ∉ taken := by
  constructor
  · intro same
    rw [← same]
    exact fresh_not_mem base separator taken
  · intro free
    rw [fresh, if_neg free]

theorem searched_eq_fresh (base separator : String) (taken : List String) :
    searched base separator taken = .some (fresh base separator taken) := by
  by_cases used : base ∈ taken
  · obtain ⟨number, same, least, -⟩ := fresh_of_mem separator used
    rw [searched, if_pos used, same, Part.eq_some_iff]
    exact fix_searchTurn least (Nat.le_refl 1) least.1.1
  · rw [searched, if_neg used, (fresh_eq_base_iff base separator taken).mpr used]

/-- A search without a bound ends with the fresh name. The name is not taken, it is the base exactly
if the base is free, and otherwise its number is the least that makes it free and no greater than
the number of different names that are taken. -/
theorem fresh_least_free (base separator : String) (taken : List String) :
    searched base separator taken = .some (fresh base separator taken) ∧
      fresh base separator taken ∉ taken ∧
      (fresh base separator taken = base ↔ base ∉ taken) ∧
      (base ∈ taken → ∃ number, fresh base separator taken = numbered base separator number ∧
        IsLeast (freeNumbers base separator taken) number ∧ number ≤ taken.toFinset.card) :=
  ⟨searched_eq_fresh base separator taken, fresh_not_mem base separator taken,
    fresh_eq_base_iff base separator taken, fresh_of_mem separator⟩

theorem fresh_least_free_repeated :
    searched "d" "" ["d", "d1", "d"] = .some "d2" ∧ ["d", "d1", "d"].toFinset.card = 2 ∧
      IsLeast (freeNumbers "d" "" ["d", "d1", "d"]) 2 := by
  obtain ⟨ends, -, -, least⟩ := fresh_least_free "d" "" ["d", "d1", "d"]
  obtain ⟨number, same, isLeast, -⟩ := least (by decide)
  have second : fresh "d" "" ["d", "d1", "d"] = numbered "d" "" 2 := by decide
  rw [numbered_injective "d" "" (same.symm.trans second)] at isLeast
  exact ⟨ends.trans (congrArg Part.some second), by decide, isLeast⟩

end Naming

end NestedQuery
