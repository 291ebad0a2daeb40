import NestedQuery.Proofs.Text.CaseMap
import NestedQuery.Text.Layout

/-! Parentheses in texts. A text is read from left to right with the number of parentheses that are
open; texts are put together by the depths at which they begin and end. Indentation, the replacement
of marks by names, and changes of letter case leave the parentheses of a text as they are. -/

namespace NestedQuery.Text

/-- No beginning of the text closes more parentheses than it opens, and the whole text closes as
many as it opens. -/
def Balanced (text : String) : Prop :=
  (∀ start, start <+: text.toList → start.count ')' ≤ start.count '(') ∧
    text.toList.count '(' = text.toList.count ')'

/-- How many parentheses are open after the text when so many are before it; nothing if one is
closed that is not open. -/
def depthAfter : (depth : Nat) → List Char → Option Nat
  | depth, [] => some depth
  | depth, c :: rest =>
      if c = '(' then depthAfter (depth + 1) rest
      else if c = ')' then if depth = 0 then none else depthAfter (depth - 1) rest
      else depthAfter depth rest

def Leads (text : String) (depth stop : Nat) : Prop := depthAfter depth text.toList = some stop

instance (text : String) (depth stop : Nat) : Decidable (Leads text depth stop) :=
  inferInstanceAs (Decidable (_ = _))

def isParen (c : Char) : Bool := c == '(' || c == ')'

def ParenFree (text : String) : Prop := ∀ c ∈ text.toList, isParen c = false

theorem not_isParen_iff {c : Char} : isParen c = false ↔ c ≠ '(' ∧ c ≠ ')' := by
  simp [isParen]

theorem depthAfter_of_not_isParen {c : Char} (other : isParen c = false) (depth : Nat)
    (rest : List Char) : depthAfter depth (c :: rest) = depthAfter depth rest := by
  obtain ⟨notOpen, notClose⟩ := not_isParen_iff.mp other
  rw [depthAfter, if_neg notOpen, if_neg notClose]

theorem forall_prefix_cons (holds : List Char → Prop) (empty : holds []) (c : Char)
    (rest : List Char) :
    (∀ start, start <+: c :: rest → holds start) ↔
      ∀ start, start <+: rest → holds (c :: start) := by
  simp only [List.prefix_cons_iff]
  constructor
  · exact fun all start inside => all _ (.inr ⟨start, rfl, inside⟩)
  · rintro longer start (rfl | ⟨start, rfl, inside⟩)
    · exact empty
    · exact longer start inside

theorem depthAfter_eq_some_iff (depth stop : Nat) (text : List Char) :
    depthAfter depth text = some stop ↔
      (∀ start, start <+: text → start.count ')' ≤ depth + start.count '(') ∧
        depth + text.count '(' = stop + text.count ')' := by
  have step (depth : Nat) (c : Char) (rest : List Char) :=
    forall_prefix_cons (fun start => start.count ')' ≤ depth + start.count '(') (Nat.zero_le _) c
      rest
  fun_induction depthAfter depth text with
  | case1 depth => simp
  | case2 depth rest ih =>
      have other : '(' ≠ ')' := by decide
      refine ih.trans ?_
      rw [step]
      refine and_congr (forall₂_congr fun start _ => ?_) ?_ <;>
        simp only [List.count_cons_self, List.count_cons_of_ne other] <;> omega
  | case3 rest notOpen =>
      rw [step]
      refine iff_of_false nofun fun closed => ?_
      exact absurd (closed.1 [] List.nil_prefix) (by decide)
  | case4 depth rest positive notOpen ih =>
      refine ih.trans ?_
      rw [step]
      refine and_congr (forall₂_congr fun start _ => ?_) ?_ <;>
        simp only [List.count_cons_self, List.count_cons_of_ne notOpen] <;> omega
  | case5 depth c rest notOpen notClose ih =>
      refine ih.trans ?_
      rw [step]
      simp only [List.count_cons_of_ne notOpen, List.count_cons_of_ne notClose]

theorem balanced_iff_leads {text : String} : Balanced text ↔ Leads text 0 0 := by
  rw [Leads, depthAfter_eq_some_iff, Balanced]
  simp only [Nat.zero_add]

instance (text : String) : Decidable (Balanced text) := decidable_of_iff _ balanced_iff_leads.symm

theorem depthAfter_append (depth : Nat) (first second : List Char) :
    depthAfter depth (first ++ second) = (depthAfter depth first).bind (depthAfter · second) := by
  fun_induction depthAfter depth first with
  | case1 depth => rfl
  | case2 depth rest ih => rw [← ih, List.cons_append, depthAfter, if_pos rfl]
  | case3 rest notOpen => rfl
  | case4 depth rest positive notOpen ih =>
      rw [← ih, List.cons_append, depthAfter, if_neg notOpen, if_pos rfl, if_neg positive]
  | case5 depth c rest notOpen notClose ih =>
      rw [← ih, List.cons_append, depthAfter, if_neg notOpen, if_neg notClose]

namespace Leads

variable {first second text : String} {depth middle stop : Nat}

theorem append (start : Leads first depth middle) (finish : Leads second middle stop) :
    Leads (first ++ second) depth stop := by
  rw [Leads, String.toList_append, depthAfter_append, start]
  exact finish

/-- What is open around a text makes no difference to it. -/
theorem lift (leads : Leads text depth stop) (outside : Nat) :
    Leads text (outside + depth) (outside + stop) := by
  rw [Leads, depthAfter_eq_some_iff] at leads ⊢
  obtain ⟨starts, whole⟩ := leads
  refine ⟨fun start inside => ?_, by omega⟩
  have bound := starts start inside
  omega

end Leads

namespace Balanced

variable {first second text separator : String}

theorem leads (balanced : Balanced text) (depth : Nat) : Leads text depth depth :=
  (balanced_iff_leads.mp balanced).lift depth

theorem append (start : Balanced first) (finish : Balanced second) : Balanced (first ++ second) :=
  balanced_iff_leads.mpr ((start.leads 0).append (finish.leads 0))

theorem intercalate {texts : List String} (between : Balanced separator)
    (each : ∀ text ∈ texts, Balanced text) : Balanced (separator.intercalate texts) := by
  induction texts with
  | nil => exact balanced_iff_leads.mpr rfl
  | cons text rest ih =>
      obtain ⟨head, others⟩ := List.forall_mem_cons.mp each
      cases rest with
      | nil => simpa using head
      | cons next rest =>
          rw [String.intercalate_cons_cons]
          exact (head.append between).append (ih others)

end Balanced

def parens (text : List Char) : List Char := text.filter isParen

theorem parens_append (first second : List Char) :
    parens (first ++ second) = parens first ++ parens second :=
  List.filter_append first second

theorem parens_cons (c : Char) (rest : List Char) :
    parens (c :: rest) = parens [c] ++ parens rest :=
  parens_append [c] rest

theorem depthAfter_parens (depth : Nat) (text : List Char) :
    depthAfter depth (parens text) = depthAfter depth text := by
  induction text generalizing depth with
  | nil => rfl
  | cons c rest ih =>
      cases kind : isParen c with
      | false =>
          rw [parens, List.filter_cons_of_neg (by simp [kind]), ← parens, ih,
            depthAfter_of_not_isParen kind]
      | true =>
          rw [parens, List.filter_cons_of_pos kind, ← parens, depthAfter, depthAfter, ih, ih, ih]

theorem Balanced.of_parens_eq {text other : String} (balanced : Balanced text)
    (same : parens other.toList = parens text.toList) : Balanced other := by
  rw [balanced_iff_leads, Leads, ← depthAfter_parens] at balanced ⊢
  rw [same]
  exact balanced

theorem parenFree_iff {text : String} : ParenFree text ↔ parens text.toList = [] := by
  simp [ParenFree, parens, List.filter_eq_nil_iff]

instance (text : String) : Decidable (ParenFree text) := decidable_of_iff _ parenFree_iff.symm

namespace ParenFree

variable {first second text : String}

theorem balanced (free : ParenFree text) : Balanced text := by
  have empty : Balanced "" := by decide
  exact empty.of_parens_eq (parenFree_iff.mp free)

theorem leads (free : ParenFree text) (depth : Nat) : Leads text depth depth :=
  free.balanced.leads depth

theorem append (start : ParenFree first) (finish : ParenFree second) :
    ParenFree (first ++ second) := by
  rw [ParenFree, String.toList_append]
  exact List.forall_mem_append.mpr ⟨start, finish⟩

theorem of_mem {other : List Char} (free : ParenFree text)
    (kept : ∀ c ∈ other, isParen c = true → c ∈ text.toList) : ParenFree (String.ofList other) := by
  intro c member
  rw [String.toList_ofList] at member
  by_contra paren
  rw [Bool.not_eq_false] at paren
  rw [free c (kept c member paren)] at paren
  cases paren

end ParenFree

theorem parens_padLines {pad : List Char} (free : parens pad = []) (text : List Char) :
    parens (padLines pad text) = parens text := by
  induction text with
  | nil => rfl
  | cons c rest ih =>
      rw [padLines, parens_cons c rest]
      split
      · rw [parens_cons, parens_append, free, ih, List.nil_append]
      · rw [parens_cons, ih]

theorem Balanced.indent {text : String} (balanced : Balanced text) (spaces : Nat) :
    Balanced (Text.indent spaces text) := by
  have free : parens (List.replicate spaces ' ') = [] := List.filter_replicate_of_neg (by decide)
  apply balanced.of_parens_eq
  rw [Text.indent, String.toList_ofList, indentChars, parens_append, free, parens_padLines free,
    List.nil_append]

theorem parens_replaceFrom {pattern replacement : List Char} (present : pattern ≠ [])
    (marks : parens pattern = []) (free : parens replacement = []) (skip : Nat) (text : List Char)
    (passed : parens (text.take skip) = []) :
    parens (replaceFrom pattern replacement skip text) = parens text := by
  fun_induction replaceFrom pattern replacement skip text with
  | case1 skip => rfl
  | case2 skip c rest ih =>
      rw [List.take_succ_cons, parens_cons, List.append_eq_nil_iff] at passed
      rw [ih passed.2, parens_cons c rest, passed.1, List.nil_append]
  | case3 c rest found ih =>
      obtain ⟨first, more, rfl⟩ := List.exists_cons_of_ne_nil present
      obtain ⟨rfl, inside⟩ := List.cons_prefix_cons.mp (List.isPrefixOf_iff_prefix.mp found)
      rw [parens_cons, List.append_eq_nil_iff] at marks
      have skipped : rest.take more.length = more := (List.prefix_iff_eq_take.mp inside).symm
      rw [parens_append, free, List.nil_append, ih ?_, parens_cons first rest, marks.1,
        List.nil_append]
      rw [List.length_cons, Nat.add_sub_cancel, skipped]
      exact marks.2
  | case4 c rest other ih => rw [parens_cons, ih rfl, ← parens_cons]

theorem parens_flatMap_cons {replacement : List Char} (free : parens replacement = [])
    (text : List Char) : parens (text.flatMap (· :: replacement)) = parens text := by
  induction text with
  | nil => rfl
  | cons c rest ih =>
      rw [List.flatMap_cons, parens_append, ih, parens_cons c replacement, free, List.append_nil,
        ← parens_cons]

theorem Balanced.replace {text pattern replacement : String} (balanced : Balanced text)
    (marks : ParenFree pattern) (free : ParenFree replacement) :
    Balanced (Text.replace text pattern replacement) := by
  rw [parenFree_iff] at marks free
  apply balanced.of_parens_eq
  rw [Text.replace, String.toList_ofList, replaceChars]
  split
  · rw [parens_append, free, List.nil_append, parens_flatMap_cons free]
  · rename_i present
    exact parens_replaceFrom (by simpa using present) marks free 0 _ rfl

/-! Upper and lower case of a character are no parentheses, unless the character is one. -/

theorem image_after_dot {expansions : List (Nat × List Nat)} {runs : List CaseRun}
    (checked : endsChecked expansions runs = true) {code : Nat}
    (image : code ∈ imageCodes expansions runs) : '.'.toNat < code := by
  obtain ⟨expanded, ends⟩ := endsChecked_iff.mp checked
  rcases List.mem_append.mp image with inExpansion | inRun
  · obtain ⟨expansion, listed, inside⟩ := List.mem_flatMap.mp inExpansion
    have after := (expanded expansion listed).2 code inside
    simp only [afterDot, Bool.and_eq_true, decide_eq_true_eq] at after
    omega
  · obtain ⟨run, listed, inside⟩ := List.mem_flatMap.mp inRun
    obtain ⟨source, changed, rfl⟩ := List.mem_map.mp inside
    obtain ⟨lower, -⟩ := CaseRun.bounds_of_mem_codes (ends run listed).ordered changed
    have positive := (ends run listed).image_positive
    omega

theorem eq_of_mem_mapCase {expansions : List (Nat × List Nat)} {runs : List CaseRun}
    (checked : tableChecked expansions runs = true) {c d : Char}
    (member : d ∈ mapCase expansions runs c) (paren : isParen d = true) : d = c := by
  obtain ⟨ends, masks⟩ := Bool.and_eq_true_iff.mp checked
  rcases mem_mapCase member with ⟨same, -⟩ | ⟨code, image, rfl⟩
  · exact same
  · have valid := ((Settles.of_checked ends masks).images code image).1
    have after := image_after_dot ends image
    rw [← toNat_ofNat_of_valid valid] at after
    simp only [isParen, Bool.or_eq_true, beq_iff_eq] at paren
    rcases paren with isOpen | isClose
    · rw [isOpen] at after
      exact absurd after (by decide)
    · rw [isClose] at after
      exact absurd after (by decide)

theorem eq_of_mem_lowerChar {c d : Char} (member : d ∈ lowerChar c) (paren : isParen d = true) :
    d = c :=
  eq_of_mem_mapCase (Bool.and_eq_true_iff.mp tables_checked).1 member paren

theorem eq_of_mem_upperChar {c d : Char} (member : d ∈ upperChar c) (paren : isParen d = true) :
    d = c :=
  eq_of_mem_mapCase (Bool.and_eq_true_iff.mp tables_checked).2 member paren

theorem mem_of_mem_lowerAfter {before text : List Char} {d : Char}
    (member : d ∈ lowerAfter before text) (paren : isParen d = true) : d ∈ text := by
  induction text generalizing before with
  | nil => exact member
  | cons c rest ih =>
      rw [lowerAfter] at member
      rcases List.mem_append.mp member with first | later
      · split at first
        · -- A sigma becomes a sigma, which is no parenthesis.
          rw [List.mem_singleton] at first
          rw [first] at paren
          split at paren <;> cases paren
        · rw [eq_of_mem_lowerChar first paren]
          exact List.mem_cons_self
      · exact List.mem_cons_of_mem c (ih later)

theorem ParenFree.lower {text : String} (free : ParenFree text) : ParenFree (Text.lower text) :=
  free.of_mem fun _ member paren => mem_of_mem_lowerAfter member paren

theorem ParenFree.upper {text : String} (free : ParenFree text) : ParenFree (Text.upper text) := by
  refine free.of_mem fun d member paren => ?_
  obtain ⟨c, inText, image⟩ := List.mem_flatMap.mp member
  rw [eq_of_mem_upperChar image paren]
  exact inText

end NestedQuery.Text
