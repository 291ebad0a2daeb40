import NestedQuery.Proofs.Naming
import NestedQuery.Proofs.SchemaDump.Printing
import NestedQuery.Proofs.Text.LowerLetters
import NestedQuery.Query.Select

/-! Aliases as words of SQL. An alias is read as one word, the alias itself, unless its first
initial is no letter, an initial is the dotted capital, or its initials spell a keyword and are
not numbered. -/

namespace NestedQuery

open NestedQuery.Text

namespace SchemaDump

def IsNameChar (c : Char) : Prop := continuesWord c = true ∨ c = combiningDot

/-- No token starts with the character, although a word may go on with it. -/
def IsSilent (c : Char) : Prop := startsWord c = false ∧ c.isDigit = false

/-- The text is the word with nothing around it that makes a token. -/
def StandsAlone (word : String) (text : List Char) : Prop :=
  ∃ before after, text = before ++ (word.toList ++ after) ∧ (∀ c ∈ before, IsSilent c) ∧
    (∀ c ∈ after, IsSilent c) ∧ EndsWord after ∧ IsWord word.toList ∧
    Keyword.ofWord? word.toList = none

theorem continuesWord_of_startsWord {c : Char} (starts : startsWord c = true) :
    continuesWord c = true := by
  simp only [startsWord, Bool.or_eq_true] at starts
  rcases starts with letter | underscore
  · simp [continuesWord, isLetterOrNumeral, letter]
  · simp [continuesWord, underscore]

theorem IsWord.continues {text : List Char} (isWord : IsWord text) :
    ∀ c ∈ text, continuesWord c = true := by
  obtain ⟨first, rest, rfl, starts, continues⟩ := isWord
  exact List.forall_mem_cons.mpr ⟨continuesWord_of_startsWord starts, continues⟩

section NameChars

variable {c : Char} {text rest : List Char}

theorem readToken_silent (named : IsNameChar c) (silent : IsSilent c) :
    readToken c rest = (none, rest) := by
  have unnamed : ['-', '/', '"', backquote, '\'', '(', ')', ',', ';', '.'].all
      (fun mark => !continuesWord mark && mark != combiningDot) = true := by
    decide
  have others : c ∉ ['-', '/', '"', backquote, '\'', '(', ')', ',', ';', '.'] := by
    intro member
    have other := List.all_eq_true.mp unnamed c member
    simp only [Bool.and_eq_true, Bool.not_eq_true', bne_iff_ne] at other
    rcases named with continues | dot
    · rw [other.1] at continues
      cases continues
    · exact other.2 dot
  simp only [List.mem_cons, List.not_mem_nil, or_false, not_or] at others
  have unmarked : punctuation? c = none := by
    unfold punctuation?
    split <;> simp_all
  simp [readToken, others, silent.1, silent.2, unmarked]

theorem isWord_takeWhile (starts : startsWord c = true) (rest : List Char) :
    IsWord (c :: rest.takeWhile continuesWord) :=
  ⟨c, _, rfl, starts, fun _ member => List.mem_takeWhile_imp member⟩

theorem endsWord_dropWhile (rest : List Char) : EndsWord (rest.dropWhile continuesWord) := by
  intro d found
  simpa [found] using List.head?_dropWhile_not continuesWord rest

theorem scanChars_cons_cases (named : IsNameChar c) (rest : List Char) :
    (startsWord c = true ∧ scanChars (c :: rest) =
      wordToken (c :: rest.takeWhile continuesWord) ::
        scanChars (rest.dropWhile continuesWord)) ∨
    (∃ digits left, scanChars (c :: rest) = .number digits :: scanChars left) ∨
    (IsSilent c ∧ scanChars (c :: rest) = scanChars rest) := by
  by_cases starts : startsWord c = true
  · have read := Reads.wholeWord (isWord_takeWhile starts rest) _ (endsWord_dropWhile rest)
    rw [List.cons_append, List.takeWhile_append_dropWhile] at read
    exact .inl ⟨starts, read⟩
  by_cases digit : c.isDigit = true
  · exact .inr (.inl ⟨_, _, scanChars_cons (readToken_digit digit rest)⟩)
  · have silent : IsSilent c := ⟨by simpa using starts, by simpa using digit⟩
    exact .inr (.inr ⟨silent, scanChars_cons (readToken_silent named silent)⟩)

theorem scanChars_silent_append {before : List Char} (named : ∀ c ∈ before, IsNameChar c)
    (silent : ∀ c ∈ before, IsSilent c) : scanChars (before ++ rest) = scanChars rest := by
  induction before with
  | nil => rfl
  | cons c before ih =>
      obtain ⟨firstNamed, laterNamed⟩ := List.forall_mem_cons.mp named
      obtain ⟨firstSilent, laterSilent⟩ := List.forall_mem_cons.mp silent
      rw [List.cons_append, scanChars_cons (readToken_silent firstNamed firstSilent)]
      exact ih laterNamed laterSilent

theorem isSilent_of_scanChars_eq_nil (named : ∀ c ∈ text, IsNameChar c)
    (empty : scanChars text = []) : ∀ c ∈ text, IsSilent c := by
  induction text with
  | nil => exact List.forall_mem_nil _
  | cons c rest ih =>
      obtain ⟨first, later⟩ := List.forall_mem_cons.mp named
      rcases scanChars_cons_cases first rest with ⟨-, read⟩ | ⟨_, _, read⟩ | ⟨silent, read⟩
      · rw [read] at empty
        cases empty
      · rw [read] at empty
        cases empty
      · rw [read] at empty
        exact List.forall_mem_cons.mpr ⟨silent, ih later empty⟩

theorem wordToken_eq_word_iff {word : String} :
    wordToken text = .word word ↔ text = word.toList ∧ Keyword.ofWord? word.toList = none := by
  unfold wordToken
  constructor
  · intro same
    split at same
    · cases same
    · cases same
      rw [String.toList_ofList]
      exact ⟨rfl, by assumption⟩
  · rintro ⟨rfl, noKeyword⟩
    rw [noKeyword, String.ofList_toList]

theorem standsAlone_of_scanChars {word : String} (named : ∀ c ∈ text, IsNameChar c)
    (scanned : scanChars text = [.word word]) : StandsAlone word text := by
  induction text with
  | nil => simp [scanChars] at scanned
  | cons c rest ih =>
      obtain ⟨first, later⟩ := List.forall_mem_cons.mp named
      rcases scanChars_cons_cases first rest with ⟨starts, read⟩ | ⟨_, _, read⟩ | ⟨silent, read⟩
      · rw [read, List.cons.injEq, wordToken_eq_word_iff] at scanned
        obtain ⟨⟨same, noKeyword⟩, ended⟩ := scanned
        have quiet : ∀ d ∈ rest.dropWhile continuesWord, IsSilent d :=
          isSilent_of_scanChars_eq_nil
            (fun d member => later d ((List.dropWhile_suffix _).subset member)) ended
        refine ⟨[], rest.dropWhile continuesWord, ?_, List.forall_mem_nil _, quiet,
          endsWord_dropWhile rest, same ▸ isWord_takeWhile starts rest, noKeyword⟩
        rw [← same, List.nil_append, List.cons_append, List.takeWhile_append_dropWhile]
      · rw [read] at scanned
        cases scanned
      · rw [read] at scanned
        obtain ⟨before, after, rfl, quiet, more⟩ := ih later scanned
        exact ⟨c :: before, after, rfl, List.forall_mem_cons.mpr ⟨silent, quiet⟩, more⟩

theorem scanChars_eq_word_iff {word : String} (named : ∀ c ∈ text, IsNameChar c) :
    scanChars text = [.word word] ↔ StandsAlone word text := by
  refine ⟨standsAlone_of_scanChars named, ?_⟩
  rintro ⟨before, after, rfl, quietBefore, quietAfter, ends, isWord, noKeyword⟩
  simp only [List.forall_mem_append] at named
  obtain ⟨namedBefore, -, namedAfter⟩ := named
  have nothing : scanChars (after ++ []) = scanChars [] :=
    scanChars_silent_append namedAfter quietAfter
  rw [List.append_nil, scanChars] at nothing
  rw [scanChars_silent_append namedBefore quietBefore, Reads.wholeWord isWord after ends, nothing,
    List.append_nil, wordToken_eq_word_iff.mpr ⟨rfl, noKeyword⟩]

end NameChars

theorem scan_eq_word_self_iff {name : String} :
    scan name = [.word name] ↔ IsWord name.toList ∧ Keyword.ofWord? name.toList = none := by
  constructor
  · intro read
    have wellFormed := wellFormed_scanChars name.toList (.word name)
    rw [← scan, read] at wellFormed
    obtain ⟨isWord, noKeyword⟩ := wellFormed (List.mem_singleton_self _)
    exact ⟨isWord, Keyword.ofWord?_eq_none_iff.mpr noKeyword⟩
  · rintro ⟨isWord, noKeyword⟩
    have read := Reads.wholeWord isWord [] (by simp [EndsWord])
    rw [List.append_nil, wordToken_eq_word_iff.mpr ⟨rfl, noKeyword⟩] at read
    simpa [scan, scanChars] using read

theorem Keyword.ofWord?_eq_none_of_isDigit {text : List Char} {c : Char} (member : c ∈ text)
    (digit : c.isDigit = true) : Keyword.ofWord? text = none := by
  rw [Keyword.ofWord?_eq_none_iff]
  intro keyword
  by_contra same
  have letter := Keyword.isLetter_of_sameWord (by simpa using same) c member
  rw [isLetter_of_isDigit digit] at letter
  cases letter

end SchemaDump

open NestedQuery.SchemaDump

def leadingChars (name : String) : List Char :=
  (pieces (· == '_') name.toList).filterMap List.head?

theorem initials_toList (name : String) :
    (Naming.initials '_' name).toList = (leadingChars name).flatMap lowerChar := by
  rw [Naming.initials, String.toList_ofList, leadingChars]
  induction pieces (· == '_') name.toList with
  | nil => rfl
  | cons piece others ih =>
      rw [List.flatMap_cons, ih]
      cases piece <;> rfl

theorem mem_of_mem_pieces {separates : Char → Bool} {text piece : List Char} {c : Char}
    (cut : piece ∈ pieces separates text) (member : c ∈ piece) :
    c ∈ text ∧ separates c = false := by
  fun_induction pieces separates text generalizing piece with
  | case1 => simp_all
  | case2 d rest separator ih =>
      rcases List.mem_cons.mp cut with rfl | later
      · cases member
      · exact (ih later member).imp_left (List.mem_cons_of_mem d)
  | case3 d rest inside none ih => exact absurd none (pieces_ne_nil _ _)
  | case4 d rest inside first others found ih =>
      rcases List.mem_cons.mp cut with rfl | later
      · rcases List.mem_cons.mp member with rfl | member
        · exact ⟨List.mem_cons_self, by simpa using inside⟩
        · exact (ih (found ▸ List.mem_cons_self) member).imp_left (List.mem_cons_of_mem d)
      · exact (ih (found ▸ List.mem_cons_of_mem _ later) member).imp_left (List.mem_cons_of_mem d)

theorem mem_of_mem_leadingChars {name : String} {c : Char} (leads : c ∈ leadingChars name) :
    c ∈ name.toList ∧ c ≠ '_' := by
  obtain ⟨piece, cut, first⟩ := List.mem_filterMap.mp leads
  obtain ⟨inName, other⟩ := mem_of_mem_pieces cut (List.mem_of_mem_head? first)
  exact ⟨inName, by simpa using other⟩

theorem continuesWord_combiningDot : continuesWord combiningDot = false := by decide

theorem continuesWord_of_isLetter {c : Char} (letter : isLetter c = true) :
    continuesWord c = true :=
  continuesWord_of_startsWord (by simp [startsWord, letter])

theorem continuesWord_lowerChar {c : Char} (continues : continuesWord c = true)
    (plain : c ≠ dottedCapital) : ∀ d ∈ lowerChar c, continuesWord d = true := by
  rcases lowerChar_cases plain with kept | ⟨-, d, changed, letter⟩
  · simpa [kept] using continues
  · simpa [changed] using continuesWord_of_isLetter letter

theorem isNameChar_lowerChar {c : Char} (continues : continuesWord c = true) :
    ∀ d ∈ lowerChar c, IsNameChar d := by
  intro d member
  rcases lowersTo_lowerChar c with kept | ⟨-, -, letters⟩
  · rw [kept, List.mem_singleton] at member
    exact .inl (member ▸ continues)
  · exact (letters d member).imp_left continuesWord_of_isLetter

section Lowered

variable {leading digits : List Char}

theorem startsWord_head_lowerChar {c d : Char} {rest : List Char} (named : c ≠ '_')
    (lowered : lowerChar c = d :: rest) : startsWord d = true ↔ isLetter c = true := by
  by_cases dotted : c = dottedCapital
  · rw [dotted, lowerChar_dottedCapital] at lowered
    cases lowered
    exact ⟨fun _ => dotted ▸ by decide, fun _ => by decide⟩
  · rcases lowerChar_cases dotted with kept | ⟨letter, e, changed, small⟩
    · rw [kept] at lowered
      cases lowered
      simp [startsWord, named]
    · rw [changed] at lowered
      cases lowered
      simp [startsWord, small, letter]

theorem isWord_lowered_iff (continues : ∀ c ∈ leading, continuesWord c = true ∧ c ≠ '_')
    (numbered : ∀ c ∈ digits, c.isDigit = true) :
    IsWord (leading.flatMap lowerChar ++ digits) ↔
      (∃ first ∈ leading.head?, isLetter first = true) ∧ dottedCapital ∉ leading := by
  constructor
  · intro isWord
    constructor
    · obtain ⟨d, rest, whole, starts, -⟩ := isWord
      cases leading with
      | nil =>
          -- Without initials the text would start with a digit.
          have digit : d.isDigit = true := numbered d (by simp_all)
          rw [(startsWord_facts starts).2.1] at digit
          cases digit
      | cons c leading =>
          obtain ⟨e, piece, lowered⟩ :=
            List.exists_cons_of_ne_nil (lowersTo_lowerChar c).ne_nil
          simp only [List.flatMap_cons, lowered, List.cons_append, List.cons.injEq] at whole
          refine ⟨c, rfl, ?_⟩
          rw [← startsWord_head_lowerChar (continues c List.mem_cons_self).2 lowered, whole.1]
          exact starts
    · intro dotted
      have dot : combiningDot ∈ leading.flatMap lowerChar ++ digits := by
        refine List.mem_append_left _ (List.mem_flatMap.mpr ⟨dottedCapital, dotted, ?_⟩)
        simp [lowerChar_dottedCapital]
      have goesOn := isWord.continues combiningDot dot
      rw [continuesWord_combiningDot] at goesOn
      cases goesOn
  · rintro ⟨⟨first, leads, letter⟩, plain⟩
    have allContinue : ∀ c ∈ leading.flatMap lowerChar ++ digits, continuesWord c = true := by
      refine List.forall_mem_append.mpr ⟨?_, fun c member =>
        continuesWord_of_isDigit (numbered c member)⟩
      intro d member
      obtain ⟨c, inLeading, lowered⟩ := List.mem_flatMap.mp member
      refine continuesWord_lowerChar (continues c inLeading).1 ?_ d lowered
      rintro rfl
      exact plain inLeading
    obtain ⟨later, rfl⟩ := List.head?_eq_some_iff.mp leads
    obtain ⟨e, piece, lowered⟩ := List.exists_cons_of_ne_nil (lowersTo_lowerChar first).ne_nil
    rw [List.flatMap_cons, lowered] at allContinue ⊢
    refine ⟨e, _, rfl, ?_, fun c member => allContinue c (List.mem_cons_of_mem e member)⟩
    exact (startsWord_head_lowerChar (continues first List.mem_cons_self).2 lowered).mpr letter

end Lowered

theorem QueryParts.exists_digits_aliasFor (parts : QueryParts) (name : String) :
    ∃ digits, (parts.aliasFor name).toList = (Naming.initials '_' name).toList ++ digits ∧
      (∀ c ∈ digits, c.isDigit = true) ∧
      (digits ≠ [] ↔ Naming.initials '_' name ∈ parts.aliases) := by
  by_cases taken : Naming.initials '_' name ∈ parts.aliases
  · obtain ⟨number, same, -, -⟩ := Naming.fresh_of_mem "" taken
    refine ⟨Nat.toDigits 10 number, ?_, ?_, ?_⟩
    · rw [aliasFor, same, Naming.numbered, Nat.toString_eq_repr]
      simp [String.toList_append, Nat.toList_repr]
    · intro c member
      exact Nat.isDigit_of_mem_toDigits (by decide) (by decide) member
    · exact iff_of_true (List.ne_nil_of_length_pos Nat.length_toDigits_pos) taken
  · refine ⟨[], ?_, List.forall_mem_nil _, iff_of_false (by simp) taken⟩
    rw [aliasFor, Naming.fresh, if_neg taken, List.append_nil]

/-- Which aliases of named relations are words, and which are read as one word at all. -/
theorem alias_word_iff {name : String} (parts : QueryParts) (named : scan name = [.word name]) :
    (scan (parts.aliasFor name) = [.word (parts.aliasFor name)] ↔
      (∃ first ∈ (leadingChars name).head?, isLetter first = true) ∧
        dottedCapital ∉ leadingChars name ∧
        (Naming.initials '_' name ∈ parts.aliases ∨
          Keyword.ofWord? (Naming.initials '_' name).toList = none)) ∧
    ∀ word, scan (parts.aliasFor name) = [.word word] ↔
      StandsAlone word (parts.aliasFor name).toList := by
  have continues : ∀ c ∈ leadingChars name, continuesWord c = true ∧ c ≠ '_' := by
    intro c leads
    obtain ⟨member, other⟩ := mem_of_mem_leadingChars leads
    exact ⟨(scan_eq_word_self_iff.mp named).1.continues c member, other⟩
  obtain ⟨digits, whole, numbered, taken⟩ := parts.exists_digits_aliasFor name
  constructor
  · have keyword : Keyword.ofWord? (parts.aliasFor name).toList = none ↔
        Naming.initials '_' name ∈ parts.aliases ∨
          Keyword.ofWord? (Naming.initials '_' name).toList = none := by
      rw [← taken, whole]
      cases digits with
      | nil => simp
      | cons c digits =>
          -- Keywords have no digits.
          refine iff_of_true ?_ (.inl (List.cons_ne_nil _ _))
          exact Keyword.ofWord?_eq_none_of_isDigit (List.mem_append_right _ List.mem_cons_self)
            (numbered c List.mem_cons_self)
    rw [scan_eq_word_self_iff, keyword, whole, initials_toList,
      isWord_lowered_iff continues numbered, and_assoc]
  · intro word
    refine scanChars_eq_word_iff ?_
    rw [whole, initials_toList]
    refine List.forall_mem_append.mpr ⟨?_, fun c member =>
      .inl (continuesWord_of_isDigit (numbered c member))⟩
    intro d member
    obtain ⟨c, leads, lowered⟩ := List.mem_flatMap.mp member
    exact isNameChar_lowerChar (continues c leads).1 d lowered

theorem alias_word_iff_order_item :
    scan "order_item" = [.word "order_item"] ∧
      QueryParts.aliasFor { aliases := ["oi"] } "order_item" = "oi1" ∧
      scan "oi1" = [.word "oi1"] := by
  have named : scan "order_item" = [.word "order_item"] := by decide +kernel
  have numbered : QueryParts.aliasFor { aliases := ["oi"] } "order_item" = "oi1" := by
    decide +kernel
  refine ⟨named, numbered, ?_⟩
  rw [← numbered]
  exact (alias_word_iff { aliases := ["oi"] } named).1.mpr
    ⟨⟨'o', by decide, by decide⟩, by decide, .inl (by decide)⟩

/-- A keyword, nothing, a number and two words as aliases of relations whose names are words. -/
theorem aliases_not_words :
    (scan "order_number" = [.word "order_number"] ∧
      scan (QueryParts.aliasFor {} "order_number") = [.keyword .on]) ∧
    (scan "_" = [.word "_"] ∧ scan (QueryParts.aliasFor {} "_") = []) ∧
    (scan "_1" = [.word "_1"] ∧ scan (QueryParts.aliasFor {} "_1") = [.number "1"]) ∧
    (scan "a_\u0130_b" = [.word "a_\u0130_b"] ∧
      scan (QueryParts.aliasFor {} "a_\u0130_b") = [.word "ai", .word "b"]) := by
  decide +kernel

end NestedQuery
