import Mathlib.Data.List.Basic
import NestedQuery.Document.JsonParse
import NestedQuery.Document.JsonPrint

/-! A document that states no numbers is read back from its text. Texts are escaped character by
character, and what follows a value on the line never belongs to it. -/

namespace NestedQuery.Json

/-- Values without numbers, in whose records every key is a text. -/
inductive Numberless : Json → Prop
  | null : Numberless .null
  | bool (value) : Numberless (.bool value)
  | text (value) : Numberless (.text value)
  | list {items : List Json} : (∀ item ∈ items, Numberless item) → Numberless (.list items)
  | object {members : List (String × Json)} :
      (∀ member ∈ members, Numberless member.2) → Numberless (.object members)

theorem escapeChar_cases (c : Char) :
    (∃ sign, sign ≠ 'u' ∧ escape? sign = some c ∧ escapeChar c = ['\\', sign]) ∨
      (c.toNat < 0x20 ∧ escapeChar c =
        ['\\', 'u', '0', '0', Text.hexDigit (c.toNat / 16), Text.hexDigit (c.toNat % 16)]) ∨
      c ≠ '"' ∧ c ≠ '\\' ∧ 0x20 ≤ c.toNat ∧ escapeChar c = [c] := by
  unfold escapeChar
  have coded {code : Nat} (same : c.toNat = code) : some (Char.ofNat code) = some c := by
    rw [← same, Char.ofNat_toNat]
  split_ifs with quote backslash backspace feed newline carriage tab control
  · exact .inl ⟨'"', by decide, congrArg some quote.symm, rfl⟩
  · exact .inl ⟨'\\', by decide, congrArg some backslash.symm, rfl⟩
  · exact .inl ⟨'b', by decide, coded backspace, rfl⟩
  · exact .inl ⟨'f', by decide, coded feed, rfl⟩
  · exact .inl ⟨'n', by decide, congrArg some newline.symm, rfl⟩
  · exact .inl ⟨'r', by decide, congrArg some carriage.symm, rfl⟩
  · exact .inl ⟨'t', by decide, congrArg some tab.symm, rfl⟩
  · exact .inr (.inl ⟨control, rfl⟩)
  · exact .inr (.inr ⟨quote, backslash, by omega, rfl⟩)

theorem readText_escaped {draft : TextDraft} {sign c : Char} (rest : List Char)
    (notCode : sign ≠ 'u') (meant : escape? sign = some c) :
    readText draft ('\\' :: sign :: rest) = readText (draft.push c) rest := by
  rw [readText]
  · rw [meant]
  · intro _ _ _ _ _ isCode _
    exact notCode isCode

theorem readText_coded {draft : TextDraft} {c : Char} (rest : List Char)
    (control : c.toNat < 0x20) :
    readText draft ('\\' :: 'u' :: '0' :: '0' :: Text.hexDigit (c.toNat / 16) ::
      Text.hexDigit (c.toNat % 16) :: rest) = readText (draft.push c) rest := by
  have allCodes : ∀ code < 0x20,
      hexNumber? ['0', '0', Text.hexDigit (code / 16), Text.hexDigit (code % 16)] = some code ∧
        isHighSurrogate code = false ∧ isLowSurrogate code = false := by
    decide
  obtain ⟨read, notHigh, notLow⟩ := allCodes c.toNat control
  rw [readText, read]
  simp only [TextDraft.pushUnit, notHigh, notLow, Char.ofNat_toNat, Bool.false_eq_true, if_false]

theorem readText_plain {draft : TextDraft} {c : Char} (rest : List Char) (notQuote : c ≠ '"')
    (notBackslash : c ≠ '\\') (shown : 0x20 ≤ c.toNat) :
    readText draft (c :: rest) = readText (draft.push c) rest := by
  rw [readText]
  · rw [if_neg (by omega)]
  · exact notQuote
  · intro _ _ _ _ _ isBackslash _
    exact notBackslash isBackslash
  · intro _ _ isBackslash _
    exact notBackslash isBackslash

theorem readText_escapeChar (draft : TextDraft) (c : Char) (rest : List Char) :
    readText draft (escapeChar c ++ rest) = readText (draft.push c) rest := by
  rcases escapeChar_cases c with ⟨sign, notCode, meant, written⟩ | ⟨control, written⟩ |
    ⟨notQuote, notBackslash, shown, written⟩
  · rw [written]
    exact readText_escaped rest notCode meant
  · rw [written]
    exact readText_coded rest control
  · rw [written]
    exact readText_plain rest notQuote notBackslash shown

theorem readText_escapeChars {draft : TextDraft} (sound : draft.broken = false)
    (complete : draft.pending = none) (characters rest : List Char) :
    readText draft (characters.flatMap escapeChar ++ '"' :: rest) =
      some (some (String.ofList (draft.characters.reverse ++ characters)), rest) := by
  induction characters generalizing draft with
  | nil =>
      rw [List.flatMap_nil, List.nil_append, readText, TextDraft.finish, sound, complete]
      simp
  | cons c later ih =>
      rw [List.flatMap_cons, List.append_assoc, readText_escapeChar, ih]
      · simp [TextDraft.push]
      · simp [TextDraft.push, sound, complete]
      · rfl

theorem readText_printed (value : String) (rest : List Char) :
    readText {} (value.toList.flatMap escapeChar ++ '"' :: rest) = some (some value, rest) := by
  rw [readText_escapeChars rfl rfl]
  simp

/-- The value is read from its text, whatever follows. Twice the length of the text is enough fuel,
since every nested call stands for a character of it. -/
def ReadBackFrom (source : List Char) (value : Json) : Prop :=
  ∀ rest fuel, 2 * source.length ≤ fuel → readValue fuel (source ++ rest) = some (value, rest)

def StartsValue (source : List Char) : Prop :=
  ∃ c rest, source = c :: rest ∧ isJsonBlank c = false ∧ c ≠ ']'

def chars (value : Json) : List Char := value.compact.toList

def joined (texts : List (List Char)) : List Char := [','].intercalate texts

theorem joined_cons_cons (first second : List Char) (others : List (List Char)) :
    joined (first :: second :: others) = first ++ ',' :: joined (second :: others) := by
  rw [joined, List.intercalate_cons_cons, List.append_assoc]
  rfl

theorem compactItems_eq_map (items : List Json) : compactItems items = items.map compact := by
  induction items with
  | nil => rfl
  | cons item rest ih => rw [compactItems, ih, List.map_cons]

theorem chars_list (items : List Json) :
    (list items).chars = '[' :: joined (items.map chars) ++ [']'] := by
  rw [chars, compact, compactItems_eq_map, String.toList_append, String.toList_append,
    String.toList_intercalate, List.map_map]
  rfl

def memberChars (member : String × Json) : List Char :=
  '"' :: member.1.toList.flatMap escapeChar ++ '"' :: ':' :: member.2.chars

theorem chars_object (members : List (String × Json)) :
    (object members).chars = '\x7b' :: joined (members.map memberChars) ++ ['\x7d'] := by
  have texts : (compactMembers (members.map fun member => (some member.1, member.2))).map
      String.toList = members.map memberChars := by
    induction members with
    | nil => rfl
    | cons member rest ih =>
        rw [List.map_cons, compactMembers, List.map_cons, ih, List.map_cons]
        simp [printKey, printText, memberChars, chars]
  have stated : object members = record (members.map fun member => (some member.1, member.2)) := rfl
  rw [chars, stated, compact, String.toList_append, String.toList_append,
    String.toList_intercalate, texts]
  rfl

theorem readItems_joined {first : Json} {items : List Json}
    (each : ∀ item ∈ first :: items, ReadBackFrom item.chars item) (rest : List Char) {fuel : Nat}
    (enough : 2 * (joined ((first :: items).map chars)).length < fuel) :
    readItems fuel (joined ((first :: items).map chars) ++ ']' :: rest) =
      some (first :: items, rest) := by
  induction items generalizing first fuel with
  | nil =>
      have firstBack := each first List.mem_cons_self
      obtain ⟨fuel, rfl⟩ := Nat.exists_eq_succ_of_ne_zero (Nat.ne_zero_of_lt enough)
      have only : joined ([first].map chars) = first.chars := List.intercalate_singleton
      rw [only] at enough ⊢
      rw [readItems, firstBack _ _ (by omega)]
      rfl
  | cons second items ih =>
      obtain ⟨firstBack, laterBack⟩ := List.forall_mem_cons.mp each
      obtain ⟨fuel, rfl⟩ := Nat.exists_eq_succ_of_ne_zero (Nat.ne_zero_of_lt enough)
      rw [List.map_cons, List.map_cons, joined_cons_cons, ← List.map_cons] at enough ⊢
      rw [List.length_append, List.length_cons] at enough
      rw [List.append_assoc, List.cons_append, readItems, firstBack _ _ (by omega)]
      have following : readItems fuel (joined ((second :: items).map chars) ++ ']' :: rest) =
          some (second :: items, rest) := ih laterBack (by omega)
      change (readItems fuel (joined ((second :: items).map chars) ++ ']' :: rest)).map
        (fun read => (first :: read.1, read.2)) = _
      rw [following]
      rfl

theorem readMembers_member {member : String × Json}
    (back : ReadBackFrom member.2.chars member.2) (rest : List Char) {fuel : Nat}
    (enough : 2 * (memberChars member).length ≤ fuel) :
    readMembers (fuel + 1) (memberChars member ++ rest) =
      match skipBlanks rest with
      | ',' :: more => (readMembers fuel more).map fun read =>
          ((some member.1, member.2) :: read.1, read.2)
      | '\x7d' :: left => some ([(some member.1, member.2)], left)
      | _ => none := by
  have length : (memberChars member).length =
      (member.1.toList.flatMap escapeChar).length + 3 + member.2.chars.length := by
    simp only [memberChars, List.cons_append, List.length_cons, List.length_append]
    omega
  have split : memberChars member ++ rest = '"' :: (member.1.toList.flatMap escapeChar ++
      '"' :: ':' :: (member.2.chars ++ rest)) := by
    simp only [memberChars, List.cons_append, List.append_assoc]
  have start (later : List Char) : skipBlanks ('"' :: later) = '"' :: later := rfl
  have colon (later : List Char) : skipBlanks (':' :: later) = ':' :: later := rfl
  have value := back rest fuel (by omega)
  rw [split, readMembers, start]
  simp only [readText_printed, colon]
  generalize readValue fuel (member.2.chars ++ rest) = outcome at value ⊢
  subst value
  rfl

theorem readMembers_joined {first : String × Json} {members : List (String × Json)}
    (each : ∀ member ∈ first :: members, ReadBackFrom member.2.chars member.2)
    (rest : List Char) {fuel : Nat}
    (enough : 2 * (joined ((first :: members).map memberChars)).length < fuel) :
    readMembers fuel (joined ((first :: members).map memberChars) ++ '\x7d' :: rest) =
      some ((first :: members).map fun member => (some member.1, member.2), rest) := by
  induction members generalizing first fuel with
  | nil =>
      have firstBack := each first List.mem_cons_self
      obtain ⟨fuel, rfl⟩ := Nat.exists_eq_succ_of_ne_zero (Nat.ne_zero_of_lt enough)
      have only : joined ([first].map memberChars) = memberChars first :=
        List.intercalate_singleton
      rw [only] at enough ⊢
      rw [readMembers_member firstBack _ (by omega)]
      rfl
  | cons second members ih =>
      obtain ⟨firstBack, laterBack⟩ := List.forall_mem_cons.mp each
      obtain ⟨fuel, rfl⟩ := Nat.exists_eq_succ_of_ne_zero (Nat.ne_zero_of_lt enough)
      rw [List.map_cons, List.map_cons, joined_cons_cons, ← List.map_cons] at enough ⊢
      rw [List.length_append, List.length_cons] at enough
      rw [List.append_assoc, List.cons_append, readMembers_member firstBack _ (by omega)]
      have following : readMembers fuel
          (joined ((second :: members).map memberChars) ++ '\x7d' :: rest) =
            some ((second :: members).map fun member => (some member.1, member.2), rest) :=
        ih laterBack (by omega)
      change (readMembers fuel
        (joined ((second :: members).map memberChars) ++ '\x7d' :: rest)).map
          (fun read => ((some first.1, first.2) :: read.1, read.2)) = _
      rw [following]
      rfl

theorem StartsValue.joined {first : List Char} (starts : StartsValue first)
    (others : List (List Char)) : StartsValue (joined (first :: others)) := by
  obtain ⟨c, rest, rfl, notBlank, notClosing⟩ := starts
  cases others with
  | nil => exact ⟨c, rest, List.intercalate_singleton, notBlank, notClosing⟩
  | cons second others =>
      rw [joined_cons_cons]
      exact ⟨c, _, List.cons_append, notBlank, notClosing⟩

theorem readValue_opening {fuel : Nat} {source : List Char} (starts : StartsValue source) :
    readValue (fuel + 1) ('[' :: source) =
      (readItems fuel source).map fun read => (list read.1, read.2) := by
  obtain ⟨c, rest, rfl, notBlank, notClosing⟩ := starts
  have opening : skipBlanks ('[' :: c :: rest) = '[' :: c :: rest := rfl
  have kept : skipBlanks (c :: rest) = c :: rest := by
    rw [skipBlanks, List.dropWhile_cons_of_neg (by simp [notBlank])]
  rw [readValue, opening]
  simp only [kept]
  split
  · rename_i closes
    exact absurd (List.cons.inj closes).1 notClosing
  · rfl

theorem readBackFrom_list {items : List Json} (each : ∀ item ∈ items, ReadBackFrom item.chars item)
    (starts : ∀ item ∈ items, StartsValue item.chars) :
    ReadBackFrom (list items).chars (list items) := by
  intro rest fuel enough
  have whole : (list items).chars ++ rest = '[' :: (joined (items.map chars) ++ ']' :: rest) := by
    simp [chars_list]
  rw [chars_list, List.length_append, List.length_cons, List.length_singleton] at enough
  obtain ⟨fuel, rfl⟩ : ∃ less, fuel = less + 1 := ⟨fuel - 1, by omega⟩
  rw [whole]
  cases items with
  | nil => rfl
  | cons first items =>
      have firstStarts := (starts first List.mem_cons_self).joined (items.map chars)
      obtain ⟨c, later, begins, notBlank, notClosing⟩ := firstStarts
      rw [readValue_opening, readItems_joined each rest (by omega)]
      · rfl
      · rw [List.map_cons, begins]
        exact ⟨c, _, List.cons_append, notBlank, notClosing⟩

theorem readBackFrom_object {members : List (String × Json)}
    (each : ∀ member ∈ members, ReadBackFrom member.2.chars member.2) :
    ReadBackFrom (object members).chars (object members) := by
  intro rest fuel enough
  have whole : (object members).chars ++ rest =
      '\x7b' :: (joined (members.map memberChars) ++ '\x7d' :: rest) := by
    simp [chars_object]
  rw [chars_object, List.length_append, List.length_cons, List.length_singleton] at enough
  obtain ⟨fuel, rfl⟩ : ∃ less, fuel = less + 1 := ⟨fuel - 1, by omega⟩
  rw [whole]
  cases members with
  | nil => rfl
  | cons first members =>
      -- The text of a member starts with the quote of its key.
      obtain ⟨later, begins⟩ : ∃ later,
          joined ((first :: members).map memberChars) = '"' :: later := by
        cases members with
        | nil => exact ⟨_, List.intercalate_singleton⟩
        | cons second members => exact ⟨_, joined_cons_cons _ _ _⟩
      have inside : readMembers fuel
          (joined ((first :: members).map memberChars) ++ '\x7d' :: rest) = _ :=
        readMembers_joined each rest (by omega)
      rw [begins, List.cons_append] at inside ⊢
      change (readMembers fuel ('"' :: (later ++ '\x7d' :: rest))).map
        (fun read => (record read.1, read.2)) = _
      rw [inside]
      rfl

theorem chars_text (value : String) :
    (text value).chars = '"' :: value.toList.flatMap escapeChar ++ ['"'] := by
  simp [chars, compact, printScalar, printText]

theorem readBackFrom_text (value : String) : ReadBackFrom (text value).chars (text value) := by
  intro rest fuel enough
  have whole : (text value).chars ++ rest =
      '"' :: (value.toList.flatMap escapeChar ++ '"' :: rest) := by
    simp [chars_text]
  rw [chars_text, List.length_append, List.length_cons] at enough
  obtain ⟨fuel, rfl⟩ : ∃ less, fuel = less + 1 := ⟨fuel - 1, by omega⟩
  rw [whole]
  change (readText {} (value.toList.flatMap escapeChar ++ '"' :: rest)).map
    (fun read => (ofReadText read.1, read.2)) = _
  rw [readText_printed]
  rfl

theorem readBackFrom_word {value : Json} {word : List Char} (written : value.chars = word)
    (notEmpty : word ≠ [])
    (read : ∀ fuel rest, readValue (fuel + 1) (word ++ rest) = some (value, rest)) :
    ReadBackFrom value.chars value := by
  intro rest fuel enough
  rw [written] at enough ⊢
  have length := List.length_pos_iff.mpr notEmpty
  obtain ⟨fuel, rfl⟩ : ∃ less, fuel = less + 1 := ⟨fuel - 1, by omega⟩
  exact read fuel rest

theorem Numberless.readBack {value : Json} (numberless : value.Numberless) :
    ReadBackFrom value.chars value ∧ StartsValue value.chars := by
  induction numberless with
  | null =>
      have written : Json.null.chars = ['n', 'u', 'l', 'l'] := rfl
      refine ⟨readBackFrom_word written (by decide) fun _ _ => rfl, ?_⟩
      exact ⟨'n', _, written, by decide, by decide⟩
  | bool value =>
      cases value with
      | false =>
          have written : (Json.bool false).chars = ['f', 'a', 'l', 's', 'e'] := rfl
          refine ⟨readBackFrom_word written (by decide) fun _ _ => rfl, ?_⟩
          exact ⟨'f', _, written, by decide, by decide⟩
      | true =>
          have written : (Json.bool true).chars = ['t', 'r', 'u', 'e'] := rfl
          refine ⟨readBackFrom_word written (by decide) fun _ _ => rfl, ?_⟩
          exact ⟨'t', _, written, by decide, by decide⟩
  | text value =>
      exact ⟨readBackFrom_text value, '"', _, chars_text value, by decide, by decide⟩
  | list _ ih =>
      exact ⟨readBackFrom_list (fun item member => (ih item member).1)
        (fun item member => (ih item member).2), '[', _, chars_list _, by decide, by decide⟩
  | object _ ih =>
      exact ⟨readBackFrom_object (fun member inside => (ih member inside).1), '\x7b', _,
        chars_object _, by decide, by decide⟩

/-- The text layer: a value is parsed back from the text that it is printed as. -/
theorem parse_compact {value : Json} (numberless : value.Numberless) :
    parse value.compact = some value := by
  have back := numberless.readBack.1 [] (2 * value.compact.toList.length + 2)
    (by rw [chars]; omega)
  rw [chars, List.append_nil] at back
  rw [parse, parseChars, back]
  rfl

end NestedQuery.Json
