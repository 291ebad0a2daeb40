import NestedQuery.Proofs.SchemaDump.Nameable
import NestedQuery.Proofs.Text.LowerLetters

/-! The arguments of a declared type, such as the 10 and the 2 of `NUMBER(10,2)`. Only numbers are
kept, and a number is then taken for the first argument if it is the first one kept. Arguments are
therefore read by their positions unless one that is no number stands before the first number. -/

namespace NestedQuery.Text

theorem pieces_intercalate {mark : Char} {texts : List (List Char)} (present : texts ≠ [])
    (free : ∀ text ∈ texts, mark ∉ text) :
    pieces (· == mark) ([mark].intercalate texts) = texts := by
  have alone {text : List Char} (free : mark ∉ text) : pieces (· == mark) text = [text] := by
    induction text with
    | nil => rfl
    | cons c rest ih =>
        obtain ⟨other, later⟩ := not_or.mp (List.mem_cons.not.mp free)
        rw [pieces, if_neg (by simpa using Ne.symm other), ih later]
  have before {text rest : List Char} (free : mark ∉ text) :
      pieces (· == mark) (text ++ mark :: rest) = text :: pieces (· == mark) rest := by
    induction text with
    | nil => rw [List.nil_append, pieces, if_pos (by simp)]
    | cons c text ih =>
        obtain ⟨other, later⟩ := not_or.mp (List.mem_cons.not.mp free)
        rw [List.cons_append, pieces, if_neg (by simpa using Ne.symm other), ih later]
  induction texts with
  | nil => exact absurd rfl present
  | cons text rest ih =>
      obtain ⟨first, others⟩ := List.forall_mem_cons.mp free
      cases rest with
      | nil => simpa using alone first
      | cons next rest =>
          rw [List.intercalate_cons_cons, List.append_assoc, List.singleton_append, before first,
            ih (List.cons_ne_nil _ _) others]

theorem trim_of_blanks {before text after : List Char}
    (blanks : ∀ c ∈ before ++ after, isBlank c = true) (solid : ∀ c ∈ text, isBlank c = false) :
    trim (before ++ (text ++ after)) = text := by
  obtain ⟨leading, trailing⟩ := List.forall_mem_append.mp blanks
  rw [trim, trimLeft, trimLeft, List.dropWhile_append_of_pos leading]
  cases text with
  | nil => simp [List.dropWhile_eq_nil_iff.mpr trailing]
  | cons first rest =>
      have start : ((first :: rest) ++ after).dropWhile isBlank = (first :: rest) ++ after := by
        rw [List.cons_append, List.dropWhile_cons, if_neg (by simp [solid])]
      have trailing : ∀ c ∈ after.reverse, isBlank c = true :=
        fun c member => trailing c (List.mem_reverse.mp member)
      rw [start, List.reverse_append, List.dropWhile_append_of_pos trailing]
      cases reversed : (first :: rest).reverse with
      | nil => simp at reversed
      | cons last others =>
          have member : last ∈ first :: rest := by
            rw [← List.mem_reverse, reversed]
            exact List.mem_cons_self
          rw [List.dropWhile_cons, if_neg (by simp [solid last member]), ← reversed,
            List.reverse_reverse]

theorem exists_blanks_trim (text : List Char) :
    ∃ before after, text = before ++ (trim text ++ after) ∧
      ∀ c ∈ before ++ after, isBlank c = true := by
  have parts := List.takeWhile_append_dropWhile (p := isBlank) (l := (trimLeft text).reverse)
  refine ⟨text.takeWhile isBlank, ((trimLeft text).reverse.takeWhile isBlank).reverse, ?_, ?_⟩
  · rw [trim, trimLeft, ← List.reverse_append, parts, List.reverse_reverse, trimLeft,
      List.takeWhile_append_dropWhile]
  · refine List.forall_mem_append.mpr ⟨fun c member => List.mem_takeWhile_imp member, ?_⟩
    intro c member
    exact List.mem_takeWhile_imp (List.mem_reverse.mp member)

end NestedQuery.Text

namespace NestedQuery.SchemaDump

open NestedQuery.Text

/-- The text is an unsigned decimal number below 2^32. A plus sign may stand before its digits, and
blanks around it do not count. -/
def Denotes (text : String) (value : Nat) : Prop :=
  ∃ before sign digits after, text.toList = before ++ (sign ++ digits ++ after) ∧
    (∀ c ∈ before ++ after, isBlank c = true) ∧ (sign = [] ∨ sign = ['+']) ∧ digits ≠ [] ∧
    (∀ c ∈ digits, c.isDigit = true) ∧ Nat.ofDigitChars 10 digits 0 = value ∧ value < 2 ^ 32

theorem decimalValue_eq (digits : List Char) :
    decimalValue digits = Nat.ofDigitChars 10 digits 0 := by
  simp only [decimalValue, digitValue, Nat.ofDigitChars, Nat.mul_comm]
  rfl

theorem unsigned?_eq_some_iff {text : List Char} {value : Nat} :
    unsigned? text = some value ↔ ∃ sign digits, text = sign ++ digits ∧
      (sign = [] ∨ sign = ['+']) ∧ digits ≠ [] ∧ (∀ c ∈ digits, c.isDigit = true) ∧
      Nat.ofDigitChars 10 digits 0 = value ∧ value < 2 ^ 32 := by
  have ofDigits {digits : List Char} :
      (if !digits.isEmpty && digits.all Char.isDigit && decimalValue digits < 0x100000000 then
        some (decimalValue digits) else none) = some value ↔
      digits ≠ [] ∧ (∀ c ∈ digits, c.isDigit = true) ∧
        Nat.ofDigitChars 10 digits 0 = value ∧ value < 2 ^ 32 := by
    simp only [Option.ite_none_right_eq_some, Bool.and_eq_true, Bool.not_eq_true',
      List.isEmpty_eq_false_iff, List.all_eq_true, decide_eq_true_eq, Option.some.injEq,
      decimalValue_eq]
    constructor
    · rintro ⟨⟨⟨present, digits⟩, small⟩, rfl⟩
      exact ⟨present, digits, rfl, small⟩
    · rintro ⟨present, digits, rfl, small⟩
      exact ⟨⟨⟨present, digits⟩, small⟩, rfl⟩
  unfold unsigned?
  simp only
  split
  · rename_i digits
    rw [ofDigits]
    constructor
    · intro number
      exact ⟨['+'], digits, rfl, .inr rfl, number⟩
    · rintro ⟨sign, others, whole, rfl | rfl, number⟩
      · -- A plus sign is no digit.
        rw [List.nil_append] at whole
        exact absurd (number.2.1 '+' (whole ▸ List.mem_cons_self)) (by decide)
      · cases whole
        exact number
  · rename_i noSign
    rw [ofDigits]
    constructor
    · intro number
      exact ⟨[], text, rfl, .inl rfl, number⟩
    · rintro ⟨sign, digits, rfl, rfl | rfl, number⟩
      · exact number
      · exact absurd rfl (noSign digits)

def number? (text : String) : Option Nat := unsigned? (trim text.toList)

theorem isBlank_plus : isBlank '+' = false := by decide

theorem number?_eq_some_iff {text : String} {value : Nat} :
    number? text = some value ↔ Denotes text value := by
  rw [number?, unsigned?_eq_some_iff]
  constructor
  · rintro ⟨sign, digits, same, number⟩
    obtain ⟨before, after, whole, blanks⟩ := exists_blanks_trim text.toList
    rw [same] at whole
    exact ⟨before, sign, digits, after, whole, blanks, number⟩
  · rintro ⟨before, sign, digits, after, whole, blanks, signed, present, isDigits, number⟩
    refine ⟨sign, digits, ?_, signed, present, isDigits, number⟩
    rw [whole, trim_of_blanks blanks]
    refine List.forall_mem_append.mpr ⟨?_, fun c member => isBlank_of_isDigit (isDigits c member)⟩
    rcases signed with rfl | rfl
    · exact List.forall_mem_nil _
    · exact List.forall_mem_singleton.mpr isBlank_plus

section LowerCase

theorem isMark_of_isBlank {c : Char} (blank : isBlank c = true) : IsMark c := by
  refine ⟨isLetter_of_isBlank blank, ?_⟩
  rintro rfl
  exact absurd blank (by decide)

theorem isMark_of_isDigit {c : Char} (digit : c.isDigit = true) : IsMark c := by
  refine ⟨isLetter_of_isDigit digit, ?_⟩
  rintro rfl
  exact absurd digit (by decide)

theorem marks_of_unsigned? {text : List Char} {value : Nat}
    (number : unsigned? (trim text) = some value) : ∀ c ∈ text, IsMark c := by
  obtain ⟨sign, digits, same, signed, -, isDigits, -⟩ := unsigned?_eq_some_iff.mp number
  obtain ⟨before, after, whole, blanks⟩ := exists_blanks_trim text
  obtain ⟨leading, trailing⟩ := List.forall_mem_append.mp blanks
  have plus : ∀ c ∈ sign, IsMark c := by
    rcases signed with rfl | rfl
    · exact List.forall_mem_nil _
    · exact List.forall_mem_singleton.mpr (by decide)
  rw [whole, same]
  simp only [List.forall_mem_append]
  exact ⟨fun c member => isMark_of_isBlank (leading c member),
    ⟨plus, fun c member => isMark_of_isDigit (isDigits c member)⟩,
    fun c member => isMark_of_isBlank (trailing c member)⟩

theorem unsigned?_trim_lowers {text lowered : List Char} (lowers : Lowers text lowered) :
    unsigned? (trim lowered) = unsigned? (trim text) := by
  by_cases marks : ∀ c ∈ text, IsMark c
  · rw [lowers.eq_of_marks marks]
  · have none : unsigned? (trim text) = none := by
      rw [Option.eq_none_iff_forall_ne_some]
      intro value number
      exact marks (marks_of_unsigned? number)
    rw [none, Option.eq_none_iff_forall_ne_some]
    intro value number
    exact marks (lowers.marks_of_marks (marks_of_unsigned? number))

end LowerCase

def declaredType (base : String) (arguments : List String) (after : String) : String :=
  base ++ "(" ++ ",".intercalate arguments ++ ")" ++ after

/-- The name of the type before its arguments, and the arguments, have no parentheses of their own,
and the arguments no commas. -/
structure PlainArguments (base : String) (arguments : List String) : Prop where
  base : '(' ∉ base.toList ∧ ')' ∉ base.toList
  arguments : ∀ text ∈ arguments, ',' ∉ text.toList ∧ '(' ∉ text.toList ∧ ')' ∉ text.toList

variable {base after : String} {arguments : List String}

theorem not_mem_intercalate {c : Char} (other : c ≠ ',')
    (free : ∀ text ∈ arguments, c ∉ text.toList) :
    c ∉ (",".intercalate arguments).toList := by
  induction arguments with
  | nil => simp
  | cons text rest ih =>
      obtain ⟨first, others⟩ := List.forall_mem_cons.mp free
      cases rest with
      | nil => simpa using first
      | cons next rest =>
          rw [String.intercalate_cons_cons, String.toList_append, String.toList_append]
          simp only [List.mem_append, not_or]
          exact ⟨⟨first, by simpa using other⟩, ih others⟩

theorem filterMap_pieces_lowers {lowered : List Char}
    (free : ∀ text ∈ arguments, ',' ∉ text.toList)
    (lowers : Lowers (",".intercalate arguments).toList lowered) :
    ((pieces (· == ',') lowered).filterMap fun argument => unsigned? (trim argument)) =
      arguments.filterMap number? := by
  have comma : ∀ c, (c == ',') = true → IsMark c := by
    intro c same
    rw [eq_of_beq same]
    decide
  have same {texts others : List (List Char)} (each : List.Forall₂ Lowers texts others) :
      (others.filterMap fun argument => unsigned? (trim argument)) =
        texts.filterMap fun argument => unsigned? (trim argument) := by
    induction each with
    | nil => rfl
    | cons first rest ih => rw [List.filterMap_cons, List.filterMap_cons,
        unsigned?_trim_lowers first, ih]
  rw [same (lowers.pieces comma)]
  cases arguments with
  | nil => rfl
  | cons text rest =>
      have chars : (",".intercalate (text :: rest)).toList =
          [','].intercalate ((text :: rest).map String.toList) := by
        rw [String.toList_intercalate]
        rfl
      rw [chars, pieces_intercalate (by simp) (by simpa using free), List.filterMap_map]
      rfl

theorem splitArguments_declaredType (plain : PlainArguments base arguments) :
    (splitArguments (lowerChars (declaredType base arguments after).toList)).2 =
      arguments.filterMap number? := by
  have opening : IsMark '(' := by decide
  have closing : IsMark ')' := by decide
  have whole : (declaredType base arguments after).toList =
      base.toList ++ '(' :: ((",".intercalate arguments).toList ++ ')' :: after.toList) := by
    simp [declaredType]
  have mark {c : Char} (isMark : IsMark c) (before rest : List Char) :
      lowerAfter before (c :: rest) = c :: lowerAfter (c :: before) rest := by
    obtain ⟨lowered, lowers, first⟩ := exists_lowerAfter_append before [c] rest
    rw [lowers.eq_of_marks (List.forall_mem_singleton.mpr isMark)] at first
    exact first
  obtain ⟨name, nameLowers, cutName⟩ := exists_lowerAfter_append [] base.toList
    ('(' :: ((",".intercalate arguments).toList ++ ')' :: after.toList))
  obtain ⟨inside, insideLowers, cutInside⟩ :=
    exists_lowerAfter_append ('(' :: (base.toList.reverse ++ []))
      (",".intercalate arguments).toList (')' :: after.toList)
  rw [lowerChars, whole, cutName, mark opening, cutInside, mark closing]
  have beforeOpen : '(' ∉ name := mt (nameLowers.mark_mem_iff opening).mp plain.base.1
  have beforeClose : ')' ∉ name := mt (nameLowers.mark_mem_iff closing).mp plain.base.2
  have insideClose : ')' ∉ inside := by
    refine mt (insideLowers.mark_mem_iff closing).mp (not_mem_intercalate (by decide) ?_)
    exact fun text member => (plain.arguments text member).2.2
  rw [splitArguments, cutAt_eq_some_iff.mpr ⟨rfl, beforeOpen⟩]
  simp only [List.contains_eq_mem, decide_eq_true_eq, if_neg beforeClose]
  rw [cutAt_eq_some_iff.mpr ⟨rfl, insideClose⟩]
  exact filterMap_pieces_lowers (fun text member => (plain.arguments text member).1) insideLowers

theorem takesPrecision_of_takesLength {code : TypeCode}
    (length : TypeCode.takesLength code = true) : TypeCode.takesPrecision code = false := by
  simp only [TypeCode.takesLength, List.mem_cons, List.not_mem_nil, or_false,
    decide_eq_true_eq] at length
  rcases length with rfl | rfl | rfl | rfl <;> decide

theorem columnType_numbers {product : Product} {declared : String} {type : ColumnType}
    {numbers : List Nat} (typed : product.columnType declared = type)
    (kept : (splitArguments (lowerChars declared.toList)).2 = numbers) :
    (TypeCode.takesPrecision type.code = true → type.precision = numbers.head? ∧
      type.fractionalDigits = (numbers.tail.head? <|> numbers.head?.map fun _ => 0)) ∧
    (TypeCode.takesLength type.code = true → type.length = numbers.head?) := by
  subst typed
  unfold Product.columnType
  generalize splitArguments (lowerChars declared.toList) = split at kept
  obtain ⟨name, arguments⟩ := split
  obtain rfl : arguments = numbers := kept
  simp only
  generalize product.typeNamed (String.ofList name) = named
  obtain ⟨code, stored⟩ := named
  simp only
  split
  · rename_i length
    simp [takesPrecision_of_takesLength length]
  · rename_i noLength
    split
    · simp [noLength]
    · rename_i noPrecision
      simp [noLength, noPrecision]

def NumberAt (arguments : List String) (position value : Nat) : Prop :=
  ∃ text, arguments[position]? = some text ∧ Denotes text value

/-- The precision or the length is the first argument and the number of fractional digits the
second one, as far as they are numbers. -/
structure ReadByPosition (type : ColumnType) (arguments : List String) : Prop where
  precision : TypeCode.takesPrecision type.code = true →
    ∀ value, type.precision = some value ↔ NumberAt arguments 0 value
  fractionalDigits : TypeCode.takesPrecision type.code = true →
    ∀ value, NumberAt arguments 1 value → type.fractionalDigits = some value
  length : TypeCode.takesLength type.code = true →
    ∀ value, type.length = some value ↔ NumberAt arguments 0 value

def StartsWithNumber (arguments : List String) : Prop :=
  (∃ value, NumberAt arguments 0 value) ∨ ∀ text ∈ arguments, ∀ value, ¬Denotes text value

theorem numberAt_iff {position value : Nat} :
    NumberAt arguments position value ↔ arguments[position]?.bind number? = some value := by
  simp only [NumberAt, ← number?_eq_some_iff, Option.bind_eq_some_iff]

theorem forall_not_denotes_iff :
    (∀ text ∈ arguments, ∀ value, ¬Denotes text value) ↔ arguments.filterMap number? = [] := by
  simp only [← number?_eq_some_iff, List.filterMap_eq_nil_iff, Option.eq_none_iff_forall_ne_some,
    ne_eq]

theorem head?_numbers_iff :
    (∀ value, (arguments.filterMap number?).head? = some value ↔ NumberAt arguments 0 value) ↔
      StartsWithNumber arguments := by
  simp only [StartsWithNumber, numberAt_iff, forall_not_denotes_iff]
  cases arguments with
  | nil => simp
  | cons text rest =>
      cases number : number? text with
      | some first => simp [number]
      | none => simp [number, ← Option.eq_none_iff_forall_ne_some]

theorem second_number {value : Nat} (starts : StartsWithNumber arguments)
    (second : NumberAt arguments 1 value) :
    (arguments.filterMap number?).tail.head? = some value := by
  simp only [StartsWithNumber, numberAt_iff, forall_not_denotes_iff] at starts second
  rcases arguments with _ | ⟨text, _ | ⟨other, rest⟩⟩
  · simp at second
  · simp at second
  · have number : number? other = some value := by simpa using second
    rcases starts with ⟨first, isFirst⟩ | noneAtAll
    · have isFirst : number? text = some first := by simpa using isFirst
      simp [isFirst, number]
    · have noNumber : number? other = none := by
        rw [List.filterMap_eq_nil_iff] at noneAtAll
        exact noneAtAll other (by simp)
      rw [noNumber] at number
      cases number

/-- The arguments of a type are read by their positions if the first of them is a number or none is.
Otherwise the first number among them takes the place of the first argument. -/
theorem arguments_by_position_iff (product : Product) (plain : PlainArguments base arguments)
    {type : ColumnType} (typed : product.columnType (declaredType base arguments after) = type)
    (takes : TypeCode.takesPrecision type.code = true ∨ TypeCode.takesLength type.code = true) :
    (ReadByPosition type arguments ↔ StartsWithNumber arguments) ∧
      (TypeCode.takesPrecision type.code = true →
        type.precision = (arguments.filterMap number?).head? ∧
        type.fractionalDigits = ((arguments.filterMap number?).tail.head? <|>
          (arguments.filterMap number?).head?.map fun _ => 0)) ∧
      (TypeCode.takesLength type.code = true →
        type.length = (arguments.filterMap number?).head?) := by
  obtain ⟨precise, long⟩ := columnType_numbers typed (splitArguments_declaredType plain)
  refine ⟨⟨fun byPosition => ?_, fun starts => ⟨?_, ?_, ?_⟩⟩, precise, long⟩
  · rw [← head?_numbers_iff]
    rcases takes with precision | length
    · rw [← (precise precision).1]
      exact byPosition.precision precision
    · rw [← long length]
      exact byPosition.length length
  · intro precision
    rw [(precise precision).1]
    exact head?_numbers_iff.mpr starts
  · intro precision value second
    rw [(precise precision).2, second_number starts second]
    rfl
  · intro length
    rw [long length]
    exact head?_numbers_iff.mpr starts

theorem arguments_by_position_iff_number :
    PlainArguments "NUMBER" [" 10", "+2", "x"] ∧
      Product.oracle.columnType "NUMBER( 10,+2,x)" =
        { code := .numeric, databaseType := "NUMBER", precision := some 10
          fractionalDigits := some 2 } ∧
      ReadByPosition (Product.oracle.columnType "NUMBER( 10,+2,x)") [" 10", "+2", "x"] := by
  have plain : PlainArguments "NUMBER" [" 10", "+2", "x"] := ⟨by decide, by decide⟩
  have typed : Product.oracle.columnType (declaredType "NUMBER" [" 10", "+2", "x"] "") =
      { code := .numeric, databaseType := "NUMBER", precision := some 10
        fractionalDigits := some 2 } := by
    decide +kernel
  have first : NumberAt [" 10", "+2", "x"] 0 10 :=
    ⟨" 10", rfl, number?_eq_some_iff.mp (by decide +kernel)⟩
  have whole : declaredType "NUMBER" [" 10", "+2", "x"] "" = "NUMBER( 10,+2,x)" := by
    decide +kernel
  have byPosition := (arguments_by_position_iff .oracle plain typed (.inl (by decide))).1.mpr
    (.inl ⟨10, first⟩)
  rw [whole] at typed
  refine ⟨plain, typed, ?_⟩
  rw [typed]
  exact byPosition

/-- A star is no number, and the scale after it is taken for the precision. -/
theorem scale_read_as_precision :
    Product.oracle.columnType "NUMBER(*,2)" =
        { code := .numeric, databaseType := "NUMBER", precision := some 2
          fractionalDigits := some 0 } ∧
      (∀ value, ¬NumberAt ["*", "2"] 0 value) ∧ NumberAt ["*", "2"] 1 2 ∧
      ¬ReadByPosition (Product.oracle.columnType "NUMBER(*,2)") ["*", "2"] := by
  have typed : Product.oracle.columnType "NUMBER(*,2)" =
      { code := .numeric, databaseType := "NUMBER", precision := some 2
        fractionalDigits := some 0 } := by
    decide +kernel
  have noFirst : ∀ value, ¬NumberAt ["*", "2"] 0 value := by
    intro value
    have noNumber : number? "*" = none := by decide +kernel
    simp [numberAt_iff, noNumber]
  refine ⟨typed, noFirst, numberAt_iff.mpr (by decide +kernel), ?_⟩
  intro byPosition
  rw [typed] at byPosition
  exact noFirst 2 ((byPosition.precision (by decide) 2).mp rfl)

end NestedQuery.SchemaDump
