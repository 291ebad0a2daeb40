import NestedQuery.Document.Json

/-! The reader of JSON texts. It accepts the JSON grammar and nothing beside it. -/

namespace NestedQuery.Json

def isJsonBlank (c : Char) : Bool := c == ' ' || c == '\n' || c == '\t' || c == '\r'

def skipBlanks (source : List Char) : List Char := source.dropWhile isJsonBlank

def hexValue? (c : Char) : Option Nat :=
  if c.isDigit then some (c.toNat - 0x30)
  else if 'a' ≤ c && c ≤ 'f' then some (c.toNat - 0x61 + 10)
  else if 'A' ≤ c && c ≤ 'F' then some (c.toNat - 0x41 + 10)
  else none

def hexNumber? (digits : List Char) : Option Nat :=
  digits.foldlM (fun value digit => (hexValue? digit).map (value * 16 + ·)) 0

def escape? : Char → Option Char
  | '"' => some '"'
  | '\\' => some '\\'
  | '/' => some '/'
  | 'b' => some (Char.ofNat 0x8)
  | 'f' => some (Char.ofNat 0xC)
  | 'n' => some '\n'
  | 'r' => some '\r'
  | 't' => some '\t'
  | _ => none

def isHighSurrogate (code : Nat) : Bool := 0xD800 ≤ code && code ≤ 0xDBFF

def isLowSurrogate (code : Nat) : Bool := 0xDC00 ≤ code && code ≤ 0xDFFF

/-- A text while it is read: its characters, the last first, whether it holds half of a surrogate
pair, and the first half of a pair when that was read last. -/
structure TextDraft where
  characters : List Char := []
  broken : Bool := false
  pending : Option Nat := none

namespace TextDraft

def push (draft : TextDraft) (c : Char) : TextDraft where
  characters := c :: draft.characters
  broken := draft.broken || draft.pending.isSome

def pushUnit (draft : TextDraft) (unit : Nat) : TextDraft :=
  if isHighSurrogate unit then
    { draft with broken := draft.broken || draft.pending.isSome, pending := some unit }
  else if isLowSurrogate unit then
    match draft.pending with
    | some first =>
        { draft with
          characters := Char.ofNat (0x10000 + (first - 0xD800) * 0x400 + (unit - 0xDC00))
            :: draft.characters
          pending := none }
    | none => { draft with broken := true }
  else draft.push (Char.ofNat unit)

def finish (draft : TextDraft) : Option String :=
  if draft.broken || draft.pending.isSome then none
  else some (String.ofList draft.characters.reverse)

end TextDraft

def readText (draft : TextDraft) : List Char → Option (Option String × List Char)
  | [] => none
  | '"' :: rest => some (draft.finish, rest)
  | '\\' :: 'u' :: a :: b :: c :: d :: rest =>
      match hexNumber? [a, b, c, d] with
      | none => none
      | some unit => readText (draft.pushUnit unit) rest
  | '\\' :: c :: rest =>
      match escape? c with
      | none => none
      | some meant => readText (draft.push meant) rest
  | c :: rest => if c.toNat < 0x20 then none else readText (draft.push c) rest

def digitsValue (digits : List Char) : Nat :=
  digits.foldl (fun value digit => value * 10 + (digit.toNat - 0x30)) 0

def readDigits (source : List Char) : Option (List Char × List Char) :=
  match source.takeWhile Char.isDigit with
  | [] => none
  | digits => some (digits, source.dropWhile Char.isDigit)

def readWhole : List Char → Option (List Char × List Char)
  | '0' :: rest => some (['0'], rest)
  | source => readDigits source

def readFraction : List Char → Option (List Char × List Char)
  | '.' :: rest => (readDigits rest).map fun (digits, left) => ('.' :: digits, left)
  | source => some ([], source)

def readExponent : List Char → Option (List Char × List Char)
  | c :: rest =>
      if c == 'e' || c == 'E' then
        match rest with
        | '+' :: digits => (readDigits digits).map fun (read, left) => (c :: '+' :: read, left)
        | '-' :: digits => (readDigits digits).map fun (read, left) => (c :: '-' :: read, left)
        | digits => (readDigits digits).map fun (read, left) => (c :: read, left)
      else some ([], c :: rest)
  | [] => some ([], [])

def readUnsigned (negative : Bool) (source : List Char) : Option (Json × List Char) := do
  let (whole, afterWhole) ← readWhole source
  let (fraction, afterFraction) ← readFraction afterWhole
  let (exponent, left) ← readExponent afterFraction
  if fraction.isEmpty && exponent.isEmpty && !(negative && whole == ['0']) then
    let value := Int.ofNat (digitsValue whole)
    return (int (if negative then -value else value), left)
  else
    let sign := if negative then ['-'] else []
    return (real (String.ofList (sign ++ whole ++ fraction ++ exponent)), left)

def readNumber : List Char → Option (Json × List Char)
  | '-' :: rest => readUnsigned true rest
  | source => readUnsigned false source

def ofReadText : Option String → Json
  | some value => text value
  | none => brokenText

mutual
/-- A value and what follows it. The fuel bounds the number of nested calls. -/
def readValue : (fuel : Nat) → List Char → Option (Json × List Char)
  | 0, _ => none
  | fuel + 1, source =>
      match skipBlanks source with
      | '[' :: rest =>
          match skipBlanks rest with
          | ']' :: left => some (list [], left)
          | inside => (readItems fuel inside).map fun (items, left) => (list items, left)
      | '\x7b' :: rest =>
          match skipBlanks rest with
          | '\x7d' :: left => some (record [], left)
          | inside => (readMembers fuel inside).map fun (members, left) => (record members, left)
      | '"' :: rest => (readText {} rest).map fun (value, left) => (ofReadText value, left)
      | 'n' :: 'u' :: 'l' :: 'l' :: left => some (null, left)
      | 't' :: 'r' :: 'u' :: 'e' :: left => some (bool true, left)
      | 'f' :: 'a' :: 'l' :: 's' :: 'e' :: left => some (bool false, left)
      | number => readNumber number

def readItems : (fuel : Nat) → List Char → Option (List Json × List Char)
  | 0, _ => none
  | fuel + 1, source =>
      match readValue fuel source with
      | none => none
      | some (item, rest) =>
          match skipBlanks rest with
          | ',' :: more => (readItems fuel more).map fun (items, left) => (item :: items, left)
          | ']' :: left => some ([item], left)
          | _ => none

def readMembers : (fuel : Nat) → List Char → Option (List (Option String × Json) × List Char)
  | 0, _ => none
  | fuel + 1, source =>
      match skipBlanks source with
      | '"' :: keyStart =>
          match readText {} keyStart with
          | none => none
          | some (key, afterKey) =>
              match skipBlanks afterKey with
              | ':' :: valueStart =>
                  match readValue fuel valueStart with
                  | none => none
                  | some (value, rest) =>
                      match skipBlanks rest with
                      | ',' :: more =>
                          (readMembers fuel more).map fun (members, left) =>
                            ((key, value) :: members, left)
                      | '\x7d' :: left => some ([(key, value)], left)
                      | _ => none
              | _ => none
      | _ => none
end

def parseChars (source : List Char) : Option Json :=
  match readValue (2 * source.length + 2) source with
  | some (value, rest) => if (skipBlanks rest).isEmpty then some value else none
  | none => none

def parse (source : String) : Option Json := parseChars source.toList

end NestedQuery.Json
