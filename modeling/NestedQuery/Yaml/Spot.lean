import NestedQuery.Text.CodePoint

/-! The characters of a YAML text with their places. Line breaks of one and two characters become
line feeds, except the Unicode line and paragraph separators, which are breaks of their own. -/

namespace NestedQuery.Yaml

structure Spot where
  char : Char
  line : Nat
  column : Nat
  index : Nat
  deriving DecidableEq, Repr

abbrev Spots := List Spot

def allowedSpans : List (Nat × Nat) :=
  [(0x9, 0xA), (0xD, 0xD), (0x20, 0x7E), (0x85, 0x85), (0xA0, 0xD7FF), (0xE000, 0xFFFD),
   (0x10000, 0x10FFFF)]

def isAllowed (c : Char) : Bool := allowedSpans.any fun (first, last) =>
  first ≤ c.toNat && c.toNat ≤ last

def lineSeparator : Char := Char.ofNat 0x2028

def paragraphSeparator : Char := Char.ofNat 0x2029

def byteOrderMark : Char := Char.ofNat 0xFEFF

def joinBreaks : List Char → List Char
  | [] => []
  | '\r' :: '\n' :: rest => '\n' :: joinBreaks rest
  | c :: rest =>
      if c = '\r' || c.toNat = 0x85 then '\n' :: joinBreaks rest else c :: joinBreaks rest

def isBreak (c : Char) : Bool := c == '\n' || c == lineSeparator || c == paragraphSeparator

def isSpace (c : Char) : Bool := c == ' ' || c == '\t'

def place (line column index : Nat) : List Char → Spots
  | [] => []
  | c :: rest =>
      let spot : Spot := { char := c, line, column, index }
      if isBreak c then spot :: place (line + 1) 0 (index + 1) rest
      else spot :: place line (column + 1) (index + 1) rest

def spots? (text : String) : Option Spots :=
  if text.toList.all isAllowed then some (place 0 0 0 (joinBreaks text.toList)) else none

def atGap : Spots → Bool
  | [] => true
  | spot :: _ => isSpace spot.char || isBreak spot.char

def nextIs (test : Char → Bool) : Spots → Bool
  | [] => false
  | spot :: _ => test spot.char

/-- Three dots or dashes at the start of a line, followed by a gap. -/
def isDocumentMark (c : Char) : Spots → Bool
  | first :: second :: third :: rest =>
      first.column == 0 && first.char == c && second.char == c && third.char == c && atGap rest
  | _ => false

def atDocumentMark (spots : Spots) : Bool := isDocumentMark '-' spots || isDocumentMark '.' spots

def isNameChar (c : Char) : Bool := c.isAlphanum || c == '_' || c == '-'

def takeChars (test : Char → Bool) : Spots → List Char × Spots
  | [] => ([], [])
  | spot :: rest =>
      if test spot.char then
        let (taken, left) := takeChars test rest
        (spot.char :: taken, left)
      else ([], spot :: rest)

def skipChars (test : Char → Bool) (spots : Spots) : Spots := (takeChars test spots).2

def skipComment : Spots → Spots
  | [] => []
  | spot :: rest =>
      if spot.char == '#' then skipChars (fun c => !isBreak c) rest else spot :: rest

def skipLineEnd (spots : Spots) : Option Spots :=
  match skipComment (skipChars isSpace spots) with
  | [] => some []
  | spot :: rest => if isBreak spot.char then some rest else none

end NestedQuery.Yaml
