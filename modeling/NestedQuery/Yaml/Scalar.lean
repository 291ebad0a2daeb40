import NestedQuery.Yaml.Spot
import NestedQuery.Text.Quoted

/-! The texts of YAML scalars in their five styles. Lines are folded: a single line break becomes a
space, and of several the first is dropped. Texts are gathered with their last character first. -/

namespace NestedQuery.Yaml

/-- What stands between two words of a scalar: nothing, blanks of one line, or line breaks. The
first break is missing where it was escaped. -/
inductive Gap where
  | none
  | blanks (chars : List Char)
  | breaks (first : Option Char) (more : List Char)
  deriving DecidableEq, Repr

namespace Gap

def hasBreak : Gap → Bool
  | breaks _ _ => true
  | none | blanks _ => false

def addBlank (c : Char) : Gap → Gap
  | none => blanks [c]
  | blanks chars => blanks (c :: chars)
  | breaks first more => breaks first more

def addBreak (c : Char) : Gap → Gap
  | none | blanks _ => breaks (some c) []
  | breaks first more => breaks first (c :: more)

def folded : Gap → List Char
  | none => []
  | blanks chars => chars
  | breaks (some '\n') [] => [' ']
  | breaks (some '\n') more => more
  | breaks (some c) more => more ++ [c]
  | breaks Option.none more => more

end Gap

def isFlowMark (c : Char) : Bool :=
  c == ',' || c == '[' || c == ']' || c == '\x7b' || c == '\x7d'

/-- A plain scalar from the first character that is not yet in the text. Its lines are indented by
the margin at least. The result says whether a line break was read after the last word. -/
def readPlain (flow : Bool) (margin : Int) (text : List Char) (gap : Gap) :
    Spots → Option (List Char × Bool × Spots)
  | [] => some (text, gap.hasBreak, [])
  | spot :: rest =>
      let c := spot.char
      if isBreak c then readPlain flow margin text (gap.addBreak c) rest
      else if isSpace c then
        if gap.hasBreak && spot.column < margin && c == '\t' then none
        else readPlain flow margin text (gap.addBlank c) rest
      else
        let done : Option (List Char × Bool × Spots) := some (text, gap.hasBreak, spot :: rest)
        if gap != .none && (c == '#' || (!flow && spot.column < margin) ||
            atDocumentMark (spot :: rest)) then done
        else if flow && c == ':' && nextIs (fun d => isFlowMark d || d == '?') rest then none
        else if (c == ':' && atGap rest) || (flow && isFlowMark c) then done
        else readPlain flow margin (c :: (gap.folded ++ text)) .none rest

def simpleEscapes : List (Char × Nat) :=
  [('0', 0x0), ('a', 0x7), ('b', 0x8), ('t', 0x9), ('\t', 0x9), ('n', 0xA), ('v', 0xB), ('f', 0xC),
   ('r', 0xD), ('e', 0x1B), (' ', 0x20), ('"', 0x22), ('/', 0x2F), ('\\', 0x5C), ('N', 0x85),
   ('_', 0xA0), ('L', 0x2028), ('P', 0x2029)]

def hexEscapes : List (Char × Nat) := [('x', 2), ('u', 4), ('U', 8)]

def hexValue? (c : Char) : Option Nat :=
  if '0' ≤ c ∧ c ≤ '9' then some (c.toNat - '0'.toNat)
  else if 'a' ≤ c ∧ c ≤ 'f' then some (c.toNat - 'a'.toNat + 10)
  else if 'A' ≤ c ∧ c ≤ 'F' then some (c.toNat - 'A'.toNat + 10)
  else none

def scalarValue? (code : Nat) : Option Char :=
  if code.isValidChar then some (Char.ofNat code) else none

inductive QuoteState where
  | between
  | afterQuote
  | afterBackslash
  | inHex (left value : Nat)
  deriving DecidableEq, Repr

def readQuoted (double : Bool) (text : List Char) (gap : Gap) (state : QuoteState) :
    Spots → Option (List Char × Spots)
  | [] => if state = .afterQuote then some (text, []) else none
  | spot :: rest =>
      let c := spot.char
      match state with
      | .afterQuote =>
          if c == '\'' then readQuoted double (c :: text) .none .between rest
          else some (text, spot :: rest)
      | .afterBackslash =>
          if isBreak c then readQuoted double text (.breaks Option.none []) .between rest
          else match simpleEscapes.lookup c, hexEscapes.lookup c with
            | some code, _ => readQuoted double (Char.ofNat code :: text) .none .between rest
            | none, some digits => readQuoted double text .none (.inHex digits 0) rest
            | none, none => none
      | .inHex left value =>
          match hexValue? c with
          | none => none
          | some digit =>
              if left ≤ 1 then
                match scalarValue? (value * 16 + digit) with
                | some decoded => readQuoted double (decoded :: text) .none .between rest
                | none => none
              else readQuoted double text .none (.inHex (left - 1) (value * 16 + digit)) rest
      | .between =>
          if isBreak c then readQuoted double text (gap.addBreak c) .between rest
          else if isSpace c then readQuoted double text (gap.addBlank c) .between rest
          else if atDocumentMark (spot :: rest) then none
          else
            let joined := gap.folded ++ text
            if double && c == '"' then some (joined, rest)
            else if double && c == '\\' then readQuoted double joined .none .afterBackslash rest
            else if !double && c == '\'' then readQuoted double joined .none .afterQuote rest
            else readQuoted double (c :: joined) .none .between rest

inductive Chomping where
  | clip
  | strip
  | keep
  deriving DecidableEq, Repr

structure BlockHeader where
  chomping : Chomping
  /-- The stated indentation beyond that of the parent. -/
  increment : Option Nat
  deriving DecidableEq, Repr

def readChomping : Spots → Option Chomping × Spots
  | [] => (none, [])
  | spot :: rest =>
      if spot.char == '+' then (some .keep, rest)
      else if spot.char == '-' then (some .strip, rest)
      else (none, spot :: rest)

def readIncrement : Spots → Option (Option Nat × Spots)
  | [] => some (none, [])
  | spot :: rest =>
      if spot.char == '0' then none
      else if spot.char.isDigit then some (some (spot.char.toNat - '0'.toNat), rest)
      else some (none, spot :: rest)

def readHeader (spots : Spots) : Option (BlockHeader × Spots) := do
  let (before, afterFirst) := readChomping spots
  let (increment, afterDigit) ← readIncrement afterFirst
  let (behind, afterAll) :=
    if before.isSome then (none, afterDigit)
    else if increment.isSome then readChomping afterDigit
    else (none, afterDigit)
  let left ← skipLineEnd afterAll
  return ({ chomping := (before <|> behind).getD .clip, increment }, left)

/-- The indentation of a block scalar that states none: that of its first line with content, or of a
longer empty line before it. -/
def detectIndent (longest : Nat) : Spots → Option Nat
  | [] => some longest
  | spot :: rest =>
      if spot.char == ' ' then detectIndent longest rest
      else if spot.char == '\t' then none
      else if isBreak spot.char then detectIndent (max longest spot.column) rest
      else some (max longest spot.column)

structure BlockText where
  text : List Char := []
  /-- The break that ended the last line with content. -/
  lineBreak : Option Char := none
  /-- The breaks of the empty lines after it. -/
  emptyLines : List Char := []
  /-- The last line with content started with a blank. -/
  startedBlank : Bool := false
  deriving DecidableEq, Repr

namespace BlockText

def upToLine (block : BlockText) (literal : Bool) (c : Char) : List Char :=
  let folds := !literal && block.lineBreak == some '\n' && !block.startedBlank && !isSpace c
  let before :=
    if folds then (if block.emptyLines.isEmpty then [' '] else [])
    else block.lineBreak.toList
  block.emptyLines ++ before ++ block.text

def finish (block : BlockText) : Chomping → List Char
  | .strip => block.text
  | .clip => block.lineBreak.toList ++ block.text
  | .keep => block.emptyLines ++ block.lineBreak.toList ++ block.text

end BlockText

def readLines (literal : Bool) (indent : Nat) (inLine : Bool) (block : BlockText) :
    Spots → Option (BlockText × Spots)
  | [] => some (block, [])
  | spot :: rest =>
      let c := spot.char
      if inLine then
        if isBreak c then
          readLines literal indent false { block with lineBreak := some c, emptyLines := [] } rest
        else readLines literal indent true { block with text := c :: block.text } rest
      else if spot.column < indent && c == ' ' then readLines literal indent false block rest
      else if spot.column < indent && c == '\t' then none
      else if isBreak c then
        readLines literal indent false { block with emptyLines := c :: block.emptyLines } rest
      else if spot.column == indent then
        readLines literal indent true
          { text := c :: block.upToLine literal c, startedBlank := isSpace c } rest
      else some (block, spot :: rest)

def readBlock (literal : Bool) (parentIndent : Int) (spots : Spots) :
    Option (List Char × Spots) := do
  let (header, body) ← readHeader spots
  let indent ← match header.increment with
    | some increment => pure ((max parentIndent 0).toNat + increment)
    | none => do
        let longest ← detectIndent 0 body
        pure (max longest (max (parentIndent + 1).toNat 1))
  let (block, left) ← readLines literal indent false {} body
  return (block.finish header.chomping, left)

end NestedQuery.Yaml
