import NestedQuery.Yaml.Scalar
import NestedQuery.Yaml.Token

/-! Anchors, tags and directives. -/

namespace NestedQuery.Yaml

def readAnchorName (spots : Spots) : Option (String × Spots) :=
  let (name, left) := takeChars isNameChar spots
  let ended := atGap left || nextIs (fun c => "?:,]\x7d%@`".toList.contains c) left
  if name.isEmpty || !ended then none else some (String.ofList name, left)

def isUriChar (verbatim : Bool) (c : Char) : Bool :=
  isNameChar c || ";/?:@&=+$.!~*'()%".toList.contains c ||
    (verbatim && ",[]".toList.contains c)

def encodedLength? (first : Nat) : Option Nat :=
  if first < 0x80 then some 1
  else if 0xC0 ≤ first && first < 0xE0 then some 2
  else if 0xE0 ≤ first && first < 0xF0 then some 3
  else if 0xF0 ≤ first && first < 0xF8 then some 4
  else none

inductive UriState where
  | between
  | afterPercent (left value : Nat)
  | afterDigit (left value high : Nat)
  | needsPercent (left value : Nat)
  deriving DecidableEq, Repr

/-- The payload of one byte of an encoded character, with the number of bytes still to come. A
character has not begun where that number is none. -/
def addByte (left value byte : Nat) : Option (Nat × Nat) :=
  if left = 0 then
    match encodedLength? byte with
    | some 1 => some (0, byte)
    | some 2 => some (1, byte % 0x20)
    | some 3 => some (2, byte % 0x10)
    | some _ => some (3, byte % 0x8)
    | none => none
  else if 0x80 ≤ byte && byte < 0xC0 then some (left - 1, value * 0x40 + byte % 0x40)
  else none

def readUri (verbatim : Bool) (state : UriState) : Spots → Option (List Char × Spots)
  | [] => if state = .between then some ([], []) else none
  | spot :: rest =>
      let c := spot.char
      match state with
      | .between =>
          if c == '%' then readUri verbatim (.afterPercent 0 0) rest
          else if isUriChar verbatim c then do
            let (chars, left) ← readUri verbatim .between rest
            return (c :: chars, left)
          else some ([], spot :: rest)
      | .needsPercent pending value =>
          if c == '%' then readUri verbatim (.afterPercent pending value) rest else none
      | .afterPercent pending value => do
          let high ← hexValue? c
          readUri verbatim (.afterDigit pending value high) rest
      | .afterDigit pending value high => do
          let low ← hexValue? c
          let (missing, code) ← addByte pending value (high * 16 + low)
          if missing = 0 then
            let decoded ← scalarValue? code
            let (chars, left) ← readUri verbatim .between rest
            return (decoded :: chars, left)
          else readUri verbatim (.needsPercent missing code) rest

/-- A handle: an exclamation mark, then a name with another one, or a name alone. -/
def readHandle : Spots → Option (List Char × Spots)
  | [] => none
  | spot :: rest =>
      if spot.char != '!' then none
      else
        let (name, left) := takeChars isNameChar rest
        match left with
        | [] => some ('!' :: name, [])
        | mark :: behind =>
            if mark.char == '!' then some ('!' :: name ++ ['!'], behind)
            else some ('!' :: name, mark :: behind)

def isNamedHandle (handle : List Char) : Bool :=
  2 ≤ handle.length && handle.getLast? == some '!'

def readVerbatimTag (spots : Spots) : Option (Token × Spots) := do
  let (uri, left) ← readUri true .between spots
  match left with
  | [] => none
  | mark :: behind =>
      if uri.isEmpty || mark.char != '>' then none
      else some (.tag "" (String.ofList uri), behind)

def readShortTag (spots : Spots) : Option (Token × Spots) := do
  let (handle, behind) ← readHandle spots
  let (uri, left) ← readUri false .between behind
  if isNamedHandle handle then
    if uri.isEmpty then none
    else some (.tag (String.ofList handle) (String.ofList uri), left)
  else
    match handle.drop 1 ++ uri with
    | [] => some (.tag "" "!", left)
    | suffix => some (.tag "!" (String.ofList suffix), left)

def readTag (flow : Bool) (spots : Spots) : Option (Token × Spots) := do
  let (token, left) ← match spots with
    | _ :: second :: rest =>
        if second.char == '<' then readVerbatimTag rest else readShortTag spots
    | _ => readShortTag spots
  if atGap left || (flow && nextIs (· == ',') left) then some (token, left) else none

def readVersionNumber (spots : Spots) : Option (Nat × Spots) :=
  let (digits, left) := takeChars Char.isDigit spots
  if digits.isEmpty || 9 < digits.length then none
  else some (digits.foldl (fun value digit => value * 10 + (digit.toNat - '0'.toNat)) 0, left)

def readVersion (spots : Spots) : Option (Token × Spots) := do
  let (major, behind) ← readVersionNumber (skipChars isSpace spots)
  match behind with
  | [] => none
  | point :: rest =>
      if point.char != '.' then none
      else
        let (minor, left) ← readVersionNumber rest
        some (.version major minor, left)

def readTagHandle (spots : Spots) : Option (Token × Spots) := do
  let (handle, behind) ← readHandle (skipChars isSpace spots)
  if !(isNamedHandle handle || handle == ['!']) || !nextIs isSpace behind then none
  else
    let (uri, left) ← readUri true .between (skipChars isSpace behind)
    if uri.isEmpty || !atGap left then none
    else some (.tagHandle (String.ofList handle) (String.ofList uri), left)

def readDirective (spots : Spots) : Option (Token × Spots) := do
  let (name, behind) := takeChars isNameChar spots
  if !atGap behind then none
  else
    let (token, left) ← match String.ofList name with
      | "YAML" => readVersion behind
      | "TAG" => readTagHandle behind
      | _ => none
    let next ← skipLineEnd left
    some (token, next)

end NestedQuery.Yaml
