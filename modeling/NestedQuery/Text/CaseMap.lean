import NestedQuery.Text.CaseTable

/-! Upper and lower case of characters and of texts. One character may become several, and the
lower case of a capital sigma depends on whether it ends a word. -/

namespace NestedQuery.Text

def shift (runs : List CaseRun) (code : Nat) : Nat :=
  match runs.find? (·.covers code) with
  | some run => (code + run.offset).toNat
  | none => code

def mapCase (expansions : List (Nat × List Nat)) (runs : List CaseRun) (c : Char) : List Char :=
  match expansions.lookup c.toNat with
  | some codes => codes.map Char.ofNat
  | none => [Char.ofNat (shift runs c.toNat)]

def lowerChar (c : Char) : List Char := mapCase lowerExpansions lowerRuns c

def upperChar (c : Char) : List Char := mapCase upperExpansions upperRuns c

def capitalSigma : Char := Char.ofNat 0x3A3

def smallSigma : Char := Char.ofNat 0x3C3

def finalSigma : Char := Char.ofNat 0x3C2

def casedNext : List Char → Bool
  | [] => false
  | c :: rest =>
      if inSpans caseIgnorableSpans c.toNat then casedNext rest
      else inSpans casedSpans c.toNat

/-- Lower case after the characters `before`, the last of them first. A sigma with a cased character
before it and none after it ends a word. -/
def lowerAfter : (before text : List Char) → List Char
  | _, [] => []
  | before, c :: rest =>
      let mapped :=
        if c = capitalSigma then
          [if casedNext before && !casedNext rest then finalSigma else smallSigma]
        else lowerChar c
      mapped ++ lowerAfter (c :: before) rest

def lowerChars (text : List Char) : List Char := lowerAfter [] text

def upperChars (text : List Char) : List Char := text.flatMap upperChar

def lower (text : String) : String := String.ofList (lowerChars text.toList)

def upper (text : String) : String := String.ofList (upperChars text.toList)

end NestedQuery.Text
