import NestedQuery.Text.CodePoint

/-! Finding, splitting, trimming and replacing in texts, by recursion on their characters. -/

namespace NestedQuery.Text

def occursIn (pattern : List Char) : List Char → Bool
  | [] => pattern.isEmpty
  | c :: rest => pattern.isPrefixOf (c :: rest) || occursIn pattern rest

def contains (text pattern : String) : Bool := occursIn pattern.toList text.toList

def pieces (separates : Char → Bool) : List Char → List (List Char)
  | [] => [[]]
  | c :: rest =>
      if separates c then [] :: pieces separates rest
      else match pieces separates rest with
        | [] => [[c]]
        | piece :: more => (c :: piece) :: more

def cutAt (mark : Char) : List Char → Option (List Char × List Char)
  | [] => none
  | c :: rest =>
      if c = mark then some ([], rest)
      else (cutAt mark rest).map fun (before, after) => (c :: before, after)

def trimLeft (text : List Char) : List Char := text.dropWhile isBlank

def trim (text : List Char) : List Char := (trimLeft (trimLeft text).reverse).reverse

/-- Replace the occurrences of a pattern from left to right; `skip` counts the characters that still
belong to the occurrence last replaced. -/
def replaceFrom (pattern replacement : List Char) : (skip : Nat) → List Char → List Char
  | _, [] => []
  | skip + 1, _ :: rest => replaceFrom pattern replacement skip rest
  | 0, c :: rest =>
      if pattern.isPrefixOf (c :: rest) then
        replacement ++ replaceFrom pattern replacement (pattern.length - 1) rest
      else c :: replaceFrom pattern replacement 0 rest

/-- The empty pattern occurs before every character and at the end. -/
def replaceChars (pattern replacement text : List Char) : List Char :=
  if pattern.isEmpty then replacement ++ text.flatMap (· :: replacement)
  else replaceFrom pattern replacement 0 text

def replace (text pattern replacement : String) : String :=
  String.ofList (replaceChars pattern.toList replacement.toList text.toList)

end NestedQuery.Text
