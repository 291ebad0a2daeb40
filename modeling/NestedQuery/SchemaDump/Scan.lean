import NestedQuery.SchemaDump.Token
import NestedQuery.Text.Search

/-! The tokens of a text. Each step reads one character and whatever belongs to it, so that the text
left to read becomes shorter. -/

namespace NestedQuery.SchemaDump

open NestedQuery.Text

def skipPast (mark : List Char) : List Char → List Char
  | [] => []
  | c :: rest =>
      if mark.isPrefixOf (c :: rest) then (c :: rest).drop mark.length else skipPast mark rest

/-- Read up to the closing quote. A doubled quote stands for itself, and a missing one is read as if
it stood at the end. -/
def readQuoted (quote : Char) : List Char → List Char × List Char
  | [] => ([], [])
  | c :: rest =>
      if c = quote then
        match rest with
        | [] => ([], [])
        | next :: after =>
            if next = quote then
              let (text, left) := readQuoted quote after
              (quote :: text, left)
            else ([], next :: after)
      else
        let (text, left) := readQuoted quote rest
        (c :: text, left)

def startsWithDigit : List Char → Bool
  | [] => false
  | c :: _ => c.isDigit

def readNumber (text : List Char) : List Char × List Char :=
  let whole := text.takeWhile Char.isDigit
  match text.dropWhile Char.isDigit with
  | '.' :: after =>
      if startsWithDigit after then
        (whole ++ '.' :: after.takeWhile Char.isDigit, after.dropWhile Char.isDigit)
      else (whole, '.' :: after)
  | left => (whole, left)

def startsWord (c : Char) : Bool := isLetter c || c == '_'

def continuesWord (c : Char) : Bool := isLetterOrNumeral c || c == '_' || c == '$' || c == '#'

def wordToken (word : List Char) : Token :=
  match Keyword.ofWord? word with
  | some keyword => .keyword keyword
  | none => .word (String.ofList word)

def punctuation? : Char → Option Token
  | '(' => some .openParen
  | ')' => some .closeParen
  | ',' => some .comma
  | ';' => some .semicolon
  | '.' => some .dot
  | _ => none

def backquote : Char := Char.ofNat 0x60

def readToken (c : Char) (rest : List Char) : Option Token × List Char :=
  if isBlank c then (none, rest)
  else if c = '-' && rest.head? == some '-' then (none, skipPast ['\n'] rest)
  else if c = '/' && rest.head? == some '*' then (none, skipPast ['*', '/'] rest.tail)
  else if c = '-' && startsWithDigit rest then
    let (digits, left) := readNumber rest
    (some (.number (String.ofList ('-' :: digits))), left)
  else if c.isDigit then
    let (digits, left) := readNumber (c :: rest)
    (some (.number (String.ofList digits)), left)
  else if c = '"' || c = backquote then
    let (name, left) := readQuoted c rest
    (some (.quotedName (String.ofList name)), left)
  else if c = '\'' then
    let (text, left) := readQuoted c rest
    (some (.text (String.ofList text)), left)
  else if startsWord c then
    (some (wordToken (c :: rest.takeWhile continuesWord)), rest.dropWhile continuesWord)
  else (punctuation? c, rest)

theorem length_dropWhile_le (p : Char → Bool) (text : List Char) :
    (text.dropWhile p).length ≤ text.length :=
  (List.dropWhile_suffix p).length_le

theorem length_skipPast_le (mark text : List Char) : (skipPast mark text).length ≤ text.length := by
  induction text with
  | nil => simp [skipPast]
  | cons c rest ih =>
      simp only [skipPast]
      split
      · simp only [List.length_drop]
        omega
      · simp only [List.length_cons]
        omega

theorem length_readQuoted_le (quote : Char) (text : List Char) :
    (readQuoted quote text).2.length ≤ text.length := by
  fun_induction readQuoted quote text <;> simp_all <;> omega

theorem length_readNumber_le (text : List Char) : (readNumber text).2.length ≤ text.length := by
  have whole := length_dropWhile_le Char.isDigit text
  unfold readNumber
  split
  · rename_i after found
    simp only [found, List.length_cons] at whole
    have fraction := length_dropWhile_le Char.isDigit after
    split
    · simp only
      omega
    · simp only [List.length_cons]
      omega
  · exact whole

theorem length_readNumber_lt {c : Char} (digit : c.isDigit = true) (rest : List Char) :
    (readNumber (c :: rest)).2.length ≤ rest.length := by
  have whole := length_dropWhile_le Char.isDigit rest
  unfold readNumber
  simp only [List.dropWhile_cons, digit, if_true]
  split
  · rename_i after found
    simp only [found, List.length_cons] at whole
    have fraction := length_dropWhile_le Char.isDigit after
    split
    · simp only
      omega
    · simp only [List.length_cons]
      omega
  · exact whole

theorem length_readToken_le (c : Char) (rest : List Char) :
    (readToken c rest).2.length ≤ rest.length := by
  unfold readToken
  split
  · exact Nat.le_refl _
  split
  · exact length_skipPast_le _ _
  split
  · have tail : rest.tail.length ≤ rest.length := by simp
    exact Nat.le_trans (length_skipPast_le _ _) tail
  split
  · exact length_readNumber_le rest
  split
  · rename_i digit
    exact length_readNumber_lt digit rest
  split
  · exact length_readQuoted_le c rest
  split
  · exact length_readQuoted_le c rest
  split
  · exact length_dropWhile_le _ rest
  · exact Nat.le_refl _

def scanChars : List Char → List Token
  | [] => []
  | c :: rest =>
      (readToken c rest).1.toList ++ scanChars (readToken c rest).2
termination_by text => text.length
decreasing_by
  have shorter := length_readToken_le c rest
  simp only [List.length_cons]
  omega

/-- The tokens of a text, in their order; the end of the list is the end of the text. -/
def scan (text : String) : List Token := scanChars text.toList

end NestedQuery.SchemaDump
