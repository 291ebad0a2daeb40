import NestedQuery.Text.Printable

/-! Texts shown in double quotes, with the characters that cannot be shown escaped. -/

namespace NestedQuery.Text

def hexDigit (value : Nat) : Char :=
  if value < 10 then Char.ofNat (0x30 + value) else Char.ofNat (0x61 + (value - 10))

def hexDigits (value : Nat) : List Char :=
  let digits := [5, 4, 3, 2, 1, 0].map fun place => hexDigit ((value >>> (4 * place)) % 16)
  match digits.dropWhile (· == '0') with
  | [] => ['0']
  | significant => significant

def escaped (c : Char) : List Char :=
  if c = '"' then ['\\', '"']
  else if c = '\\' then ['\\', '\\']
  else if c = '\n' then ['\\', 'n']
  else if c = '\r' then ['\\', 'r']
  else if c = '\t' then ['\\', 't']
  else if c.toNat = 0 then ['\\', '0']
  else if isPrintable c then [c]
  else "\\u\x7b".toList ++ hexDigits c.toNat ++ "\x7d".toList

def quoted (text : String) : String :=
  String.ofList ('"' :: text.toList.flatMap escaped ++ ['"'])

end NestedQuery.Text
