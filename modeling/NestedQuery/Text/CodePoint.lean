/-! Sets of code points, written as ascending spans. -/

namespace NestedQuery.Text

/-- Membership in an ascending list of spans `(first, last)`; the search ends at the first span that
starts beyond the code point. -/
def inSpans : List (Nat × Nat) → Nat → Bool
  | [], _ => false
  | (first, last) :: rest, code =>
      if code < first then false else code ≤ last || inSpans rest code

def blankSpans : List (Nat × Nat) :=
  [(0x9, 0xD), (0x20, 0x20), (0x85, 0x85), (0xA0, 0xA0), (0x1680, 0x1680), (0x2000, 0x200A),
   (0x2028, 0x2029), (0x202F, 0x202F), (0x205F, 0x205F), (0x3000, 0x3000)]

def isBlank (c : Char) : Bool := inSpans blankSpans c.toNat

end NestedQuery.Text
