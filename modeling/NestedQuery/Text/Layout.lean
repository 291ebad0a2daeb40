/-! Lines and indentation of generated text. -/

namespace NestedQuery.Text

def padLines (pad : List Char) : List Char → List Char
  | [] => []
  | c :: rest => if c = '\n' then c :: (pad ++ padLines pad rest) else c :: padLines pad rest

def indentChars (spaces : Nat) (text : List Char) : List Char :=
  List.replicate spaces ' ' ++ padLines (List.replicate spaces ' ') text

/-- Every line of the text, the empty ones included, moved right by `spaces`. -/
def indent (spaces : Nat) (text : String) : String :=
  String.ofList (indentChars spaces text.toList)

def joinLines (lines : List String) : String := "\n".intercalate lines

end NestedQuery.Text
