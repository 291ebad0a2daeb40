import NestedQuery.Catalog.CaseRule
import NestedQuery.Catalog.Relation
import NestedQuery.SchemaDump.Scan

/-! The phrases of which statements are made. Each reader returns what it read and the tokens left,
and leaves no more tokens than it was given; a skipper returns the tokens left. -/

namespace NestedQuery.SchemaDump

abbrev Tokens := List Token

def skipNested : (depth : Nat) → Tokens → Tokens
  | 0, tokens => tokens
  | _ + 1, [] => []
  | depth + 1, token :: rest =>
      match token with
      | .openParen => skipNested (depth + 2) rest
      | .closeParen => skipNested depth rest
      | _ => skipNested (depth + 1) rest

def skipParens : Tokens → Tokens
  | .openParen :: rest => skipNested 1 rest
  | tokens => tokens

/-- Skip up to the first of the given tokens that stands outside parentheses. -/
def skipUntil (stops : List Token) : (depth : Nat) → Tokens → Tokens
  | _, [] => []
  | 0, token :: rest =>
      if token ∈ stops then token :: rest
      else if token = .openParen then skipUntil stops 1 rest
      else skipUntil stops 0 rest
  | depth + 1, token :: rest =>
      match token with
      | .openParen => skipUntil stops (depth + 2) rest
      | .closeParen => skipUntil stops depth rest
      | _ => skipUntil stops (depth + 1) rest

def skipStatement : Tokens → Tokens
  | [] => []
  | .semicolon :: rest => rest
  | _ :: rest => skipStatement rest

def skipKeyword (keyword : Keyword) : Tokens → Tokens
  | [] => []
  | token :: rest => if token = .keyword keyword then rest else token :: rest

def nameOf? (rule : CaseRule) : Token → Option String
  | .word name => some (rule.normalize name)
  | .quotedName name => some name
  | _ => none

def readName (rule : CaseRule) : Tokens → Option String × Tokens
  | [] => (none, [])
  | token :: rest =>
      match nameOf? rule token with
      | some name => (some name, rest)
      | none => (none, token :: rest)

/-- A name with or without a schema before a dot. A schema and a dot without a name after them are
passed over all the same. -/
def readRelationId (rule : CaseRule) (tokens : Tokens) : Option RelationId × Tokens :=
  match readName rule tokens with
  | (none, rest) => (none, rest)
  | (some first, .dot :: rest) =>
      match readName rule rest with
      | (some name, left) => (some ⟨some first, name⟩, left)
      | (none, left) => (none, left)
  | (some first, rest) => (some ⟨none, first⟩, rest)

/-- The names up to a closing parenthesis; other tokens between them do not count. -/
def readNames (rule : CaseRule) : Tokens → List String × Tokens
  | [] => ([], [])
  | .closeParen :: rest => ([], rest)
  | token :: rest =>
      let (names, left) := readNames rule rest
      ((nameOf? rule token).toList ++ names, left)

def readColumnList (rule : CaseRule) : Tokens → List String × Tokens
  | .openParen :: rest => readNames rule rest
  | tokens => ([], tokens)

def typeStops : List String := ["generated", "collate", "as", "identity", "comment", "encode"]

/-- The declared type with one more token, at the depth of parentheses after it. -/
def extendType? : (depth : Nat) → (declared : String) → Token → Option (Nat × String)
  | 0, declared, .word word =>
      if (Token.word word).isWordIn typeStops then none
      else if declared.isEmpty then some (0, word)
      else some (0, declared ++ " " ++ word)
  | depth, declared, .openParen => some (depth + 1, declared ++ "(")
  | depth + 1, declared, .closeParen => some (depth, declared ++ ")")
  | depth + 1, declared, .number digits => some (depth + 1, declared ++ digits)
  | depth + 1, declared, .word word => some (depth + 1, declared ++ word)
  | depth + 1, declared, .comma => some (depth + 1, declared ++ ",")
  | _, _, _ => none

def readTypeFrom : (depth : Nat) → (declared : String) → Tokens → String × Tokens
  | _, declared, [] => (declared, [])
  | depth, declared, token :: rest =>
      match extendType? depth declared token with
      | some (deeper, longer) => readTypeFrom deeper longer rest
      | none => (declared, token :: rest)

def readDeclaredType (tokens : Tokens) : String × Tokens := readTypeFrom 0 "" tokens

def skipDefault : Tokens → Tokens
  | .text _ :: rest => rest
  | .number _ :: rest => rest
  | .keyword .null :: rest => rest
  | .word _ :: rest => skipParens rest
  | tokens => skipParens tokens

def skipAction : Tokens → Tokens
  | [] => []
  | token :: rest =>
      if token = .keyword .cascade || token = .keyword .restrict then rest
      else if token.isWord "set" then
        match rest with
        | .keyword .null :: left => left
        | .keyword .default :: left => left
        | left => left
      else if token.isWord "no" then
        match rest with
        | [] => []
        | next :: left => if next.isWord "action" then left else next :: left
      else token :: rest

def skipEvent : Tokens → Tokens
  | .keyword .delete :: rest => rest
  | .keyword .update :: rest => rest
  | tokens => tokens

theorem length_skipNested_le (depth : Nat) (tokens : Tokens) :
    (skipNested depth tokens).length ≤ tokens.length := by
  fun_induction skipNested depth tokens <;> simp_all <;> omega

theorem length_skipParens_le (tokens : Tokens) : (skipParens tokens).length ≤ tokens.length := by
  unfold skipParens
  split
  · rename_i rest
    have shorter := length_skipNested_le 1 rest
    simp only [List.length_cons]
    omega
  · exact Nat.le_refl _

theorem length_skipUntil_le (stops : List Token) (depth : Nat) (tokens : Tokens) :
    (skipUntil stops depth tokens).length ≤ tokens.length := by
  fun_induction skipUntil stops depth tokens <;> simp_all <;> omega

theorem length_skipStatement_le (tokens : Tokens) :
    (skipStatement tokens).length ≤ tokens.length := by
  fun_induction skipStatement tokens with
  | case1 => exact Nat.le_refl _
  | case2 rest => exact Nat.le_succ _
  | case3 token rest notEnd ih =>
      simp only [List.length_cons]
      omega

theorem length_skipKeyword_le (keyword : Keyword) (tokens : Tokens) :
    (skipKeyword keyword tokens).length ≤ tokens.length := by
  fun_cases skipKeyword keyword tokens <;> simp_all

theorem length_readName_le (rule : CaseRule) (tokens : Tokens) :
    (readName rule tokens).2.length ≤ tokens.length := by
  fun_cases readName rule tokens <;> simp_all

theorem length_readRelationId_le (rule : CaseRule) (tokens : Tokens) :
    (readRelationId rule tokens).2.length ≤ tokens.length := by
  have first := length_readName_le rule tokens
  unfold readRelationId
  split
  · rename_i found
    simpa [found] using first
  · rename_i rest found
    have second := length_readName_le rule rest
    simp only [found, List.length_cons] at first
    split <;> rename_i after <;> simp only [after] at second ⊢ <;> omega
  · rename_i found
    simpa [found] using first

theorem length_readNames_le (rule : CaseRule) (tokens : Tokens) :
    (readNames rule tokens).2.length ≤ tokens.length := by
  fun_induction readNames rule tokens with
  | case1 => exact Nat.le_refl _
  | case2 rest => exact Nat.le_succ _
  | case3 token rest notEnd names left found ih =>
      simp only [found, List.length_cons] at ih ⊢
      omega

theorem length_readColumnList_le (rule : CaseRule) (tokens : Tokens) :
    (readColumnList rule tokens).2.length ≤ tokens.length := by
  unfold readColumnList
  split
  · rename_i rest
    have shorter := length_readNames_le rule rest
    simp only [List.length_cons]
    omega
  · exact Nat.le_refl _

theorem length_readTypeFrom_le (depth : Nat) (declared : String) (tokens : Tokens) :
    (readTypeFrom depth declared tokens).2.length ≤ tokens.length := by
  fun_induction readTypeFrom depth declared tokens with
  | case1 depth declared => exact Nat.le_refl _
  | case2 depth declared token rest deeper longer extended ih =>
      simp only [List.length_cons]
      omega
  | case3 depth declared token rest ended => exact Nat.le_refl _

theorem length_readDeclaredType_le (tokens : Tokens) :
    (readDeclaredType tokens).2.length ≤ tokens.length :=
  length_readTypeFrom_le 0 "" tokens

theorem length_skipDefault_le (tokens : Tokens) : (skipDefault tokens).length ≤ tokens.length := by
  unfold skipDefault
  split
  · simp
  · simp
  · simp
  · rename_i rest
    have shorter := length_skipParens_le rest
    simp only [List.length_cons]
    omega
  · exact length_skipParens_le tokens

theorem length_skipAction_le (tokens : Tokens) : (skipAction tokens).length ≤ tokens.length := by
  fun_cases skipAction tokens <;> simp_all <;> omega

theorem length_skipEvent_le (tokens : Tokens) : (skipEvent tokens).length ≤ tokens.length := by
  fun_cases skipEvent tokens <;> simp_all

def skipActions : Tokens → Tokens
  | [] => []
  | token :: rest =>
      if token = .keyword .on then skipActions (skipAction (skipEvent rest)) else token :: rest
termination_by tokens => tokens.length
decreasing_by
  have event := length_skipEvent_le rest
  have action := length_skipAction_le (skipEvent rest)
  simp only [List.length_cons]
  omega

theorem length_skipActions_le (tokens : Tokens) : (skipActions tokens).length ≤ tokens.length := by
  fun_induction skipActions tokens with
  | case1 => exact Nat.le_refl _
  | case2 rest ih =>
      have event := length_skipEvent_le rest
      have action := length_skipAction_le (skipEvent rest)
      simp only [List.length_cons]
      omega
  | case3 => exact Nat.le_refl _

end NestedQuery.SchemaDump
