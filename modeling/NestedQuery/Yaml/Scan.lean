import NestedQuery.Yaml.Property

/-! From YAML text to tokens. A key is only known as one when its colon is met, so the place before
each scalar or collection that may turn out to be a key is kept, and the tokens of the key and of
its mapping are inserted there. -/

namespace NestedQuery.Yaml

structure PossibleKey where
  /-- No other reading is possible, because the key stands at the margin of a mapping. -/
  required : Bool
  /-- The number of tokens before the key. -/
  position : Nat
  line : Nat
  column : Nat
  index : Nat
  deriving DecidableEq, Repr

structure Scanner where
  /-- The tokens read, last first. -/
  tokens : List Token := []
  count : Nat := 0
  /-- The indentation of the innermost block collection. -/
  indent : Int := -1
  outerIndents : List Int := []
  /-- The key that may have started in the innermost collection. -/
  key : Option PossibleKey := none
  /-- The keys that may have started outside of each open flow collection. -/
  outerKeys : List (Option PossibleKey) := []
  keyAllowed : Bool := true
  deriving DecidableEq, Repr

def insertBelow (item : Token) : Nat → List Token → List Token
  | depth + 1, top :: rest => top :: insertBelow item depth rest
  | _, tokens => item :: tokens

namespace Scanner

def inFlow (scanner : Scanner) : Bool := !scanner.outerKeys.isEmpty

def push (scanner : Scanner) (token : Token) : Scanner :=
  { scanner with tokens := token :: scanner.tokens, count := scanner.count + 1 }

def insertAt (scanner : Scanner) (position : Nat) (token : Token) : Scanner :=
  { scanner with
    tokens := insertBelow token (scanner.count - position) scanner.tokens
    count := scanner.count + 1 }

/-- Forget a key that was not completed in time: on one line, within 1024 characters. -/
def keepFresh (spot : Spot) : Option PossibleKey → Option (Option PossibleKey)
  | none => some none
  | some key =>
      if key.line < spot.line || key.index + 1024 < spot.index then
        if key.required then none else some none
      else some (some key)

def dropStaleKeys (scanner : Scanner) (spot : Spot) : Option Scanner := do
  let key ← keepFresh spot scanner.key
  let outerKeys ← scanner.outerKeys.mapM (keepFresh spot)
  return { scanner with key, outerKeys }

def dropKey (scanner : Scanner) : Option Scanner :=
  match scanner.key with
  | some key => if key.required then none else some { scanner with key := none }
  | none => some scanner

def noteKey (scanner : Scanner) (spot : Spot) : Option Scanner :=
  if scanner.keyAllowed then do
    let dropped ← scanner.dropKey
    let key : PossibleKey :=
      { required := !scanner.inFlow && scanner.indent == spot.column
        position := scanner.count
        line := spot.line
        column := spot.column
        index := spot.index }
    return { dropped with key := some key }
  else some scanner

def openBlock (scanner : Scanner) (column position : Nat) (token : Token) : Scanner :=
  if !scanner.inFlow && scanner.indent < column then
    { scanner.insertAt position token with
      indent := column
      outerIndents := scanner.indent :: scanner.outerIndents }
  else scanner

def closeFrom (column : Int) (scanner : Scanner) : (indents : List Int) → Scanner
  | [] => scanner
  | outer :: rest =>
      if column < scanner.indent then
        closeFrom column { scanner.push .blockEnd with indent := outer, outerIndents := rest } rest
      else scanner

def closeBlocks (scanner : Scanner) (column : Int) : Scanner :=
  if scanner.inFlow then scanner else closeFrom column scanner scanner.outerIndents

def atMargin (scanner : Scanner) : Option Scanner := do
  let dropped ← (scanner.closeBlocks (-1)).dropKey
  return { dropped with keyAllowed := false }

def openFlow (scanner : Scanner) (spot : Spot) (token : Token) : Option Scanner := do
  let noted ← scanner.noteKey spot
  return { noted.push token with
    key := none, outerKeys := noted.key :: noted.outerKeys, keyAllowed := true }

def closeFlow (scanner : Scanner) (token : Token) : Option Scanner := do
  let dropped ← scanner.dropKey
  let closed := match dropped.outerKeys with
    | [] => dropped
    | key :: outerKeys => { dropped with key, outerKeys }
  return { closed.push token with keyAllowed := false }

def addComma (scanner : Scanner) : Option Scanner := do
  let dropped ← scanner.dropKey
  return { dropped.push .comma with keyAllowed := true }

def addEntry (scanner : Scanner) (spot : Spot) : Option Scanner :=
  if !scanner.inFlow && !scanner.keyAllowed then none
  else do
    let dropped ← (scanner.openBlock spot.column scanner.count .blockSequence).dropKey
    return { dropped.push .entry with keyAllowed := true }

def addKey (scanner : Scanner) (spot : Spot) : Option Scanner :=
  if !scanner.inFlow && !scanner.keyAllowed then none
  else do
    let dropped ← (scanner.openBlock spot.column scanner.count .blockMapping).dropKey
    return { dropped.push .key with keyAllowed := !scanner.inFlow }

def addValue (scanner : Scanner) (spot : Spot) : Option Scanner :=
  match scanner.key with
  | some key =>
      let keyed := scanner.insertAt key.position .key
      let opened := keyed.openBlock key.column key.position .blockMapping
      some { opened.push .value with key := none, keyAllowed := false }
  | none =>
      if !scanner.inFlow && !scanner.keyAllowed then none
      else
        let opened := scanner.openBlock spot.column scanner.count .blockMapping
        some { opened.push .value with keyAllowed := !scanner.inFlow }

def addNode (scanner : Scanner) (spot : Spot) (token : Token) : Option Scanner := do
  let noted ← scanner.noteKey spot
  return { noted.push token with keyAllowed := false }

end Scanner

/-- Blanks, comments and line breaks before a token. After a line break outside of flow collections
a key may start. Tabs do not count as blanks where a key may start. -/
def skipToToken (flow : Bool) (keyAllowed inComment : Bool) : Spots → Bool × Spots
  | [] => (keyAllowed, [])
  | spot :: rest =>
      let c := spot.char
      if isBreak c then skipToToken flow (keyAllowed || !flow) false rest
      else if inComment then skipToToken flow keyAllowed true rest
      else if c == ' ' || (c == '\t' && (flow || !keyAllowed)) ||
          (c == byteOrderMark && spot.column == 0) then
        skipToToken flow keyAllowed false rest
      else if c == '#' then skipToToken flow keyAllowed true rest
      else (keyAllowed, spot :: rest)

def indicators : List Char := "-?:,[]\x7b\x7d#&*!|>'\"%@`".toList

def startsPlain (flow : Bool) (c : Char) (rest : Spots) : Bool :=
  (!indicators.contains c && !isSpace c && !isBreak c) ||
    (c == '-' && !nextIs isSpace rest) ||
    (!flow && (c == '?' || c == ':') && !atGap rest)

def addPlain (scanner : Scanner) (spot : Spot) (rest : Spots) : Option (Scanner × Spots) := do
  let noted ← scanner.noteKey spot
  let (text, brokeOff, left) ←
    readPlain scanner.inFlow (scanner.indent + 1) [] .none (spot :: rest)
  let token : Token := .scalar (String.ofList text.reverse) .plain
  return ({ noted.push token with keyAllowed := brokeOff }, left)

def addQuoted (scanner : Scanner) (spot : Spot) (double : Bool) (rest : Spots) :
    Option (Scanner × Spots) := do
  let (text, left) ← readQuoted double [] .none .between rest
  let style : ScalarStyle := if double then .doubleQuoted else .singleQuoted
  return (← scanner.addNode spot (.scalar (String.ofList text.reverse) style), left)

def addBlock (scanner : Scanner) (literal : Bool) (rest : Spots) : Option (Scanner × Spots) := do
  let dropped ← scanner.dropKey
  let (text, left) ← readBlock literal scanner.indent rest
  let style : ScalarStyle := if literal then .literal else .folded
  return ({ dropped.push (.scalar (String.ofList text.reverse) style) with keyAllowed := true },
    left)

def addToken (scanner : Scanner) (spot : Spot) (rest : Spots) : Option (Scanner × Spots) := do
  let flow := scanner.inFlow
  let c := spot.char
  if c == '%' && spot.column == 0 then
    let (token, left) ← readDirective rest
    return ((← scanner.atMargin).push token, left)
  else if isDocumentMark '-' (spot :: rest) then
    return ((← scanner.atMargin).push .documentStart, rest.drop 2)
  else if isDocumentMark '.' (spot :: rest) then
    return ((← scanner.atMargin).push .documentEnd, rest.drop 2)
  else if c == '[' then return (← scanner.openFlow spot .flowSequence, rest)
  else if c == '\x7b' then return (← scanner.openFlow spot .flowMapping, rest)
  else if c == ']' then return (← scanner.closeFlow .flowSequenceEnd, rest)
  else if c == '\x7d' then return (← scanner.closeFlow .flowMappingEnd, rest)
  else if c == ',' then return (← scanner.addComma, rest)
  else if c == '-' && atGap rest then return (← scanner.addEntry spot, rest)
  else if c == '?' && (flow || atGap rest) then return (← scanner.addKey spot, rest)
  else if c == ':' && (flow || atGap rest) then return (← scanner.addValue spot, rest)
  else if c == '*' then
    let (name, left) ← readAnchorName rest
    return (← scanner.addNode spot (.aliasOf name), left)
  else if c == '&' then
    let (name, left) ← readAnchorName rest
    return (← scanner.addNode spot (.anchor name), left)
  else if c == '!' then
    let (token, left) ← readTag flow (spot :: rest)
    return (← scanner.addNode spot token, left)
  else if c == '|' && !flow then addBlock scanner true rest
  else if c == '>' && !flow then addBlock scanner false rest
  else if c == '\'' then addQuoted scanner spot false rest
  else if c == '"' then addQuoted scanner spot true rest
  else if startsPlain flow c rest then addPlain scanner spot rest
  else none

/-- Each round reads one token at least, so the length of the text is enough fuel. -/
def scanFrom : (fuel : Nat) → Scanner → Spots → Option (List Token)
  | 0, _, _ => none
  | fuel + 1, scanner, spots =>
      let (keyAllowed, left) := skipToToken scanner.inFlow scanner.keyAllowed false spots
      let ready : Scanner := { scanner with keyAllowed }
      match left with
      | [] => do
          let ended ← (ready.closeBlocks (-1)).dropKey
          return ended.tokens.reverse
      | spot :: rest => do
          let fresh ← ready.dropStaleKeys spot
          let (next, behind) ← addToken (fresh.closeBlocks spot.column) spot rest
          scanFrom fuel next behind

def scan (text : String) : Option (List Token) := do
  let spots ← spots? text
  scanFrom (spots.length + 1) {} spots

end NestedQuery.Yaml
