import NestedQuery.Yaml.Node
import NestedQuery.Yaml.Scan

/-! From tokens to the one document of a text. -/

namespace NestedQuery.Yaml

structure Anchors where
  /-- The number that a name stands for, the latest first. -/
  names : List (String × Nat) := []
  /-- How many different names there are. -/
  distinct : Nat := 0
  /-- The node that counts for a number: the last one started under it. -/
  started : List (Nat × Nat) := []
  nodes : List (Nat × Node) := []

namespace Anchors

/-- A name gets the number of names before it. A name that is used again gets the number that the
next new name will get too. -/
def start (anchors : Anchors) (name : String) : Anchors :=
  let known := (anchors.names.lookup name).isSome
  { anchors with
    names := (name, anchors.distinct) :: anchors.names
    distinct := if known then anchors.distinct else anchors.distinct + 1
    started := (anchors.distinct, anchors.started.length) :: anchors.started }

def finish (anchors : Anchors) (order : Nat) (node : Node) : Anchors :=
  { anchors with nodes := (order, node) :: anchors.nodes }

def table (anchors : Anchors) : List (Nat × Node) :=
  anchors.started.filterMap fun (number, order) =>
    (anchors.nodes.lookup order).map (number, ·)

end Anchors

structure Reader where
  tokens : List Token
  /-- The starts of tags, by their handles. -/
  handles : List (String × String)
  anchors : Anchors := {}

structure Properties where
  anchor : Option String := none
  tag : Option String := none

namespace Reader

def skip (reader : Reader) : Reader := { reader with tokens := reader.tokens.drop 1 }

def next? (reader : Reader) : Option Token := reader.tokens.head?

def nextIn (reader : Reader) (expected : List Token) : Bool :=
  match reader.tokens with
  | [] => false
  | token :: _ => expected.contains token

def tagText? (reader : Reader) (handle suffix : String) : Option String :=
  if handle.isEmpty then some suffix
  else (reader.handles.lookup handle).map (· ++ suffix)

def properties (reader : Reader) : Option (Properties × Reader) :=
  match reader.tokens with
  | .anchor name :: .tag handle suffix :: rest | .tag handle suffix :: .anchor name :: rest => do
      let tag ← reader.tagText? handle suffix
      return ({ anchor := some name, tag := some tag }, { reader with tokens := rest })
  | .anchor name :: rest => some ({ anchor := some name }, { reader with tokens := rest })
  | .tag handle suffix :: rest => do
      let tag ← reader.tagText? handle suffix
      return ({ tag := some tag }, { reader with tokens := rest })
  | _ => some ({}, reader)

end Reader

/-- Where a node stands: in a block, or as a key or value of a block mapping, whose sequences need
no indentation, or in a flow collection. -/
inductive Context where
  | block
  | blockPair
  | flow
  deriving DecidableEq, Repr

mutual
def readNode (context : Context) (reader : Reader) : (fuel : Nat) → Option (Node × Reader)
  | 0 => none
  | fuel + 1 =>
      match reader.tokens with
      | .aliasOf name :: _ => do
          let anchor ← reader.anchors.names.lookup name
          return (.aliasOf anchor, reader.skip)
      | _ => do
          let (properties, ready) ← reader.properties
          match properties.anchor with
          | none => readContent context properties ready fuel
          | some name =>
              let order := ready.anchors.started.length
              let (node, left) ← readContent context properties
                { ready with anchors := ready.anchors.start name } fuel
              return (node, { left with anchors := left.anchors.finish order node })

def readContent (context : Context) (properties : Properties) (reader : Reader) :
    (fuel : Nat) → Option (Node × Reader)
  | 0 => none
  | fuel + 1 =>
      match reader.next? with
      | some (.scalar text style) =>
          let tag := if properties.tag = some "!" then none else properties.tag
          some (.scalar text style tag, reader.skip)
      | some .flowSequence => do
          let (items, left) ← readFlowItems true reader.skip fuel
          return (.sequence items, left)
      | some .flowMapping => do
          let (pairs, left) ← readFlowPairs true reader.skip fuel
          return (.mapping pairs, left)
      | next =>
          if next = some .entry && context = .blockPair then do
            let (items, left) ← readUnindentedItems reader fuel
            return (.sequence items, left)
          else if next = some .blockSequence && context ≠ .flow then do
            let (items, left) ← readBlockItems reader.skip fuel
            return (.sequence items, left)
          else if next = some .blockMapping && context ≠ .flow then do
            let (pairs, left) ← readBlockPairs reader.skip fuel
            return (.mapping pairs, left)
          else if properties.anchor.isSome || properties.tag.isSome then
            some (.scalar "" .plain properties.tag, reader)
          else none

def readOptional (context : Context) (ends : List Token) (reader : Reader) :
    (fuel : Nat) → Option (Node × Reader)
  | 0 => none
  | fuel + 1 =>
      if reader.nextIn ends then some (.empty, reader) else readNode context reader fuel

def readBlockItems (reader : Reader) : (fuel : Nat) → Option (List Node × Reader)
  | 0 => none
  | fuel + 1 =>
      match reader.next? with
      | some .entry => do
          let (item, behind) ← readOptional .block [.entry, .blockEnd] reader.skip fuel
          let (items, left) ← readBlockItems behind fuel
          return (item :: items, left)
      | some .blockEnd => some ([], reader.skip)
      | _ => none

def readUnindentedItems (reader : Reader) : (fuel : Nat) → Option (List Node × Reader)
  | 0 => none
  | fuel + 1 =>
      match reader.next? with
      | some .entry => do
          let (item, behind) ←
            readOptional .block [.entry, .key, .value, .blockEnd] reader.skip fuel
          let (items, left) ← readUnindentedItems behind fuel
          return (item :: items, left)
      | _ => some ([], reader)

def readBlockPairs (reader : Reader) : (fuel : Nat) → Option (List (Node × Node) × Reader)
  | 0 => none
  | fuel + 1 =>
      match reader.next? with
      | some .key => do
          let (key, afterKey) ← readOptional .blockPair [.key, .value, .blockEnd] reader.skip fuel
          let (value, behind) ←
            if afterKey.nextIn [.value] then
              readOptional .blockPair [.key, .value, .blockEnd] afterKey.skip fuel
            else pure (.empty, afterKey)
          let (pairs, left) ← readBlockPairs behind fuel
          return ((key, value) :: pairs, left)
      | some .blockEnd => some ([], reader.skip)
      | _ => none

def readFlowItems (first : Bool) (reader : Reader) : (fuel : Nat) → Option (List Node × Reader)
  | 0 => none
  | fuel + 1 =>
      if reader.nextIn [.flowSequenceEnd] then some ([], reader.skip)
      else if !first && !reader.nextIn [.comma] then none
      else
        let ready := if first then reader else reader.skip
        if ready.nextIn [.flowSequenceEnd] then some ([], ready.skip)
        else do
          let (item, behind) ←
            if ready.nextIn [.key] then readSinglePair ready.skip fuel
            else readNode .flow ready fuel
          let (items, left) ← readFlowItems false behind fuel
          return (item :: items, left)

/-- A mapping of one pair as an item of a flow sequence, after the token of its key. A key that is
left out takes the token that follows it with it. -/
def readSinglePair (reader : Reader) : (fuel : Nat) → Option (Node × Reader)
  | 0 => none
  | fuel + 1 => do
      let (key, afterKey) ←
        if reader.nextIn [.value, .comma, .flowSequenceEnd] then pure (.empty, reader.skip)
        else readNode .flow reader fuel
      let (value, left) ←
        if afterKey.nextIn [.value] then
          readOptional .flow [.comma, .flowSequenceEnd] afterKey.skip fuel
        else pure (.empty, afterKey)
      return (.mapping [(key, value)], left)

def readFlowPairs (first : Bool) (reader : Reader) :
    (fuel : Nat) → Option (List (Node × Node) × Reader)
  | 0 => none
  | fuel + 1 =>
      if reader.nextIn [.flowMappingEnd] then some ([], reader.skip)
      else if !first && !reader.nextIn [.comma] then none
      else
        let ready := if first then reader else reader.skip
        if ready.nextIn [.flowMappingEnd] then some ([], ready.skip)
        else do
          let (pair, behind) ← readFlowPair ready fuel
          let (pairs, left) ← readFlowPairs false behind fuel
          return (pair :: pairs, left)

def readFlowPair (reader : Reader) : (fuel : Nat) → Option ((Node × Node) × Reader)
  | 0 => none
  | fuel + 1 =>
      if reader.nextIn [.key] then do
        let (key, afterKey) ←
          readOptional .flow [.value, .comma, .flowMappingEnd] reader.skip fuel
        let (value, left) ←
          if afterKey.nextIn [.value] then
            readOptional .flow [.comma, .flowMappingEnd] afterKey.skip fuel
          else pure (.empty, afterKey)
        return ((key, value), left)
      else do
        let (key, left) ← readNode .flow reader fuel
        return ((key, .empty), left)
end

def defaultHandles : List (String × String) := [("!", "!"), ("!!", coreTag "")]

def readDirectives (versioned : Bool) (handles : List (String × String)) :
    List Token → Option (List (String × String) × List Token)
  | .version major minor :: rest =>
      if versioned || major ≠ 1 || (minor ≠ 1 && minor ≠ 2) then none
      else readDirectives true handles rest
  | .tagHandle handle start :: rest =>
      if (handles.lookup handle).isSome then none
      else readDirectives versioned ((handle, start) :: handles) rest
  | tokens => some (handles, tokens)

def readRoot (reader : Reader) (fuel : Nat) : Option (Node × Reader) :=
  match reader.tokens with
  | .documentStart :: rest =>
      let ready : Reader := { reader with tokens := rest }
      match rest with
      | [] => some (.empty, ready)
      | .version _ _ :: _ | .tagHandle _ _ :: _ | .documentStart :: _ | .documentEnd :: _ =>
          some (.empty, ready)
      | _ => readNode .block ready fuel
  | _ => readNode .block reader fuel

/-- Readers that call each other four times in a row have taken a token, so this fuel is enough. -/
def enoughFuel (tokens : List Token) : Nat := 4 * tokens.length + 8

def startsExplicitly : List Token → Bool
  | .documentStart :: _ => true
  | _ => false

def parse (text : String) : Option Document := do
  let tokens ← scan text
  let (declared, body) ← readDirectives false [] tokens
  if body.length < tokens.length && !startsExplicitly body then none
  else
    let reader : Reader := { tokens := body, handles := declared ++ defaultHandles }
    let (root, left) ← readRoot reader (enoughFuel body)
    if left.tokens.all (· == .documentEnd) then
      some { root, anchored := left.anchors.table }
    else none

end NestedQuery.Yaml
