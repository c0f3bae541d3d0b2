import ChainGauge.Yaml.Token

/-!
# Nodes of a document

A document is a tree of scalars, sequences and mappings. A node may carry a tag, and an anchor under
which it can be repeated further on, also inside of itself. `Document.ofText?` reads a text that
holds at most one document; a text without one holds an empty scalar.

Anchors have numbers. The number of an anchor is how many names of anchors there were in front of
it, so one that gives a known name to another node leaves its number to the next new name; a
repetition stands for the node that got the number last, wherever in the document that is.
-/

namespace ChainGauge.Yaml

/-- A node. -/
inductive Node where
  | scalar (text : String) (style : ScalarStyle) (tag : Option String)
  | sequence (items : List Node)
  | mapping (entries : List (Node × Node))
  /-- A repetition of the node that has this number. -/
  | repeated (number : Nat)
  deriving Inhabited

/-- A document. -/
structure Document where
  root : Node
  /-- The anchored nodes by their numbers; the first of one number counts. -/
  anchored : List (Nat × Node)

namespace Node

/-- The node that is left out. -/
def empty : Node :=
  .scalar "" .plain none

mutual
/-- How many marks a node consists of: two for each collection and one for all else. -/
def marks : Node → Nat
  | .sequence items => itemMarks items + 2
  | .mapping entries => entryMarks entries + 2
  | _ => 1

/-- The number of marks of items. -/
def itemMarks : List Node → Nat
  | [] => 0
  | n :: rest => n.marks + itemMarks rest

/-- The number of marks of entries. -/
def entryMarks : List (Node × Node) → Nat
  | [] => 0
  | (k, v) :: rest => k.marks + v.marks + entryMarks rest
end

/-- The reading of nodes: the tokens that are left, the beginnings that the handles of tags stand
for, and the anchors. -/
structure State where
  tokens : List Token
  handles : List (List Char × List Char)
  /-- The number that each name of an anchor has at present. -/
  numbers : List (List Char × Nat)
  /-- The anchored nodes that were begun, counted from zero. -/
  begun : Nat
  /-- Numbers of anchors with the nodes that were begun under them, the latest first. -/
  holders : List (Nat × Nat)
  /-- The anchored nodes that are complete. -/
  complete : List (Nat × Node)

/-- A reader of something. -/
abbrev Reading (α : Type) := StateT State Option α

/-- The next token. -/
def peek : Reading Token := fun s =>
  s.tokens.head?.map (·, s)

/-- Goes on behind the next token. -/
def next : Reading Unit := fun s =>
  some ((), { s with tokens := s.tokens.tail })

/-- Refuses. -/
def refuse {α : Type} : Reading α := fun _ => none

/-- Begins a node that has an anchor, or none. -/
def start (anchor : Option (List Char)) : Reading (Option Nat) := fun s =>
  match anchor with
  | none => some (none, s)
  | some name =>
    let number := s.numbers.length
    some (some s.begun, { s with
      numbers := (name, number) :: s.numbers.filter (·.1 ≠ name)
      begun := s.begun + 1
      holders := (number, s.begun) :: s.holders })

/-- Completes a node that was begun. -/
def finish (begun : Option Nat) (n : Node) : Reading Node := fun s =>
  match begun with
  | none => some (n, s)
  | some place => some (n, { s with complete := (place, n) :: s.complete })

/-- The text of a tag. -/
def tagText (handle suffix : List Char) : Reading String := fun s =>
  if handle.isEmpty then some (String.ofList suffix, s)
  else (s.handles.lookup handle).map fun prior => (String.ofList (prior ++ suffix), s)

/-- The anchor and tag in front of a node, in either order. -/
def properties : Reading (Option (List Char) × Option String) := do
  match ← peek with
  | .anchor name =>
    next
    match ← peek with
    | .tag h t => next; pure (some name, some (← tagText h t))
    | _ => pure (some name, none)
  | .tag h t =>
    next
    match ← peek with
    | .anchor name => next; pure (some name, some (← tagText h t))
    | _ => pure (none, some (← tagText h t))
  | _ => pure (none, none)

/-- What stands in front of a node and decides what may be left out. -/
inductive Spot where
  /-- An item of a block sequence, or the whole document. -/
  | block
  /-- A key or value of a block mapping, where a sequence need not be indented. -/
  | entry
  /-- Inside a flow collection. -/
  | flow
  deriving DecidableEq

mutual
/-- Reads a node. -/
def read (spot : Spot) : Nat → Reading Node
  | 0 => refuse
  | fuel + 1 => do
    match ← peek with
    | .alias name => next; fun s => (s.numbers.lookup name).map fun n => (.repeated n, s)
    | _ =>
      let (anchor, tag) ← properties
      -- The number is given out before the node is read, whose inner nodes may repeat it.
      let place ← start anchor
      let n ← readContent spot (anchor.isSome || tag.isSome) tag fuel
      finish place n

/-- Reads a node behind its anchor and tag; behind them it may be left out. -/
def readContent (spot : Spot) (announced : Bool) (tag : Option String) : Nat → Reading Node
  | 0 => refuse
  | fuel + 1 => do
    match ← peek with
    | .scalar text style => next; pure (.scalar (String.ofList text) style tag)
    | .flowSequenceStart => next; .sequence <$> flowItems true fuel
    | .flowMappingStart => next; .mapping <$> flowEntries true fuel
    | t =>
      if t = .blockItem ∧ spot = .entry then .sequence <$> bareItems fuel
      else if t = .blockSequenceStart ∧ spot ≠ .flow then next; .sequence <$> blockItems fuel
      else if t = .blockMappingStart ∧ spot ≠ .flow then next; .mapping <$> blockEntries fuel
      else if announced then pure (.scalar "" .plain tag)
      else refuse

/-- Reads a node, or leaves it out in front of certain tokens. -/
def readUnless (spot : Spot) (ends : List Token) : Nat → Reading Node
  | 0 => refuse
  | fuel + 1 => do
    let t ← peek
    if ends.contains t then pure empty else read spot fuel

/-- Reads the items of a block sequence. -/
def blockItems : Nat → Reading (List Node)
  | 0 => refuse
  | fuel + 1 => do
    match ← peek with
    | .blockItem =>
      next
      let n ← readUnless .block [.blockItem, .blockEnd] fuel
      (n :: ·) <$> blockItems fuel
    | .blockEnd => next; pure []
    | _ => refuse

/-- Reads the items of a block sequence that is not indented. -/
def bareItems : Nat → Reading (List Node)
  | 0 => refuse
  | fuel + 1 => do
    match ← peek with
    | .blockItem =>
      next
      let n ← readUnless .block [.blockItem, .key, .value, .blockEnd] fuel
      (n :: ·) <$> bareItems fuel
    | _ => pure []

/-- Reads the value of an entry of a block mapping. -/
def blockValue : Nat → Reading Node
  | 0 => refuse
  | fuel + 1 => do
    match ← peek with
    | .value => next; readUnless .entry [.key, .value, .blockEnd] fuel
    | _ => pure empty

/-- Reads the entries of a block mapping. -/
def blockEntries : Nat → Reading (List (Node × Node))
  | 0 => refuse
  | fuel + 1 => do
    match ← peek with
    | .key =>
      next
      let k ← readUnless .entry [.key, .value, .blockEnd] fuel
      let v ← blockValue fuel
      ((k, v) :: ·) <$> blockEntries fuel
    | .blockEnd => next; pure []
    | _ => refuse

/-- Reads the value of an entry inside a flow collection. -/
def flowValue (closing : Token) : Nat → Reading Node
  | 0 => refuse
  | fuel + 1 => do
    match ← peek with
    | .value => next; readUnless .flow [.flowComma, closing] fuel
    | _ => pure empty

/-- Reads the key of an entry that stands in a flow sequence for a mapping of its own; a token that
cannot start a key is skipped. -/
def pairKey : Nat → Reading Node
  | 0 => refuse
  | fuel + 1 => do
    match ← peek with
    | .value | .flowComma | .flowSequenceEnd => next; pure empty
    | _ => read .flow fuel

/-- Reads an item of a flow sequence. -/
def flowItem : Nat → Reading Node
  | 0 => refuse
  | fuel + 1 => do
    match ← peek with
    | .key =>
      next
      let k ← pairKey fuel
      let v ← flowValue .flowSequenceEnd fuel
      pure (.mapping [(k, v)])
    | _ => read .flow fuel

/-- Reads the items of a flow sequence. -/
def flowItems (first : Bool) : Nat → Reading (List Node)
  | 0 => refuse
  | fuel + 1 => do
    if (← peek) = .flowSequenceEnd then next; pure []
    else
      if !first then
        if (← peek) = .flowComma then next else refuse
      if (← peek) = .flowSequenceEnd then next; pure []
      else
        let n ← flowItem fuel
        (n :: ·) <$> flowItems false fuel

/-- Reads an entry of a flow mapping. -/
def flowPair : Nat → Reading (Node × Node)
  | 0 => refuse
  | fuel + 1 => do
    match ← peek with
    | .key =>
      next
      let k ← readUnless .flow [.value, .flowComma, .flowMappingEnd] fuel
      let v ← flowValue .flowMappingEnd fuel
      pure (k, v)
    | _ =>
      let k ← read .flow fuel
      pure (k, empty)

/-- Reads the entries of a flow mapping. -/
def flowEntries (first : Bool) : Nat → Reading (List (Node × Node))
  | 0 => refuse
  | fuel + 1 => do
    if (← peek) = .flowMappingEnd then next; pure []
    else
      if !first then
        if (← peek) = .flowComma then next else refuse
      if (← peek) = .flowMappingEnd then next; pure []
      else
        let e ← flowPair fuel
        (e :: ·) <$> flowEntries false fuel
end

/-- The handles that are known without a directive. -/
def usualHandles : List (List Char × List Char) :=
  [(['!'], ['!']), (['!', '!'], "tag:yaml.org,2002:".toList)]

/-- Reads the directives in front of a document; `version` tells whether the version was given. -/
def directives (version : Bool) (handles : List (List Char × List Char)) :
    List Token → Option (List (List Char × List Char) × List Token)
  | .versionDirective major minor :: rest =>
    if version || major ≠ 1 || (minor ≠ 1 && minor ≠ 2) then none
    else directives true handles rest
  | .tagDirective handle start :: rest =>
    if (handles.lookup handle).isSome then none
    else directives version ((handle, start) :: handles) rest
  | tokens => some (handles, tokens)

/-- Whether a document ends in front of a token. -/
def endsDocument : Token → Bool
  | .versionDirective _ _ | .tagDirective _ _ | .documentStart | .documentEnd | .streamEnd => true
  | _ => false

end Node

namespace Document

/-- The document that consists of one scalar which is left out. -/
def empty : Document :=
  ⟨.empty, []⟩

/-- The number of marks. -/
def marks (d : Document) : Nat :=
  d.root.marks

/-- Reads a document and what ends it. -/
def read (handles : List (List Char × List Char)) (tokens : List Token) : Option Document := do
  let (root, s) ← Node.read .block (8 * tokens.length + 8)
    ⟨tokens, handles ++ Node.usualHandles, [], 0, [], []⟩
  let anchored := s.holders.filterMap fun (number, place) =>
    (s.complete.lookup place).map (number, ·)
  if s.tokens.dropWhile (· = .documentEnd) = [.streamEnd] then some ⟨root, anchored⟩ else none

/-- The only document among tokens. -/
def ofTokens? (tokens : List Token) : Option Document := do
  match tokens with
  | [.streamEnd] => some empty
  | t :: _ =>
    if Node.endsDocument t && t ≠ .documentEnd then
      let (handles, tokens) ← Node.directives false [] tokens
      match tokens with
      | .documentStart :: rest =>
        match rest with
        | t :: _ =>
          if Node.endsDocument t then
            if rest.dropWhile (· = .documentEnd) = [.streamEnd] then some empty else none
          else read handles rest
        | [] => none
      | _ => none
    else read [] tokens
  | [] => none

/-- The document of a text. -/
def ofText? (s : String) : Option Document :=
  (Token.ofText? s).bind ofTokens?

end Document

end ChainGauge.Yaml
