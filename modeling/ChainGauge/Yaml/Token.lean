import ChainGauge.Yaml.Scalar

/-!
# Tokens of a document

The marks and scalars of a document, with the starts and ends of block collections, which the text
shows by indentation only. `Token.ofText?` reads all tokens of a text.

A key in front of a colon is not known as one when it is read: every place where such a *simple key*
may start is kept, and the colon puts the token for the key in front of it. A simple key lies on one
line and is not longer than 1024 bytes; where the line's indentation calls for a key, its colon
must come.
-/

namespace ChainGauge.Yaml

/-- A token. -/
inductive Token where
  | versionDirective (major minor : Nat)
  | tagDirective (handle start : List Char)
  | documentStart
  | documentEnd
  | streamEnd
  | blockSequenceStart
  | blockMappingStart
  | blockEnd
  | flowSequenceStart
  | flowSequenceEnd
  | flowMappingStart
  | flowMappingEnd
  | blockItem
  | flowComma
  | key
  | value
  | alias (name : List Char)
  | anchor (name : List Char)
  | tag (handle suffix : List Char)
  | scalar (text : List Char) (style : ScalarStyle)
  deriving DecidableEq, Repr

/-- A place where a simple key may start. -/
structure SimpleKey where
  /-- The number of tokens in front of it. -/
  place : Nat
  /-- Whether the indentation calls for a key here. -/
  required : Bool
  line : Nat
  column : Nat
  index : Nat

/-- The reading of tokens. -/
structure Lexer where
  cursor : Cursor
  tokens : Array Token
  /-- The columns of the block collections around, the innermost first. -/
  indents : List Nat
  /-- The simple key that may start in each of the flow collections around, the innermost first, and
  outside of all. -/
  keys : List (Option SimpleKey)
  /-- Whether a simple key may start here. -/
  keyAllowed : Bool

namespace Lexer

variable (l : Lexer)

/-- Whether a flow collection is around. -/
def inFlow : Bool :=
  1 < l.keys.length

/-- One more than the column of the block collection around, zero where there is none. -/
def floor : Nat :=
  l.indents.head?.elim 0 (· + 1)

/-- Appends a token. -/
def push (t : Token) : Lexer :=
  { l with tokens := l.tokens.push t }

/-- Appends a token of some characters. -/
def mark (t : Token) (width : Nat) : Lexer :=
  { l.push t with cursor := l.cursor.skip width }

/-- Says whether a simple key may start. -/
def allowKey (allowed : Bool) : Lexer :=
  { l with keyAllowed := allowed }

/-- Ends the block collections that start behind a column; all of them for `none`. -/
def unroll (column : Option Nat) : Lexer :=
  if l.inFlow then l
  else
    let (done, left) := l.indents.span fun i => column.all (· < i)
    { l with tokens := l.tokens ++ Array.replicate done.length .blockEnd, indents := left }

/-- Starts a block collection at a column that lies behind those around, in front of the token of a
number. -/
def roll (column : Nat) (place : Nat) (t : Token) : Lexer :=
  if l.inFlow || column < l.floor then l
  else
    { l with
      tokens := l.tokens.insertIdxIfInBounds place t
      indents := column :: l.indents }

/-- Drops the simple key of the collection around; none may be left open where it is required. -/
def dropKey : Option Lexer :=
  match l.keys with
  | some k :: rest => if k.required then none else some { l with keys := none :: rest }
  | _ => some l

/-- Keeps the place as one where a simple key may start. -/
def saveKey : Option Lexer :=
  if l.keyAllowed then do
    let p := l.cursor
    -- In the column of the block mapping around, nothing but a key may stand.
    let required := !l.inFlow && l.floor = p.column + 1
    let l ← l.dropKey
    some { l with keys := some ⟨l.tokens.size, required, p.line, p.column, p.index⟩ :: l.keys.tail }
  else some l

/-- Whether a simple key can still be one at a place. -/
def reaches (p : Cursor) (k : SimpleKey) : Bool :=
  k.line = p.line && p.index ≤ k.index + 1024

/-- Gives up the simple keys that cannot be one any more. -/
def dropStaleKeys : Option Lexer :=
  if l.keys.any fun k => k.any fun k => k.required && !reaches l.cursor k then none
  else some { l with keys := l.keys.map fun k => k.filter (reaches l.cursor) }

/-- Skips blanks, comments and empty lines; `fuel` bounds the number of lines. A byte order mark may
start a line and takes a column of its own. -/
def skipGaps : Lexer → Nat → Lexer
  | l, 0 => l
  | l, fuel + 1 =>
    let p := l.cursor
    let p := if p.column = 0 && p.sees (· = '\ufeff') then p.skip 1 else p
    let p := p.skipWhile fun c => c = ' ' || (c = '\t' && (l.inFlow || !l.keyAllowed))
    let p := if p.sees (· = '#') then p.skipWhile (fun c => !isBreak c) else p
    if p.sees isBreak then
      skipGaps { l with cursor := p.takeBreak.2, keyAllowed := l.keyAllowed || !l.inFlow } fuel
    else { l with cursor := p }

/-! ### Directives -/

/-- Reads a number of at most nine digits. -/
def takeVersion (p : Cursor) : Option (Nat × Cursor) :=
  let (digits, q) := p.takeWhile Char.isDigit
  if digits.isEmpty ∨ 9 < digits.length then none
  else some (digits.foldl (fun n c => 10 * n + (c.toNat - 48)) 0, q)

/-- Reads the handle of a tag; one of a directive is closed, unless it is a lone mark. -/
def takeHandle (directive : Bool) (p : Cursor) : Option (List Char × Cursor) :=
  if !p.sees (· = '!') then none
  else
    let (name, q) := (p.skip 1).takeWhile isNameChar
    if q.sees (· = '!') then some ('!' :: name ++ ['!'], q.skip 1)
    else if directive && !name.isEmpty then none
    else some ('!' :: name, q)

/-- Whether a character may stand in a tag. -/
def isTagChar (uri : Bool) (c : Char) : Bool :=
  isNameChar c || ";/?:@&=+$.%!~*'()".toList.contains c || (uri && ",[]".toList.contains c)

/-- The byte of an escape behind its percent sign. -/
def escapedByte? : List Char → Option (Nat × List Char)
  | a :: b :: rest => do
    let x ← Scalar.hexDigit? a
    let y ← Scalar.hexDigit? b
    some (16 * x + y, rest)
  | _ => none

/-- The further bytes of an escaped character. -/
def escapedTail (n : Nat) : Nat → List Char → Option (Nat × List Char)
  | 0, cs => some (n, cs)
  | left + 1, '%' :: cs => do
    let (b, cs) ← escapedByte? cs
    if b / 64 = 2 then escapedTail (64 * n + b % 64) left cs else none
  | _ + 1, _ => none

/-- The character that escapes write, behind the first percent sign. -/
def escapedChar? (cs : List Char) : Option (Char × List Char) := do
  let (b, cs) ← escapedByte? cs
  let (n, cs) ←
    if b < 0x80 then some (b, cs)
    else if b / 32 = 6 then escapedTail (b % 32) 1 cs
    else if b / 16 = 14 then escapedTail (b % 16) 2 cs
    else if b / 8 = 30 then escapedTail (b % 8) 3 cs
    else none
  some (Char.ofNat n, cs)

/-- Undoes the escapes of a tag. -/
def unescapeTag : List Char → Nat → Option (List Char)
  | [], _ => some []
  | _, 0 => none
  | '%' :: cs, fuel + 1 => do
    let (c, cs) ← escapedChar? cs
    (unescapeTag cs fuel).map (c :: ·)
  | c :: cs, fuel + 1 => (unescapeTag cs fuel).map (c :: ·)

/-- Reads the characters of a tag. -/
def takeTagText (uri : Bool) (p : Cursor) : Option (List Char × Cursor) := do
  let (raw, p) := p.takeWhile (isTagChar uri)
  let text ← unescapeTag raw raw.length
  some (text, p)

/-- Reads a directive behind its percent sign. -/
def takeDirective (p : Cursor) : Option (Token × Cursor) := do
  let (name, p) := p.takeWhile isNameChar
  if !p.atGap then none
  else
    let (t, p) ←
      if name = "YAML".toList then do
        let (major, p) ← takeVersion (p.skipWhile isBlank)
        if !p.sees (· = '.') then none
        else
          let (minor, p) ← takeVersion (p.skip 1)
          some (Token.versionDirective major minor, p)
      else if name = "TAG".toList then do
        let (handle, p) ← takeHandle true (p.skipWhile isBlank)
        if !p.sees isBlank then none
        else
          let (start, p) ← takeTagText true (p.skipWhile isBlank)
          if start.isEmpty || !p.atGap then none else some (Token.tagDirective handle start, p)
      else none
    some (t, ← Scalar.headerEnd p)

/-! ### Names and tags -/

/-- Reads the name of an anchor or alias behind its mark. -/
def takeName (p : Cursor) : Option (List Char × Cursor) :=
  let (name, q) := p.takeWhile isNameChar
  if name.isEmpty then none
  else if q.atGap || q.sees ("?:,]\x7d%@\x60".toList.contains ·) then some (name, q)
  else none

/-- Reads a tag from its mark on. -/
def takeTag (p : Cursor) : Option (Token × Cursor) :=
  match p.rest with
  | '!' :: '<' :: _ => do
    let (text, p) ← takeTagText true (p.skip 2)
    if text.isEmpty || !p.sees (· = '>') then none else some (.tag [] text, p.skip 1)
  | _ => do
    let (handle, p) ← takeHandle false p
    if 1 < handle.length && handle.getLast? = some '!' then
      let (suffix, p) ← takeTagText false p
      if suffix.isEmpty then none else some (.tag handle suffix, p)
    else
      let (more, p) ← takeTagText false p
      let suffix := handle.tail ++ more
      some (if suffix.isEmpty then .tag [] ['!'] else .tag ['!'] suffix, p)

/-! ### Steps -/

/-- Reads a directive. -/
def directive : Option Lexer := do
  let l ← (l.unroll none).dropKey
  let (t, p) ← takeDirective (l.cursor.skip 1)
  some { (l.push t).allowKey false with cursor := p }

/-- Reads the mark of a document's start or end. -/
def documentMark (t : Token) : Option Lexer := do
  let l ← (l.unroll none).dropKey
  some ((l.mark t 3).allowKey false)

/-- Reads the end of the text. -/
def streamEnd : Option Lexer := do
  let l ← (l.unroll none).dropKey
  some (l.push .streamEnd)

/-- Reads the start of a flow collection. -/
def flowStart (t : Token) : Option Lexer := do
  let l ← l.saveKey
  some ({ l.mark t 1 with keys := none :: l.keys }.allowKey true)

/-- Reads the end of a flow collection. -/
def flowEnd (t : Token) : Option Lexer := do
  let l ← l.dropKey
  some ({ l.mark t 1 with keys := if l.inFlow then l.keys.tail else l.keys }.allowKey false)

/-- Reads a comma of a flow collection. -/
def comma : Option Lexer := do
  let l ← l.dropKey
  some ((l.mark .flowComma 1).allowKey true)

/-- Starts a block collection here, if a key or an item may stand here. -/
def startBlock (t : Token) : Option Lexer :=
  if l.inFlow then some l
  else if l.keyAllowed then some (l.roll l.cursor.column l.tokens.size t)
  else none

/-- Reads the mark of an item. -/
def item : Option Lexer := do
  let l ← (← l.startBlock .blockSequenceStart).dropKey
  some ((l.mark .blockItem 1).allowKey true)

/-- Reads the mark of a key. -/
def explicitKey : Option Lexer := do
  let l ← (← l.startBlock .blockMappingStart).dropKey
  some ((l.mark .key 1).allowKey (!l.inFlow))

/-- Reads the mark of a value, in front of which a simple key may stand. -/
def valueMark : Option Lexer :=
  match l.keys with
  -- A simple key was kept: its tokens are already there, so those of the entry go in front of them.
  | some k :: rest =>
    let l := { l with tokens := l.tokens.insertIdxIfInBounds k.place .key, keys := none :: rest }
    some (((l.roll k.column k.place .blockMappingStart).mark .value 1).allowKey false)
  | _ => do
    let l ← l.startBlock .blockMappingStart
    some ((l.mark .value 1).allowKey (!l.inFlow))

/-- Reads the name of an anchor or alias. -/
def name (t : List Char → Token) : Option Lexer := do
  let l ← l.saveKey
  let (name, p) ← takeName (l.cursor.skip 1)
  some { (l.push (t name)).allowKey false with cursor := p }

/-- Reads a tag. -/
def tagged : Option Lexer := do
  let l ← l.saveKey
  let (t, p) ← takeTag l.cursor
  if p.atGap || (l.inFlow && p.sees (· = ',')) then
    some { (l.push t).allowKey false with cursor := p }
  else none

/-- Reads a block scalar. -/
def blockScalar (style : ScalarStyle) : Option Lexer := do
  let l ← l.dropKey
  let s ← Scalar.block (style = .literal) l.floor (l.cursor.skip 1)
  some { (l.push (.scalar s.text style)).allowKey true with cursor := s.cursor }

/-- Reads a scalar in quotes. -/
def quotedScalar (style : ScalarStyle) : Option Lexer := do
  let l ← l.saveKey
  let s ← Scalar.quoted (style = .doubleQuoted) (l.cursor.skip 1)
  some { (l.push (.scalar s.text style)).allowKey false with cursor := s.cursor }

/-- Reads a plain scalar. -/
def plainScalar : Option Lexer := do
  let l ← l.saveKey
  let s ← Scalar.plain l.inFlow l.floor l.cursor
  some { (l.push (.scalar s.text .plain)).allowKey s.broken with cursor := s.cursor }

/-- Whether a plain scalar may start with a character in front of others. -/
def startsPlain (c : Char) (rest : List Char) : Bool :=
  (!isGap c && !"-?:,[]\x7b\x7d#&*!|>\x27\x22%@\x60".toList.contains c) ||
    (c = '-' && !rest.head?.any isBlank) ||
    (!l.inFlow && (c = '?' || c = ':') && !endsWord rest)

/-- Reads the token of a line's first column that is none elsewhere. -/
def margin? : Option (Option Lexer) :=
  if l.cursor.column ≠ 0 then none
  else
    match l.cursor.rest with
    | '%' :: _ => some l.directive
    | '-' :: _ => if l.cursor.atMark then some (l.documentMark .documentStart) else none
    | '.' :: _ => if l.cursor.atMark then some (l.documentMark .documentEnd) else none
    | _ => none

/-- Reads the token that starts with a character. -/
def read (c : Char) (rest : List Char) : Option Lexer :=
  let opens := endsWord rest
  match c with
  | '[' => l.flowStart .flowSequenceStart
  | '\x7b' => l.flowStart .flowMappingStart
  | ']' => l.flowEnd .flowSequenceEnd
  | '\x7d' => l.flowEnd .flowMappingEnd
  | ',' => l.comma
  | '*' => l.name .alias
  | '&' => l.name .anchor
  | '!' => l.tagged
  | '\x27' => l.quotedScalar .singleQuoted
  | '\x22' => l.quotedScalar .doubleQuoted
  | _ =>
    if c = '-' && opens then l.item
    else if c = '?' && (l.inFlow || opens) then l.explicitKey
    else if c = ':' && (l.inFlow || opens) then l.valueMark
    else if c = '|' && !l.inFlow then l.blockScalar .literal
    else if c = '>' && !l.inFlow then l.blockScalar .folded
    else if l.startsPlain c rest then l.plainScalar
    else none

/-- Reads the next token, and perhaps ends of collections in front of it. -/
def step : Option Lexer := do
  let l ← (l.skipGaps (l.cursor.rest.length + 1)).dropStaleKeys
  let l := l.unroll (some l.cursor.column)
  match l.margin? with
  | some r => r
  | none =>
    match l.cursor.rest with
    | [] => l.streamEnd
    | c :: rest => l.read c rest

/-- Reads tokens up to the end of the text. -/
def run : Lexer → Nat → Option (Array Token)
  | _, 0 => none
  | l, fuel + 1 => do
    let l ← l.step
    if l.tokens.back? = some .streamEnd then some l.tokens else run l fuel

end Lexer

/-- The tokens of a text. -/
def Token.ofText? (s : String) : Option (List Token) := do
  let cs := s.toList
  if cs.all isAllowed then
    let tokens ← Lexer.run ⟨.start cs, #[], [], [none], true⟩ (cs.length + 2)
    some tokens.toList
  else none

end ChainGauge.Yaml
