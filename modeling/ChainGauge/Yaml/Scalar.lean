import ChainGauge.Yaml.Cursor

/-!
# Scalars

A scalar is written plain, in single or double quotes, or as a block of lines that is taken as it is
or folded. Where a scalar goes over several lines, a single break between two of them reads as a
space and further breaks stay.
-/

namespace ChainGauge.Yaml

/-- How a scalar is written. -/
inductive ScalarStyle where
  | plain
  | singleQuoted
  | doubleQuoted
  | literal
  | folded
  deriving DecidableEq, Repr

namespace Scalar

/-- What stands for a break and the empty lines behind it. -/
def joined (first others : List Char) : List Char :=
  if first = ['\n'] then if others.isEmpty then [' '] else others else first ++ others

/-- Skips blanks and empty lines and keeps their breaks. A tabulator before the column `floor` is
refused. `fuel` bounds the number of lines. -/
def skipLines (floor : Nat) (p : Cursor) (breaks : List Char) : Nat → Option (List Char × Cursor)
  | 0 => none
  | fuel + 1 =>
    let (blanks, q) := p.takeWhile isBlank
    if (blanks.take (floor - p.column)).contains '\t' then none
    else if q.sees isBreak then
      let (b, q) := q.takeBreak
      skipLines floor q (breaks ++ b) fuel
    else some (breaks, q)

/-- The text for the gap between two words, whether it breaks the line, and the place behind it. -/
def takeGap (floor : Nat) (p : Cursor) : Option (List Char × Bool × Cursor) := do
  let (blanks, q) := p.takeWhile isBlank
  if q.sees isBreak then
    let (first, q) := q.takeBreak
    let (others, q) ← skipLines floor q [] (q.rest.length + 1)
    some (joined first others, true, q)
  else some (blanks, false, q)

/-- A scalar that was read: its text, the place behind it, and whether a line was broken behind its
last character. -/
structure Taken where
  text : List Char
  cursor : Cursor
  broken : Bool

/-! ### Plain scalars -/

/-- Whether a character divides the entries of a flow collection. -/
def isFlowMark (c : Char) : Bool :=
  c = ',' || c = '[' || c = ']' || c = '\x7b' || c = '\x7d'

/-- The word of a plain scalar from here on. -/
def plainWord (flow : Bool) : List Char → Option (List Char)
  | [] => some []
  | c :: rest =>
    if isGap c then some []
    else if flow && c = ':' && rest.head?.any (fun d => isFlowMark d || d = '?') then none
    else if (c = ':' && endsWord rest) || (flow && isFlowMark c) then some []
    else (plainWord flow rest).map (c :: ·)

/-- Reads words and gaps of a plain scalar. -/
def plainFrom (flow : Bool) (floor : Nat) (done : List Char) (gap : List Char) (broken : Bool)
    (p : Cursor) : Nat → Option Taken
  | 0 => none
  | fuel + 1 =>
    if p.atMark || p.sees (· = '#') then some ⟨done, p, broken⟩
    else do
      let word ← plainWord flow p.rest
      if word.isEmpty then some ⟨done, p, broken⟩
      else
        let done := done ++ gap ++ word
        let p := p.skip word.length
        if p.sees isGap then
          let (gap, broken, p) ← takeGap floor p
          if !flow && p.column < floor then some ⟨done, p, broken⟩
          else plainFrom flow floor done gap broken p fuel
        else some ⟨done, p, false⟩

/-- Reads a plain scalar; outside flow collections its lines start at the column `floor` or behind
it. -/
def plain (flow : Bool) (floor : Nat) (p : Cursor) : Option Taken :=
  plainFrom flow floor [] [] false p (p.rest.length + 1)

/-! ### Quoted scalars -/

/-- The digit that a character stands for in base sixteen. -/
def hexDigit? (c : Char) : Option Nat :=
  if '0' ≤ c ∧ c ≤ '9' then some (c.toNat - 48)
  else if 'a' ≤ c ∧ c ≤ 'f' then some (c.toNat - 87)
  else if 'A' ≤ c ∧ c ≤ 'F' then some (c.toNat - 55)
  else none

/-- The character that digits number. -/
def numbered? (digits : List Char) : Option Char := do
  let values ← digits.mapM hexDigit?
  let n := values.foldl (fun acc d => 16 * acc + d) 0
  if n.isValidChar then some (Char.ofNat n) else none

/-- The character that a letter behind a backslash stands for. -/
def letterEscape? (c : Char) : Option Char :=
  [('0', '\x00'), ('a', '\x07'), ('b', '\x08'), ('t', '\t'), ('\t', '\t'), ('n', '\n'),
    ('v', '\x0b'), ('f', '\x0c'), ('r', '\r'), ('e', '\x1b'), (' ', ' '), ('\x22', '\x22'),
    ('/', '/'), ('\\', '\\'), ('N', '\u0085'), ('_', '\u00a0'), ('L', '\u2028'),
    ('P', '\u2029')].lookup c

/-- The character of an escape behind its backslash, and how many characters write it. -/
def escape? : List Char → Option (Char × Nat)
  | 'x' :: rest => do
    guard (2 ≤ rest.length)
    some (← numbered? (rest.take 2), 3)
  | 'u' :: rest => do
    guard (4 ≤ rest.length)
    some (← numbered? (rest.take 4), 5)
  | 'U' :: rest => do
    guard (8 ≤ rest.length)
    some (← numbered? (rest.take 8), 9)
  | c :: _ => (letterEscape? c).map (·, 1)
  | [] => none

/-- The rest of a word in quotes: its text, and whether it ends with an escaped break. -/
def quotedWord (double : Bool) (done : List Char) (p : Cursor) :
    Nat → Option (List Char × Bool × Cursor)
  | 0 => none
  | fuel + 1 =>
    match p.rest with
    | [] => some (done, false, p)
    | c :: rest =>
      if isGap c then some (done, false, p)
      else if double then
        if c = '\x22' then some (done, false, p)
        else if c = '\\' then
          if rest.head?.any isBreak then some (done, true, (p.skip 1).takeBreak.2)
          else do
            let (e, n) ← escape? rest
            quotedWord double (done ++ [e]) (p.skip (n + 1)) fuel
        else quotedWord double (done ++ [c]) (p.skip 1) fuel
      else
        match c, rest with
        | '\x27', '\x27' :: _ => quotedWord double (done ++ [c]) (p.skip 2) fuel
        | '\x27', _ => some (done, false, p)
        | _, _ => quotedWord double (done ++ [c]) (p.skip 1) fuel

/-- Reads words and gaps up to the closing quote. -/
def quotedFrom (double : Bool) (done : List Char) (p : Cursor) : Nat → Option Taken
  | 0 => none
  | fuel + 1 =>
    if p.atMark || p.rest.isEmpty then none
    else do
      let (done, escaped, p) ← quotedWord double done p (p.rest.length + 1)
      if !escaped && p.sees (· = if double then '\x22' else '\x27') then
        some ⟨done, p.skip 1, false⟩
      else
        let (gap, p) ←
          if escaped then skipLines 0 p [] (p.rest.length + 1)
          else (takeGap 0 p).map fun (gap, _, p) => (gap, p)
        quotedFrom double (done ++ gap) p fuel

/-- Reads a scalar behind its opening quote. -/
def quoted (double : Bool) (p : Cursor) : Option Taken :=
  quotedFrom double [] p (p.rest.length + 1)

/-! ### Blocks -/

/-- What becomes of the breaks at the end of a block. -/
inductive Chomping where
  | strip
  | clip
  | keep
  deriving DecidableEq, Repr

/-- The sign of a block's chomping. -/
def chompingOf? : Char → Option Chomping
  | '-' => some .strip
  | '+' => some .keep
  | _ => none

/-- The digit of a block's indentation; zero is refused. -/
def indentOf? (c : Char) : Option (Option Nat) :=
  if c = '0' then none else if c.isDigit then some (some (c.toNat - 48)) else some none

/-- The header of a block, in which sign and digit come in any order. -/
def blockHeader (p : Cursor) : Option (Chomping × Option Nat × Cursor) :=
  match p.rest with
  | [] => some (.clip, none, p)
  | c :: rest =>
    match chompingOf? c with
    | some chomping =>
      match rest with
      | [] => some (chomping, none, p.skip 1)
      | d :: _ => do
        let indent ← indentOf? d
        some (chomping, indent, p.skip (if indent.isSome then 2 else 1))
    | none => do
      match ← indentOf? c with
      | none => some (.clip, none, p)
      | some n =>
        match rest.head?.bind chompingOf? with
        | some chomping => some (chomping, some n, p.skip 2)
        | none => some (.clip, some n, p.skip 1)

/-- The end of a header: blanks, perhaps a comment, and a break. -/
def headerEnd (p : Cursor) : Option Cursor :=
  let p := p.skipWhile isBlank
  let p := if p.sees (· = '#') then p.skipWhile (fun c => !isBreak c) else p
  if p.rest.isEmpty then some p
  else if p.sees isBreak then some p.takeBreak.2
  else none

/-- Skips the indentation of a block, and empty lines, whose breaks are kept. Where the column of the
block is not known yet, the widest blank line counts as well. -/
def blockBreaks (indent : Option Nat) (widest : Nat) (breaks : List Char) (p : Cursor) :
    Nat → Option (List Char × Nat × Cursor)
  | 0 => none
  | fuel + 1 =>
    let spaces := (p.rest.takeWhile (· = ' ')).length
    let p := p.skip (indent.elim spaces fun n => min spaces (n - p.column))
    let widest := max widest p.column
    if indent.all (p.column < ·) && p.sees (· = '\t') then none
    else if p.sees isBreak then
      let (b, p) := p.takeBreak
      blockBreaks indent widest (breaks ++ b) p fuel
    else some (breaks, widest, p)

/-- Reads the lines of a block. `breaks` are the breaks in front of the next line, the first of them
apart in `first`; `blank` tells whether the line before starts with a blank. -/
def blockLines (literal : Bool) (indent : Nat) (done first breaks : List Char) (blank : Bool)
    (p : Cursor) : Nat → Option (List Char × List Char × List Char × Cursor)
  | 0 => none
  | fuel + 1 =>
    if p.column = indent ∧ !p.rest.isEmpty then do
      let nowBlank := p.sees isBlank
      let gap :=
        -- Folding joins two lines of text; next to a line that starts with a blank breaks stay.
        if !literal && first = ['\n'] && !blank && !nowBlank then
          if breaks.isEmpty then [' '] else breaks
        else first ++ breaks
      let (line, p) := p.takeWhile (fun c => !isBreak c)
      let (first, p) := p.takeBreak
      let (breaks, _, p) ← blockBreaks (some indent) 0 [] p (p.rest.length + 1)
      blockLines literal indent (done ++ gap ++ line) first breaks nowBlank p fuel
    else some (done, first, breaks, p)

/-- Reads a block behind its mark. `floor` is one more than the column of the collection around it,
zero where there is none. -/
def block (literal : Bool) (floor : Nat) (p : Cursor) : Option Taken := do
  let (chomping, given, p) ← blockHeader p
  let p ← headerEnd p
  let fixed := given.map (floor - 1 + ·)
  let (breaks, widest, p) ← blockBreaks fixed 0 [] p (p.rest.length + 1)
  let indent := fixed.getD (max widest (max floor 1))
  let (text, first, breaks, p) ←
    blockLines literal indent [] [] breaks false p (p.rest.length + 1)
  let ending :=
    match chomping with
    | .strip => []
    | .clip => first
    | .keep => first ++ breaks
  some ⟨text ++ ending, p, false⟩

end Scalar

end ChainGauge.Yaml
