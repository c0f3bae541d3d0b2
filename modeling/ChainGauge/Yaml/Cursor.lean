/-!
# Places in a text

A cursor is what is left of a text together with the place where it stands: the number of the line,
the column in it, which counts characters, and the number of bytes before it. Carriage return and
line feed together break one line, and every break but the two separators of paragraphs and lines
reads as a line feed.
-/

namespace ChainGauge.Yaml

/-- A place in a text. -/
structure Cursor where
  rest : List Char
  line : Nat
  column : Nat
  index : Nat
  deriving Repr

/-- Whether a character breaks a line. -/
def isBreak (c : Char) : Bool :=
  c = '\n' || c = '\r' || c = '\u0085' || c = '\u2028' || c = '\u2029'

/-- Whether a character is a space or a tabulator. -/
def isBlank (c : Char) : Bool :=
  c = ' ' || c = '\t'

/-- Whether a character ends a word. -/
def isGap (c : Char) : Bool :=
  isBlank c || isBreak c

/-- Whether a word ends here: the text does, or a blank or a break follows. -/
def endsWord : List Char → Bool
  | [] => true
  | c :: _ => isGap c

/-- Whether a character may stand in a name. -/
def isNameChar (c : Char) : Bool :=
  c.isAlphanum || c = '_' || c = '-'

/-- Whether a character may stand in a document. -/
def isAllowed (c : Char) : Bool :=
  c = '\t' || c = '\n' || c = '\r' || (' ' ≤ c && c ≤ '~') || c = '\u0085' ||
    ('\u00a0' ≤ c && c ≠ '\ufffe' && c ≠ '\uffff')

namespace Cursor

/-- The start of a text. -/
def start (cs : List Char) : Cursor :=
  ⟨cs, 0, 0, 0⟩

variable (p : Cursor)

/-- Whether a word ends here. -/
def atGap : Bool :=
  endsWord p.rest

/-- Whether the next character passes a test. -/
def sees (test : Char → Bool) : Bool :=
  p.rest.head?.any test

/-- Goes on by some characters of the same line. -/
def skip (n : Nat) : Cursor :=
  let bytes := (p.rest.take n).foldl (fun size c => size + c.utf8Size) 0
  ⟨p.rest.drop n, p.line, p.column + n, p.index + bytes⟩

/-- The characters from here on that pass a test, none of which breaks a line. -/
def takeWhile (test : Char → Bool) : List Char × Cursor :=
  let word := p.rest.takeWhile test
  (word, p.skip word.length)

/-- Goes on behind the characters that pass a test. -/
def skipWhile (test : Char → Bool) : Cursor :=
  (p.takeWhile test).2

/-- The text of a break and the start of the next line; nothing where there is no break. -/
def takeBreak : List Char × Cursor :=
  match p.rest with
  | '\r' :: '\n' :: rest => (['\n'], ⟨rest, p.line + 1, 0, p.index + 2⟩)
  | c :: rest =>
    let next : Cursor := ⟨rest, p.line + 1, 0, p.index + c.utf8Size⟩
    if c = '\u2028' || c = '\u2029' then ([c], next)
    else if isBreak c then (['\n'], next)
    else ([], p)
  | [] => ([], p)

/-- Whether a line starts here with three characters and a gap that mark a document. -/
def atMark : Bool :=
  p.column = 0 &&
    match p.rest with
    | '-' :: '-' :: '-' :: rest | '.' :: '.' :: '.' :: rest => endsWord rest
    | _ => false

end Cursor

end ChainGauge.Yaml
