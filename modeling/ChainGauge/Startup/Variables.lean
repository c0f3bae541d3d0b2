import ChainGauge.Text.Split

/-!
# Files of variables

A file can give variables that the environment lacks, a line each: a name, a sign of equality and a
value. In single quotes a value is taken as it stands. Elsewhere a backslash takes the meaning from
the next character, and a dollar sign stands in front of the name of a variable whose value is meant,
perhaps in braces. Quotes may go on over the end of a line. A hash sign behind a blank starts a
comment. Lines behind one that cannot be read do not count.
-/

namespace ChainGauge.Variables

/-! ### Lines -/

/-- What the characters so far say about the end of a line. -/
inductive Spot where
  | outside
  /-- Behind a blank, where a comment may start. -/
  | blank
  | escape
  | single
  | singleEscape
  | double
  | doubleEscape
  deriving DecidableEq, Repr

/-- The spot behind a character outside of quotes. -/
def Spot.opened (c : Char) : Spot :=
  if c = '\\' then .escape else if c = '"' then .double else if c = '\'' then .single else .outside

/-- The spot behind a character; `none` where a comment starts. -/
def Spot.next (c : Char) : Spot → Option Spot
  | .outside =>
    some (if Text.isBlank c ∧ c ≠ '\n' ∧ c ≠ '\r' then .blank else opened c)
  | .blank => if c = '#' then none else some (opened c)
  | .escape => some .outside
  | .single => some (if c = '\\' then .singleEscape else if c = '\'' then .outside else .single)
  | .singleEscape => some .single
  | .double => some (if c = '\\' then .doubleEscape else if c = '"' then .outside else .double)
  | .doubleEscape => some .double

/-- The characters in front of a comment, and the spot behind them if there is none. -/
def uncommented (s : Spot) : List Char → List Char × Option Spot
  | [] => ([], some s)
  | c :: cs =>
    match s.next c with
    | none => ([], none)
    | some s => let (front, spot) := uncommented s cs; (c :: front, spot)

/-- Whether a line is a comment as a whole. -/
def isComment (line : List Char) : Bool :=
  (line.dropWhile Text.isBlank).head? = some '#'

/-- Puts lines together over whose end quotes go on; `front` is what is open so far. A line whose
quotes are open at the end of the file is `none`. -/
def joined (s : Spot) (front : List Char) : List (List Char) → List (Option (List Char))
  | [] => []
  | [last] =>
    if last.isEmpty then if s = .outside then [] else [none]
    else if front.isEmpty ∧ isComment last then []
    else
      match uncommented s last with
      | (line, none) | (line, some .outside) => [some (front ++ line)]
      | _ => [none]
  | line :: rest =>
    if front.isEmpty ∧ isComment line then joined .outside [] rest
    else
      match uncommented s (line ++ ['\n']) with
      | (line, none) | (line, some .outside) => some (front ++ line) :: joined .outside [] rest
      | (line, some s) => joined s (front ++ line) rest

/-! ### Values -/

/-- A piece of a value. -/
inductive Piece where
  | char (c : Char)
  /-- The value of another variable. -/
  | reference (name : String)
  deriving DecidableEq, Repr

/-- Where in a value a character stands; `quoted` tells whether double quotes are open. -/
inductive Place where
  | text (quoted : Bool)
  | escape (quoted : Bool)
  | single
  /-- In a name behind a dollar sign. -/
  | name (quoted : Bool) (front : List Char)
  /-- In a name in braces. -/
  | braces (quoted : Bool) (front : List Char)
  /-- Behind the value, where only a comment may stand. -/
  | behind
  deriving DecidableEq, Repr

/-- Whether a character may be in a name behind a dollar sign. -/
def isNameChar (c : Char) : Bool :=
  c.isAlphanum || 128 ≤ c.toNat

/-- The pieces of a value from a place on. -/
def pieces : Place → List Char → Option (List Piece)
  | .text false, [] | .escape false, [] | .behind, [] => some []
  | .name false front, [] => some [.reference (String.ofList front)]
  | _, [] => none
  | .text quoted, c :: cs =>
    if c = '$' then pieces (.name quoted []) cs
    else if c = '\\' then pieces (.escape quoted) cs
    else if c = '"' then pieces (.text !quoted) cs
    else if quoted then (pieces (.text true) cs).map (.char c :: ·)
    else if c = '\'' then pieces .single cs
    else if c = ' ' ∨ c = '\t' then pieces .behind cs
    else (pieces (.text false) cs).map (.char c :: ·)
  | .escape quoted, c :: cs =>
    if "\\'\"$ ".toList.contains c then (pieces (.text quoted) cs).map (.char c :: ·)
    else if c = 'n' then (pieces (.text quoted) cs).map (.char '\n' :: ·)
    else none
  | .single, c :: cs =>
    if c = '\'' then pieces (.text false) cs else (pieces .single cs).map (.char c :: ·)
  | .name quoted front, c :: cs =>
    if isNameChar c then pieces (.name quoted (front ++ [c])) cs
    else if c = '\x7b' ∧ front.isEmpty then pieces (.braces quoted []) cs
    else if c = '$' then
      (pieces (.name quoted []) cs).map (.reference (String.ofList front) :: ·)
    else
      -- The character that ends a name stands for itself, even a quote.
      (pieces (.text quoted) cs).map fun ps => .reference (String.ofList front) :: .char c :: ps
  | .braces quoted front, c :: cs =>
    if c = '\x7d' then
      (pieces (.text quoted) cs).map (.reference (String.ofList front) :: ·)
    else pieces (.braces quoted (front ++ [c])) cs
  | .behind, c :: cs =>
    if c = ' ' ∨ c = '\t' then pieces .behind cs else if c = '#' then some [] else none

/-- A variable with its value. -/
structure Definition where
  name : String
  value : List Piece
  deriving DecidableEq, Repr

/-- Takes a name from the front of a line, and the blanks behind it. -/
def takeName? (cs : List Char) : Option (String × List Char) :=
  match cs.span fun c => c.isAlphanum || c == '_' || c == '.' with
  | (c :: name, rest) =>
    if c.isAlpha ∨ c = '_' then some (String.ofList (c :: name), rest.dropWhile Text.isBlank)
    else none
  | _ => none

/-- Reads what stands behind a name. -/
def readValue (name : String) : List Char → Option Definition
  | '=' :: cs =>
    let cs := cs.dropWhile Text.isBlank
    if cs.isEmpty ∨ cs.head? = some '#' then some ⟨name, []⟩
    else (pieces (.text false) cs).map fun value => ⟨name, value⟩
  | _ => none

/-- Reads a line; `none` if that fails, and nothing within for a line without a definition. The word
`export` may stand in front of a name, and is one itself. -/
def readLine (line : List Char) : Option (Option Definition) :=
  let cs := ((line.reverse.dropWhile Text.isBlank).reverse).dropWhile Text.isBlank
  if cs.isEmpty ∨ cs.head? = some '#' then some none
  else
    match takeName? cs with
    | none => none
    | some (name, rest) =>
      if name = "export" ∧ rest.head? ≠ some '=' then
        match takeName? rest with
        | none => none
        | some (name, rest) => (readValue name rest).map some
      else (readValue name rest).map some

/-- The definitions of lines, up to the first line that cannot be read. -/
def definitionsOf : List (Option (List Char)) → List Definition
  | some line :: rest =>
    match readLine line with
    | none => []
    | some d => d.toList ++ definitionsOf rest
  | _ => []

/-- The definitions of a file. A mark of the order of bytes in front does not count. -/
def ofText (s : String) : List Definition :=
  let cs := match s.toList with
    | '\ufeff' :: cs => cs
    | cs => cs
  definitionsOf (joined .outside [] (Text.splitAt '\n' cs))

/-! ### The environment -/

/-- The text of a piece. -/
def Piece.text (environment : String → Option String) : Piece → String
  | .char c => c.toString
  | .reference name => (environment name).getD ""

/-- Adds a variable, unless there is one of its name. -/
def Definition.addTo (environment : String → Option String) (d : Definition) :
    String → Option String :=
  let value := String.join (d.value.map (Piece.text environment))
  fun name => if name = d.name then (environment name).or (some value) else environment name

/-- The environment with variables that it lacks. -/
def extend (environment : String → Option String) (ds : List Definition) :
    String → Option String :=
  ds.foldl Definition.addTo environment

/-- The variables that definitions speak of. -/
def mentioned (ds : List Definition) : List String :=
  ds.flatMap fun d => d.name :: d.value.filterMap fun
    | .char _ => none
    | .reference name => some name

/-- The name of a file of variables. -/
def fileName : String := ".env"

end ChainGauge.Variables
