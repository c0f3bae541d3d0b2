import ChainGauge.Text.Split
import ChainGauge.Yaml.Node

/-!
# Values of a document

A scalar has no kind of its own: a reader that wants a text takes it as written, one that wants a
boolean takes the words for it where they are written plain. What is left out reads as an empty
sequence or mapping. A repetition is followed where its node is wanted; as nodes may repeat those
around them, it may be followed only so often.
-/

namespace ChainGauge.Yaml

/-- The reading of a document, which counts the repetitions that were followed. -/
abbrev Reading (α : Type) := ReaderT Document (StateT Nat Option) α

/-- Reads a value from a node. -/
abbrev Reader (α : Type) := Node → Reading α

namespace Reader

/-- The node that a node stands for. The repetitions that are followed are at most a hundred times
as many as the document has marks. -/
def follow : Node → Reading Node
  | .repeated number => fun d count =>
    if 100 * d.marks < count + 1 then none
    else (d.anchored.lookup number).map (·, count + 1)
  | n => pure n

/-- Reads a scalar as a text. -/
def text : Reader String := fun n => do
  match ← follow n with
  | .scalar s _ _ => pure s
  | _ => failure

/-- The tag of a kind of scalars. -/
def kindTag (kind : String) : String :=
  "tag:yaml.org,2002:" ++ kind

/-- The boolean that a word stands for. -/
def flagOf? (s : String) : Option Bool :=
  if ["true", "True", "TRUE"].contains s then some true
  else if ["false", "False", "FALSE"].contains s then some false
  else none

/-- The boolean that a scalar stands for. -/
def scalarFlag? : Node → Option Bool
  | .scalar s .plain _ => flagOf? s
  | .scalar s .literal tag => if tag = some (kindTag "bool") then flagOf? s else none
  | _ => none

/-- Reads a boolean. -/
def flag : Reader Bool := fun n => do
  match scalarFlag? (← follow n) with
  | some b => pure b
  | none => failure

/-- Whether a text stands for nothing. -/
def isNull (s : String) : Bool :=
  ["null", "Null", "NULL", "~"].contains s

/-- Reads a value that may be left out or null. -/
def optional {α : Type} (read : Reader α) : Reader (Option α) := fun n => do
  match ← follow n with
  | .scalar s .plain tag =>
    if tag = some (kindTag "null") then if isNull s then pure none else failure
    else if tag.isNone && (s.isEmpty || isNull s) then pure none
    else some <$> read (.scalar s .plain tag)
  | n => some <$> read n

/-- Reads a sequence. -/
def list {α : Type} (read : Reader α) : Reader (List α) := fun n => do
  match ← follow n with
  | .sequence items => items.mapM read
  | .scalar "" .plain _ => pure []
  | _ => failure

/-- Reads digits as a number below `2 ^ 64`. -/
def digits? (base : Nat) (cs : List Char) : Option Nat := do
  if cs.isEmpty then none
  else
    let values ← cs.mapM Scalar.hexDigit?
    if values.all (· < base) then
      let n := values.foldl (fun acc d => base * acc + d) 0
      if n < 0x10000000000000000 then some n else none
    else none

/-- Whether digits are no number, because a zero stands in front of them. -/
def isPadded : List Char → Bool
  | '0' :: c :: rest => (c :: rest).all Char.isDigit
  | _ => false

/-- Whether a text is a zero, as it may stand behind a minus sign. -/
def isZero : List Char → Bool
  | ['0'] => true
  | '0' :: m :: rest => ['x', 'o', 'b'].contains m && !rest.isEmpty && rest.all (· = '0')
  | _ => false

/-- The natural number below `2 ^ 64` that a plain text stands for. -/
def natural? (s : String) : Option Nat :=
  let cs :=
    match s.toList with
    | '+' :: rest => rest
    | cs => cs
  let signed : Bool := cs.head?.any fun c => c = '+' || c = '-'
  let based (mark : Char) (base : Nat) : Option Nat :=
    match cs with
    | '0' :: m :: rest =>
      if m = mark && !rest.head?.any (fun c => c = '+' || c = '-') then digits? base rest else none
    | _ => none
  (based 'x' 16).or <| (based 'o' 8).or <| (based 'b' 2).or <|
    match s.toList with
    | '-' :: rest => if isZero rest then some 0 else none
    | _ => if signed || isPadded cs then none else digits? 10 cs

/-- The entries of a mapping whose keys are scalars. -/
def entries : Reader (List (String × Node)) := fun n => do
  match ← follow n with
  | .mapping es => es.mapM fun (k, v) => (·, v) <$> text k
  | .scalar "" .plain _ => pure []
  | _ => failure

/-- The entries of a record: no name that it knows comes twice. -/
def record (names : List String) : Reader (List (String × Node)) := fun n => do
  let es ← entries n
  let known := (es.map (·.1)).filter names.contains
  if known.Nodup then pure es else failure

/-- The value of a field, or another value where there is none. -/
def field {α : Type} (es : List (String × Node)) (name : String) (read : Reader α) (default : α) :
    Reading α :=
  match es.lookup name with
  | some n => read n
  | none => pure default

/-- Reads a document. -/
def whole? {α : Type} (read : Reader α) (d : Document) : Option α :=
  ((read d.root).run d |>.run 0).map (·.1)

end Reader

end ChainGauge.Yaml
