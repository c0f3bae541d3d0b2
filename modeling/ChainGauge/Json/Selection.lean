import ChainGauge.Json.Parser

/-!
# Reading the members that count

Who wants some members of an object only skips the others. What is skipped must be well formed, but
its numbers may be of any size, its escapes may name half a pair of surrogates, and it may nest at
any depth.
-/

namespace ChainGauge.Json

/-- The characters behind a number, whose sign is already read. -/
def skipNumber (cs : List Char) : Option (List Char) := do
  let (integer, rest) := takeDigits cs
  if integer.isEmpty || (integer.head? == some 0 && 1 < integer.length) then none
  else
    let (_, rest) ← takeFraction rest
    let (_, rest) ← takeExponent rest
    some rest

/-- The characters behind a string, whose opening quote is already read. -/
def skipString : List Char → Option (List Char)
  | [] => none
  | '\x22' :: rest => some rest
  | '\\' :: 'u' :: a :: b :: c :: d :: rest =>
    if [a, b, c, d].all fun x => (hexValue? x).isSome then skipString rest else none
  | '\\' :: c :: rest => if "\x22\\/bfnrt".toList.contains c then skipString rest else none
  | c :: rest => if c = '\\' ∨ c.toNat < 0x20 then none else skipString rest

mutual
/-- The characters behind a value. The fuel bounds the number of calls. -/
def skipValue : Nat → List Char → Option (List Char)
  | 0, _ => none
  | fuel + 1, cs =>
    match skipBlanks cs with
    | 'n' :: rest => expect "ull".toList rest
    | 't' :: rest => expect "rue".toList rest
    | 'f' :: rest => expect "alse".toList rest
    | '\x22' :: rest => skipString rest
    | '-' :: rest => skipNumber rest
    | '[' :: rest =>
      match skipBlanks rest with
      | ']' :: rest => some rest
      | rest => skipItems fuel rest
    | '\x7b' :: rest =>
      match skipBlanks rest with
      | '\x7d' :: rest => some rest
      | rest => skipMembers fuel rest
    | rest => skipNumber rest

/-- The characters behind the items of an array and its closing bracket. -/
def skipItems : Nat → List Char → Option (List Char)
  | 0, _ => none
  | fuel + 1, cs => do
    match skipBlanks (← skipValue fuel cs) with
    | ',' :: rest => skipItems fuel rest
    | ']' :: rest => some rest
    | _ => none

/-- The characters behind the members of an object and its closing brace. -/
def skipMembers : Nat → List Char → Option (List Char)
  | 0, _ => none
  | fuel + 1, cs =>
    match skipBlanks cs with
    | '\x22' :: rest => do
      match skipBlanks (← skipString rest) with
      | ':' :: rest =>
        match skipBlanks (← skipValue fuel rest) with
        | ',' :: rest => skipMembers fuel rest
        | '\x7d' :: rest => some rest
        | _ => none
      | _ => none
    | _ => none
end

/-- The items of an array and its closing bracket, each read by `take`. The fuel bounds the number of
items. -/
def takeEach (take : List Char → Option (Json × List Char)) :
    Nat → List Char → Option (List Json × List Char)
  | 0, _ => none
  | fuel + 1, cs => do
    let (j, rest) ← take cs
    match skipBlanks rest with
    | ',' :: rest => (takeEach take fuel rest).map fun (js, r) => (j :: js, r)
    | ']' :: rest => some ([j], rest)
    | _ => none

/-- The members of an object that `take` keeps, up to the closing brace. `take` reads a member by its
name and gives nothing for one that does not count. The fuel bounds the number of members. -/
def takeChosen (take : String → List Char → Option (Option Json × List Char)) :
    Nat → List Char → Option (List (String × Json) × List Char)
  | 0, _ => none
  | fuel + 1, cs =>
    match skipBlanks cs with
    | '\x22' :: rest => do
      let (name, rest) ← takeString [] (rest.length + 1) rest
      match skipBlanks rest with
      | ':' :: rest =>
        let (kept, rest) ← take name rest
        let chosen := (kept.map (name, ·)).toList
        match skipBlanks rest with
        | ',' :: rest => (takeChosen take fuel rest).map fun (ms, r) => (chosen ++ ms, r)
        | '\x7d' :: rest => some (chosen, rest)
        | _ => none
      | _ => none
    | _ => none

/-- Which parts of a value count. -/
inductive Shape where
  /-- All of it. -/
  | whole
  /-- Of a record, certain fields, and of each the parts that count in its shape. -/
  | record (fields : List (String × Shape))
  /-- Of an object, every member, and of each the parts that count in its shape. -/
  | table (member : Shape)
  /-- Of an array, every item, and of each the parts that count in its shape. -/
  | list (item : Shape)

/-- A record of which certain fields count, all of each. -/
def Shape.flat (names : List String) : Shape :=
  .record (names.map (·, .whole))

mutual
/-- The value at the front, without the members that do not count. Only what counts nests at most
`depth` deep. The fuel bounds the number of calls. -/
def takeShape (fuel : Nat) : Shape → Nat → List Char → Option (Json × List Char)
  | .whole, depth, cs => takeValue fuel depth cs
  | .record fields, depth, cs =>
    match skipBlanks cs with
    | '\x7b' :: rest =>
      match skipBlanks rest with
      | '\x7d' :: rest => some (.object [], rest)
      | rest =>
        (takeChosen (takeField fuel fields (depth - 1)) fuel rest).map fun (ms, r) => (.object ms, r)
    -- A record may be written as an array, too, its fields in turn.
    | '[' :: rest =>
      match skipBlanks rest with
      | ']' :: rest => some (.array [], rest)
      | rest => (takeFields fuel fields (depth - 1) rest).map fun (js, r) => (.array js, r)
    | rest => takeValue fuel depth rest
  | .table member, depth, cs =>
    match skipBlanks cs with
    | '\x7b' :: rest =>
      match skipBlanks rest with
      | '\x7d' :: rest => some (.object [], rest)
      | rest =>
        let take _ rest := (takeShape fuel member (depth - 1) rest).map fun (j, r) => (some j, r)
        (takeChosen take fuel rest).map fun (ms, r) => (.object ms, r)
    | rest => takeValue fuel depth rest
  | .list item, depth, cs =>
    match skipBlanks cs with
    | '[' :: rest =>
      match skipBlanks rest with
      | ']' :: rest => some (.array [], rest)
      | rest =>
        (takeEach (takeShape fuel item (depth - 1)) fuel rest).map fun (js, r) => (.array js, r)
    | rest => takeValue fuel depth rest

/-- The member of a name, if it is one of the fields. -/
def takeField (fuel : Nat) :
    List (String × Shape) → Nat → String → List Char → Option (Option Json × List Char)
  | [], _, _, cs => (skipValue fuel cs).map fun r => (none, r)
  | (field, shape) :: fields, depth, name, cs =>
    if field = name then (takeShape fuel shape depth cs).map fun (j, r) => (some j, r)
    else takeField fuel fields depth name cs

/-- The items that stand for the fields, and the closing bracket. -/
def takeFields (fuel : Nat) : List (String × Shape) → Nat → List Char → Option (List Json × List Char)
  | [], _, _ => none
  | (_, shape) :: fields, depth, cs => do
    let (j, rest) ← takeShape fuel shape depth cs
    match skipBlanks rest with
    | ',' :: rest => (takeFields fuel fields depth rest).map fun (js, r) => (j :: js, r)
    | ']' :: rest => some ([j], rest)
    | _ => none
end

/-- Reads a text that holds one value, without the members that do not count. -/
def select? (shape : Shape) (s : String) : Option Json :=
  let cs := s.toList
  match takeShape (2 * cs.length + 2) shape maxDepth cs with
  | some (j, rest) => if (skipBlanks rest).isEmpty then some j else none
  | none => none

end ChainGauge.Json
