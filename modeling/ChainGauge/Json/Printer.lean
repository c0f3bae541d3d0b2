import ChainGauge.Json.Value
import ChainGauge.Number.DecimalText
import ChainGauge.Text.Hex

/-!
# Writing JSON

No blanks; members in the order they stand; in strings the quote, the backslash and the controls
are escaped and nothing else. A double that is no number is written as null.
-/

namespace ChainGauge.Json

/-- A character inside a JSON string. -/
def escape (c : Char) : List Char :=
  if c = '\x22' then ['\\', '\x22']
  else if c = '\\' then ['\\', '\\']
  else if c = '\n' then ['\\', 'n']
  else if c = '\r' then ['\\', 'r']
  else if c = '\t' then ['\\', 't']
  else if c = '\x08' then ['\\', 'b']
  else if c = '\x0c' then ['\\', 'f']
  else if c.toNat < 0x20 then ['\\', 'u'] ++ (Hex.ofNat 4 c.toNat).toList
  else [c]

/-- A JSON string. -/
def renderString (s : String) : String :=
  String.ofList ('\x22' :: s.toList.flatMap escape ++ ['\x22'])

/-- A JSON number. -/
def renderNumber : JsonNumber → String
  | .whole n => toString n
  | .real x => (DecimalText.json x).getD "null"

mutual
/-- The text of a value. -/
def render : Json → String
  | .null => "null"
  | .bool true => "true"
  | .bool false => "false"
  | .number n => renderNumber n
  | .string s => renderString s
  | .array items => "[" ++ renderItems items ++ "]"
  | .object members => "\x7b" ++ renderMembers members ++ "\x7d"

/-- The items of an array with commas between them. -/
def renderItems : List Json → String
  | [] => ""
  | [j] => render j
  | j :: rest => render j ++ "," ++ renderItems rest

/-- The members of an object with commas between them. -/
def renderMembers : List (String × Json) → String
  | [] => ""
  | [(n, v)] => renderString n ++ ":" ++ render v
  | (n, v) :: rest => renderString n ++ ":" ++ render v ++ "," ++ renderMembers rest
end

end ChainGauge.Json
