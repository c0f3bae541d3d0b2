import ChainGauge.Net.Idna.Direction
import ChainGauge.Net.Idna.Joiner
import ChainGauge.Net.Idna.Mapping
import ChainGauge.Net.Punycode
import ChainGauge.Text.Composed

/-!
# Domain names in ASCII

Each character of a domain name is brought to the form in which names are compared, and the name is
split into labels. A label beyond ASCII has an ASCII form behind the mark `xn--`; a name may have
labels in either form. Refused are names with characters that would end or confuse a host name, with
labels that could be taken for others, and with marked labels that do not stand for one beyond ASCII.
-/

namespace ChainGauge.Idna

/-- The characters of ASCII that no host name may contain. -/
def isDenied (c : Char) : Bool :=
  c.toNat ≤ 32 || c.toNat == 127 || "%#/:<>?@[\\]^|".toList.contains c

/-- The form in which a name is compared. -/
def normalForm? (name : List Char) : Option (List Char) :=
  (name.mapM ofChar?).map fun texts => Composed.ofText texts.flatten

/-- A label of a name. -/
structure Label where
  /-- The characters for which it stands. -/
  text : List Char
  ascii : List Char

namespace Label

/-- The mark of a label in its ASCII form. -/
def mark : List Char :=
  "xn--".toList

/-- The most characters of a label that is brought into its ASCII form. -/
def maxLength : Nat := 1000

/-- The most characters behind the mark of a label. -/
def maxMarkedLength : Nat := 2000

/-- Whether the characters of a label may be together in a name. -/
def isFit (text : List Char) : Bool :=
  !text.head?.any Marks.isMark && joinersFit text

/-- The label in ASCII form whose mark is in front of the given characters. It must be what the label
for which it stands is written as. -/
def ofMarked? (cs : List Char) : Option Label :=
  if cs.getLast? = some '-' ∨ maxMarkedLength < cs.length then none
  else
    match Punycode.decode? cs with
    | none => none
    | some text =>
      if text.any (128 ≤ ·.toNat) ∧ normalForm? text = some text ∧ isFit text ∧
          ¬ mark.isPrefixOf text then
        some ⟨text, mark ++ cs⟩
      else none

/-- Reads a label in the form in which names are compared. -/
def ofText? (cs : List Char) : Option Label :=
  if mark.isPrefixOf cs then ofMarked? (cs.drop mark.length)
  else if cs.all (·.toNat < 128) then some ⟨cs, cs⟩
  else if isFit cs ∧ cs.length ≤ maxLength then some ⟨cs, mark ++ Punycode.encode cs⟩
  else none

end Label

/-- The ASCII form of a domain name. -/
def toAscii (name : List Char) : Option (List Char) := do
  let cs ← normalForm? name
  let labels ← (Text.splitAt '.' cs).mapM Label.ofText?
  let ascii := List.intercalate ['.'] (labels.map (·.ascii))
  if haveDirections (labels.map (·.text)) ∧ ¬ ascii.any isDenied then some ascii else none

end ChainGauge.Idna
