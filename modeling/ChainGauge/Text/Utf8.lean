/-!
# Characters as bytes

A text is stored and sent as its UTF-8 bytes. `encode` writes a text, `decode` reads one and says
where the bytes stop being text: a sequence that no continuation can mend is *invalid*, one that
stops short at the end of the input is *incomplete*.
-/

namespace ChainGauge

/-- A byte string. -/
abbrev Bytes := List UInt8

namespace Utf8

/-- The bytes of a text. -/
def encode (s : String) : Bytes :=
  s.toList.flatMap String.utf8EncodeChar

/-- Why bytes are not text. -/
inductive Error where
  /-- `length` bytes from `index` on start no character. -/
  | invalid (length index : Nat)
  /-- The input ends inside the character that starts at `index`. -/
  | incomplete (index : Nat)
  deriving DecidableEq, Repr

/-- The wording of an error. -/
def Error.message : Error → String
  | .invalid n i => s!"invalid utf-8 sequence of {n} bytes from index {i}"
  | .incomplete i => s!"incomplete utf-8 byte sequence from index {i}"

/-- The bytes that may follow a leading byte, and how many of them a character takes after it;
`none` for a byte that leads no character. -/
def continuation (lead : UInt8) : Option (Nat × UInt8 × UInt8) :=
  if lead < 0x80 then some (0, 0x80, 0xBF)
  else if lead < 0xC2 then none
  else if lead < 0xE0 then some (1, 0x80, 0xBF)
  else if lead = 0xE0 then some (2, 0xA0, 0xBF)
  else if lead = 0xED then some (2, 0x80, 0x9F)
  else if lead < 0xF0 then some (2, 0x80, 0xBF)
  else if lead = 0xF0 then some (3, 0x90, 0xBF)
  else if lead < 0xF4 then some (3, 0x80, 0xBF)
  else if lead = 0xF4 then some (3, 0x80, 0x8F)
  else none

/-- The value bits of a leading byte that `more` bytes follow. -/
def leadBits (lead : UInt8) (more : Nat) : Nat :=
  match more with
  | 0 => lead.toNat
  | 1 => lead.toNat % 32
  | 2 => lead.toNat % 16
  | _ => lead.toNat % 8

/-- Reads `more` continuation bytes, the first of them between `lo` and `hi`, on top of the value
bits `acc`; `seen` bytes of the character came before. -/
def tail (acc seen index : Nat) : Nat → UInt8 → UInt8 → Bytes → Except Error (Char × Bytes)
  | 0, _, _, rest => .ok (Char.ofNat acc, rest)
  | _ + 1, _, _, [] => .error (.incomplete index)
  | more + 1, lo, hi, b :: rest =>
    -- Only the second byte of a character has bounds of its own.
    if lo ≤ b ∧ b ≤ hi then tail (acc * 64 + b.toNat % 64) (seen + 1) index more 0x80 0xBF rest
    else .error (.invalid seen index)

/-- Reads the character at the front, which stands at `index` of the input. -/
def next (index : Nat) (lead : UInt8) (rest : Bytes) : Except Error (Char × Bytes) :=
  match continuation lead with
  | none => .error (.invalid 1 index)
  | some (more, lo, hi) => tail (leadBits lead more) 1 index more lo hi rest

/-- Reading a character never lengthens the input. -/
theorem tail_length {acc seen index more : Nat} {lo hi : UInt8} {bs rest : Bytes} {c : Char}
    (h : tail acc seen index more lo hi bs = .ok (c, rest)) : rest.length ≤ bs.length := by
  induction more generalizing acc seen lo hi bs with
  | zero => simp only [tail, Except.ok.injEq, Prod.mk.injEq] at h; simp [h.2]
  | succ more ih =>
    match bs with
    | [] => simp [tail] at h
    | b :: bs =>
      simp only [tail] at h
      split at h
      · have := ih h; simp only [List.length_cons]; omega
      · simp at h

/-- Reading a character takes at least its leading byte. -/
theorem next_length {index : Nat} {lead : UInt8} {bs rest : Bytes} {c : Char}
    (h : next index lead bs = .ok (c, rest)) : rest.length ≤ bs.length := by
  unfold next at h
  cases hc : continuation lead with
  | none => simp [hc] at h
  | some w => rw [hc] at h; exact tail_length h

/-- Reads the characters of `bs`, which stands at `index` of the input. -/
def decodeFrom (index : Nat) (bs : Bytes) : Except Error (List Char) :=
  match bs with
  | [] => .ok []
  | lead :: more =>
    match h : next index lead more with
    | .error e => .error e
    | .ok (c, rest) =>
      have : rest.length < (lead :: more).length := Nat.lt_succ_of_le (next_length h)
      match decodeFrom (index + c.utf8Size) rest with
      | .error e => .error e
      | .ok cs => .ok (c :: cs)
termination_by bs.length
decreasing_by assumption

/-- The text that the bytes spell. -/
def decode (bs : Bytes) : Except Error String :=
  (decodeFrom 0 bs).map String.ofList

end Utf8

end ChainGauge
