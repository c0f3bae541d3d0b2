import ChainGauge.Proofs.Contract.Token
import ChainGauge.Proofs.Number.Power
import ChainGauge.Proofs.Except
import ChainGauge.Proofs.Stack.Views

/-!
# What amounts of tokens are divided by

Every word of thirty-two bits without a sign is taken for the decimals of a token, and every amount is
divided by what belongs to the first such word that was heard of its token (`amounts_divided`). That is
a power of ten only where the word keeps its value as one with a sign; behind that, the amount is
multiplied or divided by zero.
-/

namespace ChainGauge.Token

variable {token : ScriptHash} {d : Nat} {reply : Except ChainError Invocation}

/-- Decimals are read from an answer exactly if the item on top is a word of thirty-two bits. -/
private theorem readDecimals_eq_ok_iff :
    readDecimals token reply = .ok d ↔
      d < 2 ^ 32 ∧ ∃ item, readTop reply = .ok item ∧ item.int64? = .ok (d : Int) := by
  simp only [readDecimals, Except.bind_eq_ok_iff, Except.mapError_eq_ok_iff]
  constructor
  · rintro ⟨item, hitem, n, hn, h⟩
    -- Only a word without a sign passes.
    split at h
    · rename_i hrange
      cases h
      refine ⟨by omega, item, hitem, ?_⟩
      rwa [Int.toNat_of_nonneg hrange.1]
    · cases h
  · rintro ⟨hd, item, hitem, hn⟩
    exact ⟨item, hitem, d, hn, if_pos (by omega)⟩

/-- The invocation that brings a number. -/
def numberReply (n : Int) : Except ChainError Invocation :=
  .ok ⟨"HALT", none, [.integer n], none⟩

/-- Decimals that a token tells are taken exactly if they are a word of thirty-two bits. -/
private theorem exists_readDecimals_iff :
    (∃ reply, readDecimals token reply = .ok d) ↔ d < 2 ^ 32 := by
  constructor
  · rintro ⟨reply, hread⟩
    exact (readDecimals_eq_ok_iff.mp hread).1
  · intro hd
    refine ⟨numberReply d, readDecimals_eq_ok_iff.mpr ⟨hd, .integer d, rfl, ?_⟩⟩
    exact StackItem.int64?_eq_ok_iff.mpr ⟨rfl, by omega, by omega⟩

/-- Decimals that were heard are taken. -/
private theorem lt_of_decimalsIn? {e : Asked} (h : decimalsIn? token e = some d) : d < 2 ^ 32 := by
  unfold decimalsIn? at h
  split at h
  · split at h
    · rw [Except.toOption_eq_some_iff, readDecimals_eq_ok_iff] at h
      exact h.1
    · cases h
  · cases h

/-- Decimals that were heard have thirty-two bits. -/
private theorem lt_of_firstDecimals? {ts : List Turn} (h : firstDecimals? token ts = some d) :
    d < 2 ^ 32 := by
  obtain ⟨e, -, he⟩ := List.exists_of_findSome?_eq_some h
  exact lt_of_decimalsIn? he

/-- One turn more tells decimals only where none were heard before. -/
private theorem firstDecimals?_append (ts : List Turn) (t : Turn) :
    firstDecimals? token (ts ++ [t]) =
      (firstDecimals? token ts).or (t.asked.findSome? (decimalsIn? token)) := by
  rw [firstDecimals?, List.flatMap_append, List.findSome?_append, List.flatMap_singleton]
  rfl

/-- A turn asks for the count first. It gives an amount exactly if it hears one and the decimals were
known or are heard behind it. -/
private theorem Turn.Accords.amount_eq_ok_iff {t : Turn} {known : Option Nat}
    (h : t.Accords known) :
    ∃ reply, t.asked.head? = some (t.call.count reply) ∧
      ∀ x, t.amount = .ok x ↔ ∃ count d, readCount reply = .ok count ∧
        known.or (t.asked.findSome? (decimalsIn? t.call.token)) = some d ∧
        x = Amount.scale count d := by
  obtain ⟨reply, h⟩ := h
  refine ⟨reply, ?_⟩
  cases hcount : readCount reply with
  | error e =>
    simp only [hcount] at h
    obtain ⟨hasked, hamount⟩ := h
    refine ⟨by rw [hasked]; rfl, fun x => ?_⟩
    simp [hamount]
  | ok count =>
    cases known with
    | some d =>
      simp only [hcount] at h
      obtain ⟨hasked, hamount⟩ := h
      refine ⟨by rw [hasked]; rfl, fun x => ?_⟩
      simp [hamount, eq_comm]
    | none =>
      simp only [hcount] at h
      obtain ⟨reply', hasked, hamount⟩ := h
      -- The decimals were heard in this very turn, behind the count.
      have hheard : t.asked.findSome? (decimalsIn? t.call.token) =
          (readDecimals t.call.token reply').toOption := by
        rw [hasked, List.findSome?_cons, Call.count, decimalsIn?_count, List.findSome?_cons,
          decimalsIn?_decimalsOf, if_pos rfl]
        cases (readDecimals t.call.token reply').toOption <;> rfl
      refine ⟨by rw [hasked]; rfl, fun x => ?_⟩
      rw [hamount, hheard, Except.map_eq_ok_iff, Option.none_or]
      simp only [Except.toOption_eq_some_iff]
      constructor
      · rintro ⟨d, hd, rfl⟩
        exact ⟨count, d, rfl, hd, rfl⟩
      · rintro ⟨count', d, hcount', hd, rfl⟩
        cases hcount'
        exact ⟨d, hd, rfl⟩

/-- A token's decimals may be any word of thirty-two bits. Over every run of calls, an amount is given
exactly if a count is heard and decimals of the token were heard up to then; it is the count divided by
what belongs to the first of them. For all decimals that are taken, this is a power of ten, and the
exponent the number of decimals, exactly below `2 ^ 31`. -/
theorem amounts_divided (token : ScriptHash) (calls : List Call) (a : Replies) :
    (∀ d, (∃ reply, readDecimals token reply = .ok d) ↔ d < 2 ^ 32) ∧
    (∀ earlier t later, turns calls [] a = earlier ++ t :: later →
      ∃ reply, t.asked.head? = some (t.call.count reply) ∧
        ∀ x, t.amount = .ok x ↔ ∃ count d, readCount reply = .ok count ∧
          firstDecimals? t.call.token (earlier ++ [t]) = some d ∧
          x = Amount.nearest count / Amount.divisor d) ∧
    (∀ ts d, firstDecimals? token ts = some d → d < 2 ^ 32) ∧
    ∀ d < 2 ^ 32, Amount.DivisorLaw d := by
  refine ⟨fun d => exists_readDecimals_iff, fun earlier t later hturns => ?_,
    fun ts d => lt_of_firstDecimals?, fun d hd => Amount.divisorLaw hd⟩
  -- What is known before a turn are the first decimals that were heard up to then.
  have haccords : t.Accords (firstDecimals? t.call.token earlier) :=
    accords_turns calls a remembers_nil hturns
  simp only [firstDecimals?_append, ← Amount.scale_eq]
  exact haccords.amount_eq_ok_iff

/-- A chain that tells one number of decimals and one count of all tokens. -/
def telling (decimals count : Int) : Replies := fun _ q =>
  match q with
  | .invoke _ method _ => numberReply (if method = "decimals" then decimals else count)
  | _ => .error .noEndpoint

/-- With nine decimals, an amount is divided by the ninth power of ten. -/
theorem amounts_divided_nine : ∃ t,
    turns [.totalSupply .gas] [] (telling 9 12345) = [t] ∧ firstDecimals? .gas [t] = some 9 ∧
      t.amount = .ok (Amount.nearest 12345 / Amount.divisor 9) ∧
      Amount.IsTenTo 9 (Amount.divisor 9) := by
  obtain ⟨-, hrun, -, hlaw⟩ := amounts_divided .gas [.totalSupply .gas] (telling 9 12345)
  obtain ⟨reply, hreply, hamount⟩ := hrun [] _ [] rfl
  obtain ⟨-, rfl⟩ : _ ∧ numberReply 12345 = reply := by
    simpa [Call.count, telling] using Option.some.inj hreply
  exact ⟨_, rfl, rfl, (hamount _).mpr ⟨12345, 9, rfl, rfl, rfl⟩,
    (hlaw 9 (by decide)).power (by decide)⟩

/-- With the greatest decimals there are, the exponent is minus one and an amount is multiplied. With
the decimals that have the highest bit alone, it is divided by zero. -/
theorem amount_multiplied :
    Amount.signedDecimals 4294967295 = -1 ∧
    (∃ t, turns [.totalSupply .gas] [] (telling 4294967295 12345) = [t] ∧
      firstDecimals? .gas [t] = some 4294967295 ∧
      t.amount = .ok (Amount.nearest 12345 / (1 / 10))) ∧
    ∃ t, turns [.totalSupply .gas] [] (telling 2147483648 12345) = [t] ∧
      firstDecimals? .gas [t] = some 2147483648 ∧ t.amount = .ok (Amount.nearest 12345 / 0) := by
  have htenth : Amount.divisor 4294967295 = 1 / 10 := by decide +kernel
  have hzero : Amount.divisor 2147483648 = 0 := (Amount.divisorLaw (by decide)).zero.mpr (by decide)
  -- The runs themselves are computed; what is left are the two divisors.
  refine ⟨by decide, ⟨_, rfl, rfl, ?_⟩, ⟨_, rfl, rfl, ?_⟩⟩
  · rw [← htenth]
    rfl
  · rw [← hzero]
    rfl

end ChainGauge.Token
