import ChainGauge.Dialogue
import ChainGauge.Proofs.Dialogue

/-!
# What holds of every outcome

If every answer is sound, what comes of a dialogue may be good whoever answers (`Dialogue.Gives`). A
dialogue that goes on with another one is good if that one is good behind whatever the first comes to
(`Dialogue.Gives.andThen`), and a dialogue can be held with someone who has a dialogue of their own for
each answer (`Dialogue.Gives.hold`). For dialogues that may fail, one thing holds of the value and another
one of the failure (`Dialogue.Yields`).
-/

namespace ChainGauge

/-- What holds of an outcome: one thing of a value, another of a failure. -/
def Meets {ε α : Type} (E : ε → Prop) (P : α → Prop) : Except ε α → Prop
  | .ok x => P x
  | .error e => E e

namespace Meets

variable {ε ε' α β : Type} {E : ε → Prop} {E' : ε' → Prop} {P : α → Prop} {R : β → Prop}
  {r : Except ε α}

/-- Failures may be told otherwise if what holds of them goes along. -/
theorem mapError {f : ε → ε'} (h : Meets E P r) (hf : ∀ e, E e → E' (f e)) :
    Meets E' P (r.mapError f) := by
  cases r with
  | ok x => exact h
  | error e => exact hf e h

/-- So may values. -/
theorem map {f : α → β} (h : Meets E P r) (hf : ∀ x, P x → R (f x)) : Meets E R (r.map f) := by
  cases r with
  | ok x => exact hf x h
  | error e => exact h

end Meets

namespace Dialogue

variable {Q Q' : Type} {A : Q → Type} {A' : Q' → Type} {α β : Type}

/-- Whoever gives sound answers, the dialogue comes to something good. -/
def Gives (sound : (q : Q) → A q → Prop) (P : α → Prop) : Dialogue Q A α → Prop
  | .done x => P x
  | .ask q next => ∀ x, sound q x → (next x).Gives sound P

section Gives

variable {sound : (q : Q) → A q → Prop} {sound' : (q : Q') → A' q → Prop} {P : α → Prop}
  {R : β → Prop} {d : Dialogue Q A α}

/-- A result is good whenever the answers are sound. -/
theorem Gives.result {a : Replies Q A} (h : d.Gives sound P) (ha : ∀ n q, sound q (a n q)) :
    P (d.result a) := by
  induction d generalizing a with
  | done x => exact h
  | ask q next ih => exact ih (a 0 q) (h _ (ha 0 q)) fun n => ha (n + 1)

/-- Every dialogue gives something. -/
theorem gives_true (d : Dialogue Q A α) : d.Gives sound fun _ => True := by
  induction d with
  | done x => exact trivial
  | ask q next ih => exact fun x _ => ih x

/-- A good result of one dialogue goes into the next one. -/
theorem Gives.andThen {f : α → Dialogue Q A β} (h : d.Gives sound P)
    (hf : ∀ x, P x → (f x).Gives sound R) : (d.andThen f).Gives sound R := by
  induction d with
  | done x => exact hf x h
  | ask q next ih => exact fun x hx => ih x (h x hx)

/-- Whoever has a dialogue for each answer that gives a sound one, can hold the dialogue. -/
theorem Gives.hold {answer : (q : Q) → Dialogue Q' A' (A q)} (h : d.Gives sound P)
    (hanswer : ∀ q, (answer q).Gives sound' (sound q)) : (d.hold answer).Gives sound' P := by
  induction d with
  | done x => exact h
  | ask q next ih => exact (hanswer q).andThen fun x hx => ih x (h x hx)

end Gives

/-! ## Dialogues that may fail -/

variable {ε : Type}

/-- Whoever gives sound answers, one thing holds of the value and another one of the failure. -/
def Yields (sound : (q : Q) → A q → Prop) (E : ε → Prop) (P : α → Prop)
    (b : ExceptT ε (Dialogue Q A) α) : Prop :=
  b.run.Gives sound (Meets E P)

variable {sound : (q : Q) → A q → Prop} {E : ε → Prop} {P : α → Prop} {R : β → Prop}
  {b : ExceptT ε (Dialogue Q A) α}

/-- A value that needs no question. -/
theorem yields_pure {x : α} (h : P x) : Yields sound E P (pure x : ExceptT ε (Dialogue Q A) α) :=
  h

/-- A dialogue that cannot fail. -/
theorem yields_lift {d : Dialogue Q A α} (h : d.Gives sound P) :
    Yields sound E P (ExceptT.lift d : ExceptT ε (Dialogue Q A) α) :=
  h.andThen (fun _ hx => hx)

/-- A value goes into the next dialogue, and a failure of either one is one of both. -/
theorem Yields.bind {f : α → ExceptT ε (Dialogue Q A) β} (h : Yields sound E P b)
    (hf : ∀ x, P x → Yields sound E R (f x)) : Yields sound E R (b >>= f) :=
  Gives.andThen h fun r hr =>
    match r with
    | .ok x => hf x hr
    | .error _ => hr

/-- The value of a dialogue may be mapped. -/
theorem Yields.map {f : α → β} (h : Yields sound E P b) (hf : ∀ x, P x → R (f x)) :
    Yields sound E R (f <$> b) :=
  Gives.andThen h fun r hr =>
    match r with
    | .ok x => hf x hr
    | .error _ => hr

end Dialogue

end ChainGauge
