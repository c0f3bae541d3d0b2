import ChainGauge.Dialogue

/-!
# Transcripts of dialogues

Who answers may answer otherwise the next time, also where the same question is asked twice
(`Dialogue.Replies`). A dialogue with given replies has a transcript and a result, and it leaves the
replies to whatever is asked behind it; so a dialogue that goes on with another one is told from the
parts (`Dialogue.transcript_andThen`).
-/

namespace ChainGauge.Dialogue

variable {Q : Type} {A : Q → Type} {α β : Type}

/-- What the questions of a dialogue bring: for the question of a number, counted from zero, what each
question would bring. -/
abbrev Replies (Q : Type) (A : Q → Type) := Nat → (q : Q) → A q

/-- The replies that are left behind the first question. -/
def Replies.later (a : Replies Q A) : Replies Q A :=
  fun n => a (n + 1)

/-- The questions of a dialogue with what they brought. -/
def transcript : Dialogue Q A α → Replies Q A → List ((q : Q) × A q)
  | .done _, _ => []
  | .ask q next, a => ⟨q, a 0 q⟩ :: (next (a 0 q)).transcript a.later

/-- What comes of a dialogue. -/
def result : Dialogue Q A α → Replies Q A → α
  | .done x, _ => x
  | .ask q next, a => (next (a 0 q)).result a.later

/-- The replies that a dialogue leaves. -/
def left : Dialogue Q A α → Replies Q A → Replies Q A
  | .done _, a => a
  | .ask q next, a => (next (a 0 q)).left a.later

@[simp] theorem transcript_done (x : α) (a : Replies Q A) :
    (Dialogue.done x : Dialogue Q A α).transcript a = [] := rfl

@[simp] theorem transcript_ask (q : Q) (next : A q → Dialogue Q A α) (a : Replies Q A) :
    (Dialogue.ask q next).transcript a = ⟨q, a 0 q⟩ :: (next (a 0 q)).transcript a.later := rfl

@[simp] theorem result_done (x : α) (a : Replies Q A) :
    (Dialogue.done x : Dialogue Q A α).result a = x := rfl

@[simp] theorem result_ask (q : Q) (next : A q → Dialogue Q A α) (a : Replies Q A) :
    (Dialogue.ask q next).result a = (next (a 0 q)).result a.later := rfl

variable (d : Dialogue Q A α) (f : α → Dialogue Q A β) (a : Replies Q A)

/-- The transcript of two dialogues in turn. -/
theorem transcript_andThen :
    (d.andThen f).transcript a = d.transcript a ++ (f (d.result a)).transcript (d.left a) := by
  induction d generalizing a with
  | done x => rfl
  | ask q next ih => exact congrArg _ (ih (a 0 q) a.later)

/-- The second of two dialogues has the result, from the answers that the first one leaves. -/
theorem result_andThen : (d.andThen f).result a = (f (d.result a)).result (d.left a) := by
  induction d generalizing a with
  | done x => rfl
  | ask q next ih => exact ih (a 0 q) a.later

/-- What two dialogues in turn leave of the answers. -/
theorem left_andThen : (d.andThen f).left a = (f (d.result a)).left (d.left a) := by
  induction d generalizing a with
  | done x => rfl
  | ask q next ih => exact ih (a 0 q) a.later

end ChainGauge.Dialogue
