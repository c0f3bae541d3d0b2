/-!
# Dialogues

A dialogue is a computation that needs answers from outside: it is done, or it asks a question and
goes on with the answer. Who answers is left open, so the same dialogue can be held with a node, with
a group of nodes or with a table of answers, and can be given up at any question.
-/

namespace ChainGauge

/-- A computation with a result of type `α` that asks questions of type `Q`; the answer to a question
`q` has the type `A q`. -/
inductive Dialogue (Q : Type) (A : Q → Type) (α : Type) where
  | done (a : α)
  | ask (q : Q) (next : A q → Dialogue Q A α)

namespace Dialogue

variable {Q : Type} {A : Q → Type} {α β : Type}

/-- Goes on with another dialogue. -/
def andThen : Dialogue Q A α → (α → Dialogue Q A β) → Dialogue Q A β
  | .done a, f => f a
  | .ask q next, f => .ask q fun x => (next x).andThen f

instance : Monad (Dialogue Q A) where
  pure := .done
  bind := andThen

/-- Asks one question. -/
def once (q : Q) : Dialogue Q A (A q) :=
  .ask q .done

/-- Holds a dialogue with someone who answers in a monad. -/
def hold {m : Type → Type} [Monad m] (answer : (q : Q) → m (A q)) : Dialogue Q A α → m α
  | .done a => pure a
  | .ask q next => do
    let x ← answer q
    (next x).hold answer

@[simp] theorem hold_done {m : Type → Type} [Monad m] (answer : (q : Q) → m (A q)) (a : α) :
    (Dialogue.done a : Dialogue Q A α).hold answer = pure a := rfl

@[simp] theorem hold_ask {m : Type → Type} [Monad m] (answer : (q : Q) → m (A q)) (q : Q)
    (next : A q → Dialogue Q A α) :
    (Dialogue.ask q next).hold answer = answer q >>= fun x => (next x).hold answer := rfl

end Dialogue

end ChainGauge
