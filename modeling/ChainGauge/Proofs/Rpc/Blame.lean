import ChainGauge.Contract.Names
import ChainGauge.Contract.Native
import ChainGauge.Contract.Token
import ChainGauge.Proofs.Outcomes
import ChainGauge.Proofs.Rpc.Session

/-!
# Failures that blame an endpoint

A failure can be the fault of an endpoint, where there is none or where one is no URL
(`ChainError.BlamesAddress`). No node can cause such a failure: none comes of the calls by which a node
answers a query, whatever is delivered (`Endpoint.acquits_of_brings`), nor of the dialogues with a chain
that are held with such answers (`Chain.Spares`).
-/

namespace ChainGauge

/-! ## Whose fault a failure is -/

/-- Whether a call failed because an endpoint is no URL. -/
def CallFault.BlamesAddress : CallFault → Prop
  | .endpoint _ _ => True
  | _ => False

/-- Whether an endpoint is to blame, because there is none or because it is no URL. -/
def ChainError.BlamesAddress : ChainError → Prop
  | .noEndpoint => True
  | .call cause => cause.BlamesAddress
  | .during _ cause => cause.BlamesAddress
  | _ => False

/-- No endpoint is to blame for an outcome, and something holds of its value. -/
abbrev Acquits {α : Type} (P : α → Prop) : Except ChainError α → Prop :=
  Meets (fun e => ¬ e.BlamesAddress) P

/-- A failure with a meaning that blames no endpoint. -/
theorem acquits_mapError {ε α : Type} {f : ε → ChainError} (r : Except ε α)
    (hf : ∀ e, ¬ (f e).BlamesAddress) : Acquits (fun _ => True) (r.mapError f) := by
  cases r with
  | ok x => exact trivial
  | error e => exact hf e

/-! ## Calls to a node -/

/-- Whatever was delivered, reading it blames no endpoint. -/
private theorem acquits_readDelivery {α : Type} (url method : String) (read : Json.Reader α)
    (d : Delivery) :
    Acquits (fun _ => True) ((readDelivery url method read d).mapError .call) := by
  refine Meets.mapError (E := fun e => ¬ e.BlamesAddress) ?_ fun _ h => h
  -- Nothing that can go wrong with a delivery is about the address it was sent to.
  unfold readDelivery
  split
  · exact not_false
  · split
    · unfold readBody
      split
      · exact not_false
      · exact not_false
      · exact not_false
      · exact not_false
      · exact trivial
    · exact not_false

namespace Calls

variable {α β : Type} {P : α → Prop} {R : β → Prop} {c : Calls α}

/-- Whatever is delivered, no endpoint is to blame. -/
def Spares (P : α → Prop) (c : Calls α) : Prop :=
  ∀ n, (c.run.run n).Gives (fun _ _ => True) fun r => Acquits P r.1

/-- A result without a call blames what it blames. -/
private theorem spares_outcome {r : Except ChainError α} (h : Acquits P r) : (outcome r).Spares P :=
  fun _ => h

/-- A value blames nothing. -/
theorem spares_pure {x : α} (h : P x) : (pure x : Calls α).Spares P :=
  fun _ => h

private theorem spares_mapError {ε : Type} {f : ε → ChainError} (r : Except ε α)
    (hf : ∀ e, ¬ (f e).BlamesAddress) : (outcome (r.mapError f)).Spares fun _ => True :=
  spares_outcome (acquits_mapError r hf)

/-- Calls in turn blame no endpoint if none of them does. -/
theorem Spares.bind {f : α → Calls β} (h : c.Spares P) (hf : ∀ x, P x → (f x).Spares R) :
    (c >>= f).Spares R := fun n => by
  rw [run_bind]
  refine (h n).andThen fun r hr => ?_
  match r with
  | (.ok x, m) => exact hf x hr m
  | (.error _, _) => exact hr

/-- What came of calls may be looked at. -/
theorem Spares.attempt (h : c.Spares P) : (attempt c).Spares (Acquits P) :=
  fun n => (h n).andThen fun _ hr => hr

end Calls

namespace Endpoint

variable (e : Endpoint)

/-- A call blames no endpoint. -/
private theorem spares_call {α : Type} (method : String) (params : List Json)
    (read : Json.Reader α) :
    (e.call method params read).Spares fun _ => True := fun n => by
  rw [call]
  by_cases h : e.takesRequests
  · simp only [h]
    exact fun d _ => acquits_readDelivery _ _ _ d
  · simp only [h]
    exact not_false

/-- Reading pages does not. -/
private theorem spares_pages (session iterator : String) (size left : Nat) :
    (e.pages session iterator size left).Spares fun _ => True := by
  induction left with
  | zero => exact Calls.spares_outcome not_false
  | succ left ih =>
    rw [pages]
    refine (e.spares_call _ _ _).bind fun items _ => ?_
    split
    · exact Calls.spares_pure trivial
    · exact ih.bind fun more _ => Calls.spares_pure trivial

/-- Nor does reading an iterator. -/
private theorem spares_traverse (limit : Nat) (contract : ScriptHash) (method : String)
    (params : List Param) (size : Nat) :
    (e.traverse limit contract method params size).Spares fun _ => True := by
  rw [traverse_eq]
  refine (e.spares_call _ _ _).bind fun r _ => ?_
  rw [iterate]
  refine Calls.Spares.bind (Calls.spares_mapError _ fun _ => not_false) fun top _ => ?_
  refine Calls.Spares.bind (Calls.spares_mapError _ fun _ => not_false) fun id _ => ?_
  split
  · exact Calls.spares_outcome not_false
  · next session _ =>
    -- What came of the pages counts again once the session has ended, whatever came of that.
    refine (e.spares_pages session id size limit).attempt.bind fun items hitems => ?_
    refine Calls.Spares.bind (P := fun _ => True) ?_ fun _ _ => Calls.spares_outcome hitems
    exact (e.spares_call _ _ _).attempt.bind fun _ _ => Calls.spares_pure trivial

/-- Reading a state root blames no endpoint. -/
private theorem acquits_readRoot (s : String) :
    Meets (fun e : CallFault => ¬ e.BlamesAddress) (fun _ => True) (readRoot s) := by
  unfold readRoot
  dsimp only
  split
  · exact not_false
  · split
    · exact not_false
    · split
      · exact trivial
      · exact not_false

/-- No endpoint is to blame for what a node answers. -/
private theorem spares_answer (q : Query) : (e.answer q).Spares fun _ => True := by
  cases q with
  | committee =>
    exact (e.spares_call _ _ _).bind fun keys _ => Calls.spares_mapError _ fun _ => not_false
  | stateRoot height =>
    refine (e.spares_call _ _ _).bind fun root _ => Calls.spares_outcome ?_
    exact Meets.mapError (acquits_readRoot root) fun _ h => h
  | traverse contract method params size => exact e.spares_traverse _ _ _ _ _
  | _ => exact e.spares_call _ _ _

/-- What a node can bring for a query: what comes of its calls, whatever is delivered. -/
def Brings (q : Query) (r : q.Reply) : Prop :=
  ∃ number deliveries, r = ((e.answer q).result number deliveries).1

/-- What a node can bring to a query blames no endpoint. -/
theorem acquits_of_brings {e : Endpoint} {q : Query} {r : q.Reply} (h : e.Brings q r) :
    Acquits (fun _ => True) r := by
  obtain ⟨number, deliveries, rfl⟩ := h
  exact (e.spares_answer q number).result fun _ _ => trivial

end Endpoint

/-! ## Dialogues with the chain -/

namespace Chain

variable {α β : Type} {c : Chain α}

/-- No endpoint is to blame for the failure, if none is for any answer. -/
def Spares (c : Chain α) : Prop :=
  Dialogue.Yields (fun (q : Query) (r : q.Reply) => Acquits (fun _ => True) r)
    (fun e => ¬ e.BlamesAddress) (fun _ => True) c

/-- A question blames no endpoint. -/
private theorem spares_query (q : Query) : (query q).Spares :=
  fun _ hr => hr

/-- A result without a question blames what it blames. -/
private theorem spares_outcome {r : Except ChainError α} (h : Acquits (fun _ => True) r) :
    (outcome r).Spares :=
  h

/-- A value blames nothing. -/
theorem spares_pure (x : α) : (pure x : Chain α).Spares :=
  trivial

private theorem spares_mapError {ε : Type} {f : ε → ChainError} (r : Except ε α)
    (hf : ∀ e, ¬ (f e).BlamesAddress) : (outcome (r.mapError f)).Spares :=
  acquits_mapError r hf

/-- Questions in turn blame no endpoint if none of them does. -/
theorem Spares.bind {f : α → Chain β} (h : c.Spares) (hf : ∀ x, (f x).Spares) :
    (c >>= f).Spares :=
  Dialogue.Yields.bind h fun x _ => hf x

/-- The name of a step is no blame. -/
theorem Spares.during (step : Step) (h : c.Spares) : (during step c).Spares :=
  Dialogue.Gives.andThen h fun _ hr => Meets.mapError hr fun _ he => he

/-- A view of an item blames nothing. -/
private theorem spares_view (r : Except StackItem.Fault α) : (view r).Spares :=
  spares_mapError r fun _ => not_false

/-- An invocation blames no endpoint. -/
private theorem spares_invokeTop (contract : ScriptHash) (method : String) (params : List Param) :
    (invokeTop contract method params).Spares :=
  (spares_query (.invoke contract method params)).bind fun _ =>
    spares_mapError _ fun _ => not_false

end Chain

open Chain in
/-- Finding the name service does not. -/
theorem Names.spares_find : Names.find.Spares :=
  ((spares_query _).during _).bind fun _ => spares_pure _

open Chain in
/-- Nor does resolving a name. -/
theorem Names.spares_resolve (service : Names.Service) (name : String) :
    (Names.resolve service name).Spares := by
  cases service with
  | absent => exact spares_outcome not_false
  | contract hash =>
    refine Spares.bind (Spares.during _ ?_) fun text => spares_mapError _ fun _ => not_false
    refine (spares_invokeTop _ _ _).bind fun top =>
      (spares_outcome ?_).bind fun item => spares_view _
    -- Having no contract for names, or no record, is the service's own fault.
    unfold Names.firstRecord
    split
    · exact not_false
    · exact trivial
    · exact trivial

open Chain in
/-- Nor does reading a symbol. -/
theorem Token.spares_symbol (token : ScriptHash) : (Token.symbol token).Spares :=
  (spares_invokeTop _ _ _).bind fun _ => spares_view _

open Chain in
/-- Nor does looking for the notary contract. -/
theorem Native.spares_notaryEnabled : Native.notaryEnabled.Spares :=
  (spares_query .nativeContracts).bind fun _ => spares_pure _

end ChainGauge
