import ChainGauge.Proofs.Dialogue
import ChainGauge.Rpc.Endpoint

/-!
# Sessions of iterators

An invocation may leave a session open at the node. What a traversal sends is told call by call
(`Calls.transcript_bind`): if the invocation halted with an iterator on top, the last request ends its
session, whatever the pages brought; any other session is not ended (`Endpoint.session_of_traverse`).
-/

namespace ChainGauge

/-- What requests bring, by their number. -/
abbrev Deliveries := Dialogue.Replies Request fun _ => Delivery

/-- A request with what it brought. -/
abbrev Sent := (_ : Request) × Delivery

/-- The request that ends a session. -/
def Request.ending (number : Nat) (session : String) : Request :=
  ⟨number, "terminatesession", [.string session]⟩

/-- A request to end a session. -/
def Sent.EndsSession (x : Sent) : Prop :=
  x.1.method = "terminatesession"

/-! ## What calls send -/

namespace Calls

variable {α β : Type} (c : Calls α) (f : α → Calls β) (n : Nat) (a : Deliveries)

/-- The requests of calls with what they brought; `n` is the number of the first one. -/
def transcript : List Sent :=
  (c.run.run n).transcript a

/-- What comes of calls, and the number for the next request. -/
def result : Except ChainError α × Nat :=
  (c.run.run n).result a

/-- The deliveries that calls leave. -/
def left : Deliveries :=
  (c.run.run n).left a

/-- A run of calls in turn. -/
theorem run_bind :
    (c >>= f).run.run n = (c.run.run n).andThen fun r => (ExceptT.bindCont f r.1).run r.2 :=
  rfl

/-- Calls that go on with others send their requests in front of those. -/
theorem transcript_bind : (c >>= f).transcript n a = c.transcript n a ++
    match c.result n a with
    | (.ok x, m) => (f x).transcript m (c.left n a)
    | (.error _, _) => [] := by
  rw [transcript, run_bind, Dialogue.transcript_andThen]
  congr 1
  rw [result]
  rcases (c.run.run n).result a with ⟨_ | x, m⟩
  · rfl
  · rfl

/-- Calls that never end a session. -/
def Quiet : Prop :=
  ∀ n a, ∀ x ∈ c.transcript n a, ¬ x.EndsSession

variable {c f}

/-- Calls in turn are quiet if all of them are. -/
theorem Quiet.bind (hc : c.Quiet) (hf : ∀ x, (f x).Quiet) : (c >>= f).Quiet := by
  intro n a x hx
  rw [transcript_bind, List.mem_append] at hx
  rcases hx with hx | hx
  · exact hc n a x hx
  · split at hx
    · exact hf _ _ _ x hx
    · cases hx

/-- A result without a call is quiet. -/
private theorem quiet_outcome (r : Except ChainError α) : (outcome r).Quiet :=
  fun _ _ _ hx => nomatch hx

private theorem quiet_pure (x : α) : (pure x : Calls α).Quiet :=
  fun _ _ _ hx => nomatch hx

/-- A result without a call decides what is called behind it. -/
@[simp] theorem transcript_outcome_bind (r : Except ChainError α) (f : α → Calls β) :
    (outcome r >>= f).transcript n a =
      match r with
      | .ok x => (f x).transcript n a
      | .error _ => [] := by
  rw [transcript_bind]
  cases r with
  | error e => rfl
  | ok x => rfl

/-- Behind an attempt a run goes on in any case. -/
theorem run_attempt_bind (f : Except ChainError α → Calls β) :
    (attempt c >>= f).run.run n =
      ((c.run.run n).andThen fun r => .done (.ok r.1, r.2)).andThen fun r =>
        (ExceptT.bindCont f r.1).run r.2 :=
  rfl

/-- Calls that are tried send what they would send, and whatever comes of them, what follows is
done. -/
theorem transcript_attempt_bind (f : Except ChainError α → Calls β) :
    (attempt c >>= f).transcript n a = c.transcript n a ++
      (f (c.result n a).1).transcript (c.result n a).2 (c.left n a) := by
  rw [transcript, run_attempt_bind, Dialogue.transcript_andThen, Dialogue.transcript_andThen,
    Dialogue.result_andThen, Dialogue.left_andThen]
  simp only [Dialogue.transcript_done, List.append_nil]
  rfl

end Calls

/-! ## Traversals -/

/-- The session that an invocation leaves open for an iterator: it halted with one on top. -/
def Invocation.iterated? (r : Invocation) : Option String :=
  match r.state == "HALT", r.stack.getLast? with
  | true, some (.interop (some _)) => r.session
  | _, _ => none

/-- An invocation has an item on top exactly if it halted and left one. -/
theorem Invocation.top_eq_ok_iff {r : Invocation} {item : StackItem} :
    r.top = .ok item ↔ r.state = "HALT" ∧ r.stack.getLast? = some item := by
  rw [top, items]
  by_cases hstate : r.state = "HALT"
  · cases hstack : r.stack with
    | nil => simp [hstate]
    | cons x xs =>
      simp [hstate, List.getLast?_eq_some_getLast]
  · simp [hstate]

/-- Only an interface with a name is an iterator. -/
theorem StackItem.iterator?_eq_ok_iff {item : StackItem} {id : String} :
    item.iterator? = .ok id ↔ item = .interop (some id) := by
  constructor
  · intro h
    cases item with
    | interop name =>
      cases name with
      | none => cases h
      | some id' =>
        cases h
        rfl
    | _ => cases h
  · rintro rfl
    rfl

/-- What an invocation must have for its session to be ended. -/
private theorem Invocation.iterated?_eq_some_iff {r : Invocation} {session : String} :
    r.iterated? = some session ↔
      ∃ item id, r.top = .ok item ∧ item.iterator? = .ok id ∧ r.session = some session := by
  simp only [top_eq_ok_iff, StackItem.iterator?_eq_ok_iff]
  rw [iterated?]
  split
  · next id hstate hlast => simp_all
  · next hno =>
    simp only [reduceCtorEq, false_iff, not_exists, not_and]
    rintro item id ⟨hstate, hlast⟩ rfl
    exact absurd hlast (hno id (by simpa using hstate))

namespace Endpoint

variable (e : Endpoint) {n : Nat} {a : Deliveries}

/-- What the first of some requests brought, if it is the outcome of an invocation. -/
def invocation? (sent : List Sent) : Option Invocation :=
  sent.head?.bind fun x =>
    (readDelivery e.url.text "invokefunction" Json.readInvocation x.2).toOption

/-- If the invocation that some requests begin with halted with an iterator in a session, the last
request ends this session, and no other one ends any. Otherwise no request ends a session. -/
def EndsIterated (sent : List Sent) : Prop :=
  match (e.invocation? sent).bind Invocation.iterated? with
  | none => ∀ x ∈ sent, ¬ x.EndsSession
  | some session => ∃ front m d, sent = front ++ [⟨.ending m session, d⟩] ∧
      ∀ x ∈ front, ¬ x.EndsSession

section Call

variable {α : Type} {method : String} {params : List Json} {read : Json.Reader α}

/-- A call sends one request, if requests can be sent at all. -/
theorem transcript_call : (e.call method params read).transcript n a =
    if e.takesRequests then [⟨⟨n, method, params⟩, a 0 ⟨n, method, params⟩⟩] else [] := by
  rw [call]
  by_cases h : e.takesRequests
  · simp only [h]
    rfl
  · simp only [h]
    rfl

/-- A call has the result of its delivery, if it can be made. -/
theorem result_call : (e.call method params read).result n a =
    (if e.takesRequests then
      (readDelivery e.url.text method read (a 0 ⟨n, method, params⟩)).mapError .call
    else .error (.call (.request method e.url.text)), n + 1) := by
  rw [call]
  by_cases h : e.takesRequests
  · simp only [h]
    rfl
  · simp only [h]
    rfl

/-- No call but that which ends a session ends one. -/
private theorem quiet_call (h : method ≠ "terminatesession") :
    (e.call method params read).Quiet := by
  intro n a x hx
  rw [transcript_call] at hx
  split at hx
  · rw [List.mem_singleton.mp hx]
    exact h
  · cases hx

end Call

/-- Reading pages ends none. -/
private theorem quiet_pages (session iterator : String) (size left : Nat) :
    (e.pages session iterator size left).Quiet := by
  induction left with
  | zero => exact Calls.quiet_outcome _
  | succ left ih =>
    rw [pages]
    refine (e.quiet_call (by decide)).bind fun items => ?_
    split
    · exact Calls.quiet_pure _
    · exact ih.bind fun more => Calls.quiet_pure _

/-- Ending a session takes one request, and nothing is sent behind it. -/
theorem transcript_endSession {α : Type} (htakes : e.takesRequests) (session : String)
    (r : Except ChainError α) :
    (e.endSession session >>= fun _ => Calls.outcome r).transcript n a =
      [⟨.ending n session, a 0 (.ending n session)⟩] := by
  have hend : (e.endSession session).transcript n a =
      [⟨.ending n session, a 0 (.ending n session)⟩] := by
    rw [endSession, Calls.transcript_attempt_bind, transcript_call, if_pos htakes]
    rfl
  rw [Calls.transcript_bind, hend]
  split <;> rfl

/-- What a traversal does with the outcome of the invocation. -/
def iterate (limit : Nat) (method : String) (size : Nat) (r : Invocation) :
    Calls (List StackItem) := do
  let top ← Calls.outcome (r.top.mapError .invocation)
  let iterator ← Calls.outcome (top.iterator?.mapError fun f => .shape (.view f))
  match r.session with
  | none => Calls.outcome (.error (.noSession method))
  | some session =>
    let items ← Calls.attempt (e.pages session iterator size limit)
    e.endSession session
    Calls.outcome items

/-- An iterator is read behind its invocation. -/
theorem traverse_eq (limit : Nat) (contract : ScriptHash) (method : String) (params : List Param)
    (size : Nat) : e.traverse limit contract method params size =
      e.invoke contract method params >>= e.iterate limit method size :=
  rfl

section Iterate

variable {r : Invocation} {limit size : Nat} {method session : String}

/-- Without an iterator in a session nothing more is sent. -/
private theorem transcript_iterate_of_none (h : r.iterated? = none) :
    (e.iterate limit method size r).transcript n a = [] := by
  rw [iterate, Calls.transcript_outcome_bind]
  -- Whichever of the three is missing, nothing is sent.
  cases htop : r.top with
  | error f => rfl
  | ok item =>
    dsimp only [Except.mapError]
    rw [Calls.transcript_outcome_bind]
    cases hid : item.iterator? with
    | error f => rfl
    | ok id =>
      dsimp only [Except.mapError]
      cases hsession : r.session with
      | none => rfl
      | some session =>
        have := Invocation.iterated?_eq_some_iff.mpr ⟨item, id, htop, hid, hsession⟩
        rw [h] at this
        cases this

/-- With an iterator in a session the session is ended last. -/
private theorem transcript_iterate_of_some (htakes : e.takesRequests)
    (h : r.iterated? = some session) :
    ∃ front m d, (e.iterate limit method size r).transcript n a =
        front ++ [⟨.ending m session, d⟩] ∧
      ∀ x ∈ front, ¬ x.EndsSession := by
  obtain ⟨item, id, htop, hid, hsession⟩ := Invocation.iterated?_eq_some_iff.mp h
  rw [iterate, Calls.transcript_outcome_bind, htop]
  dsimp only [Except.mapError]
  rw [Calls.transcript_outcome_bind, hid, hsession]
  dsimp only [Except.mapError]
  -- The pages are asked for inside an attempt, so the session is ended whether or not they fail.
  rw [Calls.transcript_attempt_bind, e.transcript_endSession htakes]
  exact ⟨_, _, _, rfl, e.quiet_pages session id size limit n a⟩

end Iterate

section Traverse

variable (limit : Nat) (contract : ScriptHash) (method : String) (params : List Param) (size n : Nat)
  (a : Deliveries)

/-- A traversal invokes the method and goes on with the outcome, if one is read. -/
private theorem transcript_traverse (htakes : e.takesRequests) :
    ∃ request b, request.method = "invokefunction" ∧
      (e.traverse limit contract method params size).transcript n a = ⟨request, a 0 request⟩ ::
        match (readDelivery e.url.text "invokefunction" Json.readInvocation
          (a 0 request)).toOption with
        | some r => (e.iterate limit method size r).transcript (n + 1) b
        | none => [] := by
  rw [traverse_eq, Calls.transcript_bind, invoke, transcript_call, result_call, if_pos htakes,
    if_pos htakes, List.singleton_append]
  refine ⟨_, (e.invoke contract method params).left n a, rfl, congrArg _ ?_⟩
  -- An invocation that cannot be read leaves nothing to ask for.
  cases readDelivery e.url.text "invokefunction" Json.readInvocation (a 0 _) with
  | error f => rfl
  | ok r => rfl

/-- A traversal ends the session of its iterator, whatever the pages brought, and no other one, also
where the invocation left one. -/
theorem session_of_traverse :
    e.EndsIterated ((e.traverse limit contract method params size).transcript n a) := by
  rw [EndsIterated]
  by_cases htakes : e.takesRequests
  · obtain ⟨request, b, hrequest, hsent⟩ :=
      e.transcript_traverse limit contract method params size n a htakes
    have hfirst : ¬ Sent.EndsSession ⟨request, a 0 request⟩ := by
      rw [Sent.EndsSession, hrequest]
      decide
    rw [hsent, invocation?, List.head?_cons, Option.bind_some]
    cases (readDelivery e.url.text "invokefunction" Json.readInvocation (a 0 request)).toOption with
    | none => simpa using hfirst
    | some r =>
      dsimp only [Option.bind_some]
      cases hr : r.iterated? with
      | none => simpa [e.transcript_iterate_of_none hr] using hfirst
      | some session =>
        obtain ⟨front, m, d, hrest, hfront⟩ := e.transcript_iterate_of_some htakes hr
        refine ⟨⟨request, a 0 request⟩ :: front, m, d, ?_, List.forall_mem_cons.mpr ⟨hfirst, hfront⟩⟩
        rw [hrest, List.cons_append]
  -- Without requests there is nothing to end.
  · have hsent : (e.traverse limit contract method params size).transcript n a = [] := by
      rw [traverse_eq, Calls.transcript_bind, invoke, transcript_call, result_call, if_neg htakes,
        if_neg htakes, List.nil_append]
    rw [hsent]
    exact nofun

end Traverse

/-- A node on a local network. -/
def nearby : Endpoint :=
  ⟨"http://node-a:10332", ⟨"http", some ⟨.name "node-a", some 10332⟩, "/", none, none⟩⟩

/-- The answer of an invocation that failed behind the opening of a session. -/
def faulted : String :=
  "\x7b\x22result\x22:\x7b\x22state\x22:\x22FAULT\x22,\x22stack\x22:[],\x22session\x22:\x22s1\x22\x7d\x7d"

/-- The outcome that is read from the answer. -/
def readFaulted? : Option Invocation :=
  (readDelivery nearby.url.text "invokefunction" Json.readInvocation (.answered 200 faulted)).toOption

/-- What a traversal sends to a node where every invocation fails. -/
def sentToFaulted : List Sent :=
  (nearby.traverse maxPages .gas "iterate" [] 100).transcript 1 fun _ _ => .answered 200 faulted

/-- A node that answers with a session and a fault is not asked to end the session. -/
theorem session_left_by_fault :
    (nearby.invocation? sentToFaulted).bind (·.session) = some "s1" ∧
      ∀ x ∈ sentToFaulted, ¬ x.EndsSession := by
  have htakes : nearby.takesRequests := by decide +kernel
  have hopen : readFaulted?.bind (·.session) = some "s1" := by decide +kernel
  have hnone : readFaulted?.bind Invocation.iterated? = none := by decide +kernel
  obtain ⟨r, hread, hsession⟩ := Option.bind_eq_some_iff.mp hopen
  obtain ⟨request, b, hrequest, hsent⟩ := nearby.transcript_traverse maxPages .gas "iterate" [] 100 1
    (fun _ _ => .answered 200 faulted) htakes
  rw [hread, Option.bind_some] at hnone
  rw [readFaulted?] at hread
  simp only [hread] at hsent
  rw [nearby.transcript_iterate_of_none hnone] at hsent
  rw [sentToFaulted, hsent, invocation?, List.head?_cons, Option.bind_some, hread, Option.bind_some]
  refine ⟨hsession, List.forall_mem_singleton.mpr ?_⟩
  rw [Sent.EndsSession, hrequest]
  decide

end Endpoint

end ChainGauge
