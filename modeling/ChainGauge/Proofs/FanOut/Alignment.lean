import ChainGauge.Proofs.FanOut.History

/-!
# Answers stand under their endpoints

A query asks the connections that are held when it starts. What it comes to is fixed by these and by
the first answer of each (`System.fetches_run`), whatever becomes of the slots meanwhile, and its values
are read off slot by slot (`System.resultAt?`). A connection in a slot is always one to the endpoint of
the slot, so no value can get under the address of another endpoint, and who fails takes only its own
entry along.

## Key results

- `System.fetches_run`: a query after any actions
- `System.results_of_live`: the values of a query, slot by slot
- `System.results_aligned`: all of this for every fan-out and every run
-/

namespace ChainGauge.FanOut

open Pool (Connection)

variable {q : Query}

/-- What an action tells a query of a connection. -/
def Action.reply? (q : Query) (id : Nat) (c : Connection) : Action → Option q.Reply
  | .replied id' c' answer => if id' = id ∧ c' = c then some (answer q) else none
  | _ => none

/-- The first answer that the actions of a run tell a query of a connection. -/
def firstReply (q : Query) (id : Nat) (actions : List Action) (c : Connection) : Option q.Reply :=
  actions.findSome? (Action.reply? q id c)

/-- A connection that was asked, once it has answered what is given. -/
def Asked.told (a : Asked q) (reply : Connection → Option q.Reply) : Asked q :=
  { a with reply := a.reply.or (reply a.connection) }

/-- A query whose connections have answered what is given. -/
def Fetch.told (f : Fetch q) (reply : Connection → Option q.Reply) : Fetch q :=
  ⟨f.asked.map (·.told reply)⟩

/-- A node that is asked hears an answer as it is told one. -/
private theorem Asked.hear_eq_told (a : Asked q) (id : Nat) (c : Connection)
    (answer : (q : Query) → q.Reply) :
    a.hear c answer = a.told fun c' => Action.reply? q id c' (.replied id c answer) := by
  unfold Asked.hear Asked.told Action.reply?
  by_cases hc : a.connection = c
  · simp [hc]
  · simp [hc, Ne.symm hc]

/-- So does every node of a fetch. -/
private theorem Fetch.hear_eq_told (f : Fetch q) (id : Nat) (c : Connection)
    (answer : (q : Query) → q.Reply) :
    f.hear c answer = f.told fun c' => Action.reply? q id c' (.replied id c answer) := by
  simp only [Fetch.hear, Fetch.told, Asked.hear_eq_told _ id]

/-- A node has a result exactly if it answered with one. -/
private theorem Asked.result?_eq_some_iff {a : Asked q} {host : String} {v : q.Value} :
    a.result? = some (host, v) ↔ a.host = host ∧ a.reply = some (.ok v) := by
  obtain ⟨host', c, reply⟩ := a
  cases reply with
  | none => simp [Asked.result?]
  | some r => cases r <;> simp [Asked.result?]

/-- Who is told nothing stays as it is. -/
private theorem Fetch.told_none (f : Fetch q) : f.told (fun _ => none) = f := by
  simp [Fetch.told, Asked.told]

/-- Told twice, a connection goes by the first answer that it has. -/
private theorem Fetch.told_told (f : Fetch q) (first second : Connection → Option q.Reply) :
    (f.told first).told second = f.told fun c => (first c).or (second c) := by
  simp [Fetch.told, Asked.told, Option.or_assoc]

namespace System

variable {s : System} {id : Nat} {f : Fetch q}

/-! ## A query in a run -/

/-- An action tells a fetch its reply, and nothing else. -/
private theorem fetches_act (h : s.fetches[id]? = some ⟨q, f⟩) (a : Action) :
    (s.act a).fetches[id]? = some ⟨q, f.told fun c => Action.reply? q id c a⟩ := by
  have hsame : f.told (fun _ => none) = f := f.told_none
  -- Only replies tell a fetch something; for all other actions it is told nothing, which is itself.
  cases a with
  | recheck =>
    rw [← hsame] at h
    exact h
  | event id' e =>
    rw [← hsame] at h
    have hact := s.acts_act (.event id' e)
    generalize s.act (.event id' e) = t at hact ⊢
    cases hact with
    | ignored => exact h
    | moved => exact h
  | fetch q' =>
    rw [← hsame] at h
    have hlt : id < s.fetches.length := (List.getElem?_eq_some_iff.mp h).1
    simp only [act, List.getElem?_append_left hlt]
    exact h
  | replied id' c answer =>
    simp only [act, List.getElem?_modify, h]
    -- A reply to another fetch is none for this one.
    by_cases hid : id' = id
    · subst hid
      simp only [↓reduceIte, Option.map_eq_map, Option.map_some, f.hear_eq_told id']
    · have hnone : (fun c' => Action.reply? q id c' (.replied id' c answer)) = fun _ => none := by
        funext c'
        simp [Action.reply?, hid]
      simp [hid, hnone, hsame]

/-- A query after any actions: each connection has given the first answer that it was heard with. -/
theorem fetches_run (h : s.fetches[id]? = some ⟨q, f⟩) (actions : List Action) :
    (s.run actions).fetches[id]? = some ⟨q, f.told (firstReply q id actions)⟩ := by
  -- The first action is heard first, and a connection goes by the first reply it has.
  induction actions generalizing s f with
  | nil =>
    have hnone : firstReply q id [] = fun _ => none := rfl
    rw [hnone, f.told_none]
    exact h
  | cons a actions ih =>
    have hnext := ih (fetches_act h a)
    rw [Fetch.told_told] at hnext
    rw [run_cons, hnext]
    have hfirst : (fun c => (Action.reply? q id c a).or (firstReply q id actions c)) =
        firstReply q id (a :: actions) := by
      funext c
      simp only [firstReply, List.findSome?_cons]
      cases Action.reply? q id c a <;> rfl
    rw [hfirst]

/-! ## Slot by slot -/

/-- The value that the connection in a slot gave, under the address of the endpoint of the slot. -/
def resultAt? (s : System) (reply : Connection → Option q.Reply) (i : Nat) :
    Option (String × q.Value) := do
  let host ← s.endpoints[i]?
  let slot ← s.slots[i]?
  let c ← slot
  Asked.result? ⟨host, c, reply c⟩

/-- A walk over the positions of a list is a walk over the list. -/
private theorem range_filterMap {α β : Type} (l : List α) (g : α → Option β) :
    (List.range l.length).filterMap (fun i => l[i]?.bind g) = l.filterMap g := by
  induction l with
  | nil => rfl
  | cons a l ih =>
    rw [List.length_cons, List.range_succ_eq_map, List.filterMap_cons, List.filterMap_map]
    simp only [List.getElem?_cons_zero, Option.bind_some, List.filterMap_cons, Function.comp_def,
      List.getElem?_cons_succ, ih]

/-- The result at a position is that of its slot, under the name of its endpoint. -/
private theorem resultAt?_eq (s : System) (reply : Connection → Option q.Reply) (i : Nat) :
    s.resultAt? reply i = (s.endpoints.zip s.slots)[i]?.bind fun (host, slot) =>
      slot.bind fun c => Asked.result? ⟨host, c, reply c⟩ := by
  unfold resultAt? List.zip
  rw [List.getElem?_zipWith]
  cases s.endpoints[i]? with
  | none => rfl
  | some host => cases s.slots[i]? <;> rfl

/-- The values of a query, slot by slot. -/
theorem results_of_live (hs : s.Valid) (reply : Connection → Option q.Reply) :
    ((Fetch.start q s.live).told reply).results =
      (List.range s.endpoints.length).filterMap (s.resultAt? reply) := by
  have hlength : (s.endpoints.zip s.slots).length = s.endpoints.length := by
    rw [List.length_zip, hs.slots, Nat.min_self]
  have hentry : s.resultAt? reply = fun i => (s.endpoints.zip s.slots)[i]?.bind fun (host, slot) =>
      slot.bind fun c => Asked.result? ⟨host, c, reply c⟩ := funext (s.resultAt?_eq reply)
  rw [hentry, ← hlength, range_filterMap]
  simp only [Fetch.results, Fetch.told, Fetch.start, live, List.filterMap_map,
    List.filterMap_filterMap]
  -- Endpoint by endpoint: an empty slot asks nothing and gives no result.
  congr 1
  funext ⟨host, slot⟩
  cases slot <;> simp [Asked.told]

/-- A connection is live exactly if a slot holds it. -/
private theorem mem_live_iff {host : String} {c : Connection} :
    (host, c) ∈ s.live ↔ ∃ i : Nat, s.endpoints[i]? = some host ∧ s.slots[i]? = some (some c) := by
  -- Endpoints and slots have the same positions, so a pair is found at the position of both.
  have hzip : ∀ i : Nat, (s.endpoints.zip s.slots)[i]? = some (host, some c) ↔
      s.endpoints[i]? = some host ∧ s.slots[i]? = some (some c) :=
    fun i => List.getElem?_zip_eq_some
  simp only [live, List.mem_filterMap, Prod.exists, Option.map_eq_some_iff, Prod.mk.injEq]
  constructor
  · rintro ⟨_, _, hmem, _, rfl, rfl, rfl⟩
    obtain ⟨i, hi⟩ := List.mem_iff_getElem?.mp hmem
    exact ⟨i, (hzip i).mp hi⟩
  · rintro ⟨i, hi⟩
    exact ⟨host, some c, List.mem_of_getElem? ((hzip i).mpr hi), c, rfl, rfl, rfl⟩

/-- A query is answered once every connection that it asked has answered. -/
private theorem isAnswered_of_live (hs : s.Valid) (reply : Connection → Option q.Reply) :
    ((Fetch.start q s.live).told reply).isAnswered = true ↔
      ∀ (i : Nat) c, s.slots[i]? = some (some c) → (reply c).isSome = true := by
  simp only [Fetch.isAnswered, Fetch.told, Fetch.start, List.all_map, List.all_eq_true,
    Function.comp_apply, Asked.told, Option.none_or, Prod.forall]
  constructor
  -- There are as many endpoints as slots, so a slot has an endpoint.
  · intro h i c hc
    have hlt : i < s.endpoints.length := by
      rw [← hs.slots]
      exact (List.getElem?_eq_some_iff.mp hc).1
    exact h _ c (mem_live_iff.mpr ⟨i, List.getElem?_eq_getElem hlt, hc⟩)
  · intro h host c hmem
    obtain ⟨i, -, hc⟩ := mem_live_iff.mp hmem
    exact h i c hc

/-- A position has a result exactly if its slot holds a connection that answered with one. -/
private theorem resultAt?_eq_some_iff {reply : Connection → Option q.Reply} {i : Nat}
    {host : String}
    {v : q.Value} :
    s.resultAt? reply i = some (host, v) ↔ s.endpoints[i]? = some host ∧
      ∃ c, s.slots[i]? = some (some c) ∧ reply c = some (.ok v) := by
  simp only [resultAt?, Option.bind_eq_bind, Option.bind_eq_some_iff]
  constructor
  -- Only a reply that is a value is a result; errors and missing replies give none.
  · rintro ⟨_, hhost, _, hslot, c, rfl, hresult⟩
    obtain ⟨rfl, hreply⟩ := Asked.result?_eq_some_iff.mp hresult
    exact ⟨hhost, c, hslot, hreply⟩
  · rintro ⟨hhost, c, hslot, hreply⟩
    exact ⟨host, hhost, _, hslot, c, rfl, Asked.result?_eq_some_iff.mpr ⟨rfl, hreply⟩⟩

/-- The entry of a slot depends on its own connection only. -/
private theorem resultAt?_congr {reply reply' : Connection → Option q.Reply} {i : Nat}
    (h : ∀ c, s.slots[i]? = some (some c) → reply' c = reply c) :
    s.resultAt? reply' i = s.resultAt? reply i := by
  refine Option.ext fun (host, v) => ?_
  simp only [resultAt?_eq_some_iff]
  refine and_congr_right fun _ => exists_congr fun c => and_congr_right fun hc => ?_
  rw [h c hc]

/-- Who gives no value has no entry. -/
private theorem resultAt?_eq_none {reply : Connection → Option q.Reply} {i : Nat}
    (h : ∀ c, s.slots[i]? = some (some c) → ∀ v, reply c ≠ some (.ok v)) :
    s.resultAt? reply i = none := by
  refine Option.eq_none_iff_forall_ne_some.mpr fun (host, v) hentry => ?_
  obtain ⟨-, c, hc, hreply⟩ := resultAt?_eq_some_iff.mp hentry
  exact h c hc v hreply

end System

/-- Of every fan-out and every run of rechecks and queries, with whatever probes, dials and answers
bring: there is one slot for each endpoint, and a connection in a slot comes from a dial of the endpoint
of that slot, be it the first dial or that of a recheck. Let a query start then. It is answered
once every connection that was held has answered, whatever becomes of the slots meanwhile, and what it
brings is, in the order of the endpoints, one entry for each slot whose connection gave a value: the
address of the endpoint with the value that this very connection answered first. If things go on
differently and the connection of one endpoint gives no value, but all others answer as they did, then
its entry is left out and all others are the same, in the same order. -/
theorem results_aligned (endpoints : List String) (before after : List Action) (q : Query) :
    let s := (System.connected endpoints).run before
    let id := s.fetches.length
    let reply := firstReply q id after
    s.endpoints = endpoints ∧ s.slots.length = endpoints.length ∧
    (∀ (i : Nat) c, s.slots[i]? = some (some c) → c.endpoint = i ∧
      (c = ⟨i, i⟩ ∨ ∃ d ∈ (System.connected endpoints).dials i before, d.connection = some c)) ∧
    ∃ f : Fetch q, ((s.act (.fetch q)).run after).fetches[id]? = some ⟨q, f⟩ ∧
      (f.isAnswered = true ↔
        ∀ (i : Nat) c, s.slots[i]? = some (some c) → (reply c).isSome = true) ∧
      f.results = (List.range endpoints.length).filterMap (s.resultAt? reply) ∧
      (∀ i host v, s.resultAt? reply i = some (host, v) ↔ endpoints[i]? = some host ∧
        ∃ c, s.slots[i]? = some (some c) ∧ reply c = some (.ok v)) ∧
      ∀ (k : Nat) (after' : List Action),
        let reply' := firstReply q id after'
        (∀ c, c.endpoint ≠ k → reply' c = reply c) →
        (∀ c, c.endpoint = k → ∀ v, reply' c ≠ some (.ok v)) →
        ∃ f' : Fetch q, ((s.act (.fetch q)).run after').fetches[id]? = some ⟨q, f'⟩ ∧
          f'.results = (List.range endpoints.length).filterMap fun i =>
            if i = k then none else s.resultAt? reply i := by
  intro s id reply
  have hs : s.Valid := System.valid_run (System.valid_connected endpoints) before
  have hendpoints : s.endpoints = endpoints := System.endpoints_run _ before
  have hlength : s.slots.length = endpoints.length := hendpoints ▸ hs.slots
  have horigin : ∀ (i : Nat) c, s.slots[i]? = some (some c) → c.endpoint = i ∧
      (c = ⟨i, i⟩ ∨ ∃ d ∈ (System.connected endpoints).dials i before, d.connection = some c) := by
    intro i c hc
    have hi : i < endpoints.length := hlength ▸ (List.getElem?_eq_some_iff.mp hc).1
    exact (System.ledger_run hi before).slot_origin hc
  -- The new query is behind all others, with nothing answered yet.
  have hstart : (s.act (.fetch q)).fetches[id]? = some ⟨q, .start q s.live⟩ := by
    simp only [System.act, id, List.getElem?_concat_length]
  have hafter : ∀ actions, ((s.act (.fetch q)).run actions).fetches[id]? =
      some ⟨q, (Fetch.start q s.live).told (firstReply q id actions)⟩ :=
    System.fetches_run hstart
  have hresults : ∀ actions, ((Fetch.start q s.live).told (firstReply q id actions)).results =
      (List.range endpoints.length).filterMap (s.resultAt? (firstReply q id actions)) := by
    intro actions
    rw [System.results_of_live hs, hendpoints]
  refine ⟨hendpoints, hlength, horigin, _, hafter after, System.isAnswered_of_live hs reply,
    hresults after, fun i host v => hendpoints ▸ System.resultAt?_eq_some_iff, ?_⟩
  intro k after' reply' hothers hfails
  refine ⟨_, hafter after', ?_⟩
  rw [hresults after']
  congr 1
  funext i
  by_cases hi : i = k
  · rw [if_pos hi]
    exact System.resultAt?_eq_none fun c hc => hfails c ((horigin i c hc).1.trans hi)
  · rw [if_neg hi]
    refine System.resultAt?_congr fun c hc => hothers c ?_
    rw [(horigin i c hc).1]
    exact hi

end ChainGauge.FanOut
