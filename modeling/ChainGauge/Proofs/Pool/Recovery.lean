import ChainGauge.Proofs.Pool.RoundRobin

/-!
# A pool recovers by itself

Whatever happened to a pool before, whoever asks next gets a connection as soon as some endpoint can
be dialed. No order of events makes the asker miss that endpoint, since it gives up only when every
endpoint was dialed in vain; and the asker gets to its end, since everybody in its way is done
after finitely many events.

## Key results

- `System.attend_hopes`: one event for an asker, or for whoever is in its way, brings it forward
- `System.returned_attended`: an asker that is attended to gets a connection
- `failover_round_robin`: what the dials of an asker do, and that the pool recovers
-/

namespace ChainGauge.Pool

/-- What endpoints and the clock answer at a time. -/
structure Answers where
  alive : Bool
  /-- Whether an endpoint can be dialed. -/
  connects : Nat → Bool
  now : Nat

/-- The event that an asker is waiting for. -/
def Phase.awaits (phase : Phase) (p : State) (a : Answers) : Option Event :=
  match phase with
  | .arriving => some .look
  | .judging _ _ => some (.judge a.now)
  | .probing _ _ => some (.probed a.alive a.now)
  | .waiting _ _ => some .acquire
  | .dialing k => some (.dialed (a.connects (p.target k)) a.now)
  | _ => none

namespace System

/-- Attends to an asker: it gets what it is waiting for, or whoever holds the lock does. -/
def attend (s : System) (id : Nat) (a : Answers) : System :=
  let next := s.holder.getD id
  match (s.phase? next).bind fun phase => phase.awaits s.pool a with
  | some e => s.act (.event next e)
  | none => s

/-- Attends to an asker several times. -/
def attended (s : System) (id : Nat) : List Answers → System
  | [] => s
  | a :: answers => (s.attend id a).attended id answers

end System

/-! ## What is left to do -/

/-- How many events an asker is from its end at most. -/
def Phase.effort (size : Nat) : Phase → Nat
  | .arriving => size + 4
  | .judging _ _ => size + 3
  | .probing _ _ => size + 2
  | .waiting _ _ => size + 1
  | .dialing k => size - k
  | _ => 0

/-- An asker has a connection or may still get one to an endpoint. -/
def Phase.Hopes (phase : Phase) (p : State) (endpoint : Nat) : Prop :=
  match phase with
  | .arriving | .judging _ _ | .probing _ _ | .waiting _ _ | .returned (some _) => True
  | .dialing k => ∃ i, k ≤ i ∧ i < p.size ∧ p.target i = endpoint
  | _ => False

/-- Who waits for an event is moved by it, unless it waits for a lock that is held. -/
private theorem Call.isSome_move?_of_awaits {c : Call} {id : Nat} {p : State} {holder : Option Nat}
    {a : Answers} {e : Event} (he : c.phase.awaits p a = some e)
    (hfree : holder = none ∨ ∃ k, c.phase = .dialing k) : (c.move? id p holder e).isSome := by
  obtain ⟨purpose, phase⟩ := c
  cases phase with
  | arriving | waiting =>
    cases he
    -- These two ask for the lock, and the one who dials already has it.
    rcases hfree with rfl | ⟨k, ⟨⟩⟩
    rfl
  | judging | dialing =>
    cases he
    rfl
  | probing =>
    obtain ⟨alive, connects, now⟩ := a
    cases he
    cases alive <;> rfl
  | returned | answered | abandoned => exact nomatch he

/-- Who hopes and has no connection yet is waiting for something, and is not at its end. -/
theorem Phase.Hopes.undone {phase : Phase} {p : State} {endpoint : Nat}
    (h : phase.Hopes p endpoint) (hopen : ∀ c, phase ≠ .returned (some c)) :
    0 < phase.effort p.size ∧ ∀ a, ∃ e, phase.awaits p a = some e := by
  -- A phase with hope is not yet done, apart from a connection handed out.
  cases phase with
  | dialing k =>
    obtain ⟨i, hle, hlt, -⟩ := h
    have hpos : 0 < p.size - k := by omega
    exact ⟨hpos, fun a => ⟨_, rfl⟩⟩
  | returned connection =>
    cases connection with
    | none => exact nomatch h
    | some c => exact absurd rfl (hopen c)
  | answered | abandoned => exact nomatch h
  | _ => exact ⟨by simp [Phase.effort], fun a => ⟨_, rfl⟩⟩

/-- Only for whoever dials it matters what becomes of the pool. -/
private theorem Phase.Hopes.of_not_dialing {phase : Phase} {p q : State} {endpoint : Nat}
    (h : phase.Hopes p endpoint) (hdialing : ∀ k, phase ≠ .dialing k) :
    phase.Hopes q endpoint := by
  cases phase with
  | dialing k => exact absurd rfl (hdialing k)
  | returned connection => cases connection <;> exact h
  | _ => exact h

/-- What an asker is waiting for brings it forward, and it does not miss an endpoint that can be
dialed. -/
private theorem Transition.hopes {id : Nat} {purpose : Purpose} {p : State} {holder : Option Nat}
    {e : Event} {phase : Phase} {m : Move} {a : Answers} {endpoint : Nat}
    (h : Transition id purpose p holder e phase m) (he : phase.awaits p a = some e)
    (hopes : phase.Hopes p endpoint) (hnext : p.next < p.size) (hendpoint : endpoint < p.size)
    (hconnects : a.connects endpoint = true) (hk : ∀ k, phase = .dialing k → k < p.size) :
    m.phase.Hopes m.pool endpoint ∧ m.phase.effort p.size < phase.effort p.size ∧
      (holder = none ∨ holder = some id → m.holder = none ∨ m.holder = some id) := by
  -- A dial in vain was not one of the endpoint that can be dialed.
  have hmissed : ∀ {k now}, e = .dialed false now → phase = .dialing k →
      ∃ i, k + 1 ≤ i ∧ i < p.size ∧ p.target i = endpoint := by
    rintro k now rfl rfl
    obtain ⟨i, hle, hlt, htarget⟩ := hopes
    have hrefused : a.connects (p.target k) = false := by
      simp only [Phase.awaits, Option.some.injEq, Event.dialed.injEq] at he
      exact he.1
    have hne : i ≠ k := by
      rintro rfl
      rw [htarget, hconnects] at hrefused
      exact nomatch hrefused
    exact ⟨i, by omega, hlt, htarget⟩
  cases h with
  | missed | found | checked | taken => exact ⟨trivial, by simp [Phase.effort], fun _ => .inl rfl⟩
  | fresh | stale | alive | silent => exact ⟨trivial, by simp [Phase.effort], fun hfree => hfree⟩
  | locked =>
    obtain ⟨i, hi, htarget⟩ := State.exists_target_eq hnext hendpoint
    exact ⟨⟨i, Nat.zero_le i, hi, htarget⟩, by simp [Phase.effort], fun _ => .inr rfl⟩
  | connected =>
    have := hk _ rfl
    exact ⟨trivial, by simp only [Phase.effort]; omega, fun _ => .inl rfl⟩
  | refused more =>
    exact ⟨hmissed rfl rfl, by simp only [Phase.effort]; omega, fun _ => .inr rfl⟩
  | exhausted last =>
    obtain ⟨i, hle, hlt, -⟩ := hmissed rfl rfl
    omega
  | answered => exact nomatch he
  | abandoned => cases phase <;> exact nomatch he

namespace System

variable {s t : System} {a : Answers} {id j : Nat} {phase : Phase} {e : Event} {endpoint : Nat}

/-- How many events there are before the end of an asker at most, with those of whoever holds the
lock. -/
def effort (s : System) (id : Nat) : Nat :=
  let own (j : Nat) := (s.phase? j).elim 0 (·.effort s.pool.size)
  own id + (if s.holder = none ∨ s.holder = some id then 0 else s.holder.elim 0 own)

/-- With the lock free or in its own hands, an asker has its own way to go. -/
private theorem effort_of_free (hphase : s.phase? id = some phase)
    (hfree : s.holder = none ∨ s.holder = some id) : s.effort id = phase.effort s.pool.size := by
  simp [effort, hphase, hfree]

/-- Otherwise it has that of the holder to go as well. -/
private theorem effort_of_held {other : Phase} (hphase : s.phase? id = some phase)
    (hheld : s.holder = some j) (hj : j ≠ id) (hother : s.phase? j = some other) :
    s.effort id = phase.effort s.pool.size + other.effort s.pool.size := by
  simp [effort, hphase, hheld, hj, hother]

/-- The event that an asker waits for is a move of the asker, unless it waits for a lock that is
held. -/
private theorem moved_of_awaits (hphase : s.phase? j = some phase)
    (he : phase.awaits s.pool a = some e)
    (hfree : s.holder = none ∨ ∃ k, phase = .dialing k) :
    ∃ purpose m, Transition j purpose s.pool s.holder e phase m ∧
      (s.act (.event j e)).pool = m.pool ∧ (s.act (.event j e)).holder = m.holder ∧
      ∀ i, (s.act (.event j e)).phase? i = if i = j then some m.phase else s.phase? i := by
  obtain ⟨c, hc, rfl⟩ := phase?_eq_some_iff.mp hphase
  obtain ⟨m, hm⟩ := Option.isSome_iff_exists.mp (Call.isSome_move?_of_awaits he hfree)
  rw [act_of_move? hc hm]
  exact ⟨c.purpose, m, Call.move?_eq_some_iff.mp hm, rfl, rfl, phase?_move hc m⟩

/-- Who is attended to gets what it waits for. -/
private theorem attend_eq {other : Phase} (hnext : s.holder.getD id = j)
    (hother : s.phase? j = some other) :
    s.attend id a = (match other.awaits s.pool a with
      | some e => s.act (.event j e)
      | none => s) := by
  simp only [attend, hnext, hother, Option.bind_some]

/-- While someone else holds the lock, that one is attended to, and nobody else moves. -/
private theorem attend_held (hs : s.Valid) (hphase : s.phase? id = some phase)
    (hheld : s.holder = some j)
    (hj : j ≠ id) (a : Answers) :
    (s.attend id a).phase? id = some phase ∧ (s.attend id a).effort id < s.effort id := by
  obtain ⟨k, hdialing⟩ := hs.holder j hheld
  have hk : k < s.pool.size := (hs.dialing j k hdialing).2.2
  rw [attend_eq (by rw [hheld]; rfl) hdialing, effort_of_held hphase hheld hj hdialing]
  obtain ⟨purpose, m, transition, hpool, hholder, hphases⟩ :=
    moved_of_awaits (a := a) hdialing rfl (.inr ⟨k, rfl⟩)
  simp only [Phase.awaits]
  generalize s.act (.event j (.dialed (a.connects (s.pool.target k)) a.now)) = t
    at hpool hholder hphases ⊢
  have hid : t.phase? id = some phase := by rw [hphases, if_neg (Ne.symm hj), hphase]
  have hsize : t.pool.size = s.pool.size := hpool ▸ transition.size_eq
  generalize a.connects (s.pool.target k) = connected at transition
  refine ⟨hid, ?_⟩
  -- The holder either lets go of the lock, or has one endpoint less before it.
  cases transition with
  | connected | exhausted =>
    rw [effort_of_free hid (.inl hholder), hsize]
    simp only [Phase.effort]
    omega
  | refused more =>
    have hother : t.phase? j = some (.dialing (k + 1)) := by rw [hphases, if_pos rfl]
    rw [effort_of_held hid hholder hj hother, hsize]
    simp only [Phase.effort]
    omega

/-- While nobody else holds the lock, the asker itself is attended to. -/
private theorem attend_free (hs : s.Valid) (hphase : s.phase? id = some phase)
    (hfree : s.holder = none ∨ s.holder = some id) (hendpoint : endpoint < s.pool.size)
    (hopes : phase.Hopes s.pool endpoint) (hconnects : a.connects endpoint = true)
    (hopen : ∀ c, phase ≠ .returned (some c)) :
    ∃ next, (s.attend id a).phase? id = some next ∧ next.Hopes (s.attend id a).pool endpoint ∧
      (s.attend id a).effort id < s.effort id := by
  obtain ⟨e, he⟩ := (hopes.undone hopen).2 a
  -- Whoever holds the lock is dialing, so holding it oneself is no obstacle.
  have hlock : s.holder = none ∨ ∃ k, phase = .dialing k := by
    refine hfree.imp_right fun hheld => ?_
    obtain ⟨k, hk⟩ := hs.holder id hheld
    exact ⟨k, Option.some.inj (hphase.symm.trans hk)⟩
  have hnext : s.holder.getD id = id := by rcases hfree with h | h <;> rw [h] <;> rfl
  rw [attend_eq hnext hphase, effort_of_free hphase hfree, he]
  obtain ⟨purpose, m, transition, hpool, hholder, hphases⟩ := moved_of_awaits hphase he hlock
  simp only
  generalize s.act (.event id e) = t at hpool hholder hphases ⊢
  have hid : t.phase? id = some m.phase := by rw [hphases, if_pos rfl]
  obtain ⟨hhopes, hless, hkeeps⟩ := transition.hopes he hopes hs.sound.next_lt hendpoint hconnects
    fun k hk => (hs.dialing id k (hk ▸ hphase)).2.2
  refine ⟨m.phase, hid, hpool ▸ hhopes, ?_⟩
  rw [effort_of_free hid (hholder ▸ hkeeps hfree), hpool, transition.size_eq]
  exact hless

/-- One event for an asker, or for whoever is in its way, brings it forward. -/
theorem attend_hopes (hs : s.Valid) (hphase : s.phase? id = some phase)
    (hendpoint : endpoint < s.pool.size) (hopes : phase.Hopes s.pool endpoint)
    (hconnects : a.connects endpoint = true) (hopen : ∀ c, phase ≠ .returned (some c)) :
    ∃ next, (s.attend id a).phase? id = some next ∧ next.Hopes (s.attend id a).pool endpoint ∧
      (s.attend id a).effort id < s.effort id := by
  by_cases hfree : s.holder = none ∨ s.holder = some id
  · exact attend_free hs hphase hfree hendpoint hopes hconnects hopen
  -- Another call holds the lock: it is attended to first, and this one keeps its phase.
  · obtain ⟨hlocked, hother⟩ := not_or.mp hfree
    obtain ⟨j, hj⟩ := Option.ne_none_iff_exists'.mp hlocked
    have hne : j ≠ id := fun h => hother (h ▸ hj)
    obtain ⟨hsame, hless⟩ := attend_held hs hphase hj hne a
    refine ⟨phase, hsame, hopes.of_not_dialing ?_, hless⟩
    rintro k rfl
    exact hother (hs.dialing id k hphase).1

/-- Attending is an action or nothing. -/
private theorem attend_eq_run (s : System) (id : Nat) (a : Answers) :
    ∃ actions, s.attend id a = s.run actions := by
  unfold attend
  dsimp only
  split
  · rename_i e _
    exact ⟨[.event (s.holder.getD id) e], rfl⟩
  · exact ⟨[], rfl⟩

/-- Whoever has the connection keeps it while being attended to. -/
private theorem attended_of_returned {c : Connection} (hs : s.Valid)
    (hphase : s.phase? id = some (.returned (some c))) (answers : List Answers) :
    (s.attended id answers).phase? id = some (.returned (some c)) := by
  induction answers generalizing s with
  | nil => exact hphase
  | cons a answers ih =>
    obtain ⟨actions, hrun⟩ := s.attend_eq_run id a
    refine ih (hrun ▸ valid_run hs actions) ?_
    -- Whoever's turn it is, a call that has returned is not moved any more.
    by_cases hfree : s.holder.getD id = id
    · rw [attend_eq hfree hphase]
      exact hphase
    · cases hheld : s.holder with
      | none => exact absurd (by rw [hheld]; rfl) hfree
      | some j =>
        have hne : j ≠ id := by simpa [hheld] using hfree
        exact (attend_held hs hphase hheld hne a).1

/-- An asker that is attended to long enough gets a connection, if some endpoint can be dialed. -/
theorem returned_attended (hs : s.Valid) (hphase : s.phase? id = some phase)
    (hendpoint : endpoint < s.pool.size) (hopes : phase.Hopes s.pool endpoint)
    {answers : List Answers} (hconnects : ∀ a ∈ answers, a.connects endpoint = true)
    (hlong : s.effort id ≤ answers.length) :
    ∃ c, (s.attended id answers).phase? id = some (.returned (some c)) := by
  -- On the answers: each of them leaves less to do, and `hlong` says that there are enough.
  induction answers generalizing s phase with
  | nil =>
    by_cases hreturned : ∃ c, phase = .returned (some c)
    · obtain ⟨c, rfl⟩ := hreturned
      exact ⟨c, hphase⟩
    · have hpos := (hopes.undone fun c hc => hreturned ⟨c, hc⟩).1
      -- With no answers left nothing may be left to do.
      have hown : phase.effort s.pool.size ≤ s.effort id := by simp [effort, hphase]
      simp only [List.length_nil] at hlong
      omega
  | cons a answers ih =>
    by_cases hreturned : ∃ c, phase = .returned (some c)
    · obtain ⟨c, rfl⟩ := hreturned
      exact ⟨c, attended_of_returned hs hphase _⟩
    · obtain ⟨next, hnext, hhopes, hless⟩ :=
        attend_hopes hs hphase hendpoint hopes (hconnects a List.mem_cons_self)
          fun c hc => hreturned ⟨c, hc⟩
      obtain ⟨actions, hrun⟩ := s.attend_eq_run id a
      refine ih (hrun ▸ valid_run hs actions) hnext ?_ hhopes
        (fun a ha => hconnects a (List.mem_cons_of_mem _ ha)) ?_
      · rwa [hrun, size_run]
      · simp only [List.length_cons] at hlong
        omega

/-- A new asker has two rounds of dials and a few steps to go at most. -/
private theorem effort_ask_le (hs : s.Valid) (purpose : Purpose) :
    (s.ask purpose).effort s.calls.length ≤ 2 * s.pool.size + 4 := by
  have hown : (s.ask purpose).phase? s.calls.length = some .arriving := by
    rw [phase?_ask, if_pos rfl]
  -- A holder met on arrival has to finish its round first, which is at most one more of them.
  cases hheld : s.holder with
  | none =>
    rw [effort_of_free hown (.inl hheld)]
    simp only [Phase.effort, ask_pool]
    omega
  | some j =>
    obtain ⟨k, hdialing⟩ := hs.holder j hheld
    have hne : j ≠ s.calls.length := by
      rintro rfl
      exact nomatch s.phase?_length.symm.trans hdialing
    rw [effort_of_held hown hheld hne (phase?_ask_of_some purpose hdialing)]
    simp only [Phase.effort, ask_pool]
    omega

/-- Whoever asks anew gets a connection within two rounds, if some endpoint can be dialed. -/
private theorem returned_ask (hs : s.Valid) (purpose : Purpose) (hendpoint : endpoint < s.pool.size)
    {answers : List Answers} (hconnects : ∀ a ∈ answers, a.connects endpoint = true)
    (hlong : 2 * s.pool.size + 4 ≤ answers.length) :
    ∃ c, ((s.ask purpose).attended s.calls.length answers).phase? s.calls.length =
      some (.returned (some c)) := by
  have hvalid : (s.ask purpose).Valid := Acts.valid .asked hs
  have hown : (s.ask purpose).phase? s.calls.length = some .arriving := by
    rw [phase?_ask, if_pos rfl]
  exact returned_attended hvalid hown hendpoint trivial hconnects
    (Nat.le_trans (effort_ask_le hs purpose) hlong)

end System

/-! ## Failover -/

section Connected

variable {size interval now : Nat} {connects : Nat → Bool} {p : State} {actions : List Action}
  {id : Nat} {m : Moment}

/-- The number of endpoints is that of the beginning. -/
private theorem size_of_connect (h : connect size interval connects now = some p)
    (actions : List Action) :
    ((System.idle p).run actions).pool.size = size :=
  (System.size_run _ actions).trans (connect_eq_some h).2.1

/-- An asker begins to dial at the cursor. -/
private theorem ring_of_starts (h : connect size interval connects now = some p)
    (hm : m ∈ (System.idle p).moments actions) (hstarts : m.Starts id) :
    m.after.pool.ring = m.before.pool.ring ∧ m.after.pool.size = size ∧
      m.after.pool.next < m.after.pool.size ∧
      ∀ k, m.after.pool.target k = (m.before.pool.next + k) % size := by
  obtain ⟨before, after, -, hbefore⟩ := System.mem_moments_iff.mp hm
  have hsize : m.before.pool.size = size := hbefore ▸ size_of_connect h before
  have hvalid : m.before.Valid := hbefore ▸ valid_of_connect h before
  rw [hstarts.pool_eq, ← hsize]
  exact ⟨rfl, rfl, hvalid.sound.next_lt, fun _ => rfl⟩

/-- The dials of an asker go around the ring, and an asker is told that no endpoint can be dialed if
and only if it dialed all of them in vain. -/
private theorem tries_of_starts (h : connect size interval connects now = some p)
    (hm : m ∈ (System.idle p).moments actions) (hstarts : m.Starts id) :
    let tries := (System.idle p).tries id actions
    tries.map Dial.endpoint =
        (List.range tries.length).map (fun i => (m.before.pool.next + i) % size) ∧
      (tries.map Dial.endpoint).Nodup ∧ (∀ d ∈ tries.dropLast, d.connection = none) ∧
      (((System.idle p).run actions).phase? id = some (.returned none) ↔
        tries.length = size ∧ ∀ d ∈ tries, d.connection = none) := by
  obtain ⟨-, hsize, hnext, htarget⟩ := ring_of_starts h hm hstarts
  have hidle := System.valid_idle (connect_eq_some h).1
  obtain ⟨phase, hphase, hattempts, -⟩ := System.attempted_of_starts hidle hm hstarts
  refine ⟨?_, hattempts.nodup_endpoint hnext, fun d => hattempts.connection_of_mem_dropLast, ?_⟩
  -- The ring has not moved since the call started, so the targets are counted from its cursor.
  · rw [hattempts.map_endpoint]
    exact List.map_congr_left fun k _ => htarget k
  · rw [hphase, ← hsize, ← hattempts.exhausted_iff, Option.some.injEq]

/-- What a dial leaves behind, by its place in the ring. -/
private theorem outcome_of_starts (h : connect size interval connects now = some p)
    (hm : m ∈ (System.idle p).moments actions) (hstarts : m.Starts id) {m' : Moment}
    (hm' : m' ∈ (System.idle p).moments actions) {d : Dial} (hd : m'.dial? = some d)
    (hcaller : d.caller = id) :
    ∃ k, d.endpoint = (m.before.pool.next + k) % size ∧
      (d.connection = none → m'.after.pool.ring = m.before.pool.ring ∧
        m'.after.pool.held = none ∧ m'.after.phase? id =
          some (if k + 1 < size then .dialing (k + 1) else .returned none)) ∧
      ∀ c, d.connection = some c → ((System.idle p).tries id actions).length = k + 1 ∧
        m'.after.pool.current = (m.before.pool.next + k) % size ∧
        m'.after.pool.next = (m.before.pool.next + k + 1) % size ∧ m'.after.pool.held = some c ∧
        m'.after.phase? id = some (.returned (some c)) := by
  obtain ⟨hring, hsize, -, htarget⟩ := ring_of_starts h hm hstarts
  have hidle := System.valid_idle (connect_eq_some h).1
  obtain ⟨k, hendpoint, hsame, hrefused, hconnected⟩ :=
    System.dial_of_starts hidle hm hstarts hm' hd hcaller
  have hsize' : m'.before.pool.size = size := (congrArg Prod.fst hsame).trans hsize
  refine ⟨k, hendpoint.trans (htarget k), fun hnone => ?_, fun c hc => ?_⟩
  · obtain ⟨hpool, hheld, hgoes⟩ := hrefused hnone
    exact ⟨hpool ▸ hsame.trans hring, hheld, hsize' ▸ hgoes⟩
  · obtain ⟨hlength, hheld, hreturned, now, hpool⟩ := hconnected c hc
    have hcurrent : m'.after.pool.current = (m.before.pool.next + k) % size := by
      rw [hpool, ← htarget k, ← State.target_eq_of_ring hsame]
      rfl
    -- The cursor is put behind the endpoint that connected.
    have hcursor : m'.after.pool.next = (m'.after.pool.current + 1) % size := by
      rw [hpool, ← hsize']
      rfl
    exact ⟨hlength, hcurrent, by rw [hcursor, hcurrent, Nat.mod_add_mod], hheld, hreturned⟩

/-- Whoever is told that no endpoint can be dialed has dialed each of them, in vain. -/
private theorem tries_of_exhausted (h : connect size interval connects now = some p)
    (hexhausted : ((System.idle p).run actions).phase? id = some (.returned none)) :
    (∃ m ∈ (System.idle p).moments actions, m.Starts id) ∧
      ∀ e < size, ∃ d ∈ (System.idle p).tries id actions, d.endpoint = e ∧ d.connection = none := by
  obtain ⟨m, hm, hstarts⟩ := System.started_of_exhausted hexhausted
  obtain ⟨-, hsize, hnext, -⟩ := ring_of_starts h hm hstarts
  have hidle := System.valid_idle (connect_eq_some h).1
  obtain ⟨phase, hphase, hattempts, -⟩ := System.attempted_of_starts hidle hm hstarts
  cases hphase.symm.trans hexhausted
  exact ⟨⟨m, hm, hstarts⟩, fun e he => hattempts.exists_mem_of_exhausted hnext (hsize ▸ he)⟩

/-- For a pool of any size, in every run, with whatever dials bring. Let an asker begin to dial,
with the cursor at some endpoint. Its dials go around the ring from there, in order, meet no endpoint
twice, and only the last one may make a connection. A dial that made one is the last, and leaves the
pool with that connection, the endpoint that was dialed and the cursor behind it; a dial in vain
leaves everything as it was when the asker got the lock, with no connection, and the asker goes on
to the next endpoint until the ring is exhausted. An asker is told that no endpoint can be dialed if
and only if it dialed all of them in vain, and nobody is told so who did not begin to dial. From
wherever a run leaves the pool, whoever asks next gets a connection as long as some endpoint can be
dialed: after two rounds of dials and four events more at most, with those of whoever holds the
lock. -/
theorem failover_round_robin (h : connect size interval connects now = some p)
    (actions : List Action) :
    let s := (System.idle p).run actions
    let moments := (System.idle p).moments actions
    (∀ id,
      let tries := (System.idle p).tries id actions
      (∀ m ∈ moments, m.Starts id →
        let cursor := m.before.pool.next
        tries.map Dial.endpoint = (List.range tries.length).map (fun i => (cursor + i) % size) ∧
        (tries.map Dial.endpoint).Nodup ∧ (∀ d ∈ tries.dropLast, d.connection = none) ∧
        (s.phase? id = some (.returned none) ↔
          tries.length = size ∧ ∀ d ∈ tries, d.connection = none) ∧
        ∀ m' ∈ moments, ∀ d, m'.dial? = some d → d.caller = id →
          ∃ k, d.endpoint = (cursor + k) % size ∧
            (d.connection = none → m'.after.pool.ring = m.before.pool.ring ∧
              m'.after.pool.held = none ∧ m'.after.phase? id =
                some (if k + 1 < size then .dialing (k + 1) else .returned none)) ∧
            ∀ c, d.connection = some c → tries.length = k + 1 ∧
              m'.after.pool.current = (cursor + k) % size ∧
              m'.after.pool.next = (cursor + k + 1) % size ∧ m'.after.pool.held = some c ∧
              m'.after.phase? id = some (.returned (some c))) ∧
      (s.phase? id = some (.returned none) → (∃ m ∈ moments, m.Starts id) ∧
        ∀ e < size, ∃ d ∈ tries, d.endpoint = e ∧ d.connection = none)) ∧
    ∀ purpose, ∀ e < size, ∀ answers : List Answers, (∀ a ∈ answers, a.connects e = true) →
      2 * size + 4 ≤ answers.length →
      ∃ c, ((s.ask purpose).attended s.calls.length answers).phase? s.calls.length =
        some (.returned (some c)) := by
  intro s moments
  refine ⟨fun id => ⟨fun m hm hstarts => ?_, tries_of_exhausted h⟩, ?_⟩
  · obtain ⟨hendpoints, hnodup, hlast, hexhausted⟩ := tries_of_starts h hm hstarts
    exact ⟨hendpoints, hnodup, hlast, hexhausted,
      fun m' hm' d => outcome_of_starts h hm hstarts hm'⟩
  · intro purpose e he answers hconnects hlong
    have hsize : s.pool.size = size := size_of_connect h actions
    exact System.returned_ask (valid_of_connect h actions) purpose (hsize ▸ he) hconnects
      (hsize ▸ hlong)

/-- The first asker dials three endpoints in vain, from the second on; the next one gets a
connection when the third can be dialed. -/
theorem failover_round_robin_of_three :
    let p := State.connected 3 10 0 0
    let actions : List Action := [.ask .recheck, .event 0 .look, .event 0 (.probed false 20),
      .event 0 .acquire, .event 0 (.dialed false 21), .event 0 (.dialed false 22),
      .event 0 (.dialed false 23)]
    let s := (System.idle p).run actions
    connect 3 10 (fun _ => true) 0 = some p ∧ s.phase? 0 = some (.returned none) ∧
      ((System.idle p).tries 0 actions).map Dial.endpoint = [1, 2, 0] ∧
      ∃ c, ((s.ask .use).attended s.calls.length
          (List.replicate 10 ⟨false, fun e => e == 2, 30⟩)).phase? s.calls.length =
        some (.returned (some c)) := by
  intro p actions s
  have h : connect 3 10 (fun _ => true) 0 = some p := by decide
  have hexhausted : s.phase? 0 = some (.returned none) := by decide
  obtain ⟨hfailover, hrecovers⟩ := failover_round_robin h actions
  obtain ⟨hround, hstarted⟩ := hfailover 0
  obtain ⟨⟨m, hm, hstarts⟩, -⟩ := hstarted hexhausted
  obtain ⟨hendpoints, -, -, hall, -⟩ := hround m hm hstarts
  have hcursor : m.before.pool.next = 1 := by
    have hearly : ∀ m ∈ (System.idle p).moments actions, m.before.pool.next = 1 := by decide
    exact hearly m hm
  rw [(hall.mp hexhausted).1, hcursor] at hendpoints
  refine ⟨h, hexhausted, hendpoints, hrecovers .use 2 (by decide) _ ?_ (by decide)⟩
  intro a ha
  cases List.eq_of_mem_replicate ha
  rfl

end Connected

end ChainGauge.Pool
