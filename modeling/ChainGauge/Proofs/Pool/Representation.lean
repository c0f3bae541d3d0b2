import ChainGauge.Proofs.Pool.History

/-!
# What a pool holds

A pool that has once connected keeps its books: the endpoint in use exists, the cursor stands behind
it, a connection that is held was made by dialing that endpoint, and the generation counts the
connections made since. Under the lock nobody but its holder changes anything but the stamp, and
what an asker saw is never ahead of the pool.

## Key results

- `State.Sound`, `Transition.sound`: the books of the pool, kept by every move
- `System.Valid`, `System.valid_run`: the lock and what askers saw, kept by every run
- `representation_of_run`: the books in every state that a run reaches
-/

namespace ChainGauge.Pool

/-! ## The books of the pool -/

/-- The books of a pool that has once connected. -/
structure State.Sound (p : State) : Prop where
  current_lt : p.current < p.size
  next_eq : p.next = (p.current + 1) % p.size
  held_eq : ∀ c, p.held = some c → c = ⟨p.current, p.generation⟩
  serial_eq : p.serial = p.generation + 1

/-- A pool with sound books has an endpoint. -/
theorem State.Sound.size_pos {p : State} (h : p.Sound) : 0 < p.size :=
  Nat.zero_lt_of_lt h.current_lt

section Moves

variable {id : Nat} {purpose : Purpose} {p : State} {holder : Option Nat} {e : Event}
  {phase : Phase} {m : Move}

/-- A new connection changes the books as a whole. -/
theorem State.Sound.install (h : p.Sound) (k now : Nat) : (p.install k now).Sound where
  current_lt := Nat.mod_lt _ h.size_pos
  next_eq := rfl
  held_eq := by
    intro c hc
    cases hc
    rw [h.serial_eq]
    rfl
  serial_eq := congrArg (· + 1) h.serial_eq

/-- No step changes the number of endpoints. -/
theorem Transition.size_eq (h : Transition id purpose p holder e phase m) :
    m.pool.size = p.size := by
  cases h <;> rfl

/-- A move changes the endpoint in use, the cursor and the generation only as the end of a dial that
made a connection. -/
private theorem Transition.ring_eq_or_connected (h : Transition id purpose p holder e phase m) :
    (m.pool.current = p.current ∧ m.pool.next = p.next ∧ m.pool.generation = p.generation) ∨
      ∃ k now, e = .dialed true now ∧ phase = .dialing k := by
  cases h with
  | connected => exact .inr ⟨_, _, rfl, rfl⟩
  | _ => exact .inl ⟨rfl, rfl, rfl⟩

/-- Every step keeps the books sound. -/
theorem Transition.sound (h : Transition id purpose p holder e phase m) (hp : p.Sound) :
    m.pool.Sound := by
  cases h with
  | connected => exact hp.install _ _
  | alive => exact ⟨hp.current_lt, hp.next_eq, hp.held_eq, hp.serial_eq⟩
  | locked => exact ⟨hp.current_lt, hp.next_eq, fun _ hc => (nomatch hc), hp.serial_eq⟩
  | _ => exact hp

/-- Whoever does not hold the lock changes nothing but the stamp. -/
theorem Transition.frame {j : Nat} (h : Transition id purpose p (some j) e phase m) (hj : j ≠ id)
    (hphase : ∀ k, phase ≠ .dialing k) :
    m.holder = some j ∧ ∃ stamp, m.pool = { p with stamp := stamp } := by
  cases h with
  | missed free | found free | checked free | taken free | locked free => exact nomatch free
  | connected | refused | exhausted => exact absurd rfl (hphase _)
  | abandoned =>
    rw [if_neg (by simpa using hj)]
    exact ⟨rfl, p.stamp, rfl⟩
  | alive => exact ⟨rfl, _, rfl⟩
  | fresh | stale | silent | answered => exact ⟨rfl, p.stamp, rfl⟩

end Moves

/-! ## What askers saw -/

/-- What an asker saw when it looked at the pool, as long as it goes by that. -/
def Phase.seen? : Phase → Option (Option Connection × Nat)
  | .judging c g | .probing c g => some (some c, g)
  | .waiting found g => some (found, g)
  | _ => none

/-- What was seen of a pool may be out of date: it is not ahead of the pool, and if it is not behind
either, the pool has at most dropped its connection. A connection that was seen is the one of its
generation. -/
structure State.Outdates (p : State) (found : Option Connection) (g : Nat) : Prop where
  le : g ≤ p.generation
  held : g = p.generation → p.held = none ∨ p.held = found
  serial_eq : ∀ c, found = some c → c.serial = g
  endpoint_eq : ∀ c, found = some c → g = p.generation → c.endpoint = p.current

section Seen

variable {id : Nat} {purpose : Purpose} {p : State} {holder : Option Nat} {e : Event}
  {phase : Phase} {m : Move} {found : Option Connection} {g : Nat}

/-- What is seen of a pool is up to date. -/
private theorem State.Sound.outdates (h : p.Sound) (hheld : p.held = found)
    (hg : p.generation = g) :
    p.Outdates found g where
  le := Nat.le_of_eq hg.symm
  held _ := .inr hheld
  serial_eq c hc := by rw [h.held_eq c (hheld.trans hc), ← hg]
  endpoint_eq c hc _ := by rw [h.held_eq c (hheld.trans hc)]

/-- What was seen of a pool stays so, whoever moves. -/
private theorem Transition.outdates (h : Transition id purpose p holder e phase m)
    (hp : p.Outdates found g) : m.pool.Outdates found g := by
  cases h with
  | connected =>
    have hlt : g < p.generation + 1 := Nat.lt_succ_of_le hp.le
    exact ⟨Nat.le_of_lt hlt, fun hg => absurd hg (Nat.ne_of_lt hlt), hp.serial_eq,
      fun _ _ hg => absurd hg (Nat.ne_of_lt hlt)⟩
  | locked => exact ⟨hp.le, fun _ => .inl rfl, hp.serial_eq, hp.endpoint_eq⟩
  | alive => exact ⟨hp.le, hp.held, hp.serial_eq, hp.endpoint_eq⟩
  | _ => exact hp

/-- What an asker goes by after a move is what it went by before or what it sees now. -/
theorem Transition.seen?_eq (h : Transition id purpose p holder e phase m)
    (hm : m.phase.seen? = some (found, g)) :
    phase.seen? = some (found, g) ∨
      e = .look ∧ p.held = found ∧ p.generation = g ∧ m.pool = p := by
  cases h with
  | missed _ lost => cases hm; exact .inr ⟨rfl, lost, rfl, rfl⟩
  | found _ held | checked _ held => cases hm; exact .inr ⟨rfl, held, rfl, rfl⟩
  | stale | silent => exact .inl hm
  | _ => exact nomatch hm

end Seen

/-! ## The lock -/

/-- What holds of a pool with all its askers at any time. -/
structure System.Valid (s : System) : Prop where
  sound : s.pool.Sound
  /-- Whoever dials holds the lock, and the pool has dropped its connection. -/
  dialing : ∀ id k, s.phase? id = some (.dialing k) →
    s.holder = some id ∧ s.pool.held = none ∧ k < s.pool.size
  /-- Whoever holds the lock dials. -/
  holder : ∀ id, s.holder = some id → ∃ k, s.phase? id = some (.dialing k)
  seen : ∀ id phase found g, s.phase? id = some phase → phase.seen? = some (found, g) →
    s.pool.Outdates found g

namespace System

variable {s t : System} {a : Action} {j k : Nat}

/-- Whoever dials is left alone by everybody else. -/
theorem Acts.frame (h : s.Acts a t) (hs : s.Valid) (hj : s.phase? j = some (.dialing k))
    (ha : ∀ e, a ≠ .event j e) :
    t.phase? j = some (.dialing k) ∧ t.holder = some j ∧
      ∃ stamp, t.pool = { s.pool with stamp := stamp } := by
  have hlock := (hs.dialing j k hj).1
  cases h with
  | asked => exact ⟨phase?_ask_of_some _ hj, hlock, s.pool.stamp, rfl⟩
  | ignored => exact ⟨hj, hlock, s.pool.stamp, rfl⟩
  -- Another call moves, and it cannot be dialing as well: there is one lock.
  | @moved i e purpose phase m t before transition pool holder phases =>
    have hne : j ≠ i := by
      rintro rfl
      exact ha e rfl
    have hphase : ∀ k, phase ≠ .dialing k := by
      rintro k rfl
      exact hne (Option.some.inj (hlock.symm.trans (hs.dialing i k before).1))
    rw [hlock] at transition
    rw [phases, if_neg hne, pool, holder]
    exact ⟨hj, transition.frame hne hphase⟩

/-- So does every action. -/
theorem Acts.sound (h : s.Acts a t) (hs : s.pool.Sound) : t.pool.Sound := by
  cases h with
  | asked => exact hs
  | ignored => exact hs
  | moved _ transition pool => exact pool ▸ transition.sound hs

/-- What was seen of a pool stays so, whatever is done. -/
private theorem Acts.outdates {found : Option Connection} {g : Nat} (h : s.Acts a t)
    (hs : s.pool.Outdates found g) : t.pool.Outdates found g := by
  cases h with
  | asked => exact hs
  | ignored => exact hs
  | moved _ transition pool => exact pool ▸ transition.outdates hs

/-- Whoever dials holds the lock of an empty pool, and has endpoints left. -/
private theorem Acts.dialing (h : s.Acts a t) (hs : s.Valid)
    (hj : t.phase? j = some (.dialing k)) :
    t.holder = some j ∧ t.pool.held = none ∧ k < t.pool.size := by
  cases h with
  | asked =>
    rw [phase?_ask] at hj
    split at hj
    · exact nomatch hj
    · exact hs.dialing j k hj
  | ignored => exact hs.dialing j k hj
  | @moved i e purpose phase m t before transition pool holder phases =>
    rw [phases] at hj
    rw [pool, holder]
    split at hj
    · subst j
      cases transition with
      | locked => cases hj; exact ⟨rfl, rfl, hs.sound.size_pos⟩
      | refused more => cases hj; exact ⟨rfl, (hs.dialing i _ before).2.1, more⟩
      | _ => exact nomatch hj
    -- A different call moved, and while this one has the lock it leaves everything but the stamp.
    · rename_i hne
      obtain ⟨hlock, hheld, hk⟩ := hs.dialing j k hj
      have hphase : ∀ k, phase ≠ .dialing k := by
        rintro k rfl
        exact hne (Option.some.inj (hlock.symm.trans (hs.dialing i k before).1))
      rw [hlock] at transition
      obtain ⟨hholder, stamp, hpool⟩ := transition.frame hne hphase
      rw [hpool]
      exact ⟨hholder, hheld, hk⟩

/-- Whoever holds the lock dials. -/
private theorem Acts.holder (h : s.Acts a t) (hs : s.Valid) (hj : t.holder = some j) :
    ∃ k, t.phase? j = some (.dialing k) := by
  cases h with
  | asked =>
    obtain ⟨k, hk⟩ := hs.holder j hj
    exact ⟨k, phase?_ask_of_some _ hk⟩
  | ignored => exact hs.holder j hj
  | @moved i e purpose phase m t before transition pool holder phases =>
    rw [holder] at hj
    -- Where the lock stays with its holder, that one dialed before and did not move.
    have hstays : s.holder = some j → (∀ k, phase ≠ .dialing k) →
        ∃ k, t.phase? j = some (.dialing k) := by
      intro hlock hphase
      obtain ⟨k, hk⟩ := hs.holder j hlock
      have hne : j ≠ i := by
        rintro rfl
        exact hphase k (Option.some.inj (before.symm.trans hk))
      exact ⟨k, by rw [phases, if_neg hne, hk]⟩
    cases transition with
    | missed | found | checked | taken | connected | exhausted => exact nomatch hj
    | locked =>
      cases hj
      exact ⟨0, by rw [phases, if_pos rfl]⟩
    | @refused k =>
      cases hj
      exact ⟨k + 1, by rw [phases, if_pos rfl]⟩
    | fresh | stale | alive | silent | answered => exact hstays hj (by rintro k ⟨⟩)
    | abandoned =>
      simp only at hj
      split at hj
      · exact nomatch hj
      · rename_i hfree
        refine hstays hj ?_
        rintro k rfl
        exact hfree (hs.dialing i k before).1

/-- What somebody saw stays behind the pool. -/
private theorem Acts.seen (h : s.Acts a t) (hs : s.Valid) {phase : Phase}
    {found : Option Connection} {g : Nat} (hj : t.phase? j = some phase)
    (hseen : phase.seen? = some (found, g)) : t.pool.Outdates found g := by
  rcases h.phase?_cases hj with
    hphase | rfl | ⟨e, purpose, before, m, -, hbefore, transition, hpool, -, rfl⟩
  · exact h.outdates (hs.seen j phase found g hphase hseen)
  · exact nomatch hseen
  · rcases transition.seen?_eq hseen with hold | ⟨-, hheld, hg, hsame⟩
    · exact h.outdates (hs.seen j before found g hbefore hold)
    · rw [hpool, hsame]
      exact hs.sound.outdates hheld hg

/-- Every action keeps a system valid. -/
theorem Acts.valid (h : s.Acts a t) (hs : s.Valid) : t.Valid where
  sound := h.sound hs.sound
  dialing _ _ := h.dialing hs
  holder _ := h.holder hs
  seen _ _ _ _ := h.seen hs

/-- No run changes the number of endpoints. -/
theorem size_run (s : System) (actions : List Action) :
    (s.run actions).pool.size = s.pool.size := by
  refine run_induction (P := fun t => t.pool.size = s.pool.size) ?_ rfl actions
  intro s a t hact hs
  cases hact with
  | asked => exact hs
  | ignored => exact hs
  | moved _ transition pool => rw [pool, transition.size_eq, hs]

/-- A pool with sound books that nobody asks is valid. -/
theorem valid_idle {p : State} (h : p.Sound) : (idle p).Valid where
  sound := h
  dialing _ _ hid := absurd hid phase?_idle_ne
  holder _ hid := nomatch hid
  seen _ _ _ _ hid := absurd hid phase?_idle_ne

/-- What holds of a pool with all its askers holds after every run. -/
theorem valid_run (hs : s.Valid) (actions : List Action) : (s.run actions).Valid :=
  run_induction (fun _ _ _ hact => hact.valid) hs actions

end System

/-! ## Connecting -/

/-- The first endpoint that can be dialed is one of them. -/
private theorem firstOf_eq_some {size first : Nat} {connects : Nat → Bool}
    (h : firstOf size connects = some first) : first < size ∧ connects first = true := by
  unfold firstOf at h
  exact ⟨List.mem_range.mp (List.mem_of_find?_eq_some h), List.find?_some h⟩

/-- A pool starts with its books in order and with a connection to an endpoint that was dialed. -/
theorem connect_eq_some {size interval now : Nat} {connects : Nat → Bool} {p : State}
    (h : connect size interval connects now = some p) :
    p.Sound ∧ p.size = size ∧ p.generation = 0 ∧ p.held = some ⟨p.current, 0⟩ ∧
      connects p.current = true := by
  obtain ⟨first, hfirst, rfl⟩ := Option.map_eq_some_iff.mp h
  obtain ⟨hlt, hconnects⟩ := firstOf_eq_some hfirst
  refine ⟨⟨hlt, rfl, ?_, rfl⟩, rfl, rfl, rfl, hconnects⟩
  intro c hc
  cases hc
  rfl

/-- Whatever happens to a pool behind its connecting, it is valid. -/
theorem valid_of_connect {size interval now : Nat} {connects : Nat → Bool} {p : State}
    (h : connect size interval connects now = some p) (actions : List Action) :
    ((System.idle p).run actions).Valid :=
  System.valid_run (System.valid_idle (connect_eq_some h).1) actions

/-! ## The connections that a run made -/

/-- What a run made of a pool that held a connection: as many connections as the generation has
grown by, of which the last is the one that is held, if any is. -/
structure State.Follows (p : State) (first : Connection) (generation : Nat) (dials : List Dial) :
    Prop where
  generation_eq : p.generation = generation + (dials.filterMap Dial.connection).length
  held_eq : ∀ c, p.held = some c → (first :: dials.filterMap Dial.connection).getLast? = some c

namespace System

variable {s t : System} {a : Action} {first : Connection} {generation : Nat} {dials : List Dial}

/-- A dial that connects makes the last connection. -/
private theorem getLast?_connection_concat {d : Dial} {c : Connection}
    (h : d.connection = some c) :
    (first :: (dials ++ [d]).filterMap Dial.connection).getLast? = some c := by
  rw [List.filterMap_append, List.filterMap_cons_some h, List.filterMap_nil, ← List.cons_append,
    List.getLast?_concat]

/-- Every action goes on from what the dials made of the pool. -/
private theorem Acts.follows (h : s.Acts a t) (hs : s.pool.Follows first generation dials) :
    t.pool.Follows first generation (dials ++ ((⟨s, a⟩ : Moment).dial?).toList) := by
  cases h with
  | asked => simpa using hs
  | ignored unmoved => simpa [Moment.dial?_ignored unmoved] using hs
  | moved before transition pool =>
    rw [pool, Moment.dial?_moved before]
    obtain ⟨hgeneration, hheld⟩ := hs
    -- A dial that connects is the only step that counts a generation and holds something new.
    cases transition with
    | connected =>
      constructor
      · simp [Phase.dial?, State.install, hgeneration, Nat.add_assoc]
      · intro c hc
        cases hc
        exact getLast?_connection_concat rfl
    | locked => exact ⟨by simpa [Phase.dial?] using hgeneration, fun _ hc => nomatch hc⟩
    | refused | exhausted | alive =>
      exact ⟨by simpa [Phase.dial?, State.markHealthy] using hgeneration,
        by simpa [Phase.dial?, State.markHealthy] using hheld⟩
    | _ => exact ⟨by simpa [Phase.dial?] using hgeneration, by simpa [Phase.dial?] using hheld⟩

/-- So does a run. -/
theorem follows_run (hheld : s.pool.held = some first) (actions : List Action) :
    (s.run actions).pool.Follows first s.pool.generation (s.dials actions) := by
  refine marks_induction (P := fun dials t => t.pool.Follows first s.pool.generation dials)
    (fun _ s a => (s.acts_act a).follows) ⟨rfl, ?_⟩ actions
  intro c hc
  cases hheld.symm.trans hc
  rfl

end System

/-- An action changes the endpoint in use, the cursor and the generation only as the end of a dial
that made a connection. -/
private theorem Moment.connected_of_ring_ne (m : Moment)
    (h : (m.after.pool.current, m.after.pool.next, m.after.pool.generation) ≠
      (m.before.pool.current, m.before.pool.next, m.before.pool.generation)) :
    ∃ d c, m.dial? = some d ∧ d.connection = some c := by
  obtain ⟨s, a⟩ := m
  have hact := s.acts_act a
  unfold after at h
  generalize s.act a = t at hact h
  cases hact with
  | asked => exact absurd rfl h
  | ignored => exact absurd rfl h
  | moved before transition pool =>
    -- A transition either leaves all three numbers or is a dial that connected.
    rcases transition.ring_eq_or_connected with ⟨hcurrent, hnext, hgeneration⟩ | ⟨k, now, rfl, rfl⟩
    · simp only [pool, hcurrent, hnext, hgeneration] at h
      exact absurd rfl h
    · exact ⟨_, _, Moment.dial?_moved before, rfl⟩

/-- The end of a call does nothing to the pool. -/
private theorem Moment.pool_eq_of_answered {m : Moment} {id : Nat} {ok : Bool}
    (h : m.action = .event id (.answered ok)) : m.after.pool = m.before.pool := by
  obtain ⟨s, a⟩ := m
  subst h
  have hact := s.acts_act (.event id (.answered ok))
  unfold after
  generalize s.act (.event id (.answered ok)) = t at hact
  -- An answer goes to the caller only, whether or not it had asked for one.
  cases hact with
  | ignored => rfl
  | moved before transition pool =>
    rw [pool]
    cases transition
    rfl

/-- In every state that a run of a connected pool reaches, with whatever probes, dials and queries
bring and whoever gives up at whatever point: the endpoint in use exists and the cursor stands
behind it in the ring; a connection that is held was made by dialing the endpoint in use, when the
pool connected or in the run; and the generation counts the connections that the run made. The
endpoint in use, the cursor and the generation change only as the end of a dial that made a
connection; how a query ends changes nothing. -/
theorem representation_of_run {size interval now : Nat} {connects : Nat → Bool} {p : State}
    (h : connect size interval connects now = some p) (actions : List Action) :
    let s := (System.idle p).run actions
    let dials := (System.idle p).dials actions
    s.pool.size = size ∧ s.pool.current < size ∧ s.pool.next = (s.pool.current + 1) % size ∧
    (∀ c, s.pool.held = some c → c.endpoint = s.pool.current ∧
      (c = ⟨p.current, 0⟩ ∧ connects p.current = true ∨
        ∃ d ∈ dials, d.connection = some c ∧ d.endpoint = s.pool.current)) ∧
    s.pool.generation = dials.countP (·.connection.isSome) ∧
    (∀ m ∈ (System.idle p).moments actions,
      (m.after.pool.current, m.after.pool.next, m.after.pool.generation) ≠
        (m.before.pool.current, m.before.pool.next, m.before.pool.generation) →
      ∃ d c, m.dial? = some d ∧ d.connection = some c) ∧
    ∀ m ∈ (System.idle p).moments actions, ∀ id ok, m.action = .event id (.answered ok) →
      m.after.pool = m.before.pool := by
  intro s dials
  obtain ⟨-, hsize, hgeneration, hheld, hconnects⟩ := connect_eq_some h
  have hvalid : s.Valid := valid_of_connect h actions
  have hfollows := System.follows_run (s := .idle p) hheld actions
  have hs : s.pool.size = size := (System.size_run _ _).trans hsize
  refine ⟨hs, hs ▸ hvalid.sound.current_lt, hs ▸ hvalid.sound.next_eq, ?_, ?_,
    fun m _ => m.connected_of_ring_ne, fun m _ id ok => Moment.pool_eq_of_answered⟩
  · intro c hc
    have hcurrent : c.endpoint = s.pool.current := by rw [hvalid.sound.held_eq c hc]
    refine ⟨hcurrent, ?_⟩
    -- What is held is the last connection made: the one of the start, or of a dial.
    rcases List.mem_cons.mp (List.mem_of_getLast? (hfollows.held_eq c hc)) with rfl | hmade
    · exact .inl ⟨rfl, hconnects⟩
    · obtain ⟨d, hd, hdc⟩ := List.mem_filterMap.mp hmade
      obtain ⟨m, -, hm⟩ := List.mem_filterMap.mp hd
      exact .inr ⟨d, hd, hdc, (Moment.endpoint_of_dial? hm hdc).symm.trans hcurrent⟩
  · rw [hfollows.generation_eq, System.idle_pool, hgeneration, Nat.zero_add,
      List.length_filterMap_eq_countP]

/-- The books of a pool of two endpoints, connected to the second, that fails over to the first. -/
theorem representation_of_failover :
    let p := State.connected 2 10 1 0
    let actions : List Action := [.ask .recheck, .event 0 .look, .event 0 (.probed false 3),
      .event 0 .acquire, .event 0 (.dialed true 5)]
    let s := (System.idle p).run actions
    connect 2 10 (fun i => i == 1) 0 = some p ∧ s.pool.held = some ⟨0, 1⟩ ∧
      s.pool.next = (s.pool.current + 1) % 2 ∧
      s.pool.generation = ((System.idle p).dials actions).countP (·.connection.isSome) := by
  intro p actions s
  have h : connect 2 10 (fun i => i == 1) 0 = some p := by decide
  obtain ⟨-, -, hnext, -, hgeneration, -⟩ := representation_of_run h actions
  exact ⟨h, by decide, hnext, hgeneration⟩

end ChainGauge.Pool
