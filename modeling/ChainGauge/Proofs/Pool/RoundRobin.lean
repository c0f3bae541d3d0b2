import ChainGauge.Proofs.Pool.Representation

/-!
# Endpoints are dialed in turn

An asker that gets the lock and has to dial begins behind the endpoint in use and goes around the
ring, one endpoint after the other, until a dial makes a connection or the ring is exhausted. As
the cursor does not move under the lock, what the dials of an asker look like depends only on the
pool at the time when it got the lock.

## Key results

- `State.target_injective`, `State.exists_target_eq`: one round meets every endpoint once
- `System.attempts_run`: the dials of an asker, from the lock to wherever a run leaves it
- `System.started_of_exhausted`: whoever is told that no endpoint can be dialed has dialed
-/

namespace ChainGauge.Pool

/-! ## The ring of endpoints -/

namespace State

/-- What decides where dials go and what they find. -/
def ring (p : State) : Nat × Nat × Nat × Nat :=
  (p.size, p.next, p.current, p.generation)

/-- Dials go where the ring says. -/
theorem target_eq_of_ring {p q : State} (h : q.ring = p.ring) (k : Nat) :
    q.target k = p.target k := by
  simp only [ring, Prod.mk.injEq] at h
  rw [target, target, h.1, h.2.1]

/-- The cursor is at an endpoint. -/
theorem Sound.next_lt {p : State} (h : p.Sound) : p.next < p.size := by
  rw [h.next_eq]
  exact Nat.mod_lt _ h.size_pos

/-- Behind the last endpoint the first one follows. -/
private theorem target_eq_ite {p : State} {k : Nat} (hp : p.next < p.size) (hk : k < p.size) :
    p.target k = if p.next + k < p.size then p.next + k else p.next + k - p.size := by
  unfold target
  split
  · exact Nat.mod_eq_of_lt (by assumption)
  · rw [Nat.mod_eq_sub_mod (by omega), Nat.mod_eq_of_lt (by omega)]

/-- One round meets no endpoint twice. -/
theorem target_injective {p : State} {i j : Nat} (hp : p.next < p.size) (hi : i < p.size)
    (hj : j < p.size) (h : p.target i = p.target j) : i = j := by
  rw [target_eq_ite hp hi, target_eq_ite hp hj] at h
  split at h <;> split at h <;> omega

/-- One round meets every endpoint. -/
theorem exists_target_eq {p : State} {e : Nat} (hp : p.next < p.size) (he : e < p.size) :
    ∃ k < p.size, p.target k = e := by
  by_cases hle : p.next ≤ e
  · refine ⟨e - p.next, by omega, ?_⟩
    rw [target_eq_ite hp (by omega), if_pos (by omega)]
    omega
  · refine ⟨e + p.size - p.next, by omega, ?_⟩
    rw [target_eq_ite hp (by omega), if_neg (by omega)]
    omega

/-- So many dials of an asker, all in vain. -/
def refusals (p : State) (id k : Nat) : List Dial :=
  (List.range k).map fun i => ⟨id, p.target i, none⟩

/-- One dial in vain more, at the next endpoint. -/
private theorem refusals_succ (p : State) (id k : Nat) :
    p.refusals id (k + 1) = p.refusals id k ++ [⟨id, p.target k, none⟩] := by
  simp [refusals, List.range_succ]

/-- There are as many as were counted. -/
@[simp] theorem length_refusals (p : State) (id k : Nat) : (p.refusals id k).length = k := by
  simp [refusals]

/-- None of them connects. -/
private theorem connection_of_mem_refusals {p : State} {id k : Nat} {d : Dial}
    (h : d ∈ p.refusals id k) : d.connection = none := by
  obtain ⟨i, -, rfl⟩ := List.mem_map.mp h
  rfl

end State

/-! ## The dials of one asker -/

/-- The dials of one asker in a run, in order. -/
def System.tries (s : System) (id : Nat) (actions : List Action) : List Dial :=
  (s.dials actions).filter (·.caller == id)

/-- The dial of one asker that comes to its end at a moment. -/
def Moment.dialBy? (m : Moment) (id : Nat) : Option Dial :=
  m.dial?.filter (·.caller == id)

/-- A dial is that of the asker who makes the step. -/
private theorem Phase.caller_of_dial? {phase : Phase} {id : Nat} {p : State} {e : Event} {d : Dial}
    (h : phase.dial? id p e = some d) : d.caller = id := by
  unfold Phase.dial? at h
  split at h
  · cases h
    rfl
  · exact nomatch h

namespace Moment

variable {s : System} {id j : Nat} {e : Event} {phase : Phase}

/-- The dial of an asker is that of its own step. -/
private theorem dialBy?_moved (before : s.phase? id = some phase) :
    (⟨s, .event id e⟩ : Moment).dialBy? id = phase.dial? id s.pool e := by
  rw [dialBy?, dial?_moved before]
  cases hdial : phase.dial? id s.pool e with
  | none => rfl
  | some d => simp [Option.filter, Phase.caller_of_dial? hdial]

/-- The step of another asker is none of it. -/
private theorem dialBy?_other (before : s.phase? j = some phase) (hj : j ≠ id) :
    (⟨s, .event j e⟩ : Moment).dialBy? id = none := by
  rw [dialBy?, dial?_moved before]
  cases hdial : phase.dial? j s.pool e with
  | none => rfl
  | some d => simp [Option.filter, Phase.caller_of_dial? hdial, hj]

end Moment

namespace System

/-- The tries of an asker are its dials among the moments of the run. -/
private theorem tries_eq_filterMap (s : System) (id : Nat) (actions : List Action) :
    s.tries id actions = (s.moments actions).filterMap (·.dialBy? id) :=
  List.filter_filterMap

/-- The tries of runs in turn. -/
private theorem tries_append (s : System) (id : Nat) (before after : List Action) :
    s.tries id (before ++ after) = s.tries id before ++ (s.run before).tries id after := by
  rw [tries, dials, moments_append, List.filterMap_append, List.filter_append]
  rfl

/-- The tries of a run begin with that of its first action. -/
private theorem tries_cons (s : System) (id : Nat) (a : Action) (actions : List Action) :
    s.tries id (a :: actions) =
      ((⟨s, a⟩ : Moment).dialBy? id).toList ++ (s.act a).tries id actions := by
  rw [tries_eq_filterMap, tries_eq_filterMap, moments, List.filterMap_cons]
  cases (⟨s, a⟩ : Moment).dialBy? id <;> rfl

/-- Every try has its moment. -/
private theorem exists_moment_of_mem_tries {s : System} {id : Nat} {actions : List Action}
    {d : Dial}
    (h : d ∈ s.tries id actions) :
    ∃ m ∈ s.moments actions, m.dial? = some d ∧ d.caller = id := by
  obtain ⟨hd, hcaller⟩ := List.mem_filter.mp h
  obtain ⟨m, hm, hdial⟩ := List.mem_filterMap.mp hd
  exact ⟨m, hm, hdial, by simpa using hcaller⟩

/-- Whoever has not come as far as to dial has not dialed. -/
private theorem tries_eq_nil_of_rank_le {s : System} {id : Nat} {actions : List Action}
    {phase : Phase}
    (hphase : (s.run actions).phase? id = some phase) (hrank : phase.rank ≤ 3) :
    s.tries id actions = [] := by
  refine List.eq_nil_iff_forall_not_mem.mpr fun d hd => ?_
  obtain ⟨m, hm, hdial, rfl⟩ := exists_moment_of_mem_tries hd
  obtain ⟨before, after, rfl, hbefore⟩ := mem_moments_iff.mp hm
  obtain ⟨k, hdialing, -⟩ := Moment.dial?_cases hdial
  rw [hbefore] at hdialing
  obtain ⟨phase', hphase', hle⟩ := phase?_run_of_rank (m.action :: after)
    ⟨_, hdialing, Nat.le_refl (Phase.dialing k).rank⟩
  rw [← run_append, hphase] at hphase'
  cases hphase'
  -- Whoever has dialed is past the rank of waiting, and ranks do not go down.
  exact absurd (Nat.le_trans hle hrank) (by simp [Phase.rank])

/-- Whoever has come further than to dial does not dial any more. -/
private theorem tries_eq_nil_of_le_rank {s : System} {id : Nat} {phase : Phase}
    (actions : List Action)
    (hphase : s.phase? id = some phase) (hrank : 5 ≤ phase.rank) : s.tries id actions = [] := by
  refine List.eq_nil_iff_forall_not_mem.mpr fun d hd => ?_
  obtain ⟨m, hm, hdial, rfl⟩ := exists_moment_of_mem_tries hd
  obtain ⟨before, after, rfl, hbefore⟩ := mem_moments_iff.mp hm
  obtain ⟨k, hdialing, -⟩ := Moment.dial?_cases hdial
  obtain ⟨phase', hphase', hle⟩ := phase?_run_of_rank before ⟨phase, hphase, hrank⟩
  rw [← hbefore, hdialing] at hphase'
  cases hphase'
  exact absurd hle (by simp [Phase.rank])

end System

/-- The dials of an asker since it got the lock of a pool, by where they have left it. -/
inductive Attempts (id : Nat) (p : State) : Phase → List Dial → Prop where
  | dialing {k : Nat} (hk : k < p.size) : Attempts id p (.dialing k) (p.refusals id k)
  | exhausted : Attempts id p (.returned none) (p.refusals id p.size)
  | connected {phase : Phase} {k : Nat} {c : Connection} (hk : k < p.size) (past : 5 ≤ phase.rank)
    (handed : phase ≠ .returned none) :
    Attempts id p phase (p.refusals id k ++ [⟨id, p.target k, some c⟩])
  | abandoned {k : Nat} (hk : k < p.size) : Attempts id p .abandoned (p.refusals id k)

namespace Attempts

variable {id : Nat} {p q : State} {phase : Phase} {ds : List Dial} {purpose : Purpose}
  {holder : Option Nat} {e : Event} {m : Move}

/-- A move of the asker goes on with its dials. -/
private theorem of_transition (h : Attempts id p phase ds)
    (hring : ∀ k, phase = .dialing k → q.ring = p.ring)
    (transition : Transition id purpose q holder e phase m) :
    Attempts id p m.phase (ds ++ (phase.dial? id q e).toList) ∧
      ∀ k, m.phase = .dialing k → m.pool.ring = p.ring := by
  -- By what the attempts have come to; behind the end of the round nothing more is dialed.
  cases h with
  | @dialing k hk =>
    have hsame := hring k rfl
    have hsize : q.size = p.size := congrArg Prod.fst hsame
    cases transition with
    | connected =>
      simp only [Phase.dial?, if_pos, Option.toList_some, State.target_eq_of_ring hsame]
      exact ⟨.connected hk (Nat.le_refl 5) (by simp), by rintro k ⟨⟩⟩
    | refused more =>
      simp only [Phase.dial?, Bool.false_eq_true, if_false, Option.toList_some,
        State.target_eq_of_ring hsame, ← State.refusals_succ]
      exact ⟨.dialing (hsize ▸ more), fun _ _ => hsame⟩
    | exhausted last =>
      simp only [Phase.dial?, Bool.false_eq_true, if_false, Option.toList_some,
        State.target_eq_of_ring hsame, ← State.refusals_succ]
      have hlast : k + 1 = p.size := by omega
      exact ⟨hlast ▸ .exhausted, by rintro k ⟨⟩⟩
    | abandoned =>
      simp only [Phase.dial?, Option.toList_none, List.append_nil]
      exact ⟨.abandoned hk, by rintro k ⟨⟩⟩
  | exhausted =>
    cases transition with
    | abandoned undone => cases undone
  | connected hk past handed =>
    have hrank : 5 ≤ m.phase.rank := Nat.le_trans past transition.rank_le
    cases transition with
    | answered | abandoned =>
      simp only [Phase.dial?, Option.toList_none, List.append_nil]
      exact ⟨.connected hk hrank (by simp), by rintro k ⟨⟩⟩
    | _ => exact absurd past (by simp [Phase.rank])
  | abandoned hk =>
    cases transition with
    | abandoned undone => cases undone

/-- An asker tries every endpoint once at most. -/
theorem length_le (h : Attempts id p phase ds) : ds.length ≤ p.size := by
  cases h with
  | exhausted => simp
  | dialing hk | abandoned hk => exact State.length_refusals _ _ _ ▸ Nat.le_of_lt hk
  | connected hk =>
    rw [List.length_append, State.length_refusals]
    exact hk

/-- Where it stands tells how many it has tried. -/
private theorem length_of_dialing {k : Nat} (h : Attempts id p (.dialing k) ds) :
    ds.length = k := by
  cases h with
  | dialing => exact State.length_refusals _ _ _
  | connected _ past => exact absurd past (by simp [Phase.rank])

/-- It tries them in turn, from the cursor on. -/
theorem map_endpoint (h : Attempts id p phase ds) :
    ds.map Dial.endpoint = (List.range ds.length).map p.target := by
  cases h with
  | connected => simp [State.refusals, List.range_succ]
  | _ => simp [State.refusals]

/-- No endpoint is dialed twice. -/
theorem nodup_endpoint (h : Attempts id p phase ds) (hp : p.next < p.size) :
    (ds.map Dial.endpoint).Nodup := by
  rw [h.map_endpoint]
  refine List.pairwise_map.mpr (List.Pairwise.imp_of_mem ?_ List.pairwise_lt_range)
  intro i j hi hj hlt heq
  have hle := h.length_le
  have hi := List.mem_range.mp hi
  have hj := List.mem_range.mp hj
  exact Nat.ne_of_lt hlt (State.target_injective hp (by omega) (by omega) heq)

/-- Whoever is told that no endpoint can be dialed has dialed each of them. -/
theorem exists_mem_of_exhausted (h : Attempts id p (.returned none) ds) (hp : p.next < p.size)
    {e : Nat} (he : e < p.size) : ∃ d ∈ ds, d.endpoint = e ∧ d.connection = none := by
  obtain ⟨i, hi, htarget⟩ := State.exists_target_eq hp he
  cases h with
  | exhausted => exact ⟨_, List.mem_map.mpr ⟨i, List.mem_range.mpr hi, rfl⟩, htarget, rfl⟩
  | connected _ _ handed => exact absurd rfl handed

/-- Only the last dial may make a connection. -/
theorem connection_of_mem_dropLast (h : Attempts id p phase ds) {d : Dial}
    (hd : d ∈ ds.dropLast) : d.connection = none := by
  cases h with
  | connected => exact State.connection_of_mem_refusals (List.dropLast_concat ▸ hd)
  | _ => exact State.connection_of_mem_refusals (List.dropLast_subset _ hd)

/-- An asker is told that no endpoint can be dialed if and only if all of them were, in vain. -/
theorem exhausted_iff (h : Attempts id p phase ds) :
    phase = .returned none ↔ ds.length = p.size ∧ ∀ d ∈ ds, d.connection = none := by
  cases h with
  | dialing hk | abandoned hk => simp [Nat.ne_of_lt hk]
  | exhausted => simpa using fun d => State.connection_of_mem_refusals
  | connected hk past handed =>
    refine ⟨fun hphase => absurd hphase handed, fun ⟨_, hnone⟩ => ?_⟩
    exact nomatch hnone _ (List.mem_append_right _ List.mem_cons_self)

end Attempts

namespace System

variable {s t : System} {a : Action} {id : Nat} {p : State} {ds : List Dial}

/-- Where an asker stands that has got the lock of a pool, with its dials. The cursor stands still
while it dials. -/
def Attempted (id : Nat) (p : State) (ds : List Dial) (t : System) : Prop :=
  ∃ phase, t.phase? id = some phase ∧ Attempts id p phase ds ∧
    ∀ k, phase = .dialing k → t.pool.ring = p.ring

/-- Every action goes on with the tries of whoever holds the lock. -/
private theorem Acts.attempted (h : s.Acts a t) (hv : s.Valid) (hs : Attempted id p ds s) :
    Attempted id p (ds ++ ((⟨s, a⟩ : Moment).dialBy? id).toList) t := by
  obtain ⟨phase, hphase, hattempts, hring⟩ := hs
  cases h with
  | @asked purpose =>
    have hnone : (⟨s, .ask purpose⟩ : Moment).dialBy? id = none := rfl
    rw [hnone, Option.toList_none, List.append_nil]
    exact ⟨phase, phase?_ask_of_some _ hphase, hattempts, hring⟩
  | ignored unmoved =>
    simp only [Moment.dialBy?, Moment.dial?_ignored unmoved, Option.filter_none, Option.toList_none,
      List.append_nil]
    exact ⟨phase, hphase, hattempts, hring⟩
  | @moved i e purpose before m t hbefore transition pool holder phases =>
    by_cases hi : i = id
    · subst hi
      cases hphase.symm.trans hbefore
      rw [Moment.dialBy?_moved hbefore]
      obtain ⟨hnext, hsame⟩ := hattempts.of_transition hring transition
      exact ⟨m.phase, by rw [phases, if_pos rfl], hnext, pool ▸ hsame⟩
    · rw [Moment.dialBy?_other hbefore hi, Option.toList_none, List.append_nil]
      refine ⟨phase, by rw [phases, if_neg (Ne.symm hi), hphase], hattempts, ?_⟩
      rintro k rfl
      -- Somebody else moves while the asker dials.
      have hacts : s.Acts (.event i e) t := .moved hbefore transition pool holder phases
      obtain ⟨-, -, stamp, hpool⟩ := hacts.frame hv hphase (by rintro e' ⟨⟩; exact hi rfl)
      rw [hpool]
      exact hring k rfl

/-- The dials of an asker, from the lock to wherever a run leaves it. -/
theorem attempts_run (hs : s.Valid) (hphase : s.phase? id = some (.dialing 0))
    (actions : List Action) : Attempted id s.pool (s.tries id actions) (s.run actions) := by
  have hall := marks_induction (f := (·.dialBy? id))
    (P := fun ds t => t.Valid ∧ Attempted id s.pool ds t)
    (fun _ s a ⟨hv, hs⟩ => ⟨(s.acts_act a).valid hv, (s.acts_act a).attempted hv hs⟩)
    ⟨hs, _, hphase, .dialing hs.sound.size_pos, fun _ _ => rfl⟩ actions
  rw [tries_eq_filterMap]
  exact hall.2

end System

/-! ## From the lock to the end -/

/-- An asker gets the lock and begins to dial. -/
def Moment.Starts (m : Moment) (id : Nat) : Prop :=
  m.action = .event id .acquire ∧ (∃ found g, m.before.phase? id = some (.waiting found g)) ∧
    m.after.phase? id = some (.dialing 0)

/-- Whether an asker dials or has dialed every endpoint in vain. -/
def Phase.onRing : Phase → Bool
  | .dialing _ | .returned none => true
  | _ => false

/-- Whoever begins to dial makes the pool drop its connection and changes nothing else. -/
theorem Moment.Starts.pool_eq {m : Moment} {id : Nat} (h : m.Starts id) :
    m.after.pool = { m.before.pool with held := none } := by
  obtain ⟨s, a⟩ := m
  obtain ⟨rfl, ⟨found, g, hbefore⟩, hafter⟩ := h
  rcases (s.acts_act _).phase?_cases hafter with
    hsame | hnew | ⟨e, purpose, phase, move, he, hphase, transition, hpool, -, hmove⟩
  · exact nomatch hbefore.symm.trans hsame
  · exact nomatch hnew
  · cases he
    cases hbefore.symm.trans hphase
    -- From waiting to dialing there is one transition, and it drops what the pool held.
    cases transition with
    | taken => exact nomatch hmove
    | locked => exact hpool

namespace System

variable {p : State} {actions : List Action} {id : Nat} {m : Moment}

/-- Everybody who dials, or was told that no endpoint can be dialed, has begun to dial. -/
def Started (ms : List Moment) (t : System) : Prop :=
  ∀ id phase, t.phase? id = some phase → phase.onRing = true → ∃ m ∈ ms, m.Starts id

/-- Nobody comes to dial, or to know that it is in vain, without having begun to dial. -/
private theorem started_act {s : System} {ms : List Moment} (hs : Started ms s) (a : Action) :
    Started (ms ++ [⟨s, a⟩]) (s.act a) := by
  intro id phase hid hring
  have hold : ∀ phase, s.phase? id = some phase → phase.onRing = true →
      ∃ m ∈ ms ++ [⟨s, a⟩], m.Starts id := by
    intro phase hphase hring
    obtain ⟨m, hm, hstarts⟩ := hs id phase hphase hring
    exact ⟨m, List.mem_append_left _ hm, hstarts⟩
  rcases (s.acts_act a).phase?_cases hid with
    hphase | rfl | ⟨e, purpose, before, m, rfl, hbefore, transition, -, -, rfl⟩
  · exact hold phase hphase hring
  · exact nomatch hring
  -- A call gets on the ring by taking the lock; every later phase of it has the same start.
  · cases transition with
    | locked =>
      exact ⟨_, List.mem_append_right _ List.mem_cons_self, rfl, ⟨_, _, hbefore⟩, hid⟩
    | refused | exhausted => exact hold _ hbefore rfl
    | _ => exact nomatch hring

/-- Whoever is told that no endpoint can be dialed has begun to dial. -/
theorem started_of_exhausted (h : ((idle p).run actions).phase? id = some (.returned none)) :
    ∃ m ∈ (idle p).moments actions, m.Starts id := by
  exact history_induction (P := Started) (fun _ _ a hs => started_act hs a)
    (fun _ _ hid => absurd hid phase?_idle_ne) actions id _ h rfl

/-- All the dials of an asker come after it began to dial. -/
theorem attempted_of_starts {s : System} (hs : s.Valid) (hm : m ∈ s.moments actions)
    (hstarts : m.Starts id) : Attempted id m.after.pool (s.tries id actions) (s.run actions) := by
  obtain ⟨before, after, rfl, hbefore⟩ := mem_moments_iff.mp hm
  obtain ⟨haction, ⟨found, g, hwaiting⟩, hdialing⟩ := hstarts
  have hafter : s.run (before ++ [m.action]) = m.after := by
    rw [run_concat, ← hbefore]
    rfl
  -- Up to its start the call has not tried anything.
  have hnone : s.tries id (before ++ [m.action]) = [] := by
    have hrank : (Phase.waiting found g).rank ≤ 3 := Nat.le_refl 3
    rw [tries_append, tries_eq_nil_of_rank_le (hbefore ▸ hwaiting) hrank, ← hbefore, haction,
      tries_eq_filterMap]
    simp [moments, Moment.dialBy?_moved hwaiting, Phase.dial?]
  have hvalid : m.after.Valid := hafter ▸ valid_run hs _
  have hattempted := attempts_run hvalid hdialing after
  rwa [← hafter, ← run_append, ← List.nil_append (tries _ _ _), ← hnone, ← tries_append,
    List.append_assoc, List.singleton_append, hafter] at hattempted

/-- An asker begins to dial before the first of its dials comes to its end. -/
private theorem mem_moments_of_starts {s : System} {before after : List Action} {m' : Moment}
    {k : Nat}
    (hm' : m'.before = s.run before) (hm : m ∈ s.moments (before ++ m'.action :: after))
    (hstarts : m.Starts id) (hdialing : m'.before.phase? id = some (.dialing k)) :
    m ∈ s.moments before := by
  obtain ⟨-, ⟨found, g, hwaiting⟩, -⟩ := hstarts
  rw [moments_append, ← hm', moments] at hm
  rcases List.mem_append.mp hm with hm | hm
  · exact hm
  · rcases List.mem_cons.mp hm with rfl | hm
    · cases hwaiting.symm.trans hdialing
    · -- Whoever has dialed does not wait for the lock any more.
      obtain ⟨b, b', rfl, hb⟩ := mem_moments_iff.mp hm
      obtain ⟨phase, hphase, hrank⟩ := phase?_run_of_rank (m'.action :: b)
        ⟨_, hdialing, Nat.le_refl (Phase.dialing k).rank⟩
      rw [run_cons, ← hb, hwaiting] at hphase
      cases hphase
      exact absurd hrank (by simp [Phase.rank])

/-- What a dial of an asker leaves behind. If it made a connection, the pool holds that one, and the
asker does not dial any more; otherwise everything is as it was when the asker got the lock, and the
asker goes on to the next endpoint, if one is left. -/
theorem dial_of_starts {s : System} (hs : s.Valid) (hm : m ∈ s.moments actions)
    (hstarts : m.Starts id) {m' : Moment} (hm' : m' ∈ s.moments actions) {d : Dial}
    (hd : m'.dial? = some d) (hcaller : d.caller = id) :
    ∃ k, d.endpoint = m.after.pool.target k ∧ m'.before.pool.ring = m.after.pool.ring ∧
      (d.connection = none → m'.after.pool = m'.before.pool ∧ m'.after.pool.held = none ∧
        m'.after.phase? id =
          some (if k + 1 < m'.before.pool.size then .dialing (k + 1) else .returned none)) ∧
      ∀ c, d.connection = some c → (s.tries id actions).length = k + 1 ∧
        m'.after.pool.held = some c ∧ m'.after.phase? id = some (.returned (some c)) ∧
        ∃ now, m'.after.pool = m'.before.pool.install k now := by
  obtain ⟨before, after, rfl, hbefore⟩ := mem_moments_iff.mp hm'
  obtain ⟨k, hdialing, hendpoint, hends⟩ := Moment.dial?_cases hd
  rw [hcaller] at hdialing
  -- A call that dials has started before, so the moment of the start is an earlier one.
  have hearly := mem_moments_of_starts hbefore hm hstarts hdialing
  obtain ⟨phase, hphase, hattempts, hring⟩ := attempted_of_starts hs hearly hstarts
  rw [← hbefore, hdialing] at hphase
  cases hphase
  have hsame : m'.before.pool.ring = m.after.pool.ring := hbefore ▸ hring k rfl
  have hvalid : m'.before.Valid := hbefore ▸ valid_run hs before
  have hheld : m'.before.pool.held = none := (hvalid.dialing id k hdialing).2.1
  refine ⟨k, hendpoint.trans (State.target_eq_of_ring hsame k), hsame, ?_⟩
  rcases hends with
    ⟨now, hsome, hpool, hreturned⟩ | ⟨hnone, hmore, hpool, hnext⟩ | ⟨hnone, hlast, hpool, hnext⟩
  · refine ⟨fun hnone => (nomatch hnone.symm.trans hsome), fun c hc => ?_⟩
    rw [hcaller, hc] at hreturned
    have htry : m'.dialBy? id = some d := by simp [Moment.dialBy?, hd, hcaller, Option.filter]
    -- Having connected, the call tries no further endpoint.
    have hrest : m'.after.tries id after = [] :=
      tries_eq_nil_of_le_rank after hreturned (Nat.le_refl 5)
    refine ⟨?_, ?_, hreturned, now, hpool⟩
    · rw [tries_append, ← hbefore, tries_cons, htry, ← Moment.after, hrest]
      simp [hattempts.length_of_dialing]
    · rw [hpool, State.install_held, ← hc, hsome, hendpoint]
  · refine ⟨fun _ => ⟨hpool, hpool ▸ hheld, ?_⟩, fun c hc => nomatch hnone.symm.trans hc⟩
    rw [if_pos hmore, ← hcaller, hnext]
  · refine ⟨fun _ => ⟨hpool, hpool ▸ hheld, ?_⟩, fun c hc => nomatch hnone.symm.trans hc⟩
    rw [if_neg (Nat.not_lt.mpr hlast), ← hcaller, hnext]

end System

end ChainGauge.Pool
