import ChainGauge.Proofs.Pool.Representation

/-!
# A lost connection is replaced once

Any number of askers may find the same connection silent and wait for the lock together. Whoever
gets it dials only if the pool still holds what that asker saw, or nothing; everybody behind takes
the connection that was made meanwhile. A connection is given up only by someone who found it
silent, so that the connection of a generation which nobody has found silent is never dialed for.

## Key results

- `System.looked_of_seen`: what an asker goes by is what it saw when it looked
- `System.blamed_run`: a generation is given up only if someone found its connection silent
- `failover_dials_once`: who dials, and that only one of those who found a connection silent does so
  with success
-/

namespace ChainGauge.Pool

/-! ## Marks of askers -/

namespace Moment

/-- An asker looks at the pool and finds a connection, or none, of a generation. -/
def Looks (m : Moment) (id : Nat) (found : Option Connection) (g : Nat) : Prop :=
  m.action = .event id .look ∧ m.before.phase? id = some .arriving ∧
    m.before.pool.held = found ∧ m.before.pool.generation = g

/-- The connection of a generation that an asker found is silent when the asker probes it. -/
def Silent (m : Moment) (id g : Nat) : Prop :=
  ∃ c now, m.action = .event id (.probed false now) ∧ m.before.phase? id = some (.probing c g)

/-- An asker that saw a connection, or none, of a generation gets the lock. -/
def Acquires (m : Moment) (id : Nat) (found : Option Connection) (g : Nat) : Prop :=
  m.action = .event id .acquire ∧ m.before.phase? id = some (.waiting found g) ∧
    m.before.holder = none

end Moment

namespace System

variable {s t : System} {a : Action} {ms : List Moment} {id g k : Nat} {phase : Phase}
  {found : Option Connection}

/-! ## What askers go by -/

/-- Everybody goes by what was seen at a look. -/
def Looked (ms : List Moment) (t : System) : Prop :=
  ∀ id phase found g, t.phase? id = some phase → phase.seen? = some (found, g) →
    ∃ m ∈ ms, m.Looks id found g

/-- Whatever happens, everybody goes on going by what was seen at a look. -/
theorem Acts.looked (h : s.Acts a t) (hs : Looked ms s) : Looked (ms ++ [⟨s, a⟩]) t := by
  intro id phase found g hid hseen
  have hold : ∀ phase, s.phase? id = some phase → phase.seen? = some (found, g) →
      ∃ m ∈ ms ++ [⟨s, a⟩], m.Looks id found g := by
    intro phase hphase hseen
    obtain ⟨m, hm, hlooks⟩ := hs id phase found g hphase hseen
    exact ⟨m, List.mem_append_left _ hm, hlooks⟩
  -- A call that remembers what it saw either did before this step, or this step is its look.
  rcases h.phase?_cases hid with
    hphase | rfl | ⟨e, purpose, before, m, rfl, hbefore, transition, -, -, rfl⟩
  · exact hold phase hphase hseen
  · exact nomatch hseen
  · rcases transition.seen?_eq hseen with hsaw | ⟨rfl, hheld, hg, -⟩
    · exact hold before hbefore hsaw
    · refine ⟨_, List.mem_append_right _ List.mem_cons_self, rfl, ?_, hheld, hg⟩
      cases transition <;> exact hbefore

/-- What an asker goes by is what it saw when it looked. -/
theorem looked_of_seen {p : State} {actions : List Action}
    (hid : ((idle p).run actions).phase? id = some phase) (hseen : phase.seen? = some (found, g)) :
    ∃ m ∈ (idle p).moments actions, m.Looks id found g := by
  exact history_induction (P := Looked) (fun _ s a => (s.acts_act a).looked)
    (fun _ _ _ _ hid => absurd hid phase?_idle_ne) actions id phase found g hid hseen

/-! ## Why connections are given up -/

/-- Whoever waits with a connection in mind found it silent, and so did someone for every generation
whose connection is gone. -/
structure Blamed (ms : List Moment) (t : System) : Prop where
  waiting : ∀ id c g, t.phase? id = some (.waiting (some c) g) → ∃ m ∈ ms, m.Silent id g
  lost : ∀ g, g < t.pool.generation ∨ g = t.pool.generation ∧ t.pool.held = none →
    ∃ m ∈ ms, ∃ id, m.Silent id g

/-- Whoever comes to wait with a connection in mind found it silent, now or before. -/
private theorem Acts.waiting (h : s.Acts a t) (hs : Blamed ms s) {c : Connection}
    (hid : t.phase? id = some (.waiting (some c) g)) : ∃ m ∈ ms ++ [⟨s, a⟩], m.Silent id g := by
  rcases h.phase?_cases hid with
    hphase | hnew | ⟨e, purpose, before, m, rfl, hbefore, transition, -, -, hmove⟩
  · obtain ⟨m, hm, hsilent⟩ := hs.waiting id c g hphase
    exact ⟨m, List.mem_append_left _ hm, hsilent⟩
  · exact nomatch hnew
  -- Only a silent probe makes a call wait with a connection it has seen.
  · cases transition with
    | silent =>
      cases hmove
      exact ⟨_, List.mem_append_right _ List.mem_cons_self, _, _, rfl, hbefore⟩
    | _ => exact nomatch hmove

/-- A generation whose connection is gone was found silent by someone. -/
private theorem Acts.lost (h : s.Acts a t) (hv : s.Valid) (hs : Blamed ms s)
    (hlost : g < t.pool.generation ∨ g = t.pool.generation ∧ t.pool.held = none) :
    ∃ m ∈ ms, ∃ id, m.Silent id g := by
  cases h with
  | asked => exact hs.lost g hlost
  | ignored => exact hs.lost g hlost
  | @moved i e purpose phase m t before transition pool holder phases =>
    rw [pool] at hlost
    cases transition with
    | connected =>
      -- Nothing was held while the endpoint was being dialed.
      obtain ⟨-, hheld, -⟩ := hv.dialing i _ before
      refine hs.lost g ?_
      rcases hlost with hlt | ⟨-, hnone⟩
      · rcases Nat.lt_succ_iff_lt_or_eq.mp hlt with hlt | heq
        · exact .inl hlt
        · exact .inr ⟨heq, hheld⟩
      · exact nomatch hnone
    | @locked found g' free lost =>
      rcases hlost with hlt | ⟨heq, -⟩
      · exact hs.lost g (.inl hlt)
      · cases hheld : s.pool.held with
        | none => exact hs.lost g (.inr ⟨heq, hheld⟩)
        | some c =>
          -- What is given up here is what the asker found silent.
          have hg : g' = s.pool.generation := (lost.resolve_left (by simp [hheld])).symm
          have houtdates := hv.seen i _ found g' before rfl
          have hfound : found = some c :=
            ((houtdates.held hg).resolve_left (by simp [hheld])).symm.trans hheld
          subst hfound
          obtain ⟨m, hm, hsilent⟩ := hs.waiting i c g' before
          have hgg : g' = g := hg.trans heq.symm
          exact ⟨m, hm, i, hgg ▸ hsilent⟩
    | _ => exact hs.lost g hlost

/-- A generation is given up only if someone found its connection silent. -/
theorem blamed_run {p : State} (hp : p.Sound) (hgeneration : p.generation = 0) {c : Connection}
    (hheld : p.held = some c) (actions : List Action) :
    Blamed ((idle p).moments actions) ((idle p).run actions) := by
  -- A silent probe is what makes the pool drop or replace its connection, so validity is carried
  -- along.
  have hall := history_induction (s := idle p) (P := fun ms t => t.Valid ∧ Blamed ms t)
    (fun ms s a ⟨hv, hs⟩ => ⟨(s.acts_act a).valid hv, fun _ _ _ => (s.acts_act a).waiting hs, ?_⟩)
    ⟨valid_idle hp, fun _ _ _ hid => absurd hid phase?_idle_ne, fun g hg => ?_⟩ actions
  · exact hall.2
  · intro g hg
    obtain ⟨m, hm, hsilent⟩ := (s.acts_act a).lost hv hs hg
    exact ⟨m, List.mem_append_left _ hm, hsilent⟩
  · rw [idle_pool, hgeneration, hheld] at hg
    rcases hg with hg | ⟨-, hg⟩
    · exact absurd hg (Nat.not_lt_zero g)
    · exact nomatch hg

/-! ## Who dials -/

/-- Everybody who dials got the lock, and what that asker had seen before was still there, or
nothing was. -/
def Entitled (ms : List Moment) (t : System) : Prop :=
  ∀ id k, t.phase? id = some (.dialing k) → ∃ pre m post found g, ms = pre ++ m :: post ∧
    m.Acquires id found g ∧
    (m.before.pool.held = none ∨ m.before.pool.held = found ∧ m.before.pool.generation = g) ∧
    ∃ look ∈ pre, look.Looks id found g

/-- Whoever comes to dial is entitled to it. -/
private theorem Acts.entitled (h : s.Acts a t) (hv : s.Valid) (hlooked : Looked ms s)
    (hs : Entitled ms s) : Entitled (ms ++ [⟨s, a⟩]) t := by
  intro id k hid
  have hold : ∀ k, s.phase? id = some (.dialing k) → ∃ pre m post found g,
      ms ++ [⟨s, a⟩] = pre ++ m :: post ∧ m.Acquires id found g ∧
      (m.before.pool.held = none ∨ m.before.pool.held = found ∧ m.before.pool.generation = g) ∧
      ∃ look ∈ pre, look.Looks id found g := by
    intro k hphase
    obtain ⟨pre, m, post, found, g, rfl, hrest⟩ := hs id k hphase
    exact ⟨pre, m, post ++ [⟨s, a⟩], found, g, List.append_assoc _ _ _, hrest⟩
  rcases h.phase?_cases hid with
    hphase | hnew | ⟨e, purpose, before, m, rfl, hbefore, transition, -, -, hmove⟩
  · exact hold k hphase
  · exact nomatch hnew
  -- Only taking the lock starts dialing, and a refused dial goes on with it.
  · cases transition with
    | @locked found g free lost =>
      refine ⟨ms, _, [], found, g, rfl, ⟨rfl, hbefore, free⟩, ?_,
        hlooked id _ found g hbefore rfl⟩
      have houtdates := hv.seen id _ found g hbefore rfl
      rcases lost with hnone | hg
      · exact .inl hnone
      · exact (houtdates.held hg.symm).imp_right fun hfound => ⟨hfound, hg⟩
    | refused => exact hold _ hbefore
    | _ => exact nomatch hmove

/-- In a run from a pool that nobody asks, everybody who dials is entitled to it. -/
private theorem entitled_run {p : State} (hp : p.Sound) (actions : List Action) :
    Entitled ((idle p).moments actions) ((idle p).run actions) := by
  have hall := history_induction (s := idle p)
    (P := fun ms t => t.Valid ∧ Looked ms t ∧ Entitled ms t)
    (fun ms s a ⟨hv, hlooked, hs⟩ =>
      have hact := s.acts_act a
      ⟨hact.valid hv, hact.looked hlooked, hact.entitled hv hlooked hs⟩)
    ⟨valid_idle hp, fun _ _ _ _ hid => absurd hid phase?_idle_ne,
      fun _ _ hid => absurd hid phase?_idle_ne⟩ actions
  exact hall.2.2

/-! ## Generations only grow -/

/-- The generation never falls. -/
private theorem Acts.generation_le (h : s.Acts a t) : s.pool.generation ≤ t.pool.generation := by
  cases h with
  | asked => exact Nat.le_refl _
  | ignored => exact Nat.le_refl _
  | moved _ transition pool =>
    rw [pool]
    cases transition with
    | connected => exact Nat.le_succ _
    | _ => exact Nat.le_refl _

/-- It never falls in a run. -/
private theorem generation_le_run (s : System) (actions : List Action) :
    s.pool.generation ≤ (s.run actions).pool.generation :=
  run_induction (P := fun t => s.pool.generation ≤ t.pool.generation)
    (fun _ _ _ hact hs => Nat.le_trans hs hact.generation_le) (Nat.le_refl _) actions

end System

/-- What an asker finds silent is a connection of the pool's generation or of an earlier one. -/
theorem Moment.Silent.le {m : Moment} {id g : Nat} (h : m.Silent id g) (hm : m.before.Valid) :
    g ≤ m.before.pool.generation := by
  obtain ⟨c, now, -, hphase⟩ := h
  exact (hm.seen id _ (some c) g hphase rfl).le

/-- Whoever gets the lock behind someone who has replaced the connection takes the new one. -/
theorem Moment.Acquires.taken {m : Moment} {id g : Nat} {found : Option Connection}
    {c : Connection} (h : m.Acquires id found g) (hheld : m.before.pool.held = some c)
    (hne : m.before.pool.generation ≠ g) :
    m.after.phase? id = some (.returned (some c)) ∧ m.after.pool = m.before.pool ∧
      m.after.holder = none := by
  obtain ⟨s, a⟩ := m
  obtain ⟨rfl, hphase, hfree⟩ := h
  exact System.act_of_transition hphase fun _ => .taken hfree hheld hne

/-! ## One replacement for each loss -/

section Connected

variable {size interval now : Nat} {connects : Nat → Bool} {p : State} {actions : List Action}
  {g : Nat}

/-- While no connection behind a generation was found silent, the pool is at most one generation
further, and there it has not given up its connection. -/
private theorem held_of_silent_le (h : connect size interval connects now = some p)
    (hlast : ∀ m ∈ (System.idle p).moments actions, ∀ id g', m.Silent id g' → g' ≤ g) :
    ((System.idle p).run actions).pool.generation ≤ g + 1 ∧
      (((System.idle p).run actions).pool.generation = g + 1 →
        ((System.idle p).run actions).pool.held ≠ none) := by
  obtain ⟨hsound, -, hgeneration, hheld, -⟩ := connect_eq_some h
  have hblamed := System.blamed_run hsound hgeneration hheld actions
  constructor
  -- A higher generation would blame a probe of a later connection than any that was silent.
  · refine Nat.le_of_not_lt fun hlt => ?_
    obtain ⟨m, hm, id, hsilent⟩ := hblamed.lost (g + 1) (.inl hlt)
    exact absurd (hlast m hm id _ hsilent) (Nat.not_succ_le_self g)
  · intro heq hnone
    obtain ⟨m, hm, id, hsilent⟩ := hblamed.lost (g + 1) (.inr ⟨heq.symm, hnone⟩)
    exact absurd (hlast m hm id _ hsilent) (Nat.not_succ_le_self g)

/-- Nobody then waits for the lock because of a generation behind. -/
private theorem waiting_le_of_silent_le (h : connect size interval connects now = some p)
    (hlast : ∀ m ∈ (System.idle p).moments actions, ∀ id g', m.Silent id g' → g' ≤ g)
    {id g' : Nat} {found : Option Connection}
    (hid : ((System.idle p).run actions).phase? id = some (.waiting found g')) : g' ≤ g := by
  obtain ⟨hsound, -, hgeneration, hheld, -⟩ := connect_eq_some h
  cases found with
  | some c =>
    have hblamed := System.blamed_run hsound hgeneration hheld actions
    obtain ⟨m, hm, hsilent⟩ := hblamed.waiting id c g' hid
    exact hlast m hm id g' hsilent
  | none =>
    -- The asker found nothing, so what the pool had held before was given up.
    obtain ⟨m, hm, -, -, hnone, hg⟩ := System.looked_of_seen hid rfl
    obtain ⟨before, after, rfl, hbefore⟩ := System.mem_moments_iff.mp hm
    rw [System.moments_append] at hlast
    have hheld := held_of_silent_le h fun m hm => hlast m (List.mem_append_left _ hm)
    rw [← hbefore, hg] at hheld
    have hne : g' ≠ g + 1 := fun heq => hheld.2 heq hnone
    have hle : g' ≤ g + 1 := hheld.1
    omega

/-- Whoever dials with success after having found the connection of a generation silent does so in
that generation or a later one. -/
private theorem le_generation_of_silent (hs : (System.idle p).Valid) {pre post : List Moment}
    {m : Moment}
    (hms : (System.idle p).moments actions = pre ++ m :: post) {d : Dial} {c : Connection}
    (hd : m.dial? = some d) (hc : d.connection = some c)
    (hsilent : ∃ m' ∈ (System.idle p).moments actions, m'.Silent d.caller g) :
    g ≤ m.before.pool.generation := by
  obtain ⟨before, after, -, rfl, hbefore, rfl⟩ := System.moments_eq_append_cons hms
  obtain ⟨m', hm', hsilent⟩ := hsilent
  rw [hms] at hm'
  obtain ⟨k, hdialing, -, hends⟩ := Moment.dial?_cases hd
  rcases List.mem_append.mp hm' with hpre | hm'
  · obtain ⟨b, b', rfl, hb⟩ := System.mem_moments_iff.mp hpre
    have hvalid : m'.before.Valid := hb ▸ System.valid_run hs b
    rw [hbefore, System.run_append, ← hb]
    exact Nat.le_trans (hsilent.le hvalid) (System.generation_le_run _ _)
  obtain ⟨c', now, -, hprobing⟩ := hsilent
  rcases List.mem_cons.mp hm' with rfl | hpost
  · exact nomatch hdialing.symm.trans hprobing
  · -- Behind the dial its caller does not probe any more.
    have hreturned : m.after.phase? d.caller = some (.returned (some c)) := by
      rcases hends with ⟨-, -, -, hphase⟩ | ⟨hnone, -⟩ | ⟨hnone, -⟩
      · rw [hphase, hc]
      · exact nomatch hnone.symm.trans hc
      · exact nomatch hnone.symm.trans hc
    obtain ⟨b, b', rfl, hb⟩ := System.mem_moments_iff.mp hpost
    obtain ⟨phase, hphase, hrank⟩ :=
      System.phase?_run_of_rank b ⟨_, hreturned, Nat.le_refl (Phase.returned (some c)).rank⟩
    rw [← hb, hprobing] at hphase
    cases hphase
    simp [Phase.rank] at hrank

/-- Once someone who found the connection of a generation silent has made another one, the pool
holds that one from then on. -/
private theorem held_of_connected (h : connect size interval connects now = some p)
    (hlast : ∀ m ∈ (System.idle p).moments actions, ∀ id g', m.Silent id g' → g' ≤ g)
    {pre post : List Moment} {m : Moment}
    (hms : (System.idle p).moments actions = pre ++ m :: post) {d : Dial} {c : Connection}
    (hd : m.dial? = some d) (hc : d.connection = some c)
    (hsilent : ∃ m' ∈ (System.idle p).moments actions, m'.Silent d.caller g) {m' : Moment}
    (hm' : m' ∈ post) :
    m'.before.pool.generation = g + 1 ∧ m'.before.pool.held = some c := by
  have hge := le_generation_of_silent (System.valid_idle (connect_eq_some h).1) hms hd hc hsilent
  obtain ⟨before, after, rfl, rfl, hbefore, rfl⟩ := System.moments_eq_append_cons hms
  obtain ⟨b, b', rfl, hb⟩ := System.mem_moments_iff.mp hm'
  -- The pool behind the dial, and the pool that is asked about, are reached by parts of the run.
  have hafter : m.after = (System.idle p).run (before ++ [m.action]) := by
    rw [System.run_concat, ← hbefore]
    rfl
  have hreached : m'.before = (System.idle p).run (before ++ [m.action] ++ b) := by
    rw [System.run_append, ← hafter, hb]
  have hpart : ∀ m'' ∈ (System.idle p).moments (before ++ [m.action] ++ b), ∀ id g',
      m''.Silent id g' → g' ≤ g := by
    intro m'' hm''
    refine hlast m'' ?_
    have hsplit : before ++ m.action :: (b ++ m'.action :: b') =
        before ++ [m.action] ++ b ++ m'.action :: b' := by simp
    rw [hsplit, System.moments_append]
    exact List.mem_append_left _ hm''
  obtain ⟨hle, hheld⟩ := held_of_silent_le h hpart
  rw [← hreached] at hle hheld
  -- The dial made the only connection since the connection of the generation was found silent.
  obtain ⟨k, -, hendpoint, ⟨now, hsome, hpool, -⟩ | ⟨hnone, -⟩ | ⟨hnone, -⟩⟩ :=
    Moment.dial?_cases hd
  · have hinstalled : m.after.pool.held = some c := by
      rw [hpool, State.install_held, ← hc, hsome, hendpoint]
    have hgeneration : m.after.pool.generation = m.before.pool.generation + 1 := by rw [hpool]; rfl
    have hfollows := System.follows_run hinstalled b
    rw [← hb] at hfollows
    have hmade := hfollows.generation_eq
    have heq : m'.before.pool.generation = g + 1 := by omega
    have hnil : ((m.after.dials b).filterMap Dial.connection) = [] :=
      List.eq_nil_of_length_eq_zero (by omega)
    refine ⟨heq, ?_⟩
    obtain ⟨c', hc'⟩ := Option.ne_none_iff_exists'.mp (hheld heq)
    have hlastMade := hfollows.held_eq c' hc'
    rw [hnil] at hlastMade
    exact hc'.trans hlastMade.symm
  · exact nomatch hnone.symm.trans hc
  · exact nomatch hnone.symm.trans hc

/-- Behind such a dial nobody dials any more, and everybody who gets the lock takes the connection
that it made. -/
private theorem taken_of_connected (h : connect size interval connects now = some p)
    (hlast : ∀ m ∈ (System.idle p).moments actions, ∀ id g', m.Silent id g' → g' ≤ g)
    {pre post : List Moment} {m : Moment}
    (hms : (System.idle p).moments actions = pre ++ m :: post) {d : Dial} {c : Connection}
    (hd : m.dial? = some d) (hc : d.connection = some c)
    (hsilent : ∃ m' ∈ (System.idle p).moments actions, m'.Silent d.caller g) {m' : Moment}
    (hm' : m' ∈ post) :
    m'.dial? = none ∧ ∀ id found g', m'.Acquires id found g' →
      m'.after.phase? id = some (.returned (some c)) ∧ m'.after.pool = m'.before.pool ∧
        m'.after.holder = none := by
  obtain ⟨hgeneration, hheld⟩ := held_of_connected h hlast hms hd hc hsilent hm'
  have hmem : m' ∈ (System.idle p).moments actions := by
    rw [hms]
    exact List.mem_append_right _ (List.mem_cons_of_mem _ hm')
  obtain ⟨before, after, rfl, hbefore⟩ := System.mem_moments_iff.mp hmem
  constructor
  · -- Whoever dials has made the pool drop its connection.
    cases hdial : m'.dial? with
    | none => rfl
    | some d' =>
      obtain ⟨k, hdialing, -⟩ := Moment.dial?_cases hdial
      rw [hbefore] at hdialing hheld
      exact nomatch hheld.symm.trans ((valid_of_connect h before).dialing _ _ hdialing).2.1
  · intro id found g' hacquires
    refine hacquires.taken hheld ?_
    rw [System.moments_append] at hlast
    -- The caller waits with something older than what the pool holds, so it takes that.
    have hle := waiting_le_of_silent_le h (fun m hm => hlast m (List.mem_append_left _ hm))
      (hbefore ▸ hacquires.2.1)
    omega

/-- Of those who found the connection of a generation silent one at most dials with success. -/
private theorem connected_unique (h : connect size interval connects now = some p)
    (hlast : ∀ m ∈ (System.idle p).moments actions, ∀ id g', m.Silent id g' → g' ≤ g)
    {d d' : Dial} {c c' : Connection} (hd : d ∈ (System.idle p).dials actions)
    (hd' : d' ∈ (System.idle p).dials actions) (hc : d.connection = some c)
    (hc' : d'.connection = some c')
    (hsilent : ∃ m ∈ (System.idle p).moments actions, m.Silent d.caller g)
    (hsilent' : ∃ m ∈ (System.idle p).moments actions, m.Silent d'.caller g) : d = d' := by
  obtain ⟨m, hm, hmd⟩ := List.mem_filterMap.mp hd
  obtain ⟨m', hm', hmd'⟩ := List.mem_filterMap.mp hd'
  obtain ⟨pre, post, hms⟩ := List.append_of_mem hm
  rw [hms] at hm'
  -- Whichever of the two came first, the other one would have dialed behind it.
  rcases List.mem_append.mp hm' with hpre | hm'
  · obtain ⟨pre', post', rfl⟩ := List.append_of_mem hpre
    rw [List.append_assoc, List.cons_append] at hms
    have hnone := (taken_of_connected h hlast hms hmd' hc' hsilent'
      (List.mem_append_right post' List.mem_cons_self)).1
    exact nomatch hnone.symm.trans hmd
  · rcases List.mem_cons.mp hm' with rfl | hpost
    · exact Option.some.inj (hmd.symm.trans hmd')
    · have hnone := (taken_of_connected h hlast hms hmd hc hsilent hpost).1
      exact nomatch hnone.symm.trans hmd'

/-- However many askers ask at once, in whatever order their steps come and whatever probes and
dials bring. An asker dials only if, when it got the lock, the pool held no connection or still the
one that the asker had seen, of the same generation. And if no connection behind a generation was
found silent, then of those who found the connection of that generation silent one at most dials
with success; after that nobody dials any more, and everybody who gets the lock takes the connection
that this dial made and leaves the pool and the lock as they are. -/
theorem failover_dials_once (h : connect size interval connects now = some p)
    (actions : List Action) :
    (∀ id k, ((System.idle p).run actions).phase? id = some (.dialing k) →
      ∃ pre m post found g, (System.idle p).moments actions = pre ++ m :: post ∧
        m.Acquires id found g ∧
        (m.before.pool.held = none ∨ m.before.pool.held = found ∧ m.before.pool.generation = g) ∧
        ∃ look ∈ pre, look.Looks id found g) ∧
    ∀ g, (∀ m ∈ (System.idle p).moments actions, ∀ id g', m.Silent id g' → g' ≤ g) →
      (∀ d ∈ (System.idle p).dials actions, ∀ d' ∈ (System.idle p).dials actions, ∀ c c',
        d.connection = some c → d'.connection = some c' →
        (∃ m ∈ (System.idle p).moments actions, m.Silent d.caller g) →
        (∃ m ∈ (System.idle p).moments actions, m.Silent d'.caller g) → d = d') ∧
      ∀ pre m post, (System.idle p).moments actions = pre ++ m :: post →
        ∀ d c, m.dial? = some d → d.connection = some c →
          (∃ m' ∈ (System.idle p).moments actions, m'.Silent d.caller g) →
          ∀ m' ∈ post, m'.dial? = none ∧ ∀ id found g', m'.Acquires id found g' →
            m'.after.phase? id = some (.returned (some c)) ∧ m'.after.pool = m'.before.pool ∧
              m'.after.holder = none := by
  refine ⟨System.entitled_run (connect_eq_some h).1 actions, fun g hlast => ⟨?_, ?_⟩⟩
  · intro d hd d' hd' c c' hc hc' hsilent hsilent'
    exact connected_unique h hlast hd hd' hc hc' hsilent hsilent'
  · intro pre m post hms d c hd hc hsilent m' hm'
    exact taken_of_connected h hlast hms hd hc hsilent hm'

/-- Two askers find the first connection silent; one dials, the other waits and takes what was
made. -/
theorem failover_dials_once_of_two :
    let p := State.connected 2 10 0 0
    let waited : List Action := [.ask .recheck, .ask .recheck, .event 0 .look, .event 1 .look,
      .event 0 (.probed false 20), .event 1 (.probed false 21), .event 0 .acquire]
    let dialing := (System.idle p).run waited
    let connected := dialing.act (.event 0 (.dialed true 25))
    connect 2 10 (fun _ => true) 0 = some p ∧
      (∀ id < 2, ∃ m ∈ (System.idle p).moments waited, m.Silent id 0) ∧
      (connected.act (.event 1 .acquire)).phase? 1 = some (.returned (some ⟨1, 1⟩)) ∧
      (connected.act (.event 1 .acquire)).pool = connected.pool := by
  intro p waited dialing connected
  let rest : List Action := [.event 0 (.dialed true 25), .event 1 .acquire]
  have h : connect 2 10 (fun _ => true) 0 = some p := by decide
  have hsilent : ∀ id < 2, ∃ m ∈ (System.idle p).moments waited, m.Silent id 0 := by
    intro id hid
    rcases (by omega : id = 0 ∨ id = 1) with rfl | rfl
    · exact ⟨⟨(System.idle p).run (waited.take 4), .event 0 (.probed false 20)⟩,
        System.mem_moments_iff.mpr ⟨_, _, rfl, rfl⟩, ⟨0, 0⟩, 20, rfl, rfl⟩
    · exact ⟨⟨(System.idle p).run (waited.take 5), .event 1 (.probed false 21)⟩,
        System.mem_moments_iff.mpr ⟨_, _, rfl, rfl⟩, ⟨0, 0⟩, 21, rfl, rfl⟩
  have hms : (System.idle p).moments (waited ++ rest) = (System.idle p).moments waited ++
      ⟨dialing, .event 0 (.dialed true 25)⟩ :: [⟨connected, .event 1 .acquire⟩] :=
    System.moments_append _ _ _
  have hearly : ∀ m ∈ (System.idle p).moments (waited ++ rest),
      m.before.pool.generation = 0 ∨ m.action = .event 1 .acquire := by
    decide
  obtain ⟨-, honce⟩ := failover_dials_once h (waited ++ rest)
  obtain ⟨-, htaken⟩ := honce 0 (by
    intro m hm id g hfound
    obtain ⟨before, after, -, hbefore⟩ := System.mem_moments_iff.mp hm
    rcases hearly m hm with hzero | hacquire
    · exact hzero ▸ hfound.le (hbefore ▸ valid_of_connect h before)
    · obtain ⟨c, now, hprobed, -⟩ := hfound
      exact nomatch hacquire.symm.trans hprobed)
  obtain ⟨m, hm, hzero⟩ := hsilent 0 (by decide)
  have hdial : (⟨dialing, .event 0 (.dialed true 25)⟩ : Moment).dial? =
      some ⟨0, 1, some ⟨1, 1⟩⟩ := by
    decide
  obtain ⟨-, hacquires⟩ := htaken _ _ _ hms _ ⟨1, 1⟩ hdial rfl
    ⟨m, hms ▸ List.mem_append_left _ hm, hzero⟩ _ (.head _)
  have hwaits : (⟨connected, .event 1 .acquire⟩ : Moment).Acquires 1 (some ⟨0, 0⟩) 0 :=
    ⟨rfl, by decide, by decide⟩
  obtain ⟨hphase, hpool, -⟩ := hacquires _ _ _ hwaits
  simp only [Moment.after] at hphase hpool
  exact ⟨h, hsilent, hphase, hpool⟩

end Connected

end ChainGauge.Pool
