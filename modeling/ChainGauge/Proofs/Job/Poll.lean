import ChainGauge.Job.Poll
import Mathlib.Tactic.ByContra

/-!
# Scrapes that start late

The loop waits twice in each round, and where its work is ready and it is cancelled as well, either may
be seen first. A scrape may therefore start although the loop is cancelled. This takes a loop that
comes to the scrape in the very moment of its cancellation (`Poll.Comes.late_eq`): before the first
scrape, or out of a sleep that was over in that moment and was looked at first. Such a scrape is the
last one, and the loop stops in the moment of its cancellation all the same (`Poll.Runs.stops`,
`Poll.Runs.tied`).

## Key results

- `Poll.runs_of_loop`: what the loop does, round by round
- `Poll.Comes.again`: one round keeps the loop ahead of its cancellation
- `Poll.late_start`: what a late start takes, and the ways to look that have none
-/

namespace ChainGauge.Poll

variable {s : Setting} {run time fuel : Nat} {cancel : Option Nat} {t t' : Trace}

/-! ## One wait -/

section Await

variable {work : Option Nat} {workFirst : Bool}

/-- A wait ends with its work unless the cancellation is there before, or is looked at first. -/
private theorem await_eq_true_iff {w : Nat} : await work cancel workFirst time = some (true, w) ↔
    ∃ d, work = some d ∧ w = time + d ∧
      ∀ c, cancel = some c → w < max time c ∨ w = max time c ∧ workFirst = true := by
  unfold await
  cases work <;> cases cancel <;> grind

/-- A wait ends with the cancellation unless its work is there before, or is looked at first. -/
private theorem await_eq_false_iff {m : Nat} : await work cancel workFirst time = some (false, m) ↔
    ∃ c, cancel = some c ∧ m = max time c ∧
      ∀ d, work = some d → m < time + d ∨ m = time + d ∧ workFirst = false := by
  unfold await
  cases work <;> cases cancel <;> grind

end Await

/-- Work starts exactly if it is looked at first, or the cancellation is still to come. -/
private theorem starts_eq_true_iff {workFirst : Bool} : starts cancel workFirst time = true ↔
    workFirst = true ∨ ∀ c, cancel = some c → time < c := by
  cases cancel <;> simp [starts]

private theorem starts_eq_false_iff {workFirst : Bool} : starts cancel workFirst time = false ↔
    workFirst = false ∧ ∃ c, cancel = some c ∧ c ≤ time := by
  cases cancel <;> simp [starts]

/-- Where a scrape is not the one that cancels the loop, its end changes nothing. -/
private theorem cancelAfter_of_ne {f : Nat} (h : s.cancelInRun ≠ some run) :
    cancelAfter s run f cancel = cancel :=
  if_neg h

/-- The end of the scrape that cancels the loop is a cancellation, unless there was one before. -/
private theorem cancelAfter_of_eq (f : Nat) (cancel : Option Nat) (h : s.cancelInRun = some run) :
    ∃ m, cancelAfter s run f cancel = some m ∧ m ≤ f := by
  rw [cancelAfter, if_pos h]
  cases cancel with
  | none => exact ⟨f, rfl, Nat.le_refl f⟩
  | some c => exact ⟨min f c, rfl, Nat.min_le_left f c⟩

/-! ## Rounds -/

/-- What the loop does from a scrape on, with what it did before and what it does in all. -/
inductive Runs (s : Setting) : Nat → Nat → Option Nat → Trace → Trace → Prop where
  /-- The scrape is not started. -/
  | refused {run time : Nat} {cancel : Option Nat} {t : Trace}
      (hstarts : starts cancel (s.workFirst (2 * run)) time = false) :
      Runs s run time cancel t { t with stopped := time }
  /-- The scrape is given up. -/
  | dropped {run time c : Nat} {cancel : Option Nat} {t : Trace}
      (hstarts : starts cancel (s.workFirst (2 * run)) time = true)
      (hscrape : await (s.duration run) cancel (s.workFirst (2 * run)) time = some (false, c)) :
      Runs s run time cancel t ⟨t.started ++ [time], t.finished, c⟩
  /-- The sleep behind the scrape is given up. -/
  | woken {run time f c : Nat} {cancel : Option Nat} {t : Trace}
      (hstarts : starts cancel (s.workFirst (2 * run)) time = true)
      (hscrape : await (s.duration run) cancel (s.workFirst (2 * run)) time = some (true, f))
      (hsleep : await (some s.interval) (cancelAfter s run f cancel) (s.workFirst (2 * run + 1)) f =
        some (false, c)) :
      Runs s run time cancel t ⟨t.started ++ [time], t.finished ++ [f], c⟩
  /-- The loop comes to the next scrape. -/
  | again {run time f w : Nat} {cancel : Option Nat} {t t' : Trace}
      (hstarts : starts cancel (s.workFirst (2 * run)) time = true)
      (hscrape : await (s.duration run) cancel (s.workFirst (2 * run)) time = some (true, f))
      (hsleep : await (some s.interval) (cancelAfter s run f cancel) (s.workFirst (2 * run + 1)) f =
        some (true, w))
      (hrest : Runs s (run + 1) w (cancelAfter s run f cancel)
        { t with started := t.started ++ [time], finished := t.finished ++ [f] } t') :
      Runs s run time cancel t t'

/-- What the loop gives is a run of its rounds. -/
theorem runs_of_loop (h : loop s run time cancel t fuel = some t') : Runs s run time cancel t t' := by
  -- The induction is on the fuel; each round ends the loop in one of four ways or goes on.
  induction fuel generalizing run time cancel t with
  | zero => cases h
  | succ fuel ih =>
    rw [loop] at h
    split at h
    · next hstarts =>
      cases h
      exact .refused (by simpa using hstarts)
    · next hstarts =>
      have hstarts : starts cancel (s.workFirst (2 * run)) time = true := by simpa using hstarts
      dsimp only at h
      split at h
      · cases h
      · next c hscrape =>
        cases h
        exact .dropped hstarts hscrape
      · next f hscrape =>
        split at h
        · cases h
        · next c hsleep =>
          cases h
          exact .woken hstarts hscrape hsleep
        · next w hsleep => exact .again hstarts hscrape hsleep (ih h)

/-! ## Ahead of the cancellation -/

/-- A start counts as late if the loop is cancelled by then: from outside, or at the end of a scrape in
front of the start. -/
def Setting.Late (s : Setting) (i x : Nat) : Prop :=
  (∃ c, s.cancelAt = some c ∧ c ≤ x) ∨ ∃ k, s.cancelInRun = some (k + 1) ∧ k < i

/-- What holds when the loop comes to a scrape: it was not cancelled before, and no start was late. -/
structure Comes (s : Setting) (run time : Nat) (cancel : Option Nat) (t : Trace) : Prop where
  cancel_eq : cancel = s.cancelAt
  started : t.started.length + 1 = run
  finished : t.finished.length + 1 = run
  le_cancelAt : ∀ c, s.cancelAt = some c → time ≤ c
  le_cancelInRun : ∀ k, s.cancelInRun = some (k + 1) → run ≤ k + 1
  early : ∀ c, s.cancelAt = some c → ∀ x ∈ t.started, x < c
  /-- Out of a sleep that ended together with the cancellation. -/
  overslept : s.cancelAt = some time → run = 1 ∨ s.workFirst (2 * (run - 1) + 1) = true

/-- The first scrape is come to before any late start. -/
private theorem comes_poll (s : Setting) : Comes s 1 0 s.cancelAt ⟨[], [], 0⟩ where
  cancel_eq := rfl
  started := rfl
  finished := rfl
  le_cancelAt c _ := Nat.zero_le c
  le_cancelInRun k _ := Nat.le_add_left 1 k
  early _ _ _ hx := nomatch hx
  overslept _ := .inl rfl

namespace Comes

variable {f w : Nat}

/-- Only the scrape that the loop comes to can start late, in the moment of the cancellation. -/
theorem late_eq (h : Comes s run time cancel t) {i x : Nat}
    (hi : (t.started ++ [time])[i]? = some x) (hlate : s.Late i x) :
    i + 1 = run ∧ x = time ∧ s.cancelAt = some time := by
  have hstarted := h.started
  have hlength : i < (t.started ++ [time]).length := (List.getElem?_eq_some_iff.mp hi).1
  rw [List.length_append, List.length_singleton] at hlength
  rcases hlate with ⟨c, hc, hle⟩ | ⟨k, hk, hlt⟩
  · -- The starts before this one were early.
    have hlast : i = t.started.length := by
      refine Nat.le_antisymm (Nat.le_of_lt_succ hlength) (Nat.le_of_not_lt fun hlt => ?_)
      rw [List.getElem?_append_left hlt] at hi
      exact Nat.not_lt.mpr hle (h.early c hc x (List.mem_of_getElem? hi))
    subst hlast
    rw [List.getElem?_concat_length, Option.some.injEq] at hi
    subst hi
    exact ⟨hstarted, rfl, by rw [hc, Nat.le_antisymm (h.le_cancelAt c hc) hle]⟩
  -- A token cancelled during a run is seen before the next one.
  · have := h.le_cancelInRun k hk
    omega

/-- Behind a scrape that the cancellation did not stop, the loop is not cancelled yet, or just now. -/
private theorem le_of_scrape (h : Comes s run time cancel t)
    (hscrape : await (s.duration run) cancel (s.workFirst (2 * run)) time = some (true, f)) :
    time ≤ f ∧ ∀ c, s.cancelAt = some c → f ≤ c := by
  obtain ⟨d, -, rfl, hcancel⟩ := await_eq_true_iff.mp hscrape
  refine ⟨Nat.le_add_right time d, fun c hc => ?_⟩
  have hle := h.le_cancelAt c hc
  have := hcancel c (h.cancel_eq.trans hc)
  omega

/-- A sleep behind the scrape that cancels the loop is given up, for it takes some time. -/
private theorem ne_cancelInRun (hinterval : 0 < s.interval)
    (hsleep : await (some s.interval) (cancelAfter s run f cancel) (s.workFirst (2 * run + 1)) f =
      some (true, w)) : s.cancelInRun ≠ some run := by
  intro heq
  obtain ⟨m, hm, hle⟩ := cancelAfter_of_eq f cancel heq
  obtain ⟨d, hd, rfl, hcancel⟩ := await_eq_true_iff.mp hsleep
  cases hd
  have := hcancel m hm
  omega

/-- A round keeps the loop ahead of its cancellation, and takes some time. -/
theorem again (hinterval : 0 < s.interval) (h : Comes s run time cancel t)
    (hscrape : await (s.duration run) cancel (s.workFirst (2 * run)) time = some (true, f))
    (hsleep : await (some s.interval) (cancelAfter s run f cancel) (s.workFirst (2 * run + 1)) f =
      some (true, w)) :
    time < w ∧ Comes s (run + 1) w (cancelAfter s run f cancel)
      { t with started := t.started ++ [time], finished := t.finished ++ [f] } := by
  have hne := ne_cancelInRun hinterval hsleep
  rw [cancelAfter_of_ne hne] at hsleep ⊢
  obtain ⟨htime, hscraped⟩ := h.le_of_scrape hscrape
  obtain ⟨d, hd, rfl, hcancel⟩ := await_eq_true_iff.mp hsleep
  cases hd
  have hslept : ∀ c, s.cancelAt = some c → f + s.interval ≤ c := fun c hc => by
    have hle := hscraped c hc
    have := hcancel c (h.cancel_eq.trans hc)
    omega
  refine ⟨by omega, h.cancel_eq, by simp [h.started], by simp [h.finished], hslept, fun k hk => ?_,
    fun c hc x hx => ?_, fun hnow => .inr ?_⟩
  · have hle := h.le_cancelInRun k hk
    have : run ≠ k + 1 := fun heq => hne (heq ▸ hk)
    omega
  · -- This start was early too, for the sleep behind it has ended by the cancellation.
    rcases List.mem_append.mp hx with hx | hx
    · exact h.early c hc x hx
    · have hle := hslept c hc
      rw [List.mem_singleton.mp hx]
      omega
  · rcases hcancel _ (h.cancel_eq.trans hnow) with hlt | ⟨-, hfirst⟩
    -- A sleep that ended before the cancellation does not end together with it.
    · omega
    · exact hfirst

end Comes

/-! ## Where the loop stops -/

/-- The loop stops in the moment of its cancellation: from outside, or at the end of a scrape, whatever
comes first. -/
structure StopsInTime (s : Setting) (t : Trace) : Prop where
  cancelled : s.cancelAt = some t.stopped ∨
    ∃ k, s.cancelInRun = some (k + 1) ∧ t.finished[k]? = some t.stopped
  le_cancelAt : ∀ c, s.cancelAt = some c → t.stopped ≤ c
  le_finished : ∀ k f, s.cancelInRun = some (k + 1) → t.finished[k]? = some f → t.stopped ≤ f

/-- No scrape that ended was the one that cancels the loop. -/
private theorem Comes.getElem?_finished (h : Comes s run time cancel t) {k : Nat}
    (hk : s.cancelInRun = some (k + 1)) : t.finished[k]? = none := by
  have hle := h.le_cancelInRun k hk
  have hfinished := h.finished
  rw [List.getElem?_eq_none_iff]
  omega

/-- Stopped from outside, the loop has not come to the end of the scrape that cancels it. -/
private theorem stopsInTime_of_cancelAt (hc : s.cancelAt = some t.stopped)
    (hfinished : ∀ k, s.cancelInRun = some (k + 1) → t.finished[k]? = none) : StopsInTime s t where
  cancelled := .inl hc
  le_cancelAt c hc' := Nat.le_of_eq (Option.some.inj (hc.symm.trans hc'))
  le_finished k f hk hf := by
    rw [hfinished k hk] at hf
    cases hf

/-- Stopped at the end of the scrape that cancels it, the loop was not cancelled from outside before. -/
private theorem stopsInTime_of_cancelInRun {k : Nat} (hk : s.cancelInRun = some (k + 1))
    (hf : t.finished[k]? = some t.stopped) (hle : ∀ c, s.cancelAt = some c → t.stopped ≤ c) :
    StopsInTime s t where
  cancelled := .inr ⟨k, hk, hf⟩
  le_cancelAt := hle
  le_finished k' f hk' hf' := by
    obtain rfl : k = k' := Nat.succ.inj (Option.some.inj (hk.symm.trans hk'))
    exact Nat.le_of_eq (Option.some.inj (hf.symm.trans hf'))

/-- A run from a scrape stops in the moment of its cancellation. -/
theorem Runs.stops (h : Runs s run time cancel t t') (hinterval : 0 < s.interval)
    (hcomes : Comes s run time cancel t) : StopsInTime s t' := by
  -- The books at the scrape are kept by every round that goes on, so only the last round counts.
  induction h with
  | @refused run time cancel t hstarts =>
    obtain ⟨-, c, hc, hle⟩ := starts_eq_false_iff.mp hstarts
    rw [hcomes.cancel_eq] at hc
    refine stopsInTime_of_cancelAt ?_ fun k => hcomes.getElem?_finished
    rw [hc, Nat.le_antisymm (hcomes.le_cancelAt c hc) hle]
  | @dropped run time c cancel t hstarts hscrape =>
    obtain ⟨c, hc, rfl, -⟩ := await_eq_false_iff.mp hscrape
    rw [hcomes.cancel_eq] at hc
    refine stopsInTime_of_cancelAt ?_ fun k => hcomes.getElem?_finished
    rw [hc, Nat.max_eq_right (hcomes.le_cancelAt c hc)]
  | @woken run time f c cancel t hstarts hscrape hsleep =>
    have hscraped := (hcomes.le_of_scrape hscrape).2
    have hfinished := hcomes.finished
    obtain ⟨m, hm, rfl, -⟩ := await_eq_false_iff.mp hsleep
    by_cases hrun : s.cancelInRun = some run
    · -- The end of this scrape is the cancellation.
      obtain ⟨m', hm', hle⟩ := cancelAfter_of_eq f cancel hrun
      obtain rfl : m' = m := Option.some.inj (hm'.symm.trans hm)
      rw [Nat.max_eq_left hle]
      rw [← hfinished] at hrun
      exact stopsInTime_of_cancelInRun hrun List.getElem?_concat_length hscraped
    · rw [cancelAfter_of_ne hrun, hcomes.cancel_eq] at hm
      -- Another scrape cancels or none, so the cancellation came from outside.
      refine stopsInTime_of_cancelAt ?_ fun k hk => ?_
      · rw [hm, Nat.max_eq_right (hscraped m hm)]
      · have hle := hcomes.le_cancelInRun k hk
        have hne : run ≠ k + 1 := fun heq => hrun (heq ▸ hk)
        rw [List.getElem?_eq_none_iff, List.length_append, List.length_singleton]
        omega
  | again hstarts hscrape hsleep hrest ih => exact ih (hcomes.again hinterval hscrape hsleep).2

/-! ## Late starts -/

/-- What a late start takes: it is the last one, in the moment of the cancellation, when the loop stops;
the scrape is looked at before the cancellation, and unless it is the first one, so was the end of the
sleep in front of it. -/
structure Tied (s : Setting) (t : Trace) (i x : Nat) : Prop where
  last : i + 1 = t.started.length
  cancelled : s.cancelAt = some x
  stopped : t.stopped = x
  scrapeFirst : s.workFirst (2 * (i + 1)) = true
  sleepFirst : i = 0 ∨ s.workFirst (2 * i + 1) = true

/-- The scrape that the loop comes to starts late only if it ties with the cancellation. -/
theorem Comes.tied (h : Comes s run time cancel t)
    (hstarts : starts cancel (s.workFirst (2 * run)) time = true)
    (hstarted : t'.started = t.started ++ [time])
    (hstops : StopsInTime s t') (hle : time ≤ t'.stopped) {i x : Nat}
    (hi : t'.started[i]? = some x) (hlate : s.Late i x) : Tied s t' i x := by
  rw [hstarted] at hi
  obtain ⟨rfl, rfl, hnow⟩ := h.late_eq hi hlate
  refine ⟨?_, hnow, Nat.le_antisymm (hstops.le_cancelAt x hnow) hle, ?_, ?_⟩
  · rw [hstarted, List.length_append, List.length_singleton, h.started]
  -- At the moment of the cancellation itself only the tie decides for the scrape.
  · rcases starts_eq_true_iff.mp hstarts with hfirst | hbefore
    · exact hfirst
    · exact absurd (hbefore x (h.cancel_eq.trans hnow)) (Nat.lt_irrefl x)
  · simpa using h.overslept hnow

/-- A late start of a run ties with the cancellation. -/
theorem Runs.tied (h : Runs s run time cancel t t') (hinterval : 0 < s.interval)
    (hcomes : Comes s run time cancel t) {i x : Nat} (hi : t'.started[i]? = some x)
    (hlate : s.Late i x) : Tied s t' i x := by
  induction h with
  | @refused run time cancel t hstarts =>
    -- This scrape is not started, and those before it were early.
    have hlt : i < t.started.length := (List.getElem?_eq_some_iff.mp hi).1
    have hi' : (t.started ++ [time])[i]? = some x := by rw [List.getElem?_append_left hlt, hi]
    have hlast := (hcomes.late_eq hi' hlate).1
    have hstarted := hcomes.started
    omega
  | @dropped run time c cancel t hstarts hscrape =>
    obtain ⟨m, -, rfl, -⟩ := await_eq_false_iff.mp hscrape
    have hstops := (Runs.dropped (t := t) hstarts hscrape).stops hinterval hcomes
    exact hcomes.tied hstarts rfl hstops (Nat.le_max_left time m) hi hlate
  | @woken run time f c cancel t hstarts hscrape hsleep =>
    obtain ⟨m, -, rfl, -⟩ := await_eq_false_iff.mp hsleep
    have hstops := (Runs.woken (t := t) hstarts hscrape hsleep).stops hinterval hcomes
    have hle := (hcomes.le_of_scrape hscrape).1
    exact hcomes.tied hstarts rfl hstops (Nat.le_trans hle (Nat.le_max_left f m)) hi hlate
  | again hstarts hscrape hsleep hrest ih =>
    exact ih (hcomes.again hinterval hscrape hsleep).2 hi

/-! ## Coming to a stop -/

/-- Who waits with a cancellation in sight waits for an end. -/
private theorem await_ne_none {work : Option Nat} {workFirst : Bool} {c : Nat} :
    await work (some c) workFirst time ≠ none := by
  cases work <;> grind [await]

/-- A loop that is cancelled stays so behind a scrape. -/
private theorem exists_cancelAfter_eq (s : Setting) (run f c : Nat) :
    ∃ m, cancelAfter s run f (some c) = some m := by
  rw [cancelAfter]
  split
  · exact ⟨_, rfl⟩
  · exact ⟨c, rfl⟩

/-- A loop that is cancelled from outside stops: each round takes some time. -/
private theorem exists_loop_eq (hinterval : 0 < s.interval) {c : Nat} (hc : s.cancelAt = some c)
    (hcomes : Comes s run time cancel t) (hfuel : c < time + fuel) :
    ∃ t', loop s run time cancel t fuel = some t' := by
  -- Every round takes time, and the cancellation is so far away only.
  induction fuel generalizing run time cancel t with
  | zero => exact absurd (hcomes.le_cancelAt c hc) (Nat.not_le.mpr hfuel)
  | succ fuel ih =>
    obtain rfl : cancel = some c := hcomes.cancel_eq.trans hc
    rw [loop]
    split
    · exact ⟨_, rfl⟩
    · split
      · next hnone => exact absurd hnone await_ne_none
      · exact ⟨_, rfl⟩
      · next f hscrape =>
        dsimp only
        split
        · next hnone =>
          obtain ⟨m, hm⟩ := exists_cancelAfter_eq s run f c
          rw [hm] at hnone
          exact absurd hnone await_ne_none
        · exact ⟨_, rfl⟩
        · next w hsleep =>
          obtain ⟨hlt, hnext⟩ := hcomes.again hinterval hscrape hsleep
          exact ih hnext (by omega)

/-! ## Every moment -/

/-- A loop whose scrapes take no time, cancelled in the moment of a scrape of its own. -/
def untilMoment (workFirst : Nat → Bool) (n : Nat) : Setting :=
  ⟨fun _ => some 0, 1, some n, none, workFirst⟩

/-- It comes to the scrape of that moment if the sleep in front of it is looked at first. -/
private theorem loop_untilMoment {workFirst : Nat → Bool} {n : Nat}
    (hscrape : workFirst (2 * (n + 1)) = true) (hsleep : n = 0 ∨ workFirst (2 * n + 1) = true)
    {i : Nat} (hi : i ≤ n) (hfuel : n < i + fuel) :
    loop (untilMoment workFirst n) (i + 1) i (some n) ⟨List.range i, List.range i, 0⟩ fuel =
      some ⟨List.range (n + 1), List.range (n + 1), n⟩ := by
  induction fuel generalizing i with
  | zero => exact absurd hi (Nat.not_le.mpr hfuel)
  | succ fuel ih =>
    have hafter : cancelAfter (untilMoment workFirst n) (i + 1) i (some n) = some n :=
      cancelAfter_of_ne (by simp [untilMoment])
    have hstarts : starts (some n) (workFirst (2 * (i + 1))) i = true := by
      rw [starts_eq_true_iff]
      grind
    have hscraped : await (some 0) (some n) (workFirst (2 * (i + 1))) i = some (true, i) := by
      rw [await_eq_true_iff]
      grind
    -- Before its last round the loop sleeps; in the last one it is woken.
    rcases Nat.lt_or_eq_of_le hi with hlt | rfl
    · have hslept : await (some 1) (some n) (workFirst (2 * (i + 1) + 1)) i = some (true, i + 1) := by
        rw [await_eq_true_iff]
        grind
      rw [← ih hlt (by omega), List.range_succ]
      simp only [loop, untilMoment] at hafter ⊢
      simp [hstarts, hscraped, hafter, hslept]
    · have hwoken : await (some 1) (some i) (workFirst (2 * (i + 1) + 1)) i = some (false, i) := by
        rw [await_eq_false_iff]
        grind
      simp only [loop, untilMoment] at hafter ⊢
      simp [hstarts, hscraped, hafter, hwoken, List.range_succ]

/-- For every way to look, every loop that takes some time to sleep, and every cancellation. Cancelled
from outside, the loop comes to a stop. Wherever it stops, it is the moment of its cancellation. A
start that is late ties with the cancellation. No start is ever late exactly if the scrape is looked at
first nowhere but behind a sleep whose end is not. -/
theorem late_start (workFirst : Nat → Bool) :
    (∀ s : Setting, s.workFirst = workFirst → 0 < s.interval →
      (∀ c, s.cancelAt = some c → ∃ t, poll s (c + 1) = some t) ∧
      ∀ fuel t, poll s fuel = some t → StopsInTime s t ∧
        ∀ i x, t.started[i]? = some x → s.Late i x → Tied s t i x) ∧
    ((∀ s : Setting, s.workFirst = workFirst → 0 < s.interval →
        ∀ fuel t, poll s fuel = some t → ∀ i x, t.started[i]? = some x → ¬ s.Late i x) ↔
      ∀ n, workFirst (2 * (n + 1)) = true → n ≠ 0 ∧ workFirst (2 * n + 1) = false) := by
  refine ⟨fun s _ hinterval => ⟨fun c hc => ?_, fun fuel t h => ?_⟩, fun h n hscrape => ?_,
    fun h s hfirst hinterval fuel t hrun i x hi hlate => ?_⟩
  · exact exists_loop_eq hinterval hc (comes_poll s) (by omega)
  -- What holds of the setting at the start holds of the whole run.
  · have hruns := runs_of_loop h
    exact ⟨hruns.stops hinterval (comes_poll s), fun i x => hruns.tied hinterval (comes_poll s)⟩
  -- Were the ties otherwise, cancelling at the moment of the start `n` would let it through.
  · by_contra hsleep
    have hrun : poll (untilMoment workFirst n) (n + 1) =
        some ⟨List.range (n + 1), List.range (n + 1), n⟩ :=
      loop_untilMoment hscrape (by grind) (Nat.zero_le n) (by omega)
    exact h (untilMoment workFirst n) rfl Nat.one_pos _ _ hrun n n (by simp)
      (.inl ⟨n, rfl, Nat.le_refl n⟩)
  -- A late start is tied twice: the sleep lost its tie and the scrape won the next.
  · subst hfirst
    have htied := (runs_of_loop hrun).tied hinterval (comes_poll s) hi hlate
    obtain ⟨hne, hsleep⟩ := h i htied.scrapeFirst
    rcases htied.sleepFirst with hzero | hfirst
    · exact hne hzero
    · exact Bool.false_ne_true (hsleep.symm.trans hfirst)

/-- A loop that is cancelled before its first scrape and looks at its scrapes first. -/
def cancelledBefore : Setting :=
  ⟨fun _ => some 0, 100, some 0, none, fun n => n % 2 == 0⟩

/-- It starts the scrape though it is cancelled, and stops at once. -/
theorem started_cancelled : 0 < cancelledBefore.interval ∧
    poll cancelledBefore 2 = some ⟨[0], [0], 0⟩ ∧ cancelledBefore.Late 0 0 :=
  ⟨by decide, by decide, .inl ⟨0, rfl, Nat.le_refl 0⟩⟩

end ChainGauge.Poll
