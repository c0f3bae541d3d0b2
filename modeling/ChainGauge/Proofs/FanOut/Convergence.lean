import ChainGauge.Proofs.Dialogue
import ChainGauge.Proofs.FanOut.History

/-!
# A recheck settles on the endpoints that can be reached

As long as nothing changes about who answers (`Availability`), what one recheck makes of a slot is
fixed by what it found there: a connection that answers stays, and for every other slot the endpoint
is dialed once and the slot holds what came of it (`Availability.Settles`). The invariant behind
this says, endpoint by endpoint, where a recheck stands (`Stands`); every action keeps it, as long
as no other recheck moves. A recheck can always be brought to its end, and another one behind it
finds nothing to change.

## Key results

- `Stands.act`: every action keeps where a recheck stands with an endpoint
- `Round.exists_finished`: a recheck can be brought to its end
- `result_dialEvery_eq_ok_iff`, `result_dialEvery_eq_error_iff`: when all addresses can be dialed,
  and what is reported otherwise
- `recheck_converges`: what a recheck makes of the slots, and how a fan-out connects
-/

namespace ChainGauge.FanOut

open Pool (Connection)

/-- What probes and dials bring as long as nothing changes. A node may answer the one and refuse the
other. -/
structure Availability where
  /-- Whether a connection answers its probe. -/
  answers : Connection → Bool
  /-- Whether an endpoint can be dialed. -/
  connects : Nat → Bool

namespace Availability

variable (A : Availability)

/-- A slot holds a connection that answers. -/
def Keeps (slot : Option Connection) : Prop :=
  ∃ c, slot = some c ∧ A.answers c = true

/-- An event brings what it must, in a recheck that found the given slots. -/
def Brings (found : List (Option Connection)) : Event → Prop
  | .probed i alive => ∀ c, found[i]? = some (some c) → alive = A.answers c
  | .dialed i connected => connected = A.connects i
  | _ => True

/-- No recheck moves but one, which found the given slots, and its probes and dials bring what they
must. -/
def Allows (id : Nat) (found : List (Option Connection)) : Action → Prop
  | .event j e => j = id ∧ A.Brings found e
  | _ => True

/-- All actions of a run are such that no recheck moves but one. -/
def Governs (id : Nat) (found : List (Option Connection)) (actions : List Action) : Prop :=
  ∀ a ∈ actions, A.Allows id found a

/-- What a recheck makes of the slot of an endpoint, with its dials of the endpoint. -/
structure Settles (i : Nat) (before after : Option Connection) (dials : List Dial) : Prop where
  held : after.isSome = true ↔ A.Keeps before ∨ A.connects i = true
  /-- A connection that answers stays, and its endpoint is not dialed. -/
  kept : A.Keeps before → after = before ∧ dials = []
  /-- Every other endpoint is dialed once, and the slot holds what came of it. -/
  dialed : ¬ A.Keeps before → ∃ d, dials = [d] ∧ d.connection = after

variable {A}

/-- A single event is governed if what it brings is. -/
private theorem governs_event {id : Nat} {found : List (Option Connection)} {e : Event}
    (h : A.Brings found e) : A.Governs id found [.event id e] := by
  intro a ha
  rw [List.mem_singleton.mp ha]
  exact ⟨rfl, h⟩

/-- What a recheck has settled under some availability, another one leaves settled: it finds a
connection wherever there can be one. -/
theorem Settles.again {i : Nat} {before after last : Option Connection} {dials dials' : List Dial}
    (h : A.Settles i before after dials) (h' : A.Settles i after last dials') :
    last.isSome = true ↔ after.isSome = true := by
  rw [h'.held, h.held]
  constructor
  · rintro (⟨c, hc, -⟩ | hconnects)
    · exact h.held.mp (by rw [hc]; rfl)
    · exact .inr hconnects
  · rintro (hkeeps | hconnects)
    · exact .inl ((h.kept hkeeps).1 ▸ hkeeps)
    · exact .inr hconnects

end Availability

/-! ## Where a recheck stands with an endpoint -/

/-- What a recheck has made of an endpoint so far: its entry and its dials of the endpoint. -/
inductive Along (A : Availability) (id i : Nat) (slot : Option Connection) :
    Check → List Dial → Prop where
  | probing {c : Connection} (found : slot = some c) : Along A id i slot (.probing c) []
  | dialing (silent : ¬ A.Keeps slot) : Along A id i slot .dialing []
  | alive (keeps : A.Keeps slot) : Along A id i slot .alive []
  | decided {c : Option Connection} (silent : ¬ A.Keeps slot) (brought : c.isSome = A.connects i) :
    Along A id i slot (.decided c) [⟨id, c⟩]

/-- Where a recheck stands with an endpoint whose slot it finds as given. -/
inductive Stands (A : Availability) (id i : Nat) (slot : Option Connection) (t : System) :
    List Dial → Prop where
  | arriving (recheck : t.rechecks[id]? = some .arriving) (now : t.slots[i]? = some slot) :
    Stands A id i slot t []
  | underWay {checks : List Check} {check : Check} {dials : List Dial}
    (recheck : t.rechecks[id]? = some (.underWay checks)) (now : t.slots[i]? = some slot)
    (entry : checks[i]? = some check) (along : Along A id i slot check dials) :
    Stands A id i slot t dials
  | finished {after : Option Connection} {dials : List Dial}
    (recheck : t.rechecks[id]? = some .finished) (now : t.slots[i]? = some after)
    (settles : A.Settles i slot after dials) : Stands A id i slot t dials

variable {A : Availability} {id i : Nat} {slot : Option Connection} {dials : List Dial}
  {found : List (Option Connection)} {s t t' : System} {a : Action}

/-- At first a check is as far along as its slot. -/
theorem Along.ofSlot : Along A id i slot (.ofSlot slot) [] := by
  cases slot with
  | none => exact .dialing nofun
  | some c => exact .probing rfl

/-- A probe takes a check along as the endpoint answers. -/
theorem Along.probed {c : Connection} {dials : List Dial}
    (h : Along A id i slot (.probing c) dials) :
    Along A id i slot (if A.answers c then .alive else .dialing) dials := by
  cases h with
  | probing hfound =>
    cases hanswers : A.answers c with
    | true => exact .alive ⟨c, hfound, hanswers⟩
    | false =>
      refine .dialing ?_
      -- The slot holds one connection, which did not answer.
      rintro ⟨c', hc', hanswers'⟩
      cases hfound.symm.trans hc'
      exact nomatch hanswers.symm.trans hanswers'

/-- What a recheck writes when it has settled an endpoint. -/
private theorem Along.settles {check : Check} (h : Along A id i slot check dials)
    (hsettled : check.isSettled = true) : A.Settles i slot (check.written slot) dials := by
  cases h with
  | probing | dialing => exact nomatch hsettled
  | alive keeps =>
    refine ⟨iff_of_true ?_ (.inl keeps), fun _ => ⟨rfl, rfl⟩, fun silent => absurd keeps silent⟩
    obtain ⟨c, rfl, -⟩ := keeps
    rfl
  | decided silent brought =>
    refine ⟨?_, fun keeps => absurd keeps silent, fun _ => ⟨_, rfl, rfl⟩⟩
    simp only [Check.written, brought, silent, false_or]

/-- A recheck that has not begun left its slot as it was. -/
private theorem Stands.of_arriving (h : Stands A id i slot t dials)
    (recheck : t.rechecks[id]? = some .arriving) : t.slots[i]? = some slot ∧ dials = [] := by
  cases h with
  | arriving _ now => exact ⟨now, rfl⟩
  | underWay recheck' | finished recheck' => cases recheck.symm.trans recheck'

/-- One that is under way left its slot as it was, and its check is along. -/
private theorem Stands.of_underWay (h : Stands A id i slot t dials) {checks : List Check}
    (recheck : t.rechecks[id]? = some (.underWay checks)) :
    t.slots[i]? = some slot ∧ ∃ check, checks[i]? = some check ∧ Along A id i slot check dials := by
  cases h with
  | underWay recheck' now entry along =>
    cases recheck.symm.trans recheck'
    exact ⟨now, _, entry, along⟩
  | arriving recheck' | finished recheck' => cases recheck.symm.trans recheck'

/-- One that is finished settled its slot. -/
private theorem Stands.of_finished (h : Stands A id i slot t dials)
    (recheck : t.rechecks[id]? = some .finished) :
    ∃ after, t.slots[i]? = some after ∧ A.Settles i slot after dials := by
  cases h with
  | finished _ now settles => exact ⟨_, now, settles⟩
  | arriving recheck' | underWay recheck' => cases recheck.symm.trans recheck'

/-- What does not concern a recheck leaves it where it stands. -/
theorem Stands.keep (h : Stands A id i slot t dials) (hslots : t'.slots = t.slots)
    (hrechecks : ∀ r, t.rechecks[id]? = some r → t'.rechecks[id]? = some r) :
    Stands A id i slot t' dials := by
  cases h with
  | arriving recheck now => exact .arriving (hrechecks _ recheck) (hslots ▸ now)
  | underWay recheck now entry along =>
    exact .underWay (hrechecks _ recheck) (hslots ▸ now) entry along
  | finished recheck now settles => exact .finished (hrechecks _ recheck) (hslots ▸ now) settles

/-- A move of the recheck takes it further with each endpoint. -/
theorem Stands.move (h : Stands A id i slot t dials) {e : Event} {r : Recheck} {m : Move}
    (before : t.rechecks[id]? = some r) (transition : Transition t.slots t.serial e r m)
    (hbrings : A.Brings found e) (hfound : found[i]? = some slot)
    (hrecheck : t'.rechecks[id]? = some m.recheck) (hslots : t'.slots = m.slots) :
    Stands A id i slot t' (dials ++ (t.dial? i (.event id e)).toList) := by
  -- The recheck moved: by a look at all slots, by a probe or dial of one of them, or by writing.
  cases transition with
  | looked =>
    obtain ⟨now, rfl⟩ := h.of_arriving before
    have hentry : (t.slots.map Check.ofSlot)[i]? = some (.ofSlot slot) := by
      rw [List.getElem?_map, now]
      rfl
    exact .underWay hrecheck (hslots ▸ now) hentry .ofSlot
  | @probed checks j c alive probing =>
    obtain ⟨now, check, entry, along⟩ := h.of_underWay before
    simp only [System.dial?, Option.toList_none, List.append_nil]
    -- A probe of another slot leaves this check where it is.
    by_cases hj : j = i
    · subst hj
      cases entry.symm.trans probing
      have halive : alive = A.answers c := by
        cases along with
        | probing hslot => exact hbrings c (hslot ▸ hfound)
      have hlt := (List.getElem?_eq_some_iff.mp probing).1
      exact .underWay hrecheck (hslots ▸ now) (List.getElem?_set_self hlt) (halive ▸ along.probed)
    · exact .underWay hrecheck (hslots ▸ now) ((List.getElem?_set_ne hj).trans entry) along
  | @dialed checks j connected dialing =>
    obtain ⟨now, check, entry, along⟩ := h.of_underWay before
    by_cases hj : j = i
    · subst hj
      cases entry.symm.trans dialing
      have hlt := (List.getElem?_eq_some_iff.mp dialing).1
      have hcheck : t.check? id j = some .dialing := by
        rw [System.check?_of_recheck before, Recheck.check?_underWay, dialing]
      -- The dial is entered, and brings what the endpoint allows.
      simp only [System.dial?, hcheck, and_self, ↓reduceIte, Option.toList_some]
      cases along with
      | dialing silent =>
        refine .underWay hrecheck (hslots ▸ now) (List.getElem?_set_self hlt) (.decided silent ?_)
        rw [← show connected = A.connects j from hbrings]
        cases connected <;> rfl
    · simp only [System.dial?, hj, false_and, ↓reduceIte, Option.toList_none, List.append_nil]
      exact .underWay hrecheck (hslots ▸ now) ((List.getElem?_set_ne hj).trans entry) along
  | @written checks settled =>
    obtain ⟨now, check, entry, along⟩ := h.of_underWay before
    simp only [System.dial?, Option.toList_none, List.append_nil]
    have hwritten : t'.slots[i]? = some (check.written slot) := by
      rw [hslots, List.getElem?_zipWith, now, entry]
    have hcheck := List.all_eq_true.mp settled check (List.mem_of_getElem? entry)
    exact .finished hrecheck hwritten (along.settles hcheck)

/-- Every action that is allowed keeps where a recheck stands with an endpoint, with the dial that
it ends. -/
theorem Stands.act (h : Stands A id i slot t dials) (hact : t.Acts a t')
    (hallowed : A.Allows id found a) (hfound : found[i]? = some slot) :
    Stands A id i slot t' (dials ++ (t.dial? i a).toList) := by
  -- Only the recheck itself moves; whatever else happens keeps its standing.
  cases hact with
  | entered =>
    simp only [System.dial?, Option.toList_none, List.append_nil]
    refine h.keep rfl fun r hr => ?_
    rw [List.getElem?_append_left (List.getElem?_eq_some_iff.mp hr).1, hr]
  | asked | told =>
    simp only [System.dial?, Option.toList_none, List.append_nil]
    exact h.keep rfl fun r hr => hr
  | ignored unmoved =>
    simpa only [System.dial?_ignored unmoved, Option.toList_none, List.append_nil] using h
  | @moved j e r m before transition =>
    obtain ⟨hj, hbrings⟩ := hallowed
    subst j
    refine h.move before transition hbrings hfound ?_ rfl
    rw [System.getElem?_set_recheck before, if_pos rfl]

/-! ## A whole recheck -/

/-- A run of allowed actions keeps where a recheck stands with an endpoint, with the dials of the
run. -/
theorem Stands.run {actions : List Action} (h : Stands A id i slot t dials)
    (hgoverned : A.Governs id found actions) (hfound : found[i]? = some slot) :
    Stands A id i slot (t.run actions) (dials ++ t.dials i actions) := by
  induction actions generalizing t dials with
  | nil => simpa only [System.dials, List.append_nil, System.run_nil] using h
  | cons a actions ih =>
    obtain ⟨ha, hactions⟩ := List.forall_mem_cons.mp hgoverned
    have hnext := ih (h.act (t.acts_act a) ha hfound) hactions
    simpa only [System.dials, List.append_assoc, System.run_cons] using hnext

/-- A recheck that starts stands at the beginning with every endpoint. -/
private theorem stands_start (A : Availability) (hslot : s.slots[i]? = some slot) :
    Stands A s.rechecks.length i slot (s.act .recheck) [] :=
  .arriving (List.getElem?_concat_length ..) hslot

/-- A recheck that found the given slots is somewhere on its way. -/
structure Round (A : Availability) (id : Nat) (found : List (Option Connection)) (t : System) :
    Prop where
  valid : t.Valid
  recheck : id < t.rechecks.length
  length : found.length = t.endpoints.length
  stands : ∀ (i : Nat) slot, found[i]? = some slot → ∃ dials, Stands A id i slot t dials

/-- A recheck that arrives begins a round. -/
private theorem round_start (A : Availability) (hs : s.Valid) :
    Round A s.rechecks.length s.slots (s.act .recheck) where
  valid := (s.acts_act .recheck).valid hs
  recheck := by simp [System.act]
  length := hs.slots
  stands := fun _ _ hslot => ⟨[], stands_start A hslot⟩

namespace Round

variable {checks : List Check} {actions : List Action}

/-- A governed run stays in the round. -/
theorem run (h : Round A id found t) (hgoverned : A.Governs id found actions) :
    Round A id found (t.run actions) where
  valid := System.valid_run h.valid actions
  recheck := System.lt_length_run h.recheck actions
  length := by rw [System.endpoints_run, h.length]
  stands := fun i slot hslot => by
    obtain ⟨dials, hstands⟩ := h.stands i slot hslot
    exact ⟨_, hstands.run hgoverned hslot⟩

/-- What the recheck may do, it does. -/
private theorem act_event {e : Event} {r : Recheck} {m : Move} (before : t.rechecks[id]? = some r)
    (transition : Transition t.slots t.serial e r m) :
    (t.act (.event id e)).rechecks[id]? = some m.recheck := by
  have hlt := (List.getElem?_eq_some_iff.mp before).1
  simp only [System.act, System.step, before, Recheck.move?_eq_some_iff.mpr transition,
    List.getElem?_set_self hlt]

/-- An endpoint that is to be dialed is settled by one event. -/
private theorem settle_dialing (hr : t.rechecks[id]? = some (.underWay checks)) {k : Nat}
    (hk : checks[k]? = some .dialing) :
    ∃ actions check, A.Governs id found actions ∧ check.isSettled = true ∧
      (t.run actions).rechecks[id]? = some (.underWay (checks.set k check)) :=
  ⟨[.event id (.dialed k (A.connects k))], _, Availability.governs_event rfl, rfl,
    act_event hr (.dialed hk)⟩

/-- An endpoint is settled by two events at most, and the others stay as they are. -/
theorem settle (h : Round A id found t) (hr : t.rechecks[id]? = some (.underWay checks)) {k : Nat}
    (hk : k < checks.length) :
    ∃ actions check, A.Governs id found actions ∧ check.isSettled = true ∧
      (t.run actions).rechecks[id]? = some (.underWay (checks.set k check)) := by
  have hentry : checks[k]? = some checks[k] := List.getElem?_eq_getElem hk
  have hlength : checks.length = found.length := (h.valid.checks id checks hr).trans h.length.symm
  cases hcheck : checks[k] with
  | probing c =>
    rw [hcheck] at hentry
    -- What is being probed is what was found in the slot.
    have hfound : ∀ c', found[k]? = some (some c') → A.answers c = A.answers c' := by
      intro c' hc'
      obtain ⟨dials, hstands⟩ := h.stands k (some c') hc'
      obtain ⟨-, check, hk', along⟩ := hstands.of_underWay hr
      cases hentry.symm.trans hk'
      cases along with
      | probing hslot => rw [Option.some.inj hslot]
    have hmove : Transition t.slots t.serial (.probed k (A.answers c)) (.underWay checks) _ :=
      .probed hentry
    have hprobe := act_event hr hmove
    have hgoverned : A.Governs id found [.event id (.probed k (A.answers c))] :=
      Availability.governs_event hfound
    cases hanswers : A.answers c with
    | true =>
      rw [hanswers] at hprobe hgoverned
      exact ⟨_, _, hgoverned, rfl, hprobe⟩
    | false =>
      rw [hanswers] at hprobe hgoverned
      obtain ⟨actions, check, hgoverned', hsettled, hrun⟩ :
          ∃ actions check, A.Governs id found actions ∧ Check.isSettled check = true ∧ _ :=
        settle_dialing hprobe (List.getElem?_set_self hk)
      rw [List.set_set] at hrun
      exact ⟨_, check, List.forall_mem_append.mpr ⟨hgoverned, hgoverned'⟩, hsettled, hrun⟩
  | dialing => exact settle_dialing hr (hcheck ▸ hentry)
  | alive => exact ⟨[], .alive, nofun, rfl, by rw [← hcheck, List.set_getElem_self]; exact hr⟩
  | decided c =>
    exact ⟨[], .decided c, nofun, rfl, by rw [← hcheck, List.set_getElem_self]; exact hr⟩

/-- The first endpoints are settled one after the other. -/
private theorem settle_all (h : Round A id found t) (hr : t.rechecks[id]? = some (.underWay checks))
    {k : Nat} (hk : k ≤ checks.length) :
    ∃ actions checks', A.Governs id found actions ∧
      (t.run actions).rechecks[id]? = some (.underWay checks') ∧ checks'.length = checks.length ∧
      ∀ j < k, ∀ check, checks'[j]? = some check → check.isSettled = true := by
  -- One check after another is settled, and the settled ones are left alone.
  induction k with
  | zero => exact ⟨[], checks, nofun, hr, rfl, nofun⟩
  | succ k ih =>
    obtain ⟨actions, checks', hgoverned, hrun, hlength, hsettled⟩ := ih (by omega)
    have hlt : k < checks'.length := by omega
    obtain ⟨more, check, hgoverned', hcheck, hrun'⟩ := (h.run hgoverned).settle hrun hlt
    refine ⟨actions ++ more, checks'.set k check,
      List.forall_mem_append.mpr ⟨hgoverned, hgoverned'⟩, ?_, ?_, fun j hj check' hcheck' => ?_⟩
    · rw [System.run_append, hrun']
    · rw [List.length_set, hlength]
    · rw [List.getElem?_set] at hcheck'
      by_cases hjk : k = j
      · rw [if_pos hjk, if_pos hlt] at hcheck'
        exact Option.some.inj hcheck' ▸ hcheck
      · rw [if_neg hjk] at hcheck'
        exact hsettled j (by omega) check' hcheck'

/-- A recheck that is under way can be brought to its end. -/
private theorem finish_underWay (h : Round A id found t)
    (hr : t.rechecks[id]? = some (.underWay checks)) :
    ∃ actions, A.Governs id found actions ∧ (t.run actions).rechecks[id]? = some .finished := by
  obtain ⟨actions, checks', hgoverned, hrun, hlength, hsettled⟩ :=
    h.settle_all hr (Nat.le_refl checks.length)
  -- As many checks are settled as there are, so all of them.
  have hall : checks'.all Check.isSettled = true := by
    refine List.all_eq_true.mpr fun check hcheck => ?_
    obtain ⟨j, hj⟩ := List.mem_iff_getElem?.mp hcheck
    have hlt := (List.getElem?_eq_some_iff.mp hj).1
    exact hsettled j (by omega) check hj
  have hwrite : A.Governs id found [.event id .write] := Availability.governs_event trivial
  refine ⟨_, List.forall_mem_append.mpr ⟨hgoverned, hwrite⟩, ?_⟩
  rw [System.run_append]
  exact act_event hrun (.written hall)

/-- A recheck can be brought to its end from wherever it stands. -/
theorem exists_finished (h : Round A id found t) :
    ∃ actions, A.Governs id found actions ∧ (t.run actions).rechecks[id]? = some .finished := by
  obtain ⟨r, hr⟩ : ∃ r, t.rechecks[id]? = some r := ⟨_, List.getElem?_eq_getElem h.recheck⟩
  cases r with
  | arriving =>
    have hlook : A.Governs id found [.event id .look] := Availability.governs_event trivial
    obtain ⟨actions, hgoverned, hrun⟩ := (h.run hlook).finish_underWay (act_event hr .looked)
    exact ⟨_, List.forall_mem_append.mpr ⟨hlook, hgoverned⟩, hrun⟩
  | underWay checks => exact h.finish_underWay hr
  | finished => exact ⟨[], nofun, hr⟩

end Round

/-! ## Connecting -/

section Connecting

open Dialogue (Replies)

variable {texts : List String} {replies : Replies String fun _ => Except ChainError Unit}

/-- Dialing all addresses means to dial the first and then the others. -/
private theorem dialEvery_cons (text : String) (texts : List String) :
    dialEvery Dialogue.once (text :: texts) =
      .ask text fun r => (dialEvery Dialogue.once texts).andThen fun rs => .done
        (match r with
        | .ok () => rs
        | .error e => .error (.during (.dial text) e)) := rfl

/-- Every address is dialed once, whatever comes of the others. -/
private theorem map_fst_transcript_dialEvery (texts : List String)
    (replies : Replies String fun _ => Except ChainError Unit) :
    ((dialEvery Dialogue.once texts).transcript replies).map (·.1) = texts := by
  induction texts generalizing replies with
  | nil => rfl
  | cons text texts ih =>
    simp only [dialEvery_cons, Dialogue.transcript_ask, Dialogue.transcript_andThen,
      Dialogue.transcript_done, List.append_nil, List.map_cons, ih]

/-- The first address that cannot be dialed, and why. -/
def FirstMissed (replies : Replies String fun _ => Except ChainError Unit) (texts : List String)
    (e : ChainError) : Prop :=
  ∃ (i : Nat) (text : String) (cause : ChainError), texts[i]? = some text ∧
    replies i text = .error cause ∧ .during (.dial text) cause = e ∧
    ∀ j < i, ∀ earlier, texts[j]? = some earlier → replies j earlier = .ok ()

/-- Dialing every endpoint fails exactly with the first one that is missed. -/
theorem result_dialEvery_eq_error_iff {e : ChainError} :
    (dialEvery Dialogue.once texts).result replies = .error e ↔ FirstMissed replies texts e := by
  induction texts generalizing replies with
  | nil => simp [dialEvery, pure, FirstMissed]
  | cons text texts ih =>
    simp only [dialEvery_cons, Dialogue.result_ask, Dialogue.result_andThen, Dialogue.result_done]
    -- The first endpoint is missed, or all others decide.
    cases hfirst : replies 0 text with
    | error cause =>
      simp only [Except.error.injEq]
      constructor
      · rintro rfl
        exact ⟨0, text, cause, rfl, hfirst, rfl, fun j hj => absurd hj (Nat.not_lt_zero j)⟩
      · rintro ⟨i, other, cause', hother, hmissed, rfl, hbefore⟩
        cases i with
        | zero =>
          cases hother
          cases hfirst.symm.trans hmissed
          rfl
        | succ i => cases hfirst.symm.trans (hbefore 0 (by omega) text rfl)
    | ok u =>
      simp only [ih]
      constructor
      · rintro ⟨i, other, cause, hother, hmissed, rfl, hbefore⟩
        refine ⟨i + 1, other, cause, hother, hmissed, rfl, fun j hj earlier hearlier => ?_⟩
        cases j with
        | zero =>
          cases hearlier
          exact hfirst
        | succ j => exact hbefore j (by omega) earlier hearlier
      · rintro ⟨i, other, cause, hother, hmissed, rfl, hbefore⟩
        cases i with
        | zero =>
          cases hother
          cases hfirst.symm.trans hmissed
        | succ i =>
          exact ⟨i, other, cause, hother, hmissed, rfl, fun j hj => hbefore (j + 1) (by omega)⟩

/-- It succeeds exactly if every endpoint is dialed. -/
theorem result_dialEvery_eq_ok_iff :
    (dialEvery Dialogue.once texts).result replies = .ok () ↔
      ∀ (i : Nat) text, texts[i]? = some text → replies i text = .ok () := by
  induction texts generalizing replies with
  | nil => exact iff_of_true rfl nofun
  | cons text texts ih =>
    simp only [dialEvery_cons, Dialogue.result_ask, Dialogue.result_andThen, Dialogue.result_done]
    -- The first endpoint is missed, or all others decide.
    cases hfirst : replies 0 text with
    | error cause =>
      refine iff_of_false nofun fun hall => ?_
      cases hfirst.symm.trans (hall 0 text rfl)
    | ok u =>
      simp only [ih]
      constructor
      · intro hrest i other hother
        cases i with
        | zero =>
          cases hother
          exact hfirst
        | succ i => exact hrest i other hother
      · exact fun hall i => hall (i + 1)

/-- Connecting makes the dials and the failures of dialing all addresses. -/
private theorem connect_eq (texts : List String) :
    connect Dialogue.once texts =
      (dialEvery Dialogue.once texts).andThen fun r => .done (r.map fun _ => .connected texts) :=
  rfl

end Connecting

/-- Of every fan-out, wherever a run has left it, and every availability of connections and
endpoints. Let a recheck start, and no other one move until it is done. It can be brought to its
end whenever it is not done yet. Once it is, a slot holds a connection if and only if it held one
that answers or its endpoint can be dialed; a connection that answers is still there, and its
endpoint was not dialed; every other endpoint was dialed once, and its slot holds what came of it.
Another recheck under the same availability changes nothing about which slots hold a connection.
And a fan-out dials each of its endpoints once to connect, in their order, and is connected if and
only if all of them could be dialed; otherwise the first that could not is reported. -/
theorem recheck_converges (endpoints : List String) (before : List Action) (A : Availability) :
    let s := (System.connected endpoints).run before
    let id := s.rechecks.length
    (∀ actions, A.Governs id s.slots actions →
      let t := (s.act .recheck).run actions
      (∃ more, A.Governs id s.slots more ∧ (t.run more).rechecks[id]? = some .finished) ∧
      (t.rechecks[id]? = some .finished →
        (∀ i < endpoints.length, ∃ held held', s.slots[i]? = some held ∧ t.slots[i]? = some held' ∧
          A.Settles i held held' ((s.act .recheck).dials i actions)) ∧
        ∀ actions', A.Governs t.rechecks.length t.slots actions' →
          let u := (t.act .recheck).run actions'
          u.rechecks[t.rechecks.length]? = some .finished →
          ∀ i < endpoints.length,
            (∃ c, u.slots[i]? = some (some c)) ↔ ∃ c, t.slots[i]? = some (some c))) ∧
    ∀ replies : Dialogue.Replies String fun _ => Except ChainError Unit,
      let c := connect Dialogue.once endpoints
      (c.transcript replies).map (·.1) = endpoints ∧
      (c.result replies = .ok (System.connected endpoints) ↔
        ∀ (i : Nat) text, endpoints[i]? = some text → replies i text = .ok ()) ∧
      ∀ e, c.result replies = .error e ↔ FirstMissed replies endpoints e := by
  intro s id
  have hs : s.Valid := System.valid_run (System.valid_connected endpoints) before
  have hlength : s.slots.length = endpoints.length := by
    rw [hs.slots, System.endpoints_run]
    rfl
  refine ⟨fun actions hgoverned => ?_, fun replies => ?_⟩
  · intro t
    -- A governed run stays in the round that the recheck began.
    have hround : Round A id s.slots t := (round_start A hs).run hgoverned
    refine ⟨hround.exists_finished, fun hfinished => ?_⟩
    have hsettles : ∀ i < endpoints.length, ∃ held held', s.slots[i]? = some held ∧
        t.slots[i]? = some held' ∧ A.Settles i held held' ((s.act .recheck).dials i actions) := by
      intro i hi
      have hheld : s.slots[i]? = some s.slots[i] := List.getElem?_eq_getElem (hlength ▸ hi)
      obtain ⟨held', hheld', hsettled⟩ :=
        ((stands_start A hheld).run hgoverned hheld).of_finished hfinished
      exact ⟨_, held', hheld, hheld', hsettled⟩
    refine ⟨hsettles, fun actions' hgoverned' => ?_⟩
    intro u hfinished' i hi
    -- What the first recheck settled is what the second one finds.
    obtain ⟨held, held', -, hheld', hsettled⟩ := hsettles i hi
    obtain ⟨last, hlast, hsettled'⟩ :=
      ((stands_start A hheld').run hgoverned' hheld').of_finished hfinished'
    have hagain := hsettled.again hsettled'
    rw [Option.isSome_iff_exists, Option.isSome_iff_exists] at hagain
    simpa only [u, hlast, hheld', Option.some.injEq] using hagain
  · simp only [connect_eq, Dialogue.transcript_andThen, Dialogue.result_andThen,
      Dialogue.transcript_done, Dialogue.result_done, List.append_nil,
      map_fst_transcript_dialEvery, true_and]
    rw [← result_dialEvery_eq_ok_iff]
    refine ⟨?_, fun e => ?_⟩
    · cases (dialEvery Dialogue.once endpoints).result replies <;> simp [Except.map]
    · rw [← result_dialEvery_eq_error_iff]
      cases (dialEvery Dialogue.once endpoints).result replies <;> simp [Except.map]

end ChainGauge.FanOut
