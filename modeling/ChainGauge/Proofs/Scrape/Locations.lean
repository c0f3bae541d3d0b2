import ChainGauge.Proofs.Except
import ChainGauge.Proofs.Scrape.NetworkMap
import Mathlib.Algebra.BigOperators.Group.List.Basic
import Mathlib.Algebra.Ring.Nat

/-!
# How many nodes are where

Nodes are counted by their place as it is written: two positions that are written alike are one place,
and a node without a code, or whose code has no position, is at none. The counting loses no node and
counts none twice (`FsChainJob.counted_placeCounts`). What is published of it may lose some: the name and
the two coordinates of a place are run together to tell samples apart, so that of places with one text
only one count is shown. Exactly the places that the nodes are at are shown, each with the number of its
nodes, if and only if their texts tell them apart (`Metrics.nodes_by_place`).

## Key results

- `FsChainJob.counted_placeCounts`: what the fold over the places counts
- `Metrics.showsPlaces_of_samples`: what is shown, in whatever order the counts are published
- `Metrics.nodes_by_place`: what the family shows after one publication, and after any iterations
- `Metrics.places_run_together`: a node that has a place and is not shown
-/

namespace ChainGauge

open Update (replacing)

namespace FsChainJob

variable {find : String → Option Position} {places : List Place} {counts : List (Place × Nat)}
  {p q : Place}

/-! ## Places of nodes -/

/-- A node is at a place: its code has a position, and the place is its name and its coordinates with
four decimals. -/
def LocatedAt (find : String → Option Position) (n : Node) (p : Place) : Prop :=
  ∃ code position, n.locode = some code ∧ find code = some position ∧
    p = (position.location, DecimalText.fixed 4 position.longitude,
      DecimalText.fixed 4 position.latitude)

/-- The place of a node by the positions of codes. -/
def placeBy (find : String → Option Position) (n : Node) : Option Place := do
  let position ← find (← n.locode)
  some (position.location, DecimalText.fixed 4 position.longitude,
    DecimalText.fixed 4 position.latitude)

/-- A node has a place exactly if it is there. -/
private theorem placeBy_eq_some_iff {n : Node} : placeBy find n = some p ↔ LocatedAt find n p := by
  simp only [placeBy, Option.bind_eq_bind, Option.bind_eq_some_iff, Option.some.injEq, LocatedAt]
  constructor
  · rintro ⟨code, hcode, position, hposition, rfl⟩
    exact ⟨code, position, hcode, hposition, rfl⟩
  · rintro ⟨code, position, hcode, hposition, rfl⟩
    exact ⟨code, hcode, position, hposition, rfl⟩

/-- The position of a code in the table of the job, if it has one and the code is in there. -/
def position? (job : FsChainJob) (code : String) : Option Position :=
  job.geo.bind fun geo => (geo.find code).toOption

/-- The job looks the positions of codes up in its table. -/
private theorem placeOf_eq_placeBy (job : FsChainJob) : job.placeOf = placeBy job.position? := by
  funext n
  simp only [placeOf, placeBy, position?, Option.bind_eq_bind]
  cases job.geo <;> cases n.locode <;> rfl

/-- The number of nodes at a place. -/
def nodesAt (find : String → Option Position) (nodes : List Node) (p : Place) : Nat :=
  nodes.countP fun n => placeBy find n = some p

/-- The number of nodes that are at some place. -/
def nodesLocated (find : String → Option Position) (nodes : List Node) : Nat :=
  nodes.countP fun n => (placeBy find n).isSome

/-- A place stands in the list as often as nodes are at it. -/
private theorem count_places (find : String → Option Position) (nodes : List Node) (p : Place) :
    (nodes.filterMap (placeBy find)).count p = nodesAt find nodes p := by
  induction nodes with
  | nil => rfl
  | cons n nodes ih =>
    have hcons : nodesAt find (n :: nodes) p =
        nodesAt find nodes p + if placeBy find n = some p then 1 else 0 := by
      simp [nodesAt, List.countP_cons]
    rw [hcons, ← ih]
    -- A node without a place counts nowhere.
    cases hn : placeBy find n with
    | none => simp [hn]
    | some q => simp [hn, List.count_cons]

/-- The list is as long as there are nodes at some place. -/
private theorem length_places (find : String → Option Position) (nodes : List Node) :
    (nodes.filterMap (placeBy find)).length = nodesLocated find nodes := by
  rw [List.length_filterMap_eq_countP]
  rfl

private theorem mem_places {nodes : List Node} :
    p ∈ nodes.filterMap (placeBy find) ↔ ∃ n ∈ nodes, LocatedAt find n p := by
  simp only [List.mem_filterMap, placeBy_eq_some_iff]

/-! ## Counting -/

/-- Counts tell how often each place stands in a list, once for each place that does. -/
structure Counted (places : List Place) (counts : List (Place × Nat)) : Prop where
  nodup : (counts.map (·.1)).Nodup
  mem_iff : ∀ p, p ∈ counts.map (·.1) ↔ p ∈ places
  count_eq : ∀ e ∈ counts, e.2 = places.count e.1
  sum_eq : (counts.map (·.2)).sum = places.length

/-- The counts of all other places are those of before. -/
private theorem Counted.count_eq_of_ne (h : Counted places counts) {e : Place × Nat}
    (he : e ∈ counts)
    (hne : e.1 ≠ p) : e.2 = (places ++ [p]).count e.1 := by
  rw [h.count_eq e he, List.count_append, List.count_singleton, if_neg (by simpa using hne.symm)]
  rfl

/-- A place that had no count gets one at the end. -/
theorem Counted.append (h : Counted places counts) (hp : p ∉ counts.map (·.1)) :
    Counted (places ++ [p]) (counts ++ [(p, 1)]) := by
  have hfresh : places.count p = 0 :=
    List.count_eq_zero.mpr fun hmem => hp ((h.mem_iff p).mpr hmem)
  -- A place that is new is counted once; the others keep their counts.
  refine ⟨?_, fun q => ?_, fun e he => ?_, ?_⟩
  · rw [List.map_append, List.nodup_append]
    refine ⟨h.nodup, by simp, fun a ha b hb hab => hp ?_⟩
    have hbp : b = p := List.mem_singleton.mp hb
    rwa [← hbp, ← hab]
  · rw [List.map_append, List.mem_append, List.mem_append, h.mem_iff q]
    rfl
  · rcases List.mem_append.mp he with hold | hnew
    · exact h.count_eq_of_ne hold fun hep => hp (hep ▸ List.mem_map_of_mem hold)
    · rw [List.mem_singleton.mp hnew]
      simp [List.count_append, hfresh]
  · rw [List.map_append, List.sum_append, h.sum_eq, List.length_append]
    rfl

/-- A place that had a count gets one more. -/
private theorem Counted.increment {front back : List (Place × Nat)} {n : Nat}
    (h : Counted places (front ++ (p, n) :: back)) :
    Counted (places ++ [p]) (front ++ (p, n + 1) :: back) := by
  have hkeys : (front ++ (p, n + 1) :: back).map (·.1) = (front ++ (p, n) :: back).map (·.1) := by
    simp
  have hn : n = places.count p := h.count_eq (p, n) (by simp)
  have hmem : p ∈ places := (h.mem_iff p).mp (by simp)
  -- No other entry is about this place, so theirs are still right.
  have hnodup := h.nodup
  rw [List.map_append, List.map_cons, List.nodup_middle, List.nodup_cons] at hnodup
  have hapart {e : Place × Nat} (hrest : e ∈ front ∨ e ∈ back) : e.1 ≠ p := by
    intro hep
    have hkey : e.1 ∈ front.map (·.1) ++ back.map (·.1) :=
      List.mem_append.mpr (hrest.imp List.mem_map_of_mem List.mem_map_of_mem)
    exact hnodup.1 (hep ▸ hkey)
  refine ⟨hkeys ▸ h.nodup, fun q => ?_, fun e he => ?_, ?_⟩
  · rw [hkeys, h.mem_iff q, List.mem_append, List.mem_singleton]
    exact ⟨.inl, fun hq => hq.elim id fun hqp => hqp ▸ hmem⟩
  · rw [List.mem_append, List.mem_cons] at he
    rcases he with hfront | rfl | hback
    · exact h.count_eq_of_ne (by simp [hfront]) (hapart (.inl hfront))
    · simp [List.count_append, hn]
    · exact h.count_eq_of_ne (by simp [hback]) (hapart (.inr hback))
  · have hsum := h.sum_eq
    simp only [List.map_append, List.map_cons, List.sum_append, List.sum_cons, List.length_append,
      List.length_singleton] at hsum ⊢
    omega

/-- What one more place makes of counts. -/
theorem Counted.countPlace (h : Counted places counts) (p : Place) :
    Counted (places ++ [p]) (countPlace p counts) := by
  rw [FsChainJob.countPlace]
  rcases Table.alter_cases p (fun n => n.getD 0 + 1) counts with
    ⟨hp, heq⟩ | ⟨front, n, back, rfl, heq⟩ <;> rw [heq]
  · exact h.append hp
  · exact h.increment

/-- The counts of a list of places are right. -/
theorem counted_placeCounts (places : List Place) : Counted places (placeCounts places) := by
  -- The fold counts the places from the first one on, so the last one is taken off.
  induction places using List.reverseRecOn with
  | nil => exact ⟨List.nodup_nil, by simp [placeCounts], by simp [placeCounts], rfl⟩
  | append_singleton places p ih =>
    have hconcat : placeCounts (places ++ [p]) = countPlace p (placeCounts places) := by
      rw [placeCounts, List.foldl_append]
      rfl
    rw [hconcat]
    exact ih.countPlace p

/-- The order of counts does not matter. -/
theorem Counted.perm {counts' : List (Place × Nat)} (h : Counted places counts)
    (hperm : counts'.Perm counts) : Counted places counts' where
  nodup := (hperm.map _).nodup_iff.mpr h.nodup
  mem_iff p := (hperm.map _).mem_iff.trans (h.mem_iff p)
  count_eq e he := h.count_eq e (hperm.mem_iff.mp he)
  sum_eq := (hperm.map _).sum_eq.trans h.sum_eq

end FsChainJob

/-! ## Counts as values -/

namespace Sample

variable {f : Family} {s : Sample} {samples : List Sample} {n : Nat} {shown : List Nat}

/-- A count that is put over another one takes its place, so that one is lost. -/
private theorem exists_counts_put (hs : s.value = Binary64.nearestNat n) (hn : 0 < n)
    (hshown : samples.map (·.value) = shown.map Binary64.nearestNat) (hpos : ∀ c ∈ shown, 0 < c)
    (hsame : ∃ x ∈ samples, x.family = s.family ∧ x.key = s.key) :
    ∃ shown' : List Nat, (Metrics.put s samples).map (·.value) = shown'.map Binary64.nearestNat ∧
      (∀ c ∈ shown', 0 < c) ∧ shown'.sum < shown.sum + n := by
  -- Writing `n` over a positive count leaves less than both together.
  induction samples generalizing shown with
  | nil => simp at hsame
  | cons x xs ih =>
    obtain _ | ⟨c, cs⟩ := shown
    · cases hshown
    obtain ⟨hx, hxs⟩ := List.cons.inj hshown
    obtain ⟨hc, hcs⟩ := List.forall_mem_cons.mp hpos
    rw [Metrics.put]
    split
    · refine ⟨n :: cs, ?_, List.forall_mem_cons.mpr ⟨hn, hcs⟩, ?_⟩
      · rw [List.map_cons, List.map_cons, hxs, ← hs]
      · simp only [List.sum_cons]
        omega
    · rename_i hother
      obtain ⟨y, hy, hysame⟩ := hsame
      have hyxs : y ∈ xs := (List.mem_cons.mp hy).resolve_left fun hyx => hother (hyx ▸ hysame)
      obtain ⟨cs', hvalues, hpos', hlt⟩ := ih hxs hcs ⟨y, hyxs, hysame⟩
      refine ⟨c :: cs', ?_, List.forall_mem_cons.mpr ⟨hc, hpos'⟩, ?_⟩
      · rw [List.map_cons, List.map_cons, hvalues]
        exact congrArg (· :: cs'.map Binary64.nearestNat) hx
      · simp only [List.sum_cons]
        omega

/-- The values of samples that counts make are counts themselves, and together no more than those. They
are as much only where no two entries have one key. -/
private theorem exists_counts_collect (f : Family) {entries : List (List String × Nat)}
    (hpos : ∀ e ∈ entries, 0 < e.2) :
    ∃ shown : List Nat, (collect f (entries.map fun e => (e.1, Binary64.nearestNat e.2))).map (·.value) =
        shown.map Binary64.nearestNat ∧
      (∀ c ∈ shown, 0 < c) ∧ shown.sum ≤ (entries.map (·.2)).sum ∧
      (shown.sum = (entries.map (·.2)).sum ↔ (entries.map (seriesKey ·.1)).Nodup) := by
  induction entries using List.reverseRecOn with
  | nil => exact ⟨[], rfl, by simp, Nat.le_refl _, by simp⟩
  | append_singleton entries e ih =>
    rw [List.forall_mem_append] at hpos
    have he : 0 < e.2 := hpos.2 e (by simp)
    obtain ⟨shown, hvalues, hshown, hle, hexact⟩ := ih hpos.1
    have hkeys {k : UInt64} : k ∈ entries.map (seriesKey ·.1) ↔
        ∃ s ∈ collect f (entries.map fun e => (e.1, Binary64.nearestNat e.2)), s.key = k := by
      rw [exists_key_collect_iff, List.map_map]
      rfl
    have hsum : ((entries ++ [e]).map (·.2)).sum = (entries.map (·.2)).sum + e.2 := by simp
    have hnodup : ((entries ++ [e]).map (seriesKey ·.1)).Nodup ↔
        (entries.map (seriesKey ·.1)).Nodup ∧
          seriesKey e.1 ∉ entries.map (seriesKey ·.1) := by
      rw [List.map_append, List.map_singleton, ← List.concat_eq_append, List.nodup_concat]
      exact and_comm
    rw [hsum, hnodup, List.map_append, List.map_singleton, collect_concat, hkeys]
    by_cases hsame : ∃ s ∈ collect f (entries.map fun e => (e.1, Binary64.nearestNat e.2)),
        s.key = seriesKey e.1
    -- The count of an entry in front is lost, and it was not zero.
    · obtain ⟨s, hs, hkey⟩ := hsame
      obtain ⟨shown', hvalues', hpos', hlt⟩ :=
        exists_counts_put (s := ⟨f, e.1, Binary64.nearestNat e.2⟩) rfl he hvalues hshown
          ⟨s, hs, family_of_mem_collect hs, hkey⟩
      exact ⟨shown', hvalues', hpos', by omega,
        iff_of_false (by omega) fun h => h.2 ⟨s, hs, hkey⟩⟩
    · refine ⟨shown ++ [e.2], ?_, ?_, ?_, ?_⟩
      · have hfresh := Metrics.put_of_fresh (s := ⟨f, e.1, Binary64.nearestNat e.2⟩)
          fun x hx hxsame => hsame ⟨x, hx, hxsame.2⟩
        rw [hfresh, List.map_append, hvalues, List.map_append]
        rfl
      · rw [List.forall_mem_append]
        exact ⟨hshown, by simpa using he⟩
      · rw [List.sum_append, List.sum_singleton]
        omega
      · rw [List.sum_append, List.sum_singleton, Nat.add_right_cancel_iff, hexact]
        exact (and_iff_left hsame).symm

end Sample

/-! ## What is shown -/

namespace Metrics

open Binary64 (IsNearest)
open FsChainJob (Place placeLabels placeEntry placeBy placeCounts LocatedAt nodesAt nodesLocated
  Counted)

variable {m : Metrics} {find : String → Option Position} {nodes : List Node}
  {counts : List (Place × Nat)} {e : Place × Nat} {n : Node} {p : Place}

/-- The labels of the places that nodes are at. -/
def PlacesOf (find : String → Option Position) (nodes : List Node) (labels : List String) : Prop :=
  ∃ n ∈ nodes, ∃ p, LocatedAt find n p ∧ labels = placeLabels p

/-- Under the labels of a place the number of nodes at it is shown. -/
def CountsAt (m : Metrics) (find : String → Option Position) (nodes : List Node) (p : Place) :
    Prop :=
  ∃ s ∈ m.samplesOf .netmap, s.labels = placeLabels p ∧ IsNearest (nodesAt find nodes p) s.value

/-- What the family of places shows of nodes. -/
structure ShowsPlaces (m : Metrics) (find : String → Option Position) (nodes : List Node) :
    Prop where
  /-- Places that some node is at are shown, and no others. -/
  places : m.Shows .netmap (PlacesOf find nodes)
  /-- A place whose key no other has is shown with the number of its nodes. -/
  alone : ∀ n ∈ nodes, ∀ p, LocatedAt find n p →
    (∀ labels, PlacesOf find nodes labels →
      seriesKey labels = seriesKey (placeLabels p) → labels = placeLabels p) →
      m.CountsAt find nodes p
  /-- All places are shown so exactly if their keys tell them apart. -/
  all : (∀ n ∈ nodes, ∀ p, LocatedAt find n p → m.CountsAt find nodes p) ↔
    KeyedApart (PlacesOf find nodes)
  /-- No node is counted twice, and all that are somewhere are counted in the same case. -/
  total : ∃ counts : List Nat, List.Forall₂ IsNearest counts ((m.samplesOf .netmap).map (·.value)) ∧
    counts.sum ≤ nodesLocated find nodes ∧
    (counts.sum = nodesLocated find nodes ↔ KeyedApart (PlacesOf find nodes))

section Counts

variable (h : Counted (nodes.filterMap (placeBy find)) counts)

include h

/-- The places of right counts are those that nodes are at. -/
private theorem mem_places_of_counted : p ∈ counts.map (·.1) ↔ ∃ n ∈ nodes, LocatedAt find n p :=
  (h.mem_iff p).trans FsChainJob.mem_places

/-- At a place that is counted there is a node. -/
private theorem exists_located_of_counted (he : e ∈ counts) :
    ∃ n ∈ nodes, LocatedAt find n e.1 :=
  (mem_places_of_counted h).mp (List.mem_map_of_mem he)

/-- Its count is the number of nodes there. -/
private theorem count_eq_nodesAt (he : e ∈ counts) : e.2 = nodesAt find nodes e.1 := by
  rw [h.count_eq e he, FsChainJob.count_places]

/-- No count is zero. -/
private theorem count_pos (he : e ∈ counts) : 0 < e.2 := by
  rw [h.count_eq e he]
  exact List.count_pos_iff.mpr ((h.mem_iff e.1).mp (List.mem_map_of_mem he))

/-- The place of a node is counted. -/
private theorem mem_counts_of_located (hn : n ∈ nodes) (hp : LocatedAt find n p) :
    (p, nodesAt find nodes p) ∈ counts := by
  obtain ⟨e, he, rfl⟩ := List.mem_map.mp ((mem_places_of_counted h).mpr ⟨n, hn, hp⟩)
  rwa [← count_eq_nodesAt h he]

/-- The labels of the entries for counts are those of the places. -/
private theorem mem_placeEntries {labels : List String} :
    labels ∈ (counts.map placeEntry).map (·.1) ↔ PlacesOf find nodes labels := by
  rw [List.map_map]
  constructor
  · intro hmem
    obtain ⟨e, he, rfl⟩ := List.mem_map.mp hmem
    obtain ⟨n, hn, hp⟩ := exists_located_of_counted h he
    exact ⟨n, hn, e.1, hp, rfl⟩
  · rintro ⟨n, hn, p, hp, rfl⟩
    exact List.mem_map.mpr ⟨_, mem_counts_of_located h hn hp, rfl⟩

/-- The places of counts are all different, so only their keys can be the same. -/
private theorem keyedApart_iff_nodup :
    KeyedApart (PlacesOf find nodes) ↔ (counts.map fun e => seriesKey (placeLabels e.1)).Nodup := by
  have hkeys : counts.map (fun e => seriesKey (placeLabels e.1)) =
      (counts.map (·.1)).map fun p => seriesKey (placeLabels p) := by
    rw [List.map_map]
    rfl
  rw [hkeys]
  constructor
  · intro hapart
    -- Different places have different labels, so apart means without repetition.
    refine h.nodup.map_on fun p hp q hq hkey => ?_
    obtain ⟨n, hn, hnp⟩ := (mem_places_of_counted h).mp hp
    obtain ⟨k, hk, hkq⟩ := (mem_places_of_counted h).mp hq
    exact FsChainJob.placeLabels_injective
      (hapart _ _ ⟨n, hn, p, hnp, rfl⟩ ⟨k, hk, q, hkq, rfl⟩ hkey)
  · rintro hnodup _ _ ⟨n, hn, p, hnp, rfl⟩ ⟨k, hk, q, hkq, rfl⟩ hkey
    exact congrArg placeLabels (List.inj_on_of_nodup_map hnodup
      ((mem_places_of_counted h).mpr ⟨n, hn, hnp⟩) ((mem_places_of_counted h).mpr ⟨k, hk, hkq⟩) hkey)

/-- A place with a key of its own is shown with its count. -/
private theorem countsAt_of_alone
    (hsamples : m.samplesOf .netmap = Sample.collect .netmap (counts.map placeEntry))
    (hn : n ∈ nodes) (hp : LocatedAt find n p)
    (halone : ∀ labels, PlacesOf find nodes labels →
      seriesKey labels = seriesKey (placeLabels p) → labels = placeLabels p) :
    m.CountsAt find nodes p := by
  have hmine := mem_counts_of_located h hn hp
  have hshown := Sample.mem_collect_of_alone .netmap (List.mem_map_of_mem (f := placeEntry) hmine) ?_
  · rw [← hsamples] at hshown
    exact ⟨_, hshown, rfl, Binary64.isNearest_nearestNat _⟩
  · intro e' he' hkey
    obtain ⟨e, he, rfl⟩ := List.mem_map.mp he'
    obtain ⟨k, hk, hkq⟩ := exists_located_of_counted h he
    -- An entry of the same key would be of the same place, and hence the same entry.
    have hplace : e.1 = p :=
      FsChainJob.placeLabels_injective (halone _ ⟨k, hk, e.1, hkq, rfl⟩ hkey)
    rw [placeEntry, placeEntry, hplace, count_eq_nodesAt h he, hplace]

/-- What is shown are counts, of which none is counted twice. -/
private theorem exists_counts_shown :
    ∃ shown : List Nat, List.Forall₂ IsNearest shown
        ((Sample.collect .netmap (counts.map placeEntry)).map (·.value)) ∧
      shown.sum ≤ nodesLocated find nodes ∧
      (shown.sum = nodesLocated find nodes ↔ KeyedApart (PlacesOf find nodes)) := by
  have hpos : ∀ x ∈ counts.map fun e => (placeLabels e.1, e.2), 0 < x.2 := by
    intro _ hx
    obtain ⟨e, he, rfl⟩ := List.mem_map.mp hx
    exact count_pos h he
  obtain ⟨shown, hvalues, -, hle, hexact⟩ := Sample.exists_counts_collect .netmap hpos
  have hsum : ((counts.map fun e => (placeLabels e.1, e.2)).map (·.2)).sum =
      nodesLocated find nodes := by
    rw [← FsChainJob.length_places, ← h.sum_eq, List.map_map]
    rfl
  -- The counts of all places together are the nodes that have one.
  rw [hsum] at hle hexact
  rw [List.map_map] at hvalues hexact
  refine ⟨shown, ?_, hle, ?_⟩
  · show List.Forall₂ IsNearest shown ((Sample.collect .netmap (counts.map _)).map (·.value))
    rw [show placeEntry = (fun e => (e.1, Binary64.nearestNat e.2)) ∘ fun e => (placeLabels e.1, e.2)
      from rfl, hvalues, List.forall₂_map_right_iff]
    exact List.forall₂_same.mpr fun n _ => Binary64.isNearest_nearestNat n
  · rw [hexact, keyedApart_iff_nodup h]
    rfl

/-- Right counts that were published are shown as the numbers of nodes at the places. -/
theorem showsPlaces_of_samples
    (hsamples : m.samplesOf .netmap = Sample.collect .netmap (counts.map placeEntry)) :
    m.ShowsPlaces find nodes where
  places := shows_of_samples hsamples fun _ => mem_placeEntries h
  alone _ hn _ hp halone := countsAt_of_alone h hsamples hn hp halone
  all := by
    constructor
    · intro hall
      refine (shows_of_samples hsamples fun _ => mem_placeEntries h).exact.mp fun labels => ?_
      constructor
      · exact (shows_of_samples hsamples fun _ => mem_placeEntries h).shown labels
      · rintro ⟨n, hn, p, hp, rfl⟩
        obtain ⟨s, hs, hlabels, -⟩ := hall n hn p hp
        exact hlabels ▸ List.mem_map_of_mem hs
    -- Apart from all others a place is alone under its key.
    · intro hapart n hn p hp
      refine countsAt_of_alone h hsamples hn hp fun labels hlabels hkey => ?_
      exact hapart _ _ hlabels ⟨n, hn, p, hp, rfl⟩ hkey
  total := hsamples ▸ exists_counts_shown h

end Counts

/-- Counts of nodes by place are shown alike in whatever order they are published. -/
private theorem showsPlaces_of_perm {entries : List Entry} (hperm : entries.Perm
    ((placeCounts (nodes.filterMap (placeBy find))).map placeEntry))
    (hsamples : m.samplesOf .netmap = Sample.collect .netmap entries) :
    m.ShowsPlaces find nodes := by
  obtain ⟨counts, rfl, hcounts⟩ :=
    (congrFun (congrFun (List.eq_map_comp_perm placeEntry) entries) _).mpr hperm
  exact showsPlaces_of_samples ((FsChainJob.counted_placeCounts _).perm hcounts) hsamples

end Metrics

/-! ## Publications of the network map -/

open FsChainJob (Place placeBy placeCounts placeEntry placeEntries)

/-- What is published of places are the counts of the nodes that were looked up. -/
private theorem FsChainJob.placeEntries_inspected (job : FsChainJob) (nodes : List Node)
    (a : Answers) :
    placeEntries (job.inspected nodes a) =
      (placeCounts (nodes.filterMap (placeBy job.position?))).map placeEntry := by
  have hplaces : (job.inspected nodes a).map (·.place) = nodes.map job.placeOf := by
    rw [inspected, Answers.map_each, Answers.each_const]
  have hfilter : (job.inspected nodes a).filterMap (·.place) = nodes.filterMap job.placeOf := by
    have hids := congrArg (List.filterMap id) hplaces
    rwa [List.filterMap_map, List.filterMap_map] at hids
  rw [placeEntries, hfilter, job.placeOf_eq_placeBy]

/-- The nodes of the map that an iteration read together with its candidates, and the job that looked
up their places. -/
def Round.located? (r : Round) : Option (FsChainJob × List Node) :=
  match r.job with
  | .mainChain _ => none
  | .fsChain job => do
    let nm ← r.answers 0 .netmap
    let _ ← r.answers 1 .candidates
    some (job, nm.nodes)

/-- What an iteration makes of the places is told by the nodes of the map that it read. -/
private theorem Round.about_places (r : Round) :
    Update.about .netmap r.updates = r.located?.elim [] fun x =>
      replacing .netmap (r.listing.order .netmap
        ((placeCounts (x.2.filterMap (placeBy x.1.position?))).map placeEntry)) := by
  rw [r.about_netmap (by decide)]
  obtain ⟨job | job, a, listing⟩ := r
  · rw [located?, netmap?]
    dsimp only
    cases hnm : a 0 .netmap with
    | none => rfl
    | some nm =>
      cases hcandidates : a 1 .candidates with
      | none => rfl
      | some candidates =>
        obtain ⟨-, -, -, -, -, hplaces, -⟩ := FsChainJob.about_netmapUpdates listing nm candidates
          (job.inspected nm.nodes (a.drop 2))
        rw [job.placeEntries_inspected] at hplaces
        exact hplaces
  -- A main chain job reads no network map.
  · rfl

namespace Metrics

/-- Whatever positions codes have, counts of nodes by place are shown in whatever order they are
published; so they are after every publication of a network map, whatever was looked up for its nodes
besides; and after any iterations the family shows the nodes of the latest map that was read together
with its candidates. -/
theorem nodes_by_place (m : Metrics) :
    (∀ (find : String → Option Position) (nodes : List Node) (counts : List (Place × Nat)),
      counts.Perm (placeCounts (nodes.filterMap (placeBy find))) →
        (m.applyAll (replacing .netmap (counts.map placeEntry))).ShowsPlaces find nodes) ∧
    (∀ (job : FsChainJob) (listing : Listing) (nm : Netmap) (candidates : List Candidate)
      (a : Answers),
      ((job.publishNetmap listing nm candidates).perform a m).ShowsPlaces job.position? nm.nodes) ∧
    ∀ rounds : List Round,
      match latest Round.located? rounds with
      | none => (m.after rounds).samplesOf .netmap = m.samplesOf .netmap
      | some (job, nodes) => (m.after rounds).ShowsPlaces job.position? nodes := by
  -- All three come from the same: the family's samples are collected from a permutation of the
  -- counts.
  refine ⟨fun find nodes counts hcounts => ?_, fun job listing nm candidates a => ?_,
    fun rounds => ?_⟩
  · refine showsPlaces_of_perm (hcounts.map _) ?_
    rw [samplesOf_applyAll, Update.about_replacing, if_pos rfl, Sample.refill_replacing]
  · obtain ⟨-, -, -, -, -, hplaces, -⟩ := FsChainJob.about_netmapUpdates listing nm candidates
      (job.inspected nm.nodes a)
    refine showsPlaces_of_perm (listing.perm .netmap _) ?_
    rw [Scrape.perform_eq, samplesOf_applyAll, job.updates_publishNetmap, hplaces,
      Sample.refill_replacing, job.placeEntries_inspected]
  · rcases samplesOf_after_replacing Round.about_places m rounds with
      ⟨hread, hsamples⟩ | ⟨⟨job, nodes⟩, r, hread, hsamples⟩ <;> rw [hread]
    · exact hsamples
    · exact showsPlaces_of_perm (r.listing.perm .netmap _) hsamples

end Metrics

/-! ## Places that run together -/

/-- Two nodes with codes of their own. -/
def neighbours : List Node :=
  (runTogether.map (·.node)).zipWith (fun n code => { n with locode := some code })
    ["DE AAA", "DE BBB"]

/-- A table that has positions for both, whose places have one text. -/
def neighbourhood : LocodeTable where
  countries := [("DE", [("AAA", ⟨"Berlin1", 50.0, 2.0⟩), ("BBB", ⟨"Berlin", 50.0, 12.0⟩)])]

/-- A job that looks places up in the table. -/
def neighbourhoodJob : FsChainJob :=
  ⟨.gas, none, false, some neighbourhood, []⟩

/-- An iteration that hears of the two nodes. -/
def neighbourhoodRound (listing : Listing) : Round where
  job := .fsChain neighbourhoodJob
  answers := .always fun
    | .netmap => some ⟨24, neighbours⟩
    | .candidates => some []
    | s => s.unanswered
  listing := listing

/-- The other way round. -/
def Listing.reversed : Listing where
  order _ entries := entries.reverse
  perm _ entries := entries.reverse_perm

/-- The counts of their places are shown alike if they are published the other way round. -/
theorem Metrics.neighbours_reversed :
    ((Metrics.empty .fsChain).applyAll (replacing .netmap
      ((placeCounts (neighbours.filterMap (placeBy neighbourhoodJob.position?))).reverse.map
        placeEntry))).ShowsPlaces neighbourhoodJob.position? neighbours :=
  (nodes_by_place _).1 _ _ _ (List.reverse_perm _)

/-- Both nodes are somewhere, but only one of the two places is shown, with one node: the one that comes
out of the hash table first. -/
theorem Metrics.places_run_together :
    let shown (listing : Listing) := (Metrics.empty .fsChain).after [neighbourhoodRound listing]
    (∀ listing, latest Round.located? [neighbourhoodRound listing] =
        some (neighbourhoodJob, neighbours)) ∧
      neighbours.map neighbourhoodJob.placeOf =
        [some ("Berlin1", "2.0000", "50.0000"), some ("Berlin", "12.0000", "50.0000")] ∧
      (shown .asEntered).labelsOf .netmap = [["Berlin1", "2.0000", "50.0000"]] ∧
      (shown .asEntered).Tells .netmap ["Berlin1", "2.0000", "50.0000"] 1 ∧
      (shown .reversed).labelsOf .netmap = [["Berlin", "12.0000", "50.0000"]] ∧
      (shown .reversed).Tells .netmap ["Berlin", "12.0000", "50.0000"] 1 := by
  intro shown
  have hvalue (listing : Listing) :
      ∀ s ∈ (shown listing).samplesOf .netmap, s.value = Binary64.nearestNat 1 := by
    rcases samplesOf_after_replacing Round.about_places (.empty .fsChain)
      [neighbourhoodRound listing] with ⟨hread, -⟩ | ⟨x, r, hread, hsamples⟩
    · cases hread
    · obtain rfl : (neighbourhoodJob, neighbours) = x := Option.some.inj hread
      have hcounts : placeCounts (neighbours.filterMap (placeBy neighbourhoodJob.position?)) =
          [(("Berlin1", "2.0000", "50.0000"), 1), (("Berlin", "12.0000", "50.0000"), 1)] := by
        decide +kernel
      intro s hs
      rw [hsamples] at hs
      refine Sample.value_of_mem_collect (fun e he => ?_) hs
      rw [hcounts] at he
      have hentry := (r.listing.perm _ _).mem_iff.mp he
      simp only [List.map_cons, List.map_nil, List.mem_cons, List.not_mem_nil, or_false] at hentry
      rcases hentry with rfl | rfl <;> rfl
  have hfirst : (shown .asEntered).labelsOf .netmap = [["Berlin1", "2.0000", "50.0000"]] := by
    decide +kernel
  have hlast : (shown .reversed).labelsOf .netmap = [["Berlin", "12.0000", "50.0000"]] := by
    decide +kernel
  refine ⟨fun _ => rfl, by decide +kernel, hfirst, ?_, hlast, ?_⟩
  · exact tells_of_forall (hvalue _) (by rw [hfirst]; exact List.mem_singleton_self _) rfl
  · exact tells_of_forall (hvalue _) (by rw [hlast]; exact List.mem_singleton_self _) rfl

end ChainGauge
