import ChainGauge.Job.MainChain
import ChainGauge.Proofs.Metrics.Samples

/-!
# What is published

Every family with labels is published by a reset and entries behind it (`Update.replacing`). Some
entries come out of a hash table, which has each key once and is listed in some order; either way the
labels are those of what was entered.

## Key results

- `Table.alter_cases`: what a change of a table can be
- `Table.nodup_latest`, `Table.mem_latest`: the keys of a table
- `FsChainJob.about_netmapUpdates`: what a network map is published as, family by family
-/

namespace ChainGauge

open Update (replacing)

/-! ## Tables -/

namespace Table

variable {κ β : Type} [DecidableEq κ] {k q : κ} {change : Option β → β} {table : List (κ × β)}

/-- A key is added at the end, or changed where it stands. -/
theorem alter_cases (k : κ) (change : Option β → β) (table : List (κ × β)) :
    (k ∉ table.map (·.1) ∧ alter k change table = table ++ [(k, change none)]) ∨
      ∃ front b back, table = front ++ (k, b) :: back ∧
        alter k change table = front ++ (k, change (some b)) :: back := by
  induction table with
  | nil => exact .inl ⟨List.not_mem_nil, rfl⟩
  | cons e table ih =>
    obtain ⟨q, b⟩ := e
    -- The walk stops at the first entry of the key.
    by_cases hq : q = k
    · subst hq
      exact .inr ⟨[], b, table, rfl, if_pos rfl⟩
    · have hstep : alter k change ((q, b) :: table) = (q, b) :: alter k change table := if_neg hq
      rw [hstep]
      rcases ih with ⟨hk, heq⟩ | ⟨front, c, back, rfl, heq⟩
      · refine .inl ⟨?_, by rw [heq, List.cons_append]⟩
        simpa [Ne.symm hq] using hk
      · exact .inr ⟨(q, b) :: front, c, back, rfl, by rw [heq, List.cons_append]⟩

/-- The keys of a table that was changed under a key. -/
private theorem mem_alter :
    q ∈ (alter k change table).map (·.1) ↔ q ∈ table.map (·.1) ∨ q = k := by
  rcases alter_cases k change table with ⟨-, heq⟩ | ⟨front, b, back, rfl, heq⟩
  · simp [heq]
  · rw [heq]
    simp only [List.map_append, List.map_cons, List.mem_append, List.mem_cons]
    tauto

/-- A table keeps having each key once. -/
private theorem nodup_alter (h : (table.map (·.1)).Nodup) :
    ((alter k change table).map (·.1)).Nodup := by
  rcases alter_cases k change table with ⟨hk, heq⟩ | ⟨front, b, back, rfl, heq⟩
  · rw [heq, List.map_append, List.nodup_append]
    refine ⟨h, by simp, fun p hp q hq hpq => hk ?_⟩
    have hqk : q = k := List.mem_singleton.mp hq
    rwa [← hqk, ← hpq]
  · simpa [heq] using h

/-- One entry more takes the place of the one with its key, or comes to the end. -/
private theorem latest_concat (entries : List (κ × β)) (e : κ × β) :
    latest (entries ++ [e]) = alter e.1 (fun _ => e.2) (latest entries) := by
  rw [latest, List.foldl_append]
  rfl

/-- A table has each key once. -/
theorem nodup_latest (entries : List (κ × β)) : ((latest entries).map (·.1)).Nodup := by
  induction entries using List.reverseRecOn with
  | nil => exact List.nodup_nil
  | append_singleton entries e ih =>
    rw [latest_concat]
    exact nodup_alter ih

/-- A table has the keys that were entered. -/
theorem mem_latest {entries : List (κ × β)} :
    q ∈ (latest entries).map (·.1) ↔ q ∈ entries.map (·.1) := by
  induction entries using List.reverseRecOn with
  | nil => rfl
  | append_singleton entries e ih =>
    rw [latest_concat, mem_alter, ih, List.map_append, List.mem_append, List.map_singleton,
      List.mem_singleton]

end Table

/-- A table comes out with the labels that are in it. -/
theorem Listing.mem_order (listing : Listing) {f : Family} {entries : List Entry}
    {labels : List String} :
    labels ∈ (listing.order f entries).map (·.1) ↔ labels ∈ entries.map (·.1) :=
  ((listing.perm f entries).map _).mem_iff

/-! ## Labels of entries -/

/-- The labels of the keys that something was found for. -/
def NamesFound (found : List (PublicKey × Option Float)) (labels : List String) : Prop :=
  ∃ k v, (k, some v) ∈ found ∧ labels = [k.toHex]

/-- The entries for keys name those with a find. -/
private theorem mem_keyEntries {found : List (PublicKey × Option Float)} {labels : List String} :
    labels ∈ (keyEntries found).map (·.1) ↔ NamesFound found labels := by
  simp only [keyEntries, List.mem_map, List.mem_filterMap, Option.map_eq_some_iff, NamesFound]
  constructor
  · rintro ⟨_, ⟨⟨k, x⟩, hmem, v, rfl, rfl⟩, rfl⟩
    exact ⟨k, v, hmem, rfl⟩
  · rintro ⟨k, v, hmem, rfl⟩
    exact ⟨([k.toHex], v), ⟨(k, some v), hmem, v, rfl, rfl⟩, rfl⟩

/-- What was found for keys is published with their labels, in whatever order it is listed. -/
theorem mem_listed_keyEntries (listing : Listing) {f : Family}
    {found : List (PublicKey × Option Float)} {labels : List String} :
    labels ∈ (listing.order f (Table.latest (keyEntries found))).map (·.1) ↔
      NamesFound found labels := by
  rw [listing.mem_order, Table.mem_latest, mem_keyEntries]

namespace FsChainJob

/-! ## The network map -/

/-- No two places have the same labels. -/
theorem placeLabels_injective : Function.Injective placeLabels := by
  rintro ⟨name, longitude, latitude⟩ ⟨name', longitude', latitude'⟩ h
  simpa [placeLabels] using h

/-- Each place has one entry. -/
theorem nodup_placeEntries (reports : List NodeReport) :
    ((placeEntries reports).map (·.1)).Nodup := by
  -- The counts are a table, so no place stands in it twice.
  have hcounts (places : List Place) : ((placeCounts places).map (·.1)).Nodup := by
    induction places using List.reverseRecOn with
    | nil => exact List.nodup_nil
    | append_singleton places p ih =>
      rw [placeCounts, List.foldl_append]
      exact Table.nodup_alter ih
  have hlabels : (placeEntries reports).map (·.1) =
      ((placeCounts (reports.filterMap (·.place))).map (·.1)).map placeLabels := by
    rw [placeEntries, List.map_map, List.map_map]
    rfl
  rw [hlabels]
  exact (hcounts _).map placeLabels_injective

/-- The families that a network map is published in. -/
def netmapFamilies : List Family :=
  [.epoch, .netmapNew, .netmapDropped, .netmap, .nodeCapacity, .totalCapacity, .nodeBalance,
    .nodeDeposit, .candidate]

/-- What the changes of a network map are, family by family: plain numbers are set, all others are
replaced. -/
theorem about_netmapUpdates (listing : Listing) (nm : Netmap) (candidates : List Candidate)
    (reports : List NodeReport) :
    let us := netmapUpdates listing nm candidates reports
    let next := candidates.map (·.node)
    Update.about .epoch us = [.set .epoch [] (Binary64.nearestNat nm.epoch)] ∧
    Update.about .netmapNew us =
      [.set .netmapNew [] (Binary64.nearestNat (Membership.joined nm.nodes next).length)] ∧
    Update.about .netmapDropped us =
      [.set .netmapDropped [] (Binary64.nearestNat (Membership.dropped nm.nodes next).length)] ∧
    Update.about .totalCapacity us =
      [.set .totalCapacity [] ((nm.nodes.map capacityOf).foldl (· + ·) 0)] ∧
    Update.about .nodeCapacity us = replacing .nodeCapacity (capacityEntries nm.nodes) ∧
    Update.about .netmap us =
      replacing .netmap (listing.order .netmap (placeEntries reports)) ∧
    Update.about .nodeBalance us = replacing .nodeBalance (balanceEntries reports) ∧
    Update.about .nodeDeposit us = replacing .nodeDeposit (depositEntries reports) ∧
    Update.about .candidate us = replacing .candidate (candidateEntries candidates) := by
  intro us next
  -- Each family is written by one of the groups, so the others drop out.
  simp only [us, netmapUpdates, capacityUpdates, membershipUpdates, Update.about_append,
    Update.about_replacing]
  simp [Update.about, Update.family, next]

/-- All changes of a network map are about its families. -/
theorem family_mem_netmapUpdates {listing : Listing} {nm : Netmap} {candidates : List Candidate}
    {reports : List NodeReport} :
    ∀ u ∈ netmapUpdates listing nm candidates reports, u.family ∈ netmapFamilies := by
  simp only [netmapUpdates, capacityUpdates, membershipUpdates, List.forall_mem_append]
  -- One goal for each group of updates.
  refine ⟨⟨⟨⟨⟨⟨?_, ?_⟩, ?_⟩, ?_⟩, ?_⟩, ?_⟩, ?_⟩ <;> intro u hu
  · simp [Update.family_of_mem_replacing hu, netmapFamilies]
  · simp [List.mem_singleton.mp hu, Update.family, netmapFamilies]
  · simp only [List.mem_cons, List.not_mem_nil, or_false] at hu
    rcases hu with rfl | rfl | rfl <;> simp [Update.family, netmapFamilies]
  · simp [Update.family_of_mem_replacing hu, netmapFamilies]
  · simp [Update.family_of_mem_replacing hu, netmapFamilies]
  · simp [Update.family_of_mem_replacing hu, netmapFamilies]
  · simp [Update.family_of_mem_replacing hu, netmapFamilies]

/-- Capacities are shown under the addresses and keys of nodes. -/
theorem mem_capacityEntries {nodes : List Node} {labels : List String} :
    labels ∈ (capacityEntries nodes).map (·.1) ↔
      ∃ n ∈ nodes, labels = [n.address, n.key.toHex] := by
  simp [capacityEntries, eq_comm]

/-- What was looked up for nodes is shown under the keys of those with an answer. -/
theorem mem_reportEntries {reports : List NodeReport} {read : NodeReport → Option Float}
    {labels : List String} :
    labels ∈ (reports.filterMap fun r => (read r).map fun v => ([r.key], v)).map (·.1) ↔
      ∃ r ∈ reports, ∃ v, read r = some v ∧ labels = [r.key] := by
  simp only [List.mem_map, List.mem_filterMap, Option.map_eq_some_iff]
  constructor
  · rintro ⟨_, ⟨r, hr, v, hv, rfl⟩, rfl⟩
    exact ⟨r, hr, v, hv, rfl⟩
  · rintro ⟨r, hr, v, hv, rfl⟩
    exact ⟨_, ⟨r, hr, v, hv, rfl⟩, rfl⟩

/-- Candidates are shown that carry an epoch. -/
theorem mem_candidateEntries {candidates : List Candidate} {labels : List String} :
    labels ∈ (candidateEntries candidates).map (·.1) ↔
      ∃ c ∈ candidates, candidateLabels? c = some labels := by
  simp [candidateEntries]

/-- Sizes and numbers of objects each have their own entries. -/
theorem about_usageUpdates (usages : List ContainerUsage) :
    Update.about .containerSize (usageUpdates usages) =
        replacing .containerSize (sizeEntries usages) ∧
      Update.about .containerObjects (usageUpdates usages) =
        replacing .containerObjects (objectEntries usages) := by
  simp [usageUpdates, Update.about_append, Update.about_replacing]

end FsChainJob

end ChainGauge
