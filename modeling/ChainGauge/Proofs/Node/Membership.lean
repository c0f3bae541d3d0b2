import ChainGauge.Node.Membership
import Mathlib.Data.Finset.Card

/-!
# Which nodes stand in one map only

A table of two maps has one entry for each identifier, and knows of it the last node that has it in
either map (`Table.Tells`). Each node that is noted keeps that up, so it holds of the table of any two
lists, and what is read off the table are the last nodes of the identifiers on one side only
(`mem_joined`, `mem_dropped`).

## Key results

- `Table.tells_of`: what the table of two lists knows
- `mem_joined`, `mem_dropped`: which nodes join and leave
- `changes_by_id`: the changes as differences of sets of identifiers
-/

namespace ChainGauge.Membership

/-! ## The last node of an identifier -/

/-- A node stands in a list, and none of its identifier stands behind it. -/
def IsLast (n : Node) (nodes : List Node) : Prop :=
  ∃ before after, nodes = before ++ n :: after ∧ ∀ m ∈ after, m.id ≠ n.id

section Last

variable {n m : Node} {nodes : List Node}

/-- The last node of an identifier is in the list. -/
theorem IsLast.mem (h : IsLast n nodes) : n ∈ nodes := by
  obtain ⟨before, after, rfl, -⟩ := h
  simp

/-- A node in front is the last of its identifier if none follows. -/
private theorem isLast_cons :
    IsLast n (m :: nodes) ↔ (n = m ∧ ∀ k ∈ nodes, k.id ≠ n.id) ∨ IsLast n nodes := by
  constructor
  · rintro ⟨before, after, hlist, hafter⟩
    -- The first node is the last of its id only if no node behind it has that id.
    cases before with
    | nil =>
      obtain ⟨rfl, rfl⟩ := List.cons.inj hlist
      exact .inl ⟨rfl, hafter⟩
    | cons k before =>
      obtain ⟨rfl, rfl⟩ := List.cons.inj hlist
      exact .inr ⟨before, after, rfl, hafter⟩
  · rintro (⟨rfl, hafter⟩ | ⟨before, after, rfl, hafter⟩)
    · exact ⟨[], nodes, rfl, hafter⟩
    · exact ⟨m :: before, after, rfl, hafter⟩

/-- Every identifier in a list has a last node there. -/
private theorem exists_isLast (h : m ∈ nodes) : ∃ n, IsLast n nodes ∧ n.id = m.id := by
  induction nodes generalizing m with
  | nil => cases h
  | cons k nodes ih =>
    by_cases hlater : ∃ l ∈ nodes, l.id = m.id
    · obtain ⟨l, hl, hid⟩ := hlater
      obtain ⟨n, hn, hnid⟩ := ih hl
      exact ⟨n, isLast_cons.mpr (.inr hn), hnid.trans hid⟩
    · have hnone : ∀ l ∈ nodes, l.id ≠ m.id := fun l hl hid => hlater ⟨l, hl, hid⟩
      have hfirst : m = k := (List.mem_cons.mp h).resolve_right fun hm => hnone m hm rfl
      exact ⟨m, isLast_cons.mpr (.inl ⟨hfirst, hnone⟩), rfl⟩

/-- What stands behind a list is the last node of its identifier. -/
private theorem isLast_concat :
    IsLast n (nodes ++ [m]) ↔ n = m ∨ (IsLast n nodes ∧ m.id ≠ n.id) := by
  constructor
  · rintro ⟨before, after, hlist, hafter⟩
    -- Either nothing stands behind the occurrence, which is then the new node, or the new node
    -- does.
    rcases List.eq_nil_or_concat after with rfl | ⟨after, k, rfl⟩
    · exact .inl (List.singleton_inj.mp (List.append_inj_right' hlist rfl)).symm
    · rw [List.concat_eq_append, ← List.cons_append, ← List.append_assoc] at hlist
      obtain ⟨rfl, hk⟩ := List.append_inj' hlist rfl
      obtain rfl := List.singleton_inj.mp hk
      rw [List.concat_eq_append] at hafter
      exact .inr ⟨⟨before, after, rfl, fun l hl => hafter l (List.mem_append_left _ hl)⟩,
        hafter m (List.mem_append_right _ (List.mem_singleton_self m))⟩
  · rintro (rfl | ⟨⟨before, after, rfl, hafter⟩, hm⟩)
    · exact ⟨nodes, [], rfl, fun _ hk => nomatch hk⟩
    · refine ⟨before, after ++ [m], by simp, fun k hk => ?_⟩
      rcases List.mem_append.mp hk with hk | hk
      · exact hafter k hk
      · rwa [List.mem_singleton.mp hk]

end Last

/-! ## What a table knows -/

namespace Table

variable {t : Table} {current candidates nodes : List Node} {id : Nat} {s : Standing}
  {change : Standing → Standing}

/-- The identifiers that have entries. -/
def ids (t : Table) : List Nat :=
  t.map (·.1)

/-- What is known of an identifier. -/
def standing (t : Table) (id : Nat) : Standing :=
  (t.lookup id).getD .unknown

@[simp] theorem standing_nil (id : Nat) : standing [] id = .unknown := rfl

/-- An entry in front tells of its own identifier. -/
private theorem standing_cons (e : Nat × Standing) (t : Table) (id : Nat) :
    standing (e :: t) id = if id = e.1 then e.2 else t.standing id := by
  obtain ⟨i, s⟩ := e
  rw [standing, List.lookup_cons]
  by_cases h : id = i
  · simp [h]
  · simp [standing, h, beq_eq_false_iff_ne.mpr h]

/-- A note changes what is known of its identifier and of no other. -/
private theorem standing_note (t : Table) (id : Nat) (change : Standing → Standing) (j : Nat) :
    (note id change t).standing j = if j = id then change (t.standing j) else t.standing j := by
  induction t with
  | nil => exact standing_cons _ _ _
  | cons e t ih =>
    unfold note
    split
    -- The first entry of the id is changed and the walk stops; entries of other ids stay.
    · rename_i he
      rw [standing_cons, standing_cons, he]
      split <;> rfl
    · rename_i he
      rw [standing_cons, standing_cons, ih]
      by_cases hj : j = e.1
      · rw [if_pos hj, if_pos hj, if_neg (hj ▸ he)]
      · rw [if_neg hj, if_neg hj]

/-- A note adds its identifier to those of the table. -/
private theorem mem_ids_note {j : Nat} : j ∈ (note id change t).ids ↔ j = id ∨ j ∈ t.ids := by
  induction t with
  | nil => simp [note, ids]
  | cons e t ih =>
    unfold note
    split
    -- The id is known already, so no new one is added.
    · rename_i he
      simp only [ids, List.map_cons, List.mem_cons, he]
      exact ⟨.inr, fun h => h.elim .inl fun h => h⟩
    · simp only [ids, List.map_cons, List.mem_cons] at ih ⊢
      rw [ih]
      exact or_left_comm

/-- A note leaves one entry to each identifier. -/
private theorem nodup_ids_note (h : t.ids.Nodup) : (note id change t).ids.Nodup := by
  induction t with
  | nil => exact List.nodup_singleton _
  | cons e t ih =>
    obtain ⟨hnew, hrest⟩ := List.nodup_cons.mp h
    unfold note
    split
    · exact List.nodup_cons.mpr ⟨hnew, hrest⟩
    · rename_i he
      refine List.nodup_cons.mpr ⟨fun hmem => ?_, ih hrest⟩
      exact (mem_ids_note.mp hmem).elim he hnew

/-- An entry is what the table knows of its identifier, if it has one entry for each. -/
private theorem standing_of_mem (h : t.ids.Nodup) (hmem : (id, s) ∈ t) : t.standing id = s := by
  induction t with
  | nil => cases hmem
  | cons e t ih =>
    obtain ⟨hnew, hrest⟩ := List.nodup_cons.mp h
    rw [standing_cons]
    rcases List.mem_cons.mp hmem with rfl | hmem
    · exact if_pos rfl
    -- Ids do not repeat, so the entry found further behind is not hidden by the first.
    · have hne : id ≠ e.1 := by
        rintro rfl
        exact hnew (List.mem_map_of_mem (f := (·.1)) hmem)
      rw [if_neg hne, ih hrest hmem]

/-- What is known of an identifier stands in its entry. -/
private theorem mem_of_standing (h : t.standing id ≠ .unknown) : (id, t.standing id) ∈ t := by
  induction t with
  | nil => exact absurd rfl h
  | cons e t ih =>
    rw [standing_cons] at h ⊢
    split at h
    · rename_i he
      rw [if_pos he, he]
      exact List.mem_cons_self
    · rename_i he
      rw [if_neg he]
      exact List.mem_cons_of_mem _ (ih h)

/-- A column of a table has the last node of each identifier in a list. -/
def Lists (column : Nat → Option Node) (nodes : List Node) : Prop :=
  ∀ id n, column id = some n ↔ IsLast n nodes ∧ n.id = id

/-- A column without entries lists no node. -/
private theorem lists_nil : Lists (fun _ => none) [] :=
  fun _ _ => iff_of_false (fun h => nomatch h) fun h => List.not_mem_nil h.1.mem

/-- A node that is noted takes the place of those before it. -/
theorem Lists.concat {column : Nat → Option Node} (h : Lists column nodes) (m : Node) :
    Lists (fun id => if id = m.id then some m else column id) (nodes ++ [m]) := by
  intro id n
  rw [isLast_concat]
  dsimp only
  split
  -- The new node's own id: it is the last one by that id.
  · rename_i hid
    constructor
    · rintro ⟨rfl⟩
      exact ⟨.inl rfl, hid.symm⟩
    · rintro ⟨rfl | ⟨-, hne⟩, hn⟩
      · rfl
      · exact absurd (hid.symm.trans hn.symm) hne
  · rename_i hid
    rw [h id n]
    constructor
    · rintro ⟨hlast, rfl⟩
      exact ⟨.inr ⟨hlast, Ne.symm hid⟩, rfl⟩
    · rintro ⟨rfl | ⟨hlast, -⟩, hn⟩
      · exact absurd hn.symm hid
      · exact ⟨hlast, hn⟩

/-- A column has no entry exactly for the identifiers that no node has. -/
private theorem Lists.eq_none_iff {column : Nat → Option Node} (h : Lists column nodes) :
    column id = none ↔ ∀ m ∈ nodes, m.id ≠ id := by
  rw [Option.eq_none_iff_forall_ne_some]
  constructor
  · intro hnone m hm hid
    obtain ⟨n, hlast, hn⟩ := exists_isLast hm
    exact hnone n ((h id n).mpr ⟨hlast, hn.trans hid⟩)
  · intro hnone n hn
    obtain ⟨hlast, hid⟩ := (h id n).mp hn
    exact hnone n hlast.mem hid

/-- A table tells of two lists: it has one entry for an identifier, and there the last node that has
it in either list. -/
structure Tells (t : Table) (current candidates : List Node) : Prop where
  nodup : t.ids.Nodup
  current : Lists (fun id => (t.standing id).current) current
  candidate : Lists (fun id => (t.standing id).candidate) candidates

/-- At first a table tells of two empty lists. -/
private theorem tells_nil : Tells [] [] [] :=
  ⟨List.nodup_nil, lists_nil, lists_nil⟩

/-- A node that is noted comes to the end of the current ones. -/
theorem Tells.noteCurrent (h : Tells t current candidates) (m : Node) :
    Tells (t.noteCurrent m) (current ++ [m]) candidates where
  nodup := nodup_ids_note h.nodup
  current := by
    convert h.current.concat m using 2 with id
    rw [Table.noteCurrent, standing_note]
    split <;> rfl
  candidate := by
    convert h.candidate using 2 with id
    rw [Table.noteCurrent, standing_note]
    split <;> rfl

/-- A candidate that is noted comes to the end of the candidates. -/
theorem Tells.noteCandidate (h : Tells t current candidates) (m : Node) :
    Tells (t.noteCandidate m) current (candidates ++ [m]) where
  nodup := nodup_ids_note h.nodup
  current := by
    convert h.current using 2 with id
    rw [Table.noteCandidate, standing_note]
    split <;> rfl
  candidate := by
    convert h.candidate.concat m using 2 with id
    rw [Table.noteCandidate, standing_note]
    split <;> rfl

/-- What every note of a node adds to, the notes of a list add the list to. -/
private theorem foldl_tells {P : Table → List Node → Prop} {noteOne : Table → Node → Table}
    (hnote : ∀ t nodes m, P t nodes → P (noteOne t m) (nodes ++ [m])) (h : P t current)
    (nodes : List Node) : P (nodes.foldl noteOne t) (current ++ nodes) := by
  induction nodes generalizing t current with
  | nil => rwa [List.append_nil]
  | cons m nodes ih =>
    rw [List.append_cons]
    exact ih (hnote t current m h)

/-- The table of a map and its candidates tells of both. -/
theorem tells_of (current candidates : List Node) :
    Tells (of current candidates) current candidates := by
  have hcurrent : Tells (current.foldl Table.noteCurrent []) current [] :=
    foldl_tells (P := fun t nodes => Tells t nodes []) (fun _ _ m h => h.noteCurrent m) tells_nil
      current
  exact foldl_tells (P := fun t nodes => Tells t current nodes) (fun _ _ m h => h.noteCandidate m)
    hcurrent candidates

end Table

/-! ## What is read off a table -/

/-- A node joins exactly if it is known among the candidates only. -/
private theorem Standing.joined?_eq_some_iff {s : Standing} {n : Node} :
    s.joined? = some n ↔ s.current = none ∧ s.candidate = some n := by
  rcases s with ⟨_ | _, _ | _⟩ <;> simp [joined?]

private theorem Standing.dropped?_eq_some_iff {s : Standing} {n : Node} :
    s.dropped? = some n ↔ s.current = some n ∧ s.candidate = none := by
  rcases s with ⟨_ | _, _ | _⟩ <;> simp [dropped?]

/-- A node is the last one of its identifier in a list, and another list does not have that
identifier. -/
def IsLastBeyond (n : Node) (others nodes : List Node) : Prop :=
  IsLast n nodes ∧ ∀ m ∈ others, m.id ≠ n.id

namespace Table

variable {t : Table} {current candidates : List Node} {n : Node}

/-- What is picked from the entries is what is picked from what is known of any identifier. -/
private theorem mem_filterMap_iff (h : t.ids.Nodup) {pick : Standing → Option Node}
    (hpick : pick .unknown = none) :
    n ∈ t.filterMap (fun e => pick e.2) ↔ ∃ id, pick (t.standing id) = some n := by
  rw [List.mem_filterMap]
  constructor
  · rintro ⟨⟨id, s⟩, he, hs⟩
    exact ⟨id, by rwa [standing_of_mem h he]⟩
  · rintro ⟨id, hs⟩
    refine ⟨(id, t.standing id), mem_of_standing fun hunknown => ?_, hs⟩
    rw [hunknown, hpick] at hs
    exact nomatch hs

/-- The nodes that join are the last ones among the candidates that the current map has not. -/
theorem Tells.mem_joined (h : Tells t current candidates) :
    n ∈ t.joined ↔ IsLastBeyond n current candidates := by
  rw [joined, mem_filterMap_iff h.nodup rfl]
  simp only [Standing.joined?_eq_some_iff, h.current.eq_none_iff, h.candidate _ n]
  constructor
  · rintro ⟨_, hnone, hlast, rfl⟩
    exact ⟨hlast, hnone⟩
  · rintro ⟨hlast, hnone⟩
    exact ⟨_, hnone, hlast, rfl⟩

/-- The nodes that leave are the last ones in the current map that no candidate is. -/
theorem Tells.mem_dropped (h : Tells t current candidates) :
    n ∈ t.dropped ↔ IsLastBeyond n candidates current := by
  rw [dropped, mem_filterMap_iff h.nodup rfl]
  simp only [Standing.dropped?_eq_some_iff, h.current _ n, h.candidate.eq_none_iff]
  constructor
  · rintro ⟨_, ⟨hlast, rfl⟩, hnone⟩
    exact ⟨hlast, hnone⟩
  · rintro ⟨hlast, hnone⟩
    exact ⟨_, ⟨hlast, rfl⟩, hnone⟩

/-- An entry gives its own node, so what is picked has each identifier once. -/
private theorem nodup_map_id_filterMap (h : t.ids.Nodup) {pick : Standing → Option Node}
    (hpick : ∀ id n, pick (t.standing id) = some n → n.id = id) :
    ((t.filterMap fun e => pick e.2).map (·.id)).Nodup := by
  have hpicked {e : Nat × Standing} {n : Node} (he : e ∈ t) (hn : pick e.2 = some n) :
      n.id = e.1 := by
    refine hpick e.1 n ?_
    rwa [standing_of_mem h he]
  rw [List.Nodup, List.pairwise_map, List.pairwise_filterMap]
  refine List.Pairwise.imp_of_mem ?_ (List.pairwise_map.mp h)
  intro e e' he he' hne n hn n' hn'
  rwa [hpicked he hn, hpicked he' hn']

/-- No identifier joins twice. -/
private theorem Tells.nodup_joined (h : Tells t current candidates) :
    (t.joined.map (·.id)).Nodup := by
  refine nodup_map_id_filterMap h.nodup fun id n hn => ?_
  exact ((h.candidate id n).mp (Standing.joined?_eq_some_iff.mp hn).2).2

/-- None leaves twice. -/
private theorem Tells.nodup_dropped (h : Tells t current candidates) :
    (t.dropped.map (·.id)).Nodup := by
  refine nodup_map_id_filterMap h.nodup fun id n hn => ?_
  exact ((h.current id n).mp (Standing.dropped?_eq_some_iff.mp hn).1).2

end Table

/-! ## The changes -/

section Changes

variable {current candidates : List Node} {n : Node} {id : Nat}

/-- The nodes that join are the last candidates of identifiers that the current map does not have. -/
theorem mem_joined : n ∈ joined current candidates ↔ IsLastBeyond n current candidates :=
  (Table.tells_of current candidates).mem_joined

/-- The nodes that leave are the last current nodes of identifiers that no candidate has. -/
theorem mem_dropped : n ∈ dropped current candidates ↔ IsLastBeyond n candidates current :=
  (Table.tells_of current candidates).mem_dropped

/-- A list has an identifier that another list does not have exactly if a last node has it. -/
private theorem exists_isLastBeyond_iff {others nodes : List Node} :
    (∃ n, IsLastBeyond n others nodes ∧ n.id = id) ↔
      id ∈ nodes.map (·.id) ∧ id ∉ others.map (·.id) := by
  constructor
  · rintro ⟨n, ⟨hlast, hnone⟩, rfl⟩
    refine ⟨List.mem_map_of_mem hlast.mem, fun hmem => ?_⟩
    obtain ⟨m, hm, hid⟩ := List.mem_map.mp hmem
    exact hnone m hm hid
  · rintro ⟨hmem, hnone⟩
    obtain ⟨m, hm, rfl⟩ := List.mem_map.mp hmem
    -- An id that is listed has a last node, which need not be the one it was found with.
    obtain ⟨n, hlast, hid⟩ := exists_isLast hm
    refine ⟨n, ⟨hlast, fun k hk hkn => hnone ?_⟩, hid⟩
    exact List.mem_map.mpr ⟨k, hk, hkn.trans hid⟩

/-- The identifiers that join are those of candidates that the current map has not. -/
private theorem mem_map_id_joined :
    id ∈ (joined current candidates).map (·.id) ↔
      id ∈ candidates.map (·.id) ∧ id ∉ current.map (·.id) := by
  rw [← exists_isLastBeyond_iff, List.mem_map]
  simp only [mem_joined]

/-- The identifiers that leave are those of the current map that no candidate has. -/
private theorem mem_map_id_dropped :
    id ∈ (dropped current candidates).map (·.id) ↔
      id ∈ current.map (·.id) ∧ id ∉ candidates.map (·.id) := by
  rw [← exists_isLastBeyond_iff, List.mem_map]
  simp only [mem_dropped]

/-- Every identifier that joins does so once. -/
private theorem nodup_map_id_joined (current candidates : List Node) :
    ((joined current candidates).map (·.id)).Nodup :=
  (Table.tells_of current candidates).nodup_joined

/-- Every identifier that leaves does so once. -/
private theorem nodup_map_id_dropped (current candidates : List Node) :
    ((dropped current candidates).map (·.id)).Nodup :=
  (Table.tells_of current candidates).nodup_dropped

/-- Who joins when the two lists are exchanged are those who leave. -/
private theorem joined_swap_perm (current candidates : List Node) :
    (joined candidates current).Perm (dropped current candidates) := by
  refine (List.perm_ext_iff_of_nodup (nodup_map_id_joined _ _).of_map
    (nodup_map_id_dropped _ _).of_map).mpr fun n => ?_
  rw [mem_joined, mem_dropped]

/-- The identifiers of the current map with those that are new are as many as those of the candidates
with those that leave. -/
private theorem length_joined_add (current candidates : List Node) :
    (joined current candidates).length + (current.map (·.id)).toFinset.card =
      (dropped current candidates).length + (candidates.map (·.id)).toFinset.card := by
  have hjoined : ((joined current candidates).map (·.id)).toFinset =
      (candidates.map (·.id)).toFinset \ (current.map (·.id)).toFinset := by
    ext id
    simp only [List.mem_toFinset, Finset.mem_sdiff, mem_map_id_joined]
  have hdropped : ((dropped current candidates).map (·.id)).toFinset =
      (current.map (·.id)).toFinset \ (candidates.map (·.id)).toFinset := by
    ext id
    simp only [List.mem_toFinset, Finset.mem_sdiff, mem_map_id_dropped]
  have hcardJoined := List.toFinset_card_of_nodup (nodup_map_id_joined current candidates)
  have hcardDropped := List.toFinset_card_of_nodup (nodup_map_id_dropped current candidates)
  rw [List.length_map, hjoined] at hcardJoined
  rw [List.length_map, hdropped] at hcardDropped
  -- Both sides count the identifiers in either list.
  rw [← hcardJoined, ← hcardDropped, Finset.card_sdiff_add_card, Finset.card_sdiff_add_card,
    Finset.union_comm]

/-- The changes are the differences of two lists of nodes by identifier, whatever identifiers are
repeated: an identifier joins if candidates alone have it, and leaves if current nodes alone have it;
either is reported once, with the last node that has it. Exchanging the lists exchanges the changes,
which differ in number as the identifiers do. In whatever order the entries of the table are read, only
the order of the changes depends on it. -/
theorem changes_by_id (current candidates : List Node) :
    (∀ id, id ∈ (joined current candidates).map (·.id) ↔
      id ∈ candidates.map (·.id) ∧ id ∉ current.map (·.id)) ∧
    (∀ id, id ∈ (dropped current candidates).map (·.id) ↔
      id ∈ current.map (·.id) ∧ id ∉ candidates.map (·.id)) ∧
    ((joined current candidates ++ dropped current candidates).map (·.id)).Nodup ∧
    (∀ n ∈ joined current candidates, IsLast n candidates) ∧
    (∀ n ∈ dropped current candidates, IsLast n current) ∧
    (joined candidates current).Perm (dropped current candidates) ∧
    (dropped candidates current).Perm (joined current candidates) ∧
    ((joined current candidates).length : Int) - (dropped current candidates).length =
      ((candidates.map (·.id)).toFinset.card : Int) - (current.map (·.id)).toFinset.card ∧
    ∀ t : Table, t.Perm (Table.of current candidates) →
      t.joined.Perm (joined current candidates) ∧ t.dropped.Perm (dropped current candidates) := by
  refine ⟨fun id => mem_map_id_joined, fun id => mem_map_id_dropped, ?_,
    fun n hn => (mem_joined.mp hn).1, fun n hn => (mem_dropped.mp hn).1,
    joined_swap_perm current candidates, (joined_swap_perm candidates current).symm, ?_,
    fun t ht => ⟨ht.filterMap _, ht.filterMap _⟩⟩
  -- One id cannot both join and drop, and within each list the ids differ.
  · rw [List.map_append, List.nodup_append]
    refine ⟨nodup_map_id_joined _ _, nodup_map_id_dropped _ _, ?_⟩
    rintro id hjoined _ hdropped rfl
    exact (mem_map_id_joined.mp hjoined).2 (mem_map_id_dropped.mp hdropped).1
  · have hcount := length_joined_add current candidates
    omega

end Changes

end ChainGauge.Membership
