import ChainGauge.Metrics.Registry
import Mathlib.Data.List.Induction
import Mathlib.Data.List.Nodup

/-!
# What changes make of one family

Changes of different families do not meet: the samples of a family after some changes depend on its
samples before them and on the changes of this family only (`Metrics.samplesOf_applyAll`). Where
these begin with a reset, nothing of before is left, and the samples are those that the entries
behind the reset make (`Sample.refill_replacing`). An entry gets a sample of its own unless an
earlier one has the same key; that is the only way for an entry to be missing. What a family shows of
some labels is summed up in `Metrics.Shows`.

## Key results

- `Metrics.samplesOf_applyAll`: the samples of a family after several changes
- `Metrics.shows_of_samples`: entries are shown, one for each key
- `Sample.labels_collect_append_exact_iff`: when entries have exactly their labels shown
- `Sample.perm_collect`: the order of entries does not matter where keys tell them apart
- `Metrics.value?_of_about_set`: the value that a change sets is the one that is read
-/

namespace ChainGauge

/-- The family that a change is about. -/
def Update.family : Update → Family
  | .reset f => f
  | .set f _ _ => f

/-- What a change makes of the samples of its family. -/
def Update.on : Update → List Sample → List Sample
  | .reset _, _ => []
  | .set f labels value, samples => Metrics.put ⟨f, labels, value⟩ samples

/-- The changes that are about a family. -/
def Update.about (f : Family) (updates : List Update) : List Update :=
  updates.filter (·.family = f)

/-- What several changes make of the samples of their family. -/
def Metrics.refill (updates : List Update) (samples : List Sample) : List Sample :=
  updates.foldl (fun acc u => u.on acc) samples

/-- The labels that a family shows. -/
def Metrics.labelsOf (m : Metrics) (f : Family) : List (List String) :=
  (m.samplesOf f).map (·.labels)

/-- The value of the sample that labels name, which is the one with their key. -/
def Metrics.value? (m : Metrics) (f : Family) (labels : List String) : Option Float :=
  ((m.samplesOf f).find? (·.key = seriesKey labels)).map (·.value)

/-- Labels that are told apart by their keys. -/
def KeyedApart (listed : List String → Prop) : Prop :=
  ∀ p q, listed p → listed q → seriesKey p = seriesKey q → p = q

/-- What a family shows of labels that are listed: some of them, at most one for each key, and one for
each key that they have. -/
structure Metrics.Shows (m : Metrics) (f : Family) (listed : List String → Prop) : Prop where
  nodup : ((m.labelsOf f).map seriesKey).Nodup
  shown : ∀ labels ∈ m.labelsOf f, listed labels
  keyed : ∀ labels, listed labels → ∃ labels' ∈ m.labelsOf f, seriesKey labels' = seriesKey labels
  /-- All of them are shown, and nothing else, exactly if their keys tell them apart. -/
  exact : (∀ labels, labels ∈ m.labelsOf f ↔ listed labels) ↔ KeyedApart listed

/-! ## One family at a time -/

namespace Metrics

variable {m : Metrics} {f : Family} {s x : Sample} {samples : List Sample} {us vs : List Update}

/-- A sample with a new key is put at the end. -/
theorem put_of_fresh (h : ∀ x ∈ samples, ¬ (x.family = s.family ∧ x.key = s.key)) :
    put s samples = samples ++ [s] := by
  induction samples with
  | nil => rfl
  | cons x xs ih =>
    rw [put, if_neg (h x List.mem_cons_self), ih fun y hy => h y (List.mem_cons_of_mem x hy)]
    rfl

/-- A sample that is there already keeps its labels. -/
private theorem map_labels_put_of_mem (h : ∃ x ∈ samples, x.family = s.family ∧ x.key = s.key) :
    (put s samples).map (·.labels) = samples.map (·.labels) := by
  induction samples with
  | nil => simp at h
  | cons x xs ih =>
    rw [put]
    split
    · rfl
    · rename_i hx
      obtain ⟨y, hy, hsame⟩ := h
      -- The series of that key stands further behind.
      have hxs : y ∈ xs := (List.mem_cons.mp hy).resolve_left fun hyx => hx (hyx ▸ hsame)
      rw [List.map_cons, List.map_cons, ih ⟨y, hxs, hsame⟩]

/-- What is there behind a put: the sample, an old one, or an old one with another value. -/
private theorem mem_put (h : x ∈ put s samples) :
    x = s ∨ x ∈ samples ∨ ∃ y ∈ samples, x = { y with value := s.value } := by
  induction samples with
  | nil => exact .inl (by simpa [put] using h)
  | cons y ys ih =>
    rw [put] at h
    split at h
    -- The key is taken: that series keeps its labels and gets the new value.
    · rcases List.mem_cons.mp h with rfl | hys
      · exact .inr (.inr ⟨y, List.mem_cons_self, rfl⟩)
      · exact .inr (.inl (List.mem_cons_of_mem y hys))
    · rcases List.mem_cons.mp h with rfl | hys
      · exact .inr (.inl List.mem_cons_self)
      · rcases ih hys with rfl | hold | ⟨z, hz, rfl⟩
        · exact .inl rfl
        · exact .inr (.inl (List.mem_cons_of_mem y hold))
        · exact .inr (.inr ⟨z, List.mem_cons_of_mem y hz, rfl⟩)

/-- A put goes into its own family. -/
private theorem filter_put (f : Family) (s : Sample) (samples : List Sample) :
    (put s samples).filter (·.family = f) =
      if s.family = f then put s (samples.filter (·.family = f))
      else samples.filter (·.family = f) := by
  induction samples with
  | nil => by_cases hs : s.family = f <;> simp [put, hs]
  | cons x xs ih =>
    -- Where the head is replaced it is of the family of `s`, so it stays or goes as `s` does.
    by_cases hsame : x.family = s.family ∧ x.key = s.key
    · by_cases hs : s.family = f <;> simp [put, hsame, hs]
    · rw [put, if_neg hsame, List.filter_cons, ih, List.filter_cons]
      by_cases hs : s.family = f
      · by_cases hx : x.family = f
        · simp only [hs, hx, decide_true, ↓reduceIte]
          rw [put, if_neg hsame]
        · simp [hs, hx]
      · simp [hs]

/-- A change does something to its own family only. -/
private theorem samplesOf_apply (m : Metrics) (u : Update) (f : Family) :
    (m.apply u).samplesOf f = if u.family = f then u.on (m.samplesOf f) else m.samplesOf f := by
  cases u with
  | reset g =>
    by_cases hg : g = f
    · subst hg
      simp [apply, samplesOf, Update.family, Update.on]
    · simp only [apply, samplesOf, Update.family, hg, ↓reduceIte, List.filter_filter]
      -- A sample of the family asked for is not of the one that is reset.
      refine List.filter_congr fun x _ => ?_
      by_cases hx : x.family = f <;> simp [hx, Ne.symm hg]
  | set g labels value =>
    rw [apply, samplesOf, filter_put]
    by_cases hg : g = f
    · simp [Update.family, Update.on, hg, samplesOf]
    · simp [Update.family, hg, samplesOf]

/-- What changes make of a family is told by those that are about it. -/
theorem samplesOf_applyAll (m : Metrics) (us : List Update) (f : Family) :
    (m.applyAll us).samplesOf f = refill (Update.about f us) (m.samplesOf f) := by
  induction us generalizing m with
  | nil => rfl
  | cons u us ih =>
    have hstep : (m.applyAll (u :: us)).samplesOf f = ((m.apply u).applyAll us).samplesOf f := rfl
    rw [hstep, ih, samplesOf_apply]
    by_cases hu : u.family = f <;> simp [Update.about, refill, hu]

/-- Changes in turn. -/
theorem applyAll_append (m : Metrics) (us vs : List Update) :
    m.applyAll (us ++ vs) = (m.applyAll us).applyAll vs :=
  List.foldl_append

/-- Setting a value twice is setting it the second time. -/
theorem put_put (f : Family) (labels : List String) (value old : Float) (samples : List Sample) :
    put ⟨f, labels, value⟩ (put ⟨f, labels, old⟩ samples) = put ⟨f, labels, value⟩ samples := by
  induction samples with
  | nil => simp [put, Sample.key]
  | cons x xs ih =>
    by_cases hx : x.family = f ∧ x.key = seriesKey labels
    · simp [put, Sample.key, show x.family = f ∧ seriesKey x.labels = _ from hx]
    · have hx' : ¬ (x.family = f ∧ seriesKey x.labels = seriesKey labels) := hx
      simp only [put, Sample.key, hx', ↓reduceIte, ih]

/-- Behind a put its key has its value. -/
private theorem find?_put (h : ∀ x ∈ samples, x.family = s.family) :
    ((put s samples).find? (·.key = s.key)).map (·.value) = some s.value := by
  induction samples with
  | nil => simp [put]
  | cons x xs ih =>
    have hx : x.family = s.family := h x List.mem_cons_self
    have hxs := ih fun y hy => h y (List.mem_cons_of_mem x hy)
    by_cases hkey : x.key = s.key
    -- The new value does not change the key.
    · have hkey' : ({ x with value := s.value } : Sample).key = s.key := hkey
      rw [put, if_pos ⟨hx, hkey⟩, List.find?_cons_of_pos (by simpa using hkey')]
      rfl
    · simp [put, hkey, hxs]

/-- A value that is set elsewhere is not read. -/
private theorem find?_put_of_ne {k : UInt64} (h : s.key ≠ k) :
    ((put s samples).find? (·.key = k)).map (·.value) =
      (samples.find? (·.key = k)).map (·.value) := by
  induction samples with
  | nil => simp [put, h]
  | cons x xs ih =>
    rw [put]
    split
    · rename_i hsame
      -- The series whose value changes has the key of `s`, so it is found neither before nor after.
      have hold : x.key ≠ k := hsame.2 ▸ h
      have hnew : ({ x with value := s.value } : Sample).key ≠ k := hold
      rw [List.find?_cons_of_neg (by simpa using hnew), List.find?_cons_of_neg (by simpa using hold)]
    · simp only [List.find?_cons]
      split
      · rfl
      · exact ih

/-- The samples of a family belong to it. -/
private theorem family_of_mem_samplesOf (h : x ∈ m.samplesOf f) : x.family = f := by
  simpa using (List.mem_filter.mp h).2

/-- A put keeps to the family. -/
private theorem family_of_mem_put (h : ∀ x ∈ samples, x.family = s.family)
    (hx : x ∈ put s samples) :
    x.family = s.family := by
  rcases mem_put hx with rfl | hold | ⟨y, hy, rfl⟩
  · rfl
  · exact h x hold
  · exact h y hy

/-- What a change sets is what is read. -/
private theorem value?_of_samplesOf_eq_put {labels : List String} {value : Float} {old : Metrics}
    (h : m.samplesOf f = put ⟨f, labels, value⟩ (old.samplesOf f)) :
    m.value? f labels = some value := by
  rw [value?, h]
  exact find?_put (s := ⟨f, labels, value⟩) fun x hx => family_of_mem_samplesOf hx

end Metrics

/-! ## A family that is filled anew -/

namespace Update

variable {f : Family} {u : Update} {us vs : List Update} {entries : List Entry}

/-- The changes of a family among changes in turn. -/
theorem about_append (f : Family) (us vs : List Update) :
    about f (us ++ vs) = about f us ++ about f vs :=
  List.filter_append ..

/-- Changes of other families are not about it. -/
theorem about_eq_nil (h : ∀ u ∈ us, u.family ≠ f) : about f us = [] := by
  rw [about, List.filter_eq_nil_iff]
  simpa using h

/-- Changes of a family are all about it. -/
private theorem about_eq_self (h : ∀ u ∈ us, u.family = f) : about f us = us := by
  rw [about, List.filter_eq_self]
  simpa using h

/-- The changes of a family that a missing answer leaves out. -/
theorem about_elim {α : Type} (f : Family) (x : Option α) (changes : α → List Update) :
    about f (x.elim [] changes) = x.elim [] fun v => about f (changes v) := by
  cases x <;> rfl

/-- Entries are set in their family. -/
private theorem family_of_mem_sets {g : Family}
    (h : u ∈ entries.map fun e => Update.set g e.1 e.2) : u.family = g := by
  obtain ⟨e, -, rfl⟩ := List.mem_map.mp h
  rfl

/-- A family is replaced by changes of its own. -/
theorem family_of_mem_replacing (h : u ∈ replacing f entries) : u.family = f := by
  rcases List.mem_cons.mp h with rfl | hset
  · rfl
  · exact family_of_mem_sets hset

/-- Replacing a family is about no other one. -/
theorem about_replacing (f g : Family) (entries : List Entry) :
    about f (replacing g entries) = if g = f then replacing g entries else [] := by
  split
  · rename_i hg
    exact about_eq_self fun u hu => (family_of_mem_replacing hu).trans hg
  · rename_i hg
    exact about_eq_nil fun u hu hf => hg ((family_of_mem_replacing hu).symm.trans hf)

end Update

/-- The samples that entries make. -/
def Sample.collect (f : Family) (entries : List Entry) : List Sample :=
  entries.foldl (fun acc e => Metrics.put ⟨f, e.1, e.2⟩ acc) []

namespace Sample

variable {f : Family} {entries : List Entry} {e : Entry}
  {s t : Sample} {labels : List String}

/-- Nothing of what was there before is left. -/
theorem refill_replacing (f : Family) (entries : List Entry)
    (samples : List Sample) :
    Metrics.refill (Update.replacing f entries) samples = collect f entries := by
  simp [Metrics.refill, Update.replacing, collect, Update.on, List.foldl_map]

/-- One entry more is put behind the others. -/
theorem collect_concat (f : Family) (entries : List Entry)
    (e : Entry) :
    collect f (entries ++ [e]) = Metrics.put ⟨f, e.1, e.2⟩ (collect f entries) := by
  simp [collect]

/-- Entries make samples of their family. -/
theorem family_of_mem_collect (h : s ∈ collect f entries) : s.family = f := by
  induction entries using List.reverseRecOn generalizing s with
  | nil => simp [collect] at h
  | append_singleton entries e ih =>
    rw [collect_concat] at h
    exact Metrics.family_of_mem_put (s := ⟨f, e.1, e.2⟩) (fun x hx => ih hx) h

/-- One more entry gets a sample of its own, unless one with its key is there already. -/
private theorem labels_collect_concat (f : Family) (entries : List Entry)
    (e : Entry) :
    ((∃ s ∈ collect f entries, s.key = seriesKey e.1) ∧
      (collect f (entries ++ [e])).map (·.labels) = (collect f entries).map (·.labels)) ∨
    ((∀ s ∈ collect f entries, s.key ≠ seriesKey e.1) ∧
      (collect f (entries ++ [e])).map (·.labels) =
        (collect f entries).map (·.labels) ++ [e.1]) := by
  rw [collect_concat]
  by_cases h : ∃ s ∈ collect f entries, s.key = seriesKey e.1
  · obtain ⟨s, hs, hkey⟩ := h
    exact .inl ⟨⟨s, hs, hkey⟩,
      Metrics.map_labels_put_of_mem ⟨s, hs, family_of_mem_collect hs, hkey⟩⟩
  · refine .inr ⟨fun s hs hkey => h ⟨s, hs, hkey⟩, ?_⟩
    have hfresh : ∀ x ∈ collect f entries, ¬ (x.family = f ∧ x.key = seriesKey e.1) :=
      fun x hx hsame => h ⟨x, hx, hsame.2⟩
    rw [Metrics.put_of_fresh (s := ⟨f, e.1, e.2⟩) hfresh]
    simp

/-- Samples show the labels of entries only. -/
private theorem labels_of_mem_collect (h : s ∈ collect f entries) :
    s.labels ∈ entries.map (·.1) := by
  have hlabels : s.labels ∈ (collect f entries).map (·.labels) := List.mem_map_of_mem h
  -- The labels alone are followed; the value may have changed since.
  clear h
  induction entries using List.reverseRecOn with
  | nil => simp [collect] at hlabels
  | append_singleton entries e ih =>
    rw [List.map_append, List.mem_append]
    rcases labels_collect_concat f entries e with ⟨-, heq⟩ | ⟨-, heq⟩
    · rw [heq] at hlabels
      exact .inl (ih hlabels)
    · rw [heq, List.mem_append] at hlabels
      exact hlabels.imp ih id

/-- The key of every entry is that of a sample. -/
theorem exists_mem_collect (h : labels ∈ entries.map (·.1)) :
    ∃ s ∈ collect f entries, s.key = seriesKey labels := by
  -- Stated on the labels alone, since a later entry may change the value of the series.
  suffices seriesKey labels ∈ ((collect f entries).map (·.labels)).map seriesKey by
    simpa [Sample.key] using this
  induction entries using List.reverseRecOn with
  | nil => simp at h
  | append_singleton entries e ih =>
    rw [List.map_append, List.mem_append, List.map_singleton, List.mem_singleton] at h
    rcases labels_collect_concat f entries e with ⟨⟨s, hs, hkey⟩, heq⟩ | ⟨-, heq⟩ <;> rw [heq]
    · rcases h with hold | rfl
      · exact ih hold
      · rw [← hkey, List.map_map]
        exact List.mem_map_of_mem (f := seriesKey ∘ (·.labels)) hs
    · rw [List.map_append, List.mem_append]
      rcases h with hold | rfl
      · exact .inl (ih hold)
      · exact .inr (by simp)

/-- The keys of what is shown are those of the entries. -/
theorem exists_key_collect_iff {k : UInt64} :
    (∃ s ∈ collect f entries, s.key = k) ↔ k ∈ entries.map fun e => seriesKey e.1 := by
  constructor
  · rintro ⟨s, hs, rfl⟩
    obtain ⟨e, he, hlabels⟩ := List.mem_map.mp (labels_of_mem_collect hs)
    exact List.mem_map.mpr ⟨e, he, by rw [key, ← hlabels]⟩
  · intro hk
    obtain ⟨e, he, rfl⟩ := List.mem_map.mp hk
    exact exists_mem_collect (List.mem_map_of_mem he)

/-- No two samples have the same key. -/
theorem nodup_key_collect (f : Family) (entries : List Entry) :
    ((collect f entries).map (·.key)).Nodup := by
  suffices (((collect f entries).map (·.labels)).map seriesKey).Nodup by
    simpa [Sample.key, Function.comp_def] using this
  induction entries using List.reverseRecOn with
  | nil => simp [collect]
  | append_singleton entries e ih =>
    rcases labels_collect_concat f entries e with ⟨-, heq⟩ | ⟨hfresh, heq⟩ <;> rw [heq]
    · exact ih
    -- A new sample has a key that no other has.
    · rw [List.map_append, List.nodup_append]
      refine ⟨ih, by simp, ?_⟩
      rintro a ha b hb rfl
      simp only [List.map_cons, List.map_nil, List.mem_singleton] at hb
      obtain ⟨labels, hlabels, hkey⟩ := List.mem_map.mp ha
      obtain ⟨s, hs, rfl⟩ := List.mem_map.mp hlabels
      exact hfresh s hs (hkey.trans hb)

/-- More entries leave the labels that are shown, and add some of their own. -/
theorem exists_labels_collect_append (f : Family) (old new : List Entry) :
    ∃ added, (collect f (old ++ new)).map (·.labels) = (collect f old).map (·.labels) ++ added ∧
      ∀ labels ∈ added, labels ∈ new.map (·.1) := by
  induction new using List.reverseRecOn with
  | nil => exact ⟨[], by simp, by simp⟩
  | append_singleton new e ih =>
    obtain ⟨added, hadded, hnew⟩ := ih
    rw [← List.append_assoc, List.map_append]
    -- A new entry either has a key that is taken, or adds its labels at the end.
    rcases labels_collect_concat f (old ++ new) e with ⟨-, heq⟩ | ⟨-, heq⟩
    · exact ⟨added, by rw [heq, hadded], fun labels hl => List.mem_append_left _ (hnew labels hl)⟩
    · refine ⟨added ++ [e.1], by rw [heq, hadded, List.append_assoc], ?_⟩
      rw [List.forall_mem_append]
      exact ⟨fun labels hl => List.mem_append_left _ (hnew labels hl), by simp⟩

/-- Exactly the labels of the newer entries are shown if and only if these include all that was shown
before and their keys tell them apart. -/
theorem labels_collect_append_exact_iff (f : Family) (old new : List Entry) :
    (∀ labels, labels ∈ (collect f (old ++ new)).map (·.labels) ↔ labels ∈ new.map (·.1)) ↔
      (∀ labels ∈ (collect f old).map (·.labels), labels ∈ new.map (·.1)) ∧
      ∀ p ∈ new.map (·.1), ∀ q ∈ new.map (·.1), seriesKey p = seriesKey q → p = q := by
  obtain ⟨added, hadded, hnew⟩ := exists_labels_collect_append f old new
  constructor
  · intro hexact
    refine ⟨fun labels hold => (hexact labels).mp ?_, fun p hp q hq hkey => ?_⟩
    · rw [hadded]
      exact List.mem_append_left _ hold
    · obtain ⟨s, hs, rfl⟩ := List.mem_map.mp ((hexact p).mpr hp)
      obtain ⟨t, ht, rfl⟩ := List.mem_map.mp ((hexact q).mpr hq)
      have hnodup := nodup_key_collect f (old ++ new)
      have hst : s = t := List.inj_on_of_nodup_map hnodup hs ht hkey
      rw [hst]
  · rintro ⟨hold, hapart⟩ labels
    have hshown : ∀ labels ∈ (collect f (old ++ new)).map (·.labels), labels ∈ new.map (·.1) := by
      rw [hadded, List.forall_mem_append]
      exact ⟨hold, hnew⟩
    refine ⟨hshown labels, fun hmem => ?_⟩
    -- Its key is shown, and only under labels that are among the newer ones.
    have htold : labels ∈ (old ++ new).map (·.1) := by
      rw [List.map_append]
      exact List.mem_append_right _ hmem
    obtain ⟨s, hs, hkey⟩ := exists_mem_collect (f := f) htold
    have hlabels : s.labels ∈ (collect f (old ++ new)).map (·.labels) := List.mem_map_of_mem hs
    rwa [hapart s.labels (hshown _ hlabels) labels hmem hkey] at hlabels

/-- A sample has the value of the last entry with its key. -/
theorem find?_collect (f : Family) (entries : List Entry) (k : UInt64) :
    ((collect f entries).find? (·.key = k)).map (·.value) =
      (entries.reverse.find? (seriesKey ·.1 = k)).map (·.2) := by
  induction entries using List.reverseRecOn with
  | nil => rfl
  | append_singleton entries e ih =>
    rw [collect_concat, List.reverse_append, List.reverse_singleton, List.singleton_append]
    -- The last entry of a key decides: behind it in reversed order nothing is asked any more.
    by_cases hk : seriesKey e.1 = k
    · subst hk
      have hfamily : ∀ x ∈ collect f entries, x.family = f := fun x hx => family_of_mem_collect hx
      rw [List.find?_cons_of_pos (by simp)]
      exact Metrics.find?_put (s := ⟨f, e.1, e.2⟩) hfamily
    · rw [Metrics.find?_put_of_ne (s := ⟨f, e.1, e.2⟩) hk, ih,
        List.find?_cons_of_neg (by simpa using hk)]

/-- An entry whose key no other entry has is shown as it is. -/
theorem mem_collect_of_alone (f : Family) (he : e ∈ entries)
    (halone : ∀ e' ∈ entries, seriesKey e'.1 = seriesKey e.1 → e' = e) :
    ⟨f, e.1, e.2⟩ ∈ collect f entries := by
  -- Every entry of that key is `e`, so the last one is.
  have hlast : entries.reverse.find? (seriesKey ·.1 = seriesKey e.1) = some e := by
    obtain ⟨e', he'⟩ := Option.isSome_iff_exists.mp
      (List.find?_isSome.mpr ⟨e, List.mem_reverse.mpr he, decide_eq_true rfl⟩ :
        (entries.reverse.find? (seriesKey ·.1 = seriesKey e.1)).isSome)
    have hsame := halone e' (List.mem_reverse.mp (List.mem_of_find?_eq_some he'))
      (by simpa using List.find?_some he')
    rwa [hsame] at he'
  have hvalue := find?_collect f entries (seriesKey e.1)
  rw [hlast] at hvalue
  obtain ⟨s, hs, hsvalue : s.value = e.2⟩ := Option.map_eq_some_iff.mp hvalue
  have hmem := List.mem_of_find?_eq_some hs
  have hkey : s.key = seriesKey e.1 := by simpa using List.find?_some hs
  -- The labels are those of the first entry of the key, which is `e` again.
  obtain ⟨e', he', hlabels⟩ := List.mem_map.mp (labels_of_mem_collect hmem)
  have hee' : e' = e := halone e' he' (by rw [hlabels]; exact hkey)
  subst hee'
  have hsample : s = ⟨f, e'.1, e'.2⟩ := by
    rw [← family_of_mem_collect hmem, hlabels, ← hsvalue]
  rwa [← hsample]

/-- Entries whose keys tell them apart are shown as they are. -/
private theorem mem_collect_iff_of_apart (f : Family)
    (h : ∀ e ∈ entries, ∀ e' ∈ entries, seriesKey e.1 = seriesKey e'.1 → e = e') :
    s ∈ collect f entries ↔ ∃ e ∈ entries, s = ⟨f, e.1, e.2⟩ := by
  have hshown {e : Entry} (he : e ∈ entries) : ⟨f, e.1, e.2⟩ ∈ collect f entries :=
    mem_collect_of_alone f he fun e' he' hkey => h e' he' e he hkey
  constructor
  · intro hs
    obtain ⟨e, he, hlabels⟩ := List.mem_map.mp (labels_of_mem_collect hs)
    -- Two samples of a family with the same key are one.
    have hkey : s.key = (⟨f, e.1, e.2⟩ : Sample).key := congrArg seriesKey hlabels.symm
    exact ⟨e, he, List.inj_on_of_nodup_map (nodup_key_collect f entries) hs (hshown he) hkey⟩
  · rintro ⟨e, he, rfl⟩
    exact hshown he

/-- In whatever order entries come, the same keys are shown. -/
theorem perm_map_key_collect {entries' : List Entry} (f : Family) (h : entries.Perm entries') :
    ((collect f entries).map (·.key)).Perm ((collect f entries').map (·.key)) := by
  rw [List.perm_ext_iff_of_nodup (nodup_key_collect f entries) (nodup_key_collect f entries')]
  intro k
  rw [List.mem_map, List.mem_map, exists_key_collect_iff, exists_key_collect_iff]
  exact (h.map _).mem_iff

/-- The order of entries does not matter where each has labels of its own and a key of its own. -/
theorem perm_collect {entries' : List Entry} (f : Family) (h : entries.Perm entries')
    (hnodup : (entries.map (·.1)).Nodup) (hapart : KeyedApart (· ∈ entries.map (·.1))) :
    (collect f entries).Perm (collect f entries') := by
  have hown : ∀ e ∈ entries, ∀ e' ∈ entries, seriesKey e.1 = seriesKey e'.1 → e = e' := by
    intro e he e' he' hkey
    exact List.inj_on_of_nodup_map hnodup he he'
      (hapart e.1 e'.1 (List.mem_map_of_mem he) (List.mem_map_of_mem he') hkey)
  have hown' : ∀ e ∈ entries', ∀ e' ∈ entries', seriesKey e.1 = seriesKey e'.1 → e = e' :=
    fun e he e' he' => hown e (h.mem_iff.mpr he) e' (h.mem_iff.mpr he')
  -- Both lists are without repetition, so it is enough that they have the same members.
  rw [List.perm_ext_iff_of_nodup (nodup_key_collect f entries).of_map
    (nodup_key_collect f entries').of_map]
  intro s
  rw [mem_collect_iff_of_apart f hown, mem_collect_iff_of_apart f hown']
  exact exists_congr fun e => and_congr_left fun _ => h.mem_iff

/-- Samples of one family have the value that all entries have. -/
theorem value_of_mem_collect {value : Float} (h : ∀ e ∈ entries, e.2 = value)
    (hs : s ∈ collect f entries) : s.value = value := by
  induction entries using List.reverseRecOn generalizing s with
  | nil => simp [collect] at hs
  | append_singleton entries e ih =>
    have hold : ∀ t ∈ collect f entries, t.value = value :=
      fun t ht => ih (fun e' he' => h e' (List.mem_append_left _ he')) ht
    have hlast : e.2 = value := h e (by simp)
    rw [collect_concat] at hs
    -- Whatever `put` did, the value is that of an entry.
    rcases Metrics.mem_put hs with rfl | hmem | ⟨t, -, rfl⟩
    · exact hlast
    · exact hold s hmem
    · exact hlast

end Sample

/-! ## What is read after some changes -/

namespace Metrics

variable {m old : Metrics} {f : Family} {us : List Update}

/-- A family whose one change sets a value shows that value. -/
theorem value?_of_about_set {labels : List String} {value : Float}
    (h : m.samplesOf f = (old.applyAll us).samplesOf f)
    (habout : Update.about f us = [.set f labels value]) : m.value? f labels = some value := by
  rw [samplesOf_applyAll, habout] at h
  exact value?_of_samplesOf_eq_put h

/-- Exactly the labels that are listed are shown if and only if their keys tell them apart. -/
private theorem exact_of_keyed {listed : List String → Prop}
    (hnodup : ((m.labelsOf f).map seriesKey).Nodup)
    (hshown : ∀ labels ∈ m.labelsOf f, listed labels)
    (hkeyed : ∀ labels, listed labels →
      ∃ labels' ∈ m.labelsOf f, seriesKey labels' = seriesKey labels) :
    (∀ labels, labels ∈ m.labelsOf f ↔ listed labels) ↔ KeyedApart listed := by
  constructor
  · intro hexact p q hp hq hkey
    exact List.inj_on_of_nodup_map hnodup ((hexact p).mpr hp) ((hexact q).mpr hq) hkey
  -- What stands for listed labels has their key, and is listed itself.
  · refine fun hapart labels => ⟨hshown labels, fun hlisted => ?_⟩
    obtain ⟨labels', hmem, hkey⟩ := hkeyed labels hlisted
    rwa [← hapart labels' labels (hshown labels' hmem) hlisted hkey]

/-- A family whose samples are those of entries shows the labels of these. -/
theorem shows_of_samples {listed : List String → Prop} {entries : List Entry}
    (h : m.samplesOf f = Sample.collect f entries)
    (hlisted : ∀ labels, labels ∈ entries.map (·.1) ↔ listed labels) : m.Shows f listed := by
  have hlabels : m.labelsOf f = (Sample.collect f entries).map (·.labels) := by rw [labelsOf, h]
  have hnodup : ((m.labelsOf f).map seriesKey).Nodup := by
    rw [hlabels, List.map_map]
    exact Sample.nodup_key_collect f entries
  have hshown : ∀ labels ∈ m.labelsOf f, listed labels := by
    intro labels hmem
    rw [hlabels] at hmem
    obtain ⟨s, hs, rfl⟩ := List.mem_map.mp hmem
    exact (hlisted s.labels).mp (Sample.labels_of_mem_collect hs)
  -- An entry whose key another entry took first is shown under that one's labels, hence only up to
  -- the key.
  have hkeyed : ∀ labels, listed labels →
      ∃ labels' ∈ m.labelsOf f, seriesKey labels' = seriesKey labels := by
    intro labels hmem
    obtain ⟨s, hs, hkey⟩ := Sample.exists_mem_collect (f := f) ((hlisted labels).mpr hmem)
    rw [hlabels]
    exact ⟨s.labels, List.mem_map_of_mem hs, hkey⟩
  exact ⟨hnodup, hshown, hkeyed, exact_of_keyed hnodup hshown hkeyed⟩

/-- A family that was replaced has the samples of the entries. -/
theorem samplesOf_of_about_replacing {entries : List Entry}
    (h : m.samplesOf f = (old.applyAll us).samplesOf f)
    (habout : Update.about f us = Update.replacing f entries) :
    m.samplesOf f = Sample.collect f entries := by
  rw [h, samplesOf_applyAll, habout, Sample.refill_replacing]

end Metrics

end ChainGauge
