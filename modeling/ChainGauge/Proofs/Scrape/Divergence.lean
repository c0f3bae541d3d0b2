import ChainGauge.Proofs.Node.Alphabets
import ChainGauge.Proofs.Scrape.Course
import ChainGauge.Proofs.Scrape.Publication
import ChainGauge.Proofs.Text.Hex
import Mathlib.Data.List.Count

/-!
# How the alphabets diverge

The scrape compares the alphabet of the storage network with that of the main chain. What it shows are
the keys that one list has more often than the other (`Metrics.divergence_of_alphabets`), with the value
one. That is the difference of the two sets of keys exactly if no key that both chains have is repeated
on one of them; a repeated key is shown although it is on both chains (`Metrics.divergence_of_repeated`).
-/

namespace ChainGauge

/-- No two keys have the same digits. -/
theorem PublicKey.toHex_injective : Function.Injective toHex := by
  intro k l h
  obtain ⟨bs, hbs⟩ := k
  obtain ⟨cs, hcs⟩ := l
  have hbytes : bs = cs := Hex.encode_injective h
  subst hbytes
  rfl

/-- The texts of keys stand as often as the keys do. -/
private theorem PublicKey.count_sortedHex (keys : List PublicKey) (k : PublicKey) :
    (sortedHex keys).count k.toHex = keys.count k := by
  rw [sortedHex, List.count_map_of_injective _ _ toHex_injective,
    (List.mergeSort_perm keys le).count_eq]

/-- A text among sorted keys is that of a key. -/
private theorem PublicKey.exists_of_mem_sortedHex {keys : List PublicKey} {text : String}
    (h : text ∈ sortedHex keys) : ∃ k : PublicKey, text = k.toHex := by
  obtain ⟨k, -, rfl⟩ := List.mem_map.mp h
  exact ⟨k, rfl⟩

/-- The labels of a key that one alphabet has more often than the other. -/
def Surplus (main fs : List PublicKey) (labels : List String) : Prop :=
  ∃ k : PublicKey, (labels = ["main", k.toHex] ∧ fs.count k < main.count k) ∨
    (labels = ["fs", k.toHex] ∧ main.count k < fs.count k)

/-- The labels of a key that one alphabet has and the other one has not. -/
def OneSided (main fs : List PublicKey) (labels : List String) : Prop :=
  ∃ k : PublicKey, (labels = ["main", k.toHex] ∧ k ∈ main ∧ k ∉ fs) ∨
    (labels = ["fs", k.toHex] ∧ k ∈ fs ∧ k ∉ main)

section Entries

variable {main fs as bs : List PublicKey} {labels texts : List String}

/-- Texts that are kept as often as the keys outnumber others are those of the keys that do. -/
private theorem mem_of_count {text : String}
    (h : texts.count text =
      (PublicKey.sortedHex as).count text - (PublicKey.sortedHex bs).count text) :
    text ∈ texts ↔ ∃ k : PublicKey, text = k.toHex ∧ bs.count k < as.count k := by
  rw [← List.count_pos_iff, h]
  -- Texts are counted as the keys behind them are.
  constructor
  · intro hpos
    have hmem : text ∈ PublicKey.sortedHex as := List.count_pos_iff.mp (by omega)
    obtain ⟨k, rfl⟩ := PublicKey.exists_of_mem_sortedHex hmem
    rw [PublicKey.count_sortedHex, PublicKey.count_sortedHex] at hpos
    exact ⟨k, rfl, by omega⟩
  · rintro ⟨k, rfl, hlt⟩
    rw [PublicKey.count_sortedHex, PublicKey.count_sortedHex]
    omega

/-- What is published are the keys that one alphabet has more often. -/
private theorem mem_divergenceEntries :
    labels ∈ (FsChainJob.divergenceEntries main fs).map (·.1) ↔ Surplus main fs labels := by
  have hcount := Membership.count_unique (PublicKey.sortedHex main) (PublicKey.sortedHex fs)
  simp only [FsChainJob.divergenceEntries, List.map_append, List.map_map, List.mem_append,
    List.mem_map, Function.comp_apply, mem_of_count (hcount _).1, mem_of_count (hcount _).2]
  -- The two halves of the surplus are the two halves of the entries.
  constructor
  · rintro (⟨_, ⟨k, rfl, hlt⟩, rfl⟩ | ⟨_, ⟨k, rfl, hlt⟩, rfl⟩)
    · exact ⟨k, .inl ⟨rfl, hlt⟩⟩
    · exact ⟨k, .inr ⟨rfl, hlt⟩⟩
  · rintro ⟨k, ⟨rfl, hlt⟩ | ⟨rfl, hlt⟩⟩
    · exact .inl ⟨_, ⟨k, rfl, hlt⟩, rfl⟩
    · exact .inr ⟨_, ⟨k, rfl, hlt⟩, rfl⟩

/-- A key is in surplus on the main chain if that has it more often. -/
private theorem surplus_main {k : PublicKey} :
    Surplus main fs ["main", k.toHex] ↔ fs.count k < main.count k := by
  simp [Surplus, PublicKey.toHex_injective.eq_iff]

private theorem surplus_fs {k : PublicKey} :
    Surplus main fs ["fs", k.toHex] ↔ main.count k < fs.count k := by
  simp [Surplus, PublicKey.toHex_injective.eq_iff]

/-- A key is on the main chain alone. -/
private theorem oneSided_main {k : PublicKey} :
    OneSided main fs ["main", k.toHex] ↔ k ∈ main ∧ k ∉ fs := by
  simp [OneSided, PublicKey.toHex_injective.eq_iff]

/-- A key is on the storage network's chain alone. -/
private theorem oneSided_fs {k : PublicKey} :
    OneSided main fs ["fs", k.toHex] ↔ k ∈ fs ∧ k ∉ main := by
  simp [OneSided, PublicKey.toHex_injective.eq_iff]

/-- Where shared keys stand equally often, having a key more often is having it alone. -/
private theorem count_lt_iff {k : PublicKey} (h : k ∈ as → k ∈ bs → as.count k = bs.count k) :
    bs.count k < as.count k ↔ k ∈ as ∧ k ∉ bs := by
  rw [← List.count_pos_iff, ← List.count_pos_iff] at h ⊢
  omega

/-- Keys that one side has more often are those on this side only, unless a key on both sides is
repeated. -/
private theorem surplus_iff_oneSided :
    (∀ labels, Surplus main fs labels ↔ OneSided main fs labels) ↔
      ∀ k ∈ main, k ∈ fs → main.count k = fs.count k := by
  constructor
  · intro h k hmain hfs
    -- A key on both chains is on neither one alone, so no side may have it more often.
    have hfirst := h ["main", k.toHex]
    have hsecond := h ["fs", k.toHex]
    rw [surplus_main, oneSided_main] at hfirst
    rw [surplus_fs, oneSided_fs] at hsecond
    have hmore : ¬ fs.count k < main.count k := fun hlt => (hfirst.mp hlt).2 hfs
    have hless : ¬ main.count k < fs.count k := fun hlt => (hsecond.mp hlt).2 hmain
    omega
  · intro h labels
    refine exists_congr fun k => or_congr (and_congr_right fun _ => ?_) (and_congr_right fun _ => ?_)
    · exact count_lt_iff (h k)
    · exact count_lt_iff fun hfs hmain => (h k hmain hfs).symm

/-- The entries say which keys, and all with the value one. -/
private theorem value_of_mem_divergenceEntries {e : Entry}
    (h : e ∈ FsChainJob.divergenceEntries main fs) : e.2 = 1 := by
  simp only [FsChainJob.divergenceEntries, List.mem_append, List.mem_map] at h
  rcases h with ⟨_, -, rfl⟩ | ⟨_, -, rfl⟩
  · rfl
  · rfl

end Entries

namespace Metrics

/-- The comparison publishes the keys of one alphabet only. -/
private theorem samplesOf_divergenceStep {job : FsChainJob}
    (hcompares : job.comparesAlphabets = true)
    (fs : List PublicKey) {main : List PublicKey} {a : Answers}
    (hmain : a 0 .mainAlphabet = some main) (m : Metrics) :
    ((job.divergenceStep fs).perform a m).samplesOf .alphabetDivergence =
      Sample.collect .alphabetDivergence (FsChainJob.divergenceEntries main fs) := by
  have hupdates : (job.divergenceStep fs).updates a = FsChainJob.divergenceUpdates main fs := by
    simp only [FsChainJob.divergenceStep, hcompares, if_true, Scrape.updates_ask, hmain,
      Scrape.updates_whenSome, Option.elim_some, Scrape.updates_put]
  rw [Scrape.perform_eq, hupdates, samplesOf_applyAll, FsChainJob.divergenceUpdates,
    Update.about_replacing, if_pos rfl, Sample.refill_replacing]

/-- After the comparison with the alphabet of the main chain, the keys that one alphabet has more often
are shown with the value one. Where their labels are told apart they are the keys on one chain only
exactly if the lists have each key on both chains equally often. -/
theorem divergence_of_alphabets (job : FsChainJob) (hcompares : job.comparesAlphabets = true)
    (fs main : List PublicKey) (a : Answers) (hmain : a 0 .mainAlphabet = some main)
    (m : Metrics) :
    let shown := (job.divergenceStep fs).perform a m
    shown.Shows .alphabetDivergence (Surplus main fs) ∧
      (∀ s ∈ shown.samplesOf .alphabetDivergence, s.value = 1) ∧
      (KeyedApart (Surplus main fs) →
        ((∀ labels, labels ∈ shown.labelsOf .alphabetDivergence ↔ OneSided main fs labels) ↔
          ∀ k ∈ main, k ∈ fs → main.count k = fs.count k)) := by
  intro shown
  have hsamples := samplesOf_divergenceStep hcompares fs hmain m
  have hshows : shown.Shows .alphabetDivergence (Surplus main fs) :=
    shows_of_samples hsamples fun _ => mem_divergenceEntries
  refine ⟨hshows, ?_, fun hapart => ?_⟩
  · intro s hs
    rw [show shown.samplesOf .alphabetDivergence = _ from hsamples] at hs
    exact Sample.value_of_mem_collect (fun _ => value_of_mem_divergenceEntries) hs
  -- With the keys apart the labels are those of the surplus, and the question is one of the two
  -- lists.
  · simp only [hshows.exact.mpr hapart]
    exact surplus_iff_oneSided

end Metrics

/-! ## Repeated keys -/

/-- The key of the curve's generator. -/
def generatorKey : PublicKey :=
  .ofPoint ⟨0x6b17d1f2e12c4247f8bce6e563a440f277037d812deb33a0f4a13945d898c296,
    0x4fe342e2fe1a7f9b8ee7eb4a7c0f9e162bce33576b315ececbb6406837bf51f5⟩

/-- Answers in which the main chain has the key twice. -/
def answersRepeated : Answers :=
  .always fun
    | .mainAlphabet => some [generatorKey, generatorKey]
    | s => s.unanswered

/-- A scrape that compares the alphabets. -/
def comparingJob : FsChainJob :=
  ⟨.gas, none, true, none, []⟩

section Repeated

variable {fs : List PublicKey} (hfs : fs = [] ∨ fs = [generatorKey])
include hfs

/-- The key is the only one that the main chain has more often. -/
private theorem surplus_repeated (labels : List String) :
    Surplus [generatorKey, generatorKey] fs labels ↔ labels = ["main", generatorKey.toHex] := by
  constructor
  · rintro ⟨k, ⟨rfl, hlt⟩ | ⟨-, hlt⟩⟩
    · have hmem : k ∈ [generatorKey, generatorKey] := List.count_pos_iff.mp (by omega)
      have hk : k = generatorKey := by simpa using hmem
      rw [hk]
    -- The second list has one key at most, and the first has it too: no surplus there.
    · have hmem : k ∈ fs := List.count_pos_iff.mp (by omega)
      rcases hfs with rfl | rfl
      · cases hmem
      · rw [List.mem_singleton.mp hmem] at hlt
        simp at hlt
  · rintro rfl
    rw [surplus_main]
    rcases hfs with rfl | rfl <;> simp

/-- Of a repeated key there is only one label. -/
private theorem keyedApart_repeated : KeyedApart (Surplus [generatorKey, generatorKey] fs) := by
  intro p q hp hq _
  rw [(surplus_repeated hfs p).mp hp, (surplus_repeated hfs q).mp hq]

end Repeated

namespace Metrics

/-- Against an alphabet without the key, it is shown and is on one chain only. -/
theorem divergence_of_alphabets_empty :
    let shown := (comparingJob.divergenceStep []).perform answersRepeated (.empty .fsChain)
    KeyedApart (Surplus [generatorKey, generatorKey] []) ∧
      shown.Shows .alphabetDivergence (Surplus [generatorKey, generatorKey] []) ∧
      ∀ labels, labels ∈ shown.labelsOf .alphabetDivergence ↔
        OneSided [generatorKey, generatorKey] [] labels := by
  have hapart := keyedApart_repeated (.inl rfl)
  obtain ⟨hshows, -, hexact⟩ := divergence_of_alphabets comparingJob rfl []
    [generatorKey, generatorKey] answersRepeated rfl (.empty .fsChain)
  exact ⟨hapart, hshows, (hexact hapart).mpr fun k _ hk => absurd hk List.not_mem_nil⟩

/-- A key that stands once in one alphabet and twice in the other is shown as if it were on the other
chain only. -/
theorem divergence_of_repeated :
    let shown := (comparingJob.divergenceStep [generatorKey]).perform answersRepeated (.empty .fsChain)
    answersRepeated 0 .mainAlphabet = some [generatorKey, generatorKey] ∧
      (∀ labels, labels ∈ shown.labelsOf .alphabetDivergence ↔
        labels = ["main", generatorKey.toHex]) ∧
      ¬ OneSided [generatorKey, generatorKey] [generatorKey] ["main", generatorKey.toHex] := by
  intro shown
  have hshows : shown.Shows .alphabetDivergence
      (Surplus [generatorKey, generatorKey] [generatorKey]) :=
    shows_of_samples (samplesOf_divergenceStep rfl [generatorKey] rfl _)
      fun _ => mem_divergenceEntries
  refine ⟨rfl, fun labels => ?_, ?_⟩
  · rw [hshows.exact.mpr (keyedApart_repeated (.inr rfl)), surplus_repeated (.inr rfl)]
  · rw [oneSided_main]
    simp

end Metrics

end ChainGauge
