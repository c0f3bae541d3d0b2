import ChainGauge.Proofs.Scrape.Round

/-!
# A scrape that is cut off

A scrape can be cut off at any of its questions. The changes made until then are the first of those
that it would have made. Families that every course changes at one place at most (`Scrape.Once`) are
therefore either as before or as after the whole scrape, and all on the same side.

## Key results

- `Scrape.log_upTo`, `Scrape.updates_upTo`: the questions and changes of a scrape that is cut off
  are the first of all
- `Scrape.Once.upTo`: families that are changed at one place change together or not at all
- `Job.whole_or_untouched`: no cut leaves a family half filled
-/

namespace ChainGauge

/-- The changes that are about some families. -/
def Update.among (families : List Family) (updates : List Update) : List Update :=
  updates.filter (·.family ∈ families)

namespace Update

variable {families : List Family} {f : Family} {us vs : List Update}

/-- Changes in turn are about families in turn. -/
private theorem among_append (families : List Family) (us vs : List Update) :
    among families (us ++ vs) = among families us ++ among families vs :=
  List.filter_append ..

/-- Changes of other families are not among them. -/
private theorem among_eq_nil (h : ∀ u ∈ us, u.family ∉ families) : among families us = [] := by
  rw [among, List.filter_eq_nil_iff]
  simpa using h

/-- The changes of a family are told by those of families that it is one of. -/
private theorem about_among (hf : f ∈ families) (us : List Update) :
    about f (among families us) = about f us := by
  rw [about, among, List.filter_filter, about]
  refine List.filter_congr fun u _ => ?_
  by_cases hu : u.family = f <;> simp [hu, hf]

/-- Changes that agree on families agree on each of them. -/
private theorem about_eq_of_among_eq (h : among families us = among families vs)
    (hf : f ∈ families) :
    about f us = about f vs := by
  rw [← about_among hf us, h, about_among hf vs]

end Update

namespace Scrape

variable {families : List Family} {s t : Scrape} {scrapes : List Scrape}

/-- The changes of a scrape that is cut off are the first of all its changes. -/
theorem updates_upTo (s : Scrape) (n : Nat) (a : Answers) :
    (s.upTo n).updates a <+: s.updates a := by
  induction s generalizing n a with
  | done => simp [upTo]
  | ask source next ih =>
    cases n with
    | zero => exact List.nil_prefix
    | succ n => exact ih (a 0 source) n (a.drop 1)
  | publish us next ih =>
    rw [upTo, updates, updates]
    exact (List.prefix_append_right_inj us).mpr (ih n a)

/-- A scrape that is cut off has asked its first questions. -/
theorem log_upTo (s : Scrape) (n : Nat) (a : Answers) :
    (s.upTo n).log a = (s.log a).take n := by
  induction s generalizing n a with
  | done => simp [upTo, log]
  | ask source next ih =>
    cases n with
    | zero => rfl
    | succ n => exact congrArg _ (ih (a 0 source) n (a.drop 1))
  | publish us next ih => exact ih n a

/-! ## Families that are changed at one place -/

/-- Whatever a scrape hears, it leaves some families alone. -/
def Avoids (families : List Family) : Scrape → Prop
  | .done => True
  | .ask _ next => ∀ x, (next x).Avoids families
  | .publish us next => (∀ u ∈ us, u.family ∉ families) ∧ next.Avoids families

/-- Whatever a scrape hears, it changes some families at one place at most. -/
def Once (families : List Family) : Scrape → Prop
  | .done => True
  | .ask _ next => ∀ x, (next x).Once families
  | .publish us next =>
    next.Once families ∧ ((∀ u ∈ us, u.family ∉ families) ∨ next.Avoids families)

/-- A scrape that writes other families avoids these. -/
private theorem Writes.avoids {others : List Family} (h : s.Writes others)
    (hothers : ∀ f ∈ others, f ∉ families) : s.Avoids families := by
  induction s with
  | done => trivial
  | ask source next ih => exact fun x => ih x (h x)
  | publish us next ih => exact ⟨fun u hu => hothers _ (h.1 u hu), ih h.2⟩

/-- A scrape that avoids families does not change them. -/
private theorem Avoids.among_eq_nil (h : s.Avoids families) (a : Answers) :
    Update.among families (s.updates a) = [] := by
  induction s generalizing a with
  | done => rfl
  | ask source next ih => exact ih _ (h _) _
  | publish us next ih =>
    rw [updates, Update.among_append, Update.among_eq_nil h.1, ih h.2, List.nil_append]

/-- What never changes families changes them at most in one place. -/
theorem Avoids.once (h : s.Avoids families) : s.Once families := by
  induction s with
  | done => trivial
  | ask source next ih => exact fun x => ih x (h x)
  | publish us next ih => exact ⟨ih h.2, .inl h.1⟩

/-- Families that are changed at one place change together or not at all, wherever a scrape is cut
off. -/
theorem Once.upTo (h : s.Once families) (n : Nat) (a : Answers) :
    Update.among families ((s.upTo n).updates a) = [] ∨
      Update.among families ((s.upTo n).updates a) = Update.among families (s.updates a) := by
  induction s generalizing n a with
  | done => exact .inl (by simp [Scrape.upTo, updates, Update.among])
  | ask source next ih =>
    cases n with
    | zero => exact .inl rfl
    | succ n => exact ih (a 0 source) (h _) n (a.drop 1)
  | publish us next ih =>
    rw [Scrape.upTo, updates, updates, Update.among_append, Update.among_append]
    -- Here the families are published, or not at all behind it.
    rcases h.2 with hbefore | hbehind
    · rw [Update.among_eq_nil hbefore, List.nil_append, List.nil_append]
      exact ih h.1 n a
    · -- What is behind this place changes nothing, and so does the part of it before the cut.
      have hall := hbehind.among_eq_nil a
      have hpart : Update.among families ((next.upTo n).updates a) = [] := by
        have hprefix := (updates_upTo next n a).filter (·.family ∈ families)
        rw [← Update.among, ← Update.among, hall] at hprefix
        exact List.prefix_nil.mp hprefix
      exact .inr (by rw [hall, hpart])

/-- One publication is one place. -/
private theorem once_put (us : List Update) : (put us).Once families :=
  ⟨trivial, .inr trivial⟩

/-- An answer that decides what comes next is no place. -/
private theorem once_whenSome {α : Type} {answer : Option α} {next : α → Scrape}
    (h : ∀ a, (next a).Once families) : (whenSome answer next).Once families := by
  cases answer with
  | none => trivial
  | some a => exact h a

/-- Questions for entries are no places, however many there are. -/
private theorem once_askEach {α β : Type} {entries : List α} {ask : α → (β → Scrape) → Scrape}
    {next : List β → Scrape}
    (hask : ∀ a next, (∀ b, (next b).Once families) → (ask a next).Once families)
    (hnext : ∀ bs, (next bs).Once families) : (askEach entries ask next).Once families := by
  induction entries generalizing next with
  | nil => exact hnext []
  | cons a entries ih => exact hask a _ fun b => ih fun bs => hnext (b :: bs)

/-- Scrapes in turn avoid families if both do. -/
private theorem avoids_andThen (hs : s.Avoids families) (ht : t.Avoids families) :
    (s.andThen t).Avoids families := by
  induction s with
  | done => exact ht
  | ask source next ih => exact fun x => ih x (hs x)
  | publish us next ih => exact ⟨hs.1, ih hs.2⟩

/-- So do any number of them. -/
private theorem avoids_inTurn (h : ∀ s ∈ scrapes, s.Avoids families) :
    (inTurn scrapes).Avoids families := by
  induction scrapes with
  | nil => trivial
  | cons s scrapes ih =>
    obtain ⟨hs, hrest⟩ := List.forall_mem_cons.mp h
    exact avoids_andThen hs (ih hrest)

/-- Of two scrapes in turn one at most may change the families. -/
private theorem once_andThen (hs : s.Once families) (ht : t.Once families)
    (h : s.Avoids families ∨ t.Avoids families) : (s.andThen t).Once families := by
  induction s with
  | done => exact ht
  | ask source next ih => exact fun x => ih x (hs x) (h.imp_left fun hs => hs x)
  | publish us next ih =>
    refine ⟨ih hs.1 (h.imp_left fun hs => hs.2), ?_⟩
    rcases h with havoids | ht'
    · exact .inl havoids.1
    · exact hs.2.imp_right fun hnext => avoids_andThen hnext ht'

/-- Of scrapes in turn only one may change the families, and that in one place. -/
private theorem once_inTurn (honce : ∀ s ∈ scrapes, s.Once families)
    (hone : scrapes.Pairwise fun s t => s.Avoids families ∨ t.Avoids families) :
    (inTurn scrapes).Once families := by
  induction scrapes with
  | nil => trivial
  | cons s scrapes ih =>
    obtain ⟨hs, hrest⟩ := List.forall_mem_cons.mp honce
    obtain ⟨hfirst, hone⟩ := List.pairwise_cons.mp hone
    refine once_andThen hs (ih hrest hone) ?_
    -- If the first scrape can change the families, then none behind it can.
    by_cases havoids : s.Avoids families
    · exact .inl havoids
    · exact .inr (avoids_inTurn fun t ht => (hfirst t ht).resolve_left havoids)

end Scrape

/-! ## The steps of both scrapes -/

section Steps

variable {families : List Family}

/-- What was looked up for keys is published in one place. -/
private theorem once_publishPerKey {listing : Listing} {family : Family}
    {source : ScriptHash → Source}
    {cast : (a : ScriptHash) → (source a).Answer → Option Float} {keys : List PublicKey} :
    (publishPerKey listing family source cast keys).Once families :=
  Scrape.once_askEach (fun _ _ hnext _ => hnext _) fun _ => Scrape.once_put _

/-- One of two scrapes with different families leaves a family alone. -/
private theorem avoids_or_avoids {s t : Scrape} {fs gs : List Family} (hs : s.Writes fs)
    (ht : t.Writes gs)
    (hapart : ∀ f ∈ fs, f ∉ gs) (f : Family) : s.Avoids [f] ∨ t.Avoids [f] := by
  by_cases hf : f ∈ fs
  · refine .inr (ht.avoids fun g hg hgf => hapart f hf ?_)
    rwa [← List.mem_singleton.mp hgf]
  · refine .inl (hs.avoids fun g hg hgf => hf ?_)
    rwa [← List.mem_singleton.mp hgf]

namespace FsChainJob

variable (job : FsChainJob) (listing : Listing)

/-- The nine families of the network map are published in one place. -/
private theorem once_netmapStep : (job.netmapStep listing).Once families :=
  fun _ => Scrape.once_whenSome fun _ _ => Scrape.once_whenSome fun _ =>
    Scrape.once_askEach (fun _ _ hnext _ _ => hnext _) fun _ => Scrape.once_put _

private theorem once_innerRingStep : (innerRingStep listing).Once families :=
  fun _ => Scrape.once_whenSome fun _ => once_publishPerKey

private theorem once_proxyStep : job.proxyStep.Once families :=
  Scrape.once_whenSome fun _ _ => Scrape.once_whenSome fun _ => Scrape.once_put _

private theorem once_supplyStep : job.supplyStep.Once families :=
  fun _ => Scrape.once_whenSome fun _ => Scrape.once_put _

private theorem once_containerTotalStep : containerTotalStep.Once families :=
  fun _ => Scrape.once_whenSome fun _ => Scrape.once_put _

private theorem once_containerUsageStep : containerUsageStep.Once families :=
  fun _ => Scrape.once_whenSome fun _ => Scrape.once_put _

/-- So is the divergence of alphabets. -/
private theorem once_divergenceStep (fs : List PublicKey) :
    (job.divergenceStep fs).Once families := by
  rw [divergenceStep]
  split
  · exact fun _ => Scrape.once_whenSome fun _ => Scrape.once_put _
  · trivial

/-- The keys, the deposits and the comparison are published one after another, each in a family of
its own. -/
private theorem once_alphabetStep (f : Family) : (job.alphabetStep listing).Once [f] := by
  refine fun keys => Scrape.once_whenSome fun keys => Scrape.once_inTurn ?_ ?_
  · simp only [List.forall_mem_cons, List.not_mem_nil, false_implies, implies_true, and_true]
    exact ⟨Scrape.once_put _, once_publishPerKey, job.once_divergenceStep keys⟩
  · have hkeys := writes_publishAlphabet keys
    have hdeposits : (publishDeposits listing .alphabetDeposit keys).Writes [.alphabetDeposit] :=
      writes_publishPerKey
    have hdivergence := job.writes_divergenceStep keys
    simp only [List.pairwise_cons, List.forall_mem_cons, List.not_mem_nil, false_implies,
      implies_true, and_true, List.Pairwise.nil]
    -- Of three places that write different families, at most one can be the family's own.
    exact ⟨⟨avoids_or_avoids hkeys hdeposits (by decide) f,
      avoids_or_avoids hkeys hdivergence (by decide) f⟩,
      avoids_or_avoids hdeposits hdivergence (by decide) f⟩

/-- The heights are published before the state roots are asked for, each in a family of its own. -/
private theorem once_heightStep (f : Family) : heightStep.Once [f] := by
  intro heights
  dsimp only
  split
  · trivial
  · refine ⟨Scrape.once_whenSome fun height roots => ?_, ?_⟩
    · dsimp only
      split
      · trivial
      · exact Scrape.once_put _
    -- The heights are published before the roots, in a family of their own.
    · by_cases hf : f = .chainHeight
      · refine .inr ((Scrape.writes_whenSome writes_rootStep).avoids ?_)
        rw [hf]
        decide
      · refine .inl fun u hu huf => hf ?_
        rw [← List.mem_singleton.mp huf, Update.family_of_mem_replacing hu]

end FsChainJob

namespace MainChainJob

variable (job : MainChainJob) (listing : Listing)

/-- Each family of the alphabet has one place of its own. -/
private theorem once_alphabetStep (f : Family) : (alphabetStep listing).Once [f] :=
  fun keys => Scrape.once_whenSome fun keys =>
    Scrape.once_andThen (Scrape.once_put _) once_publishPerKey
      (avoids_or_avoids (writes_publishAlphabet keys) writes_publishPerKey (by decide) f)

/-- On the main chain the supply has one place, too. -/
private theorem once_supplyStep : job.supplyStep.Once families :=
  Scrape.once_whenSome fun _ _ => Scrape.once_whenSome fun _ => Scrape.once_put _

end MainChainJob

end Steps

/-! ## Both scrapes -/

namespace Job

open FsChainJob (netmapFamilies)

/-- The families that are emptied and filled again by a scrape. -/
def refilled : List Family :=
  [.netmap, .nodeCapacity, .nodeBalance, .nodeDeposit, .candidate, .innerRingBalance,
    .alphabetPublicKey, .alphabetDeposit, .alphabetBalance, .alphabetDivergence, .containerSize,
    .containerObjects, .chainHeight, .chainState]

variable (job : Job) (listing : Listing)

/-- Families that one stage has, or none, are changed at one place if they are so in each stage. -/
private theorem once_of_stages {families : List Family}
    (hshare : ∀ t ∈ job.stages listing, families ⊆ t.families ∨ ∀ f ∈ t.families, f ∉ families)
    (honce : ∀ t ∈ job.stages listing, families ⊆ t.families → t.scrape.Once families) :
    (job.scrape listing).Once families := by
  have havoids {t : Stage} (hother : ∀ f ∈ t.families, f ∉ families) : t.scrape.Avoids families :=
    t.writes.avoids hother
  rw [scrape_eq_stages]
  -- Where one stage publishes the families, all the others keep away from them.
  refine Scrape.once_inTurn (fun s hs => ?_) ?_
  · obtain ⟨t, ht, rfl⟩ := List.mem_map.mp hs
    rcases hshare t ht with hsub | hother
    · exact honce t ht hsub
    · exact (havoids hother).once
  · refine List.pairwise_map.mpr ((job.stages_apart listing).imp_of_mem fun {s t} hs ht hapart => ?_)
    rcases hshare s hs with hsub | hother
    · exact .inr (havoids fun f hf hmem => hapart f (hsub hmem) hf)
    · exact .inl (havoids hother)

/-- Every family that is refilled has one place in the scrape. -/
private theorem once_refilled {f : Family} (hf : f ∈ refilled) : (job.scrape listing).Once [f] := by
  refine job.once_of_stages listing (fun t _ => ?_) ?_
  · by_cases hmem : f ∈ t.families
    · exact .inl (by simpa using hmem)
    · exact .inr fun g hg hgf => hmem (List.mem_singleton.mp hgf ▸ hg)
  -- The tracked tokens are published one by one, so their stage is left out: no refilled family is
  -- theirs.
  · have htokens : ¬ [f] ⊆ [Family.tokenBalance, .tokenSupply] := by
      revert f
      decide
    cases job with
    | fsChain job =>
      simp only [stages, List.forall_mem_cons, List.not_mem_nil, false_implies, implies_true,
        and_true]
      -- One per stage, in the order of `stages`.
      exact ⟨fun _ => job.once_netmapStep listing, fun _ => FsChainJob.once_innerRingStep listing,
        fun _ => job.once_proxyStep, fun _ => job.once_supplyStep,
        fun _ => job.once_alphabetStep listing f, fun _ => FsChainJob.once_containerTotalStep,
        fun _ => FsChainJob.once_containerUsageStep, fun _ => FsChainJob.once_heightStep f,
        fun h => absurd h htokens⟩
    | mainChain job =>
      simp only [stages, List.forall_mem_cons, List.not_mem_nil, false_implies, implies_true,
        and_true]
      exact ⟨fun _ => MainChainJob.once_alphabetStep listing f, fun _ => job.once_supplyStep,
        fun h => absurd h htokens⟩

/-- The families of the network map have one place together. -/
private theorem once_netmap : (job.scrape listing).Once netmapFamilies := by
  cases job with
  | fsChain job =>
    refine once_of_stages (.fsChain job) listing ?_ ?_ <;>
      simp only [stages, List.forall_mem_cons, List.not_mem_nil, false_implies, implies_true,
        and_true, FsChainJob.netmapStage, FsChainJob.innerRingStage, FsChainJob.proxyStage,
        FsChainJob.supplyStage, FsChainJob.alphabetStage, FsChainJob.containerTotalStage,
        FsChainJob.containerUsageStage, FsChainJob.heightStage, Stage.tokens]
    · decide
    -- Only the first stage publishes them.
    · exact ⟨fun _ => job.once_netmapStep listing, fun h => absurd h (by decide),
        fun h => absurd h (by decide), fun h => absurd h (by decide),
        fun h => absurd h (by decide), fun h => absurd h (by decide),
        fun h => absurd h (by decide), fun h => absurd h (by decide),
        fun h => absurd h (by decide)⟩
  | mainChain job =>
    refine once_of_stages (.mainChain job) listing ?_ ?_ <;>
      simp only [stages, List.forall_mem_cons, List.not_mem_nil, false_implies, implies_true,
        and_true, MainChainJob.alphabetStage, MainChainJob.supplyStage, Stage.tokens]
    · decide
    · exact ⟨fun h => absurd h (by decide), fun h => absurd h (by decide),
        fun h => absurd h (by decide)⟩

/-- Families that are changed at one place are, after a cut, all as before or all as after the whole
scrape. -/
private theorem whole_or_untouched_of_once {families : List Family} {scrape : Scrape}
    (h : scrape.Once families) (a : Answers) (n : Nat) (m : Metrics) :
    (∀ f ∈ families, ((scrape.upTo n).perform a m).samplesOf f = m.samplesOf f) ∨
    ∀ f ∈ families,
      ((scrape.upTo n).perform a m).samplesOf f = (scrape.perform a m).samplesOf f := by
  -- The samples of a family depend on the updates about it only.
  rcases h.upTo n a with hnone | hall
  · refine .inl fun f hf => ?_
    rw [Scrape.perform_eq, Metrics.samplesOf_applyAll, ← Update.about_among hf, hnone]
    rfl
  · refine .inr fun f hf => ?_
    rw [Scrape.perform_eq, Scrape.perform_eq, Metrics.samplesOf_applyAll,
      Metrics.samplesOf_applyAll, Update.about_eq_of_among_eq hall hf]

/-- A scrape that is cut off has asked its first questions. Wherever that is, each family that it fills
anew is as it was before or as the whole scrape makes it, and the families of the network map are all on
the same side. -/
theorem whole_or_untouched (a : Answers) (n : Nat) (m : Metrics) :
    let whole := job.scrape listing
    let part := whole.upTo n
    part.log a = (whole.log a).take n ∧
    (∀ f ∈ refilled,
      (part.perform a m).samplesOf f = m.samplesOf f ∨
      (part.perform a m).samplesOf f = (whole.perform a m).samplesOf f) ∧
    ((∀ f ∈ netmapFamilies, (part.perform a m).samplesOf f = m.samplesOf f) ∨
      ∀ f ∈ netmapFamilies,
        (part.perform a m).samplesOf f = (whole.perform a m).samplesOf f) := by
  intro whole part
  refine ⟨Scrape.log_upTo whole n a, fun f hf => ?_,
    whole_or_untouched_of_once (job.once_netmap listing) a n m⟩
  have hmem : f ∈ [f] := List.mem_singleton_self f
  exact (whole_or_untouched_of_once (job.once_refilled listing hf) a n m).imp (· f hmem) (· f hmem)

end Job

end ChainGauge
