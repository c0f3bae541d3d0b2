import ChainGauge.Proofs.Scrape.Round
import ChainGauge.Proofs.ScriptHash.Forms
import ChainGauge.Proofs.Text.Utf8

/-!
# Tracked tokens

The tracker looks up each of its series in turn (`TrackedToken.series`) and sets those whose lookup
brought an amount. It comes last in both scrapes and asks the same number of questions whatever it
hears (`Round.lookups`). The families are never reset: after any iterations they show every series that
was ever found, each with the amount that was found last (`Metrics.samplesOf_tracked`). What is shown
after an iteration is what the iteration found exactly if everything that was shown before was found
again.

## Key results

- `Scrape.Tracks`: all that a part of the tracker asks and changes
- `Round.about_tracked`: what an iteration makes of the families, from the answers of its tracker
- `Metrics.samplesOf_tracked`: what the families show after any iterations
- `Metrics.tracked_after`: which series are shown, with which values, and when these are those of the
  last iteration
- `Metrics.tracked_stale`: a series that is shown although its lookup failed
-/

namespace ChainGauge

/-- The families of tracked tokens. -/
def trackedFamilies : List Family :=
  [.tokenBalance, .tokenSupply]

/-- A series that is tracked: its labels, and where its amount is looked up. -/
structure TrackedToken.Series where
  family : Family
  labels : List String
  source : Source
  deriving DecidableEq

open TrackedToken (Series)

/-- What is tracked of a token, in the order in which it is looked up. -/
def TrackedToken.series (t : TrackedToken) : List Series :=
  (t.accounts.map fun a => ⟨.tokenBalance, [t.label, t.symbol, t.hash.toHex, a.toAddress],
    .balance t.hash a⟩) ++
  if t.total then [⟨.tokenSupply, [t.label, t.symbol, t.hash.toHex], .supply t.hash⟩] else []

/-- The tokens that a scrape tracks. -/
def Job.tokens : Job → List TrackedToken
  | .fsChain job => job.tokens
  | .mainChain job => job.tokens

/-- All that a scrape tracks, in the order in which it is looked up. -/
def Job.series (job : Job) : List Series :=
  job.tokens.flatMap (·.series)

/-- The amount that an exchange brought. -/
def Exchange.amount? : Exchange → Option Float
  | ⟨.balance _ _, x⟩ | ⟨.supply _, x⟩ | ⟨.deposit _, x⟩ => x
  | _ => none

namespace TrackedToken.Series

variable (s : Series) (a : Answers)

/-- The lookup of a series. -/
def exchange : Exchange :=
  ⟨s.source, a 0 s.source⟩

/-- What the lookup of a series brings. -/
def lookup : Series × Option Float :=
  (s, (s.exchange a).amount?)

/-- The change that a lookup makes. -/
def update? (x : Series × Option Float) : Option Update :=
  x.2.map fun v => .set x.1.family x.1.labels v

end TrackedToken.Series

namespace Round

/-- The answers that are left for the tracker, the last stage of an iteration. -/
def tracked (r : Round) : Answers :=
  match r.job with
  | .fsChain _ => r.behind 8
  | .mainChain _ => r.behind 2

/-- What an iteration tracks, with the amount that the lookup of each series brought. -/
def lookups (r : Round) : List (Series × Option Float) :=
  r.tracked.each Series.lookup 1 r.job.series

/-- The labels of a family whose lookup brought an amount in an iteration, with that amount. -/
def found (r : Round) (f : Family) : List Entry :=
  r.lookups.filterMap fun (s, x) => if s.family = f then x.map fun v => (s.labels, v) else none

end Round

/-! ## What the tracker asks and changes -/

/-- A scrape looks up series in turn, and sets those that get an amount. -/
structure Scrape.Tracks (scrape : Scrape) (ss : List Series) : Prop where
  log : ∀ a, scrape.log a = a.each Series.exchange 1 ss
  updates : ∀ a, scrape.updates a = (a.each Series.lookup 1 ss).filterMap Series.update?
  left : ∀ a, scrape.left a = a.drop ss.length

namespace Scrape

variable {s t : Scrape} {xs ys : List Series}

/-- The end of a scrape tracks nothing. -/
private theorem tracks_done : Scrape.done.Tracks [] :=
  ⟨fun _ => rfl, fun _ => rfl, fun _ => rfl⟩

/-- Who asks for an amount and sets what comes looks up one series. -/
private theorem tracks_ask (series : Series) {next : series.source.Answer → Scrape}
    (hnext : ∀ x, next x = whenSome (Exchange.amount? ⟨series.source, x⟩) fun v =>
      .put [.set series.family series.labels v]) :
    (Scrape.ask series.source next).Tracks [series] := by
  refine ⟨fun a => ?_, fun a => ?_, fun a => ?_⟩
  · rw [Scrape.log, hnext]
    cases Exchange.amount? ⟨series.source, a 0 series.source⟩ <;> rfl
  · have hlookup : (a.each Series.lookup 1 [series]).filterMap Series.update? =
        (Series.update? (series.lookup a)).toList := by
      rw [Answers.each, Answers.each, List.filterMap_cons]
      cases Series.update? (series.lookup a) <;> rfl
    -- An answer without an amount publishes nothing.
    rw [updates_ask, hnext, updates_whenSome, hlookup, Series.update?, Series.lookup, Series.exchange]
    cases Exchange.amount? ⟨series.source, a 0 series.source⟩ <;> rfl
  · rw [Scrape.left, hnext]
    cases Exchange.amount? ⟨series.source, a 0 series.source⟩ <;> rfl

/-- Scrapes in turn track the series of both. -/
private theorem tracks_andThen (hs : s.Tracks xs) (ht : t.Tracks ys) :
    (s.andThen t).Tracks (xs ++ ys) where
  log a := by rw [log_andThen, hs.log, ht.log, hs.left, Answers.each_append, Nat.one_mul]
  updates a := by
    rw [updates_andThen, hs.updates, ht.updates, hs.left, Answers.each_append, Nat.one_mul,
      List.filterMap_append]
  left a := by rw [left_andThen, hs.left, ht.left, Answers.drop_drop, List.length_append]

/-- So do any number of them. -/
private theorem tracks_inTurn {α : Type} {entries : List α} {scrape : α → Scrape}
    {series : α → List Series}
    (h : ∀ a ∈ entries, (scrape a).Tracks (series a)) :
    (inTurn (entries.map scrape)).Tracks (entries.flatMap series) := by
  induction entries with
  | nil => exact tracks_done
  | cons a entries ih =>
    obtain ⟨ha, hrest⟩ := List.forall_mem_cons.mp h
    exact tracks_andThen ha (ih hrest)

end Scrape

namespace TrackedToken

variable (t : TrackedToken)

/-- The balance of an account is one series. -/
private theorem tracks_balanceOf (a : ScriptHash) :
    (t.balanceOf a).Tracks [⟨.tokenBalance, [t.label, t.symbol, t.hash.toHex, a.toAddress],
      .balance t.hash a⟩] :=
  Scrape.tracks_ask ⟨_, _, .balance t.hash a⟩ fun _ => rfl

/-- The total supply is one series. -/
private theorem tracks_supply :
    t.supply.Tracks [⟨.tokenSupply, [t.label, t.symbol, t.hash.toHex], .supply t.hash⟩] :=
  Scrape.tracks_ask ⟨_, _, .supply t.hash⟩ fun _ => rfl

/-- A token tracks its own series. -/
private theorem tracks_scrape : t.scrape.Tracks t.series := by
  refine Scrape.tracks_andThen ?_ ?_
  · have hbalances := Scrape.tracks_inTurn fun a (_ : a ∈ t.accounts) => t.tracks_balanceOf a
    rwa [← List.map_eq_flatMap] at hbalances
  · split
    · exact t.tracks_supply
    · exact Scrape.tracks_done

end TrackedToken

/-- Tokens track theirs one after another. -/
private theorem tracks_trackTokens (tokens : List TrackedToken) :
    (trackTokens tokens).Tracks (tokens.flatMap (·.series)) :=
  Scrape.tracks_inTurn fun t _ => t.tracks_scrape

/-! ## One iteration -/

/-- The tokens are the last stage of both scrapes. -/
private theorem Round.exists_tracker (r : Round) :
    ∃ i, r.stages[i]? = some (.tokens r.job.tokens) ∧ r.stages.drop (i + 1) = [] ∧
      r.tracked = r.behind i := by
  obtain ⟨job | job, a, listing⟩ := r
  · exact ⟨8, rfl, rfl, rfl⟩
  · exact ⟨2, rfl, rfl, rfl⟩

namespace Round

variable (r : Round) {f : Family}

/-- The last exchanges of an iteration are the lookups of its series, one each. -/
private theorem log_tracked : r.tracked.each Series.exchange 1 r.job.series <:+ r.log := by
  obtain ⟨i, hstage, hlast, hanswers⟩ := r.exists_tracker
  obtain ⟨before, after, hlog, hothers⟩ := r.exists_log_eq hstage
  -- Nothing is asked behind the last stage.
  have hafter : after = [] := by
    refine List.eq_nil_iff_forall_not_mem.mpr fun e he => ?_
    exact (hothers fun _ => False).2 (by simp [hlast]) e he
  refine ⟨before, ?_⟩
  rw [hlog, hafter, List.append_nil, hanswers]
  exact congrArg (before ++ ·) ((tracks_trackTokens r.job.tokens).log _).symm

/-- An iteration sets what its tracker found, and nothing else of the families. -/
theorem about_tracked (hf : f ∈ trackedFamilies) :
    Update.about f r.updates = (r.found f).map fun e => .set f e.1 e.2 := by
  obtain ⟨i, hstage, -, hanswers⟩ := r.exists_tracker
  -- The tracker's stage publishes each lookup that found something, in order.
  have hupdates : (Stage.tokens r.job.tokens).scrape.updates r.tracked =
      r.lookups.filterMap Series.update? :=
    (tracks_trackTokens r.job.tokens).updates _
  rw [r.about_stage hstage hf, ← hanswers, hupdates, Update.about, List.filter_filterMap, found,
    List.map_filterMap]
  refine List.filterMap_congr ?_
  rintro ⟨s, x⟩ -
  cases x with
  | none => simp [Series.update?]
  | some v =>
    by_cases hs : s.family = f
    · simp [Series.update?, Update.family, hs]
    · simp [Series.update?, Update.family, hs]

/-- Every series has its own lookup. -/
private theorem map_fst_lookups : r.lookups.map (·.1) = r.job.series := by
  rw [lookups, Answers.map_each]
  exact (Answers.each_const ..).trans (List.map_id _)

/-- What is found is tracked. -/
private theorem exists_series_of_found {labels : List String} (h : labels ∈ (r.found f).map (·.1)) :
    ∃ s ∈ r.job.series, s.family = f ∧ s.labels = labels := by
  obtain ⟨e, he, rfl⟩ := List.mem_map.mp h
  obtain ⟨⟨s, x⟩, hmem, hfound⟩ := List.mem_filterMap.mp he
  have hseries : s ∈ r.job.series := by
    rw [← r.map_fst_lookups]
    exact List.mem_map_of_mem hmem
  refine ⟨s, hseries, ?_⟩
  dsimp only at hfound
  -- What is found of a family was looked up under a series of that family.
  split at hfound
  · rename_i hfamily
    obtain ⟨v, -, rfl⟩ := Option.map_eq_some_iff.mp hfound
    exact ⟨hfamily, rfl⟩
  · exact nomatch hfound

end Round

/-! ## Series of different tokens -/

/-- No two script hashes have the same digits. -/
theorem ScriptHash.toHex_injective : Function.Injective toHex := by
  intro h k heq
  have hbytes : h.bytes = k.bytes := List.reverse_injective (Hex.encode_injective heq)
  cases h
  cases k
  cases hbytes
  rfl

/-- A script hash has forty digits. -/
private theorem ScriptHash.length_toHex (h : ScriptHash) : h.toHex.length = 40 := by
  rw [← String.length_toList, toHex, Hex.length_encode, List.length_reverse, h.bytes_length]

/-- A text behind which one of a known length stands is told apart. -/
private theorem eq_of_append_of_length {p q : String × String} (h : p.1 ++ p.2 = q.1 ++ q.2)
    (hlength : p.2.length = q.2.length) : p = q := by
  have happend : p.1.toList ++ p.2.toList = q.1.toList ++ q.2.toList := by
    simpa using congrArg String.toList h
  obtain ⟨hfirst, hsecond⟩ := List.append_inj' happend (by
    rw [String.length_toList, String.length_toList, hlength])
  exact Prod.ext (String.toList_inj.mp hfirst) (String.toList_inj.mp hsecond)

/-- The bytes of label values, one behind the other, tell the text that they make. -/
private theorem join_eq_of_flatMap_encode {p q : List String}
    (h : p.flatMap Utf8.encode = q.flatMap Utf8.encode) : String.join p = String.join q := by
  have hjoin (p : List String) : p.flatMap Utf8.encode = Utf8.encode (String.join p) := by
    rw [Utf8.encode, String.toList_join, List.flatMap_assoc]
    rfl
  rw [hjoin, hjoin] at h
  exact injective_of_read Utf8.decode_encode h

namespace TrackedToken

variable {t t' : TrackedToken}

/-- Behind labels and symbols, a contract is told by its text; if it tells the symbol, that tells
the label. -/
private theorem eq_of_append (hsymbol : t.hash = t'.hash → t.symbol = t'.symbol)
    (h : t.label ++ t.symbol ++ t.hash.toHex = t'.label ++ t'.symbol ++ t'.hash.toHex) :
    t.label = t'.label ∧ t.symbol = t'.symbol ∧ t.hash = t'.hash := by
  have hcontract := eq_of_append_of_length
    (p := (t.label ++ t.symbol, t.hash.toHex)) (q := (t'.label ++ t'.symbol, t'.hash.toHex)) h
    (by rw [ScriptHash.length_toHex, ScriptHash.length_toHex])
  have hhash : t.hash = t'.hash := ScriptHash.toHex_injective (congrArg Prod.snd hcontract)
  have hlabel := eq_of_append_of_length (p := (t.label, t.symbol))
    (q := (t'.label, t'.symbol)) (congrArg Prod.fst hcontract) (by rw [hsymbol hhash])
  exact ⟨congrArg Prod.fst hlabel, hsymbol hhash, hhash⟩

/-- The series of a token: one for each account, and one for the total supply if it is asked for. -/
private theorem mem_series_iff {s : Series} :
    s ∈ t.series ↔
      (∃ a ∈ t.accounts, s = ⟨.tokenBalance, [t.label, t.symbol, t.hash.toHex, a.toAddress],
        .balance t.hash a⟩) ∨
      (t.total = true ∧ s = ⟨.tokenSupply, [t.label, t.symbol, t.hash.toHex], .supply t.hash⟩) := by
  rw [series, List.mem_append, List.mem_map]
  refine or_congr (exists_congr fun a => and_congr_right fun _ => eq_comm) ?_
  split <;> simp_all

/-- Where the contract tells the symbol, the text of a series tells its labels. -/
private theorem labels_eq_of_join (hsymbol : t.hash = t'.hash → t.symbol = t'.symbol)
    {s s' : Series}
    (hs : s ∈ t.series) (hs' : s' ∈ t'.series) (hfamily : s.family = s'.family)
    (hjoin : String.join s.labels = String.join s'.labels) : s.labels = s'.labels := by
  rcases mem_series_iff.mp hs with ⟨a, -, rfl⟩ | ⟨-, rfl⟩ <;>
    rcases mem_series_iff.mp hs' with ⟨a', -, rfl⟩ | ⟨-, rfl⟩
  -- An address and a hash are of fixed length, so they are cut off the end; what is left are the
  -- label and the symbol, and the symbol goes with the hash.
  · have haddress := eq_of_append_of_length
      (p := (t.label ++ t.symbol ++ t.hash.toHex, a.toAddress))
      (q := (t'.label ++ t'.symbol ++ t'.hash.toHex, a'.toAddress))
      (by simpa [String.join] using hjoin)
      (by rw [← String.length_toList, ← String.length_toList, ScriptHash.length_toAddress,
        ScriptHash.length_toAddress])
    obtain ⟨hlabel, hsym, hhash⟩ := eq_of_append hsymbol (congrArg Prod.fst haddress)
    rw [hlabel, hsym, hhash, show a.toAddress = a'.toAddress from congrArg Prod.snd haddress]
  · cases hfamily
  · cases hfamily
  · obtain ⟨hlabel, hsym, hhash⟩ := eq_of_append hsymbol (by simpa [String.join] using hjoin)
    rw [hlabel, hsym, hhash]

end TrackedToken

/-! ## After several iterations -/

namespace Metrics

variable {m : Metrics} {f : Family}

/-- After any iterations a family of tracked tokens shows all that was ever found. -/
theorem samplesOf_tracked (hm : m.samplesOf f = []) (hf : f ∈ trackedFamilies)
    (rounds : List Round) :
    (m.after rounds).samplesOf f = Sample.collect f (rounds.flatMap (·.found f)) := by
  induction rounds using List.reverseRecOn with
  | nil => exact hm
  | append_singleton rounds r ih =>
    rw [after_concat, samplesOf_run, ih, r.about_tracked hf, List.flatMap_append,
      List.flatMap_singleton]
    simp [refill, Sample.collect, Update.on, List.foldl_map]

/-- After any iterations, whatever jobs they ran and whatever was answered in them: the last exchanges of
an iteration are the lookups of its series, one each. A family of tracked tokens keeps all series that
were shown before and adds those that were found, unless they have the keys of others; a series has the
value that was found last. So exactly what the iteration found is shown if and only if it found all that
was shown before and its labels are told apart by their keys; where the contracts tell the symbols, only
the hash can make two keys the same. -/
theorem tracked_after (m : Metrics) (hm : ∀ f ∈ trackedFamilies, m.samplesOf f = [])
    (rounds : List Round) (r : Round) :
    r.lookups.map (·.1) = r.job.series ∧
    r.tracked.each Series.exchange 1 r.job.series <:+ r.log ∧
    ∀ f ∈ trackedFamilies,
      let shown := (m.after rounds).labelsOf f
      let now := (m.after (rounds ++ [r])).labelsOf f
      let found := (r.found f).map (·.1)
      (∃ added, now = shown ++ added ∧ ∀ labels ∈ added, labels ∈ found) ∧
      (∀ labels ∈ found, ∃ labels' ∈ now, seriesKey labels' = seriesKey labels) ∧
      (∀ labels, (m.after (rounds ++ [r])).value? f labels =
        (((rounds ++ [r]).flatMap (·.found f)).reverse.find?
          (seriesKey ·.1 = seriesKey labels)).map (·.2)) ∧
      ((∀ labels, labels ∈ now ↔ labels ∈ found) ↔ (∀ labels ∈ shown, labels ∈ found) ∧
        KeyedApart (· ∈ found)) ∧
      ((∀ t ∈ r.job.tokens, ∀ t' ∈ r.job.tokens, t.hash = t'.hash → t.symbol = t'.symbol) →
        ∀ p ∈ found, ∀ q ∈ found, p.flatMap Utf8.encode = q.flatMap Utf8.encode → p = q) := by
  refine ⟨r.map_fst_lookups, r.log_tracked, fun f hf => ?_⟩
  have hall := samplesOf_tracked (hm f hf) hf (rounds ++ [r])
  have hnow : (m.after (rounds ++ [r])).labelsOf f =
      (Sample.collect f (rounds.flatMap (·.found f) ++ r.found f)).map (·.labels) := by
    rw [labelsOf, hall, List.flatMap_append, List.flatMap_singleton]
  have hshown : (m.after rounds).labelsOf f =
      (Sample.collect f (rounds.flatMap (·.found f))).map (·.labels) := by
    rw [labelsOf, samplesOf_tracked (hm f hf) hf rounds]
  simp only [hnow, hshown]
  -- Nothing is reset, so the family holds what all rounds together have found.
  refine ⟨Sample.exists_labels_collect_append .., fun labels hfound => ?_, fun labels => ?_, ?_,
    fun hsymbol p hp q hq hbytes => ?_⟩
  · have hmem : labels ∈ (rounds.flatMap (·.found f) ++ r.found f).map (·.1) := by
      rw [List.map_append]
      exact List.mem_append_right _ hfound
    obtain ⟨s, hs, hkey⟩ := Sample.exists_mem_collect (f := f) hmem
    exact ⟨s.labels, List.mem_map_of_mem hs, hkey⟩
  · rw [value?, hall]
    exact Sample.find?_collect ..
  · rw [Sample.labels_collect_append_exact_iff]
    exact and_congr_right fun _ =>
      ⟨fun h p q hp hq => h p hp q hq, fun h p hp q hq => h p q hp hq⟩
  · obtain ⟨s, hs, rfl, rfl⟩ := r.exists_series_of_found hp
    obtain ⟨s', hs', hfamily, rfl⟩ := r.exists_series_of_found hq
    obtain ⟨t, ht, hst⟩ := List.mem_flatMap.mp hs
    obtain ⟨t', ht', hst'⟩ := List.mem_flatMap.mp hs'
    exact TrackedToken.labels_eq_of_join (hsymbol t ht t' ht') hst hst' hfamily.symm
      (join_eq_of_flatMap_encode hbytes)

/-- Gas as it is tracked for one account. -/
def gasTask : TrackedToken := ⟨"GAS", .gas, [.zero], true, "treasury"⟩

/-- An iteration on the main chain that tracks gas, with the same amount for every balance and
supply. -/
def gasRound (amount : Option Float) : Round where
  job := .mainChain ⟨none, [gasTask]⟩
  answers := .always fun
    | .balance _ _ | .supply _ => amount
    | source => source.unanswered

/-- The first iteration shows what it found. -/
theorem tracked_after_first :
    (∀ f ∈ trackedFamilies, (empty .mainChain).samplesOf f = []) ∧
    ∀ labels, labels ∈ ((empty .mainChain).after ([] ++ [gasRound (some 1)])).labelsOf .tokenSupply ↔
      labels = ["treasury", "GAS", ScriptHash.gas.toHex] := by
  have hm : ∀ f ∈ trackedFamilies, (empty .mainChain).samplesOf f = [] :=
    List.forall_mem_cons.mpr ⟨rfl, List.forall_mem_cons.mpr ⟨rfl, fun f h => nomatch h⟩⟩
  obtain ⟨-, -, hfamilies⟩ := tracked_after (empty .mainChain) hm [] (gasRound (some 1))
  obtain ⟨-, -, -, hexact, -⟩ := hfamilies .tokenSupply (by decide)
  have hfound : ((gasRound (some 1)).found .tokenSupply).map (·.1) =
      [["treasury", "GAS", ScriptHash.gas.toHex]] := rfl
  have hkeys : KeyedApart (· ∈ ((gasRound (some 1)).found .tokenSupply).map (·.1)) := by
    intro p q hp hq _
    rw [hfound] at hp hq
    rw [List.mem_singleton.mp hp, List.mem_singleton.mp hq]
  have hbefore : ((empty .mainChain).after []).labelsOf .tokenSupply = [] := rfl
  have hnow := hexact.mpr ⟨by simp [hbefore], hkeys⟩
  refine ⟨hm, fun labels => ?_⟩
  rw [hnow, hfound, List.mem_singleton]

/-- Where no lookup brings anything the second time, both series of the first time are still shown. -/
theorem tracked_stale :
    let rounds := [gasRound (some 1), gasRound none]
    let m := (empty .mainChain).after rounds
    (gasRound none).found .tokenBalance = [] ∧ (gasRound none).found .tokenSupply = [] ∧
    m.labelsOf .tokenBalance =
      [["treasury", "GAS", ScriptHash.gas.toHex, ScriptHash.zero.toAddress]] ∧
    m.labelsOf .tokenSupply = [["treasury", "GAS", ScriptHash.gas.toHex]] :=
  ⟨rfl, rfl, rfl, rfl⟩

end Metrics

end ChainGauge
