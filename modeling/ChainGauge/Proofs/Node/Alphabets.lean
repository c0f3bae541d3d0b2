import ChainGauge.Node.Membership
import Mathlib.Data.List.Lattice

/-!
# What stands in one alphabet only

The walk along two lists uses up an entry on both sides for each match, so what it keeps are the
differences of the lists as multisets (`count_unique`). It is right because its lists are sorted: what
is smaller than the head of a list does not occur in that list any more. What it keeps is sorted too,
so the counts of the entries tell all of it (`unique_differences`).
-/

namespace ChainGauge.Membership

variable {as bs : List String}

/-! ## The walk -/

/-- What is smaller than the head of a sorted list does not occur in it. -/
private theorem count_eq_zero_of_lt {x b : String} (hlt : x < b) (hb : (b :: bs).Pairwise (· ≤ ·)) :
    (b :: bs).count x = 0 := by
  refine List.count_eq_zero.mpr fun hx => ?_
  have hle : b ≤ x := by
    rcases List.mem_cons.mp hx with rfl | hx
    · exact String.le_refl x
    · exact (List.pairwise_cons.mp hb).1 x hx
  exact String.not_lt.mpr hle hlt

/-- The walk keeps a text as often as it stands more often on one side. -/
private theorem count_walk (ha : as.Pairwise (· ≤ ·)) (hb : bs.Pairwise (· ≤ ·)) (x : String) :
    (walk as bs).1.count x = as.count x - bs.count x ∧
      (walk as bs).2.count x = bs.count x - as.count x := by
  fun_induction walk as bs with
  | case1 bs => simp
  | case2 as _ => simp
  | case3 as b bs ih =>
    -- A match uses up one entry on each side, which leaves the difference as it is.
    obtain ⟨hfirst, hsecond⟩ := ih ha.of_cons hb.of_cons
    simp only [List.count_cons]
    omega
  | case4 a as b bs hne hlt l r hwalk ih =>
    obtain ⟨hfirst, hsecond⟩ := ih ha.of_cons hb
    simp only [hwalk] at hfirst hsecond
    -- The smaller head has no match on the other side, so it counts there as it stands.
    have habsent := count_eq_zero_of_lt hlt hb
    by_cases hx : a = x
    · subst hx
      simp only [List.count_cons_self]
      omega
    · simp only [List.count_cons_of_ne hx]
      exact ⟨hfirst, hsecond⟩
  | case5 a as b bs hne hge l r hwalk ih =>
    obtain ⟨hfirst, hsecond⟩ := ih ha hb.of_cons
    simp only [hwalk] at hfirst hsecond
    have hlt : b < a := by
      refine Decidable.byContradiction fun hle => hne ?_
      exact String.le_antisymm (String.not_lt.mp hle) (String.not_lt.mp hge)
    have habsent := count_eq_zero_of_lt hlt ha
    by_cases hx : b = x
    · subst hx
      simp only [List.count_cons_self]
      omega
    · simp only [List.count_cons_of_ne hx]
      exact ⟨hfirst, hsecond⟩

/-- The walk takes entries out of the lists and leaves their order. -/
private theorem sublist_walk (as bs : List String) :
    (walk as bs).1.Sublist as ∧ (walk as bs).2.Sublist bs := by
  -- By the walk's own cases: what it reports it takes from one of the two lists, in order.
  fun_induction walk as bs with
  | case1 bs => exact ⟨.slnil, .refl bs⟩
  | case2 as _ => exact ⟨.refl as, .slnil⟩
  | case3 as b bs ih => exact ⟨ih.1.cons b, ih.2.cons b⟩
  | case4 a as b bs hne hlt l r hwalk ih =>
    rw [hwalk] at ih
    exact ⟨ih.1.cons_cons a, ih.2⟩
  | case5 a as b bs hne hge l r hwalk ih =>
    rw [hwalk] at ih
    exact ⟨ih.1, ih.2.cons_cons b⟩

/-! ## Lists in order -/

/-- Sorting keeps every text. -/
private theorem perm_sorted (list : List String) : (sorted list).Perm list :=
  List.mergeSort_perm list _

/-- A sorted list is in order. -/
private theorem pairwise_sorted (list : List String) : (sorted list).Pairwise (· ≤ ·) := by
  have htrans : ∀ a b c : String, decide (a ≤ b) = true → decide (b ≤ c) = true →
      decide (a ≤ c) = true := by
    simpa using fun a b c => String.le_trans
  have htotal : ∀ a b : String, (decide (a ≤ b) || decide (b ≤ a)) = true := by
    simpa using String.le_total
  have hsorted := List.pairwise_mergeSort htrans htotal list
  simpa [sorted] using hsorted

/-- A list counts as sorted exactly if it is in order. -/
theorem isSorted_iff {list : List String} : isSorted list = true ↔ list.Pairwise (· ≤ ·) := by
  fun_induction isSorted list with
  | case1 a b rest ih =>
    rw [Bool.and_eq_true, decide_eq_true_eq, ih]
    constructor
    -- Only neighbours are compared; by transitivity the head is below everything behind it.
    · rintro ⟨hab, hrest⟩
      refine List.pairwise_cons.mpr ⟨fun c hc => ?_, hrest⟩
      rcases List.mem_cons.mp hc with rfl | hc
      · exact hab
      · exact String.le_trans hab ((List.pairwise_cons.mp hrest).1 c hc)
    · intro h
      exact ⟨(List.pairwise_cons.mp h).1 b List.mem_cons_self, h.of_cons⟩
  | case2 list hshort =>
    refine iff_of_true rfl ?_
    rcases list with _ | ⟨a, _ | ⟨b, rest⟩⟩
    · exact .nil
    · exact List.pairwise_singleton _ a
    · exact (hshort a b rest rfl).elim

/-- A list that is in order is what sorting makes of it. -/
private theorem ensureSorted_eq (list : List String) : ensureSorted list = sorted list := by
  unfold ensureSorted
  split
  · rename_i h
    refine (List.mergeSort_of_pairwise ?_).symm
    simpa using isSorted_iff.mp h
  · rfl

/-- Lists in order with the same entries are the same. -/
private theorem eq_of_count (ha : as.Pairwise (· ≤ ·)) (hb : bs.Pairwise (· ≤ ·))
    (h : ∀ x, as.count x = bs.count x) : as = bs :=
  List.Perm.eq_of_pairwise (fun _ _ _ _ => String.le_antisymm) ha hb (List.perm_iff_count.mpr h)

/-! ## What stands in one list only -/

/-- The differences are those of a walk over the sorted lists. -/
private theorem unique_eq (as bs : List String) : unique as bs = walk (sorted as) (sorted bs) := by
  rw [unique, ensureSorted_eq, ensureSorted_eq]

/-- Each text is kept on a side as often as it stands there more often than on the other side. -/
theorem count_unique (as bs : List String) (x : String) :
    (unique as bs).1.count x = as.count x - bs.count x ∧
      (unique as bs).2.count x = bs.count x - as.count x := by
  rw [unique_eq]
  have hwalk := count_walk (pairwise_sorted as) (pairwise_sorted bs) x
  rwa [(perm_sorted as).count_eq, (perm_sorted bs).count_eq] at hwalk

/-- Both differences are in order. -/
private theorem pairwise_unique (as bs : List String) :
    (unique as bs).1.Pairwise (· ≤ ·) ∧ (unique as bs).2.Pairwise (· ≤ ·) := by
  rw [unique_eq]
  obtain ⟨hfirst, hsecond⟩ := sublist_walk (sorted as) (sorted bs)
  exact ⟨(pairwise_sorted as).sublist hfirst, (pairwise_sorted bs).sublist hsecond⟩

/-- What two lists have each alone is told by how often each text stands in them. -/
private theorem unique_eq_iff {l r : List String} :
    unique as bs = (l, r) ↔ l.Pairwise (· ≤ ·) ∧ r.Pairwise (· ≤ ·) ∧
      ∀ x, l.count x = as.count x - bs.count x ∧ r.count x = bs.count x - as.count x := by
  have hcount := count_unique as bs
  constructor
  · intro h
    have hsorted := pairwise_unique as bs
    rw [h] at hsorted hcount
    exact ⟨hsorted.1, hsorted.2, hcount⟩
  · rintro ⟨hl, hr, h⟩
    have hsorted := pairwise_unique as bs
    -- A sorted list is determined by how often each string stands in it.
    refine Prod.ext (eq_of_count hsorted.1 hl fun x => ?_) (eq_of_count hsorted.2 hr fun x => ?_)
    · exact (hcount x).1.trans (h x).1.symm
    · exact (hcount x).2.trans (h x).2.symm

/-- Exchanging the lists exchanges what they have alone. -/
private theorem unique_swap (as bs : List String) : unique bs as = (unique as bs).swap := by
  obtain ⟨hfirst, hsecond⟩ := pairwise_unique as bs
  exact unique_eq_iff.mpr ⟨hsecond, hfirst, fun x => (count_unique as bs x).symm⟩

/-- The order of the lists does not matter. -/
private theorem unique_congr {as' bs' : List String} (ha : as'.Perm as) (hb : bs'.Perm bs) :
    unique as' bs' = unique as bs := by
  obtain ⟨hfirst, hsecond⟩ := pairwise_unique as bs
  refine unique_eq_iff.mpr ⟨hfirst, hsecond, fun x => ?_⟩
  rw [ha.count_eq, hb.count_eq]
  exact count_unique as bs x

/-- What a list has alone and what it has in common with another list are together the list. -/
private theorem unique_append_bagInter_perm (as bs : List String) :
    ((unique as bs).1 ++ as.bagInter bs).Perm as ∧ ((unique as bs).2 ++ as.bagInter bs).Perm bs := by
  constructor
  · refine List.perm_iff_count.mpr fun x => ?_
    rw [List.count_append, (count_unique as bs x).1, List.count_bagInter]
    omega
  · refine List.perm_iff_count.mpr fun x => ?_
    rw [List.count_append, (count_unique as bs x).2, List.count_bagInter]
    omega

/-- What two lists have each alone are their differences as multisets, whether they are sorted or not
and whatever texts are repeated: each text stands on a side as often as that list has it more often.
Both sides are in ascending order; the order of the lists does not matter, and exchanging them exchanges
the sides. The common entries make either side the whole list again. -/
theorem unique_differences (as bs : List String) :
    (∀ x, (unique as bs).1.count x = as.count x - bs.count x ∧
      (unique as bs).2.count x = bs.count x - as.count x) ∧
    (unique as bs).1.Pairwise (· ≤ ·) ∧ (unique as bs).2.Pairwise (· ≤ ·) ∧
    (∀ as' bs', as'.Perm as → bs'.Perm bs → unique as' bs' = unique as bs) ∧
    unique bs as = (unique as bs).swap ∧
    ∃ common : List String, (∀ x, common.count x = min (as.count x) (bs.count x)) ∧
      ((unique as bs).1 ++ common).Perm as ∧ ((unique as bs).2 ++ common).Perm bs := by
  obtain ⟨hfirst, hsecond⟩ := pairwise_unique as bs
  exact ⟨count_unique as bs, hfirst, hsecond, fun as' bs' => unique_congr, unique_swap as bs,
    as.bagInter bs, fun x => List.count_bagInter, unique_append_bagInter_perm as bs⟩

end ChainGauge.Membership
