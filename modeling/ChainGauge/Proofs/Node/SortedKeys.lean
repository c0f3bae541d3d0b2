import ChainGauge.Job.FsChain
import ChainGauge.Proofs.Node.Alphabets
import ChainGauge.Proofs.Text.Hex

/-!
# Keys in the order of their texts

Keys are sorted by their bytes and compared by their texts. The two orders are one, since the digits
of bytes keep the order of the bytes (`PublicKey.toHex_le_iff`). So what is sorted as keys is sorted as
texts, and the walk along two alphabets may start right away (`PublicKey.sortedHex_in_order`).
-/

namespace ChainGauge.PublicKey

variable {k l : PublicKey}

/-- Keys are in the order of their bytes. -/
private theorem le_iff : le k l = true ↔ k.bytes ≤ l.bytes :=
  decide_eq_true_iff

/-- The texts of keys are in the order of the keys. -/
theorem toHex_le_iff : k.toHex ≤ l.toHex ↔ le k l = true := by
  rw [le_iff, toHex, toHex, Hex.encode_le_iff]

/-- Sorted keys are in that order. -/
private theorem pairwise_mergeSort_le (keys : List PublicKey) :
    (keys.mergeSort le).Pairwise fun k l => le k l = true := by
  refine List.pairwise_mergeSort (fun a b c hab hbc => ?_) (fun a b => ?_) keys
  · rw [le_iff] at *
    exact List.le_trans hab hbc
  · rw [Bool.or_eq_true, le_iff, le_iff]
    exact List.le_total a.bytes b.bytes

private theorem pairwise_sortedHex (keys : List PublicKey) : (sortedHex keys).Pairwise (· ≤ ·) :=
  List.pairwise_map.mpr ((pairwise_mergeSort_le keys).imp toHex_le_iff.mpr)

private theorem isSorted_sortedHex (keys : List PublicKey) :
    Membership.isSorted (sortedHex keys) = true :=
  Membership.isSorted_iff.mpr (pairwise_sortedHex keys)

/-- The texts of sorted keys are taken as they are. -/
private theorem ensureSorted_sortedHex (keys : List PublicKey) :
    Membership.ensureSorted (sortedHex keys) = sortedHex keys :=
  if_pos (isSorted_sortedHex keys)

/-- Sorted keys have their own texts, in the order of texts, which is the order of the keys. So when two
alphabets are compared both lists are found in order, and what is published comes from the walk along
the lists as they are. -/
theorem sortedHex_in_order :
    (∀ k l : PublicKey, k.toHex ≤ l.toHex ↔ k.bytes ≤ l.bytes) ∧
    (∀ keys : List PublicKey, (sortedHex keys).Perm (keys.map toHex) ∧
      (sortedHex keys).Pairwise (· ≤ ·) ∧ Membership.isSorted (sortedHex keys) = true) ∧
    ∀ main fs : List PublicKey, FsChainJob.divergenceUpdates main fs =
      let (onlyMain, onlyFs) := Membership.walk (sortedHex main) (sortedHex fs)
      .reset .alphabetDivergence ::
        onlyMain.map (fun k => .set .alphabetDivergence ["main", k] 1) ++
        onlyFs.map (fun k => .set .alphabetDivergence ["fs", k] 1) := by
  refine ⟨fun k l => toHex_le_iff.trans le_iff, fun keys => ⟨?_, pairwise_sortedHex keys,
    isSorted_sortedHex keys⟩, fun main fs => ?_⟩
  · exact (List.mergeSort_perm keys le).map toHex
  · rw [FsChainJob.divergenceUpdates, FsChainJob.divergenceEntries, Membership.unique,
      ensureSorted_sortedHex, ensureSorted_sortedHex]
    simp [Update.replacing, Function.comp_def]

end ChainGauge.PublicKey
