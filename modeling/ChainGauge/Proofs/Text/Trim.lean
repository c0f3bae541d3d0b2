import ChainGauge.Text.Split
import Mathlib.Data.List.DropRight

/-!
# Blanks around a text

What `Text.trim` leaves has no blank at either end, so trimming once is enough, and a text without
any blank stays as it is.
-/

namespace ChainGauge.Text

/-- Trimming drops blanks in front, then those behind. -/
private theorem trim_eq (s : String) :
    trim s = String.ofList ((s.toList.dropWhile isBlank).rdropWhile isBlank) := rfl

/-- Without blanks behind it, a list that had none in front has none in front either. -/
private theorem dropWhile_rdropWhile {α : Type} (p : α → Bool) (l : List α) :
    ((l.dropWhile p).rdropWhile p).dropWhile p = (l.dropWhile p).rdropWhile p := by
  refine List.dropWhile_eq_self_iff.mpr fun hpos => ?_
  have hpart := List.rdropWhile_prefix p (l.dropWhile p)
  have hpos' : 0 < (l.dropWhile p).length := Nat.lt_of_lt_of_le hpos hpart.length_le
  rw [hpart.getElem hpos]
  exact List.dropWhile_get_zero_not p l hpos'

/-- Nothing is left to trim behind trimming. -/
@[simp] theorem trim_trim (s : String) : trim (trim s) = trim s := by
  rw [trim_eq (trim s), trim_eq s, String.toList_ofList, dropWhile_rdropWhile,
    List.rdropWhile_idempotent]

/-- A text without any blank stays as it is. -/
theorem trim_eq_self {s : String} (h : ∀ c ∈ s.toList, isBlank c = false) : trim s = s := by
  have hfront : s.toList.dropWhile isBlank = s.toList :=
    List.dropWhile_eq_self_iff.mpr fun hpos => by
      rw [h _ (List.getElem_mem hpos)]
      exact Bool.false_ne_true
  have hback : s.toList.rdropWhile isBlank = s.toList :=
    List.rdropWhile_eq_self_iff.mpr fun hne => by
      rw [h _ (List.getLast_mem hne)]
      exact Bool.false_ne_true
  rw [trim_eq, hfront, hback, String.ofList_toList]

end ChainGauge.Text
