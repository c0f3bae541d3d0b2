import ChainGauge.Text.Split
import Mathlib.Data.List.Basic

/-!
# Pieces of a text

Pieces between the places of a character do not have that character, and joined by it they are the
text again.
-/

namespace ChainGauge.Text

variable {c : Char} {mark cs front piece rest : List Char} {pieces : List (List Char)}

/-- There is always a piece. -/
private theorem splitAt_ne_nil (c : Char) (cs : List Char) : splitAt c cs ≠ [] := by
  cases cs with
  | nil => exact List.cons_ne_nil _ _
  | cons x xs =>
    rw [splitAt]
    split
    · exact List.cons_ne_nil _ _
    · split <;> exact List.cons_ne_nil _ _

/-- A mark in front splits off an empty piece. -/
private theorem splitAt_cons_self (c : Char) (cs : List Char) :
    splitAt c (c :: cs) = [] :: splitAt c cs := by
  rw [splitAt]
  split
  · rename_i h
    exact absurd h (splitAt_ne_nil c cs)
  · rename_i h
    rw [if_pos rfl, h]

/-- Any other character belongs to the first piece. -/
private theorem splitAt_cons_of_ne {x : Char} (hx : x ≠ c) (h : splitAt c cs = front :: pieces) :
    splitAt c (x :: cs) = (x :: front) :: pieces := by
  rw [splitAt, h]
  exact if_neg hx

/-- What stands in front of the first place is the first piece. -/
theorem splitAt_append (h : c ∉ front) (cs : List Char) :
    splitAt c (front ++ c :: cs) = front :: splitAt c cs := by
  induction front with
  | nil => exact splitAt_cons_self c cs
  | cons x front ih =>
    obtain ⟨hx, hfront⟩ := not_or.mp (mt List.mem_cons.mpr h)
    exact splitAt_cons_of_ne (Ne.symm hx) (ih hfront)

/-- Without a mark the text is one piece. -/
theorem splitAt_of_not_mem (h : c ∉ cs) : splitAt c cs = [cs] := by
  induction cs with
  | nil => rfl
  | cons x cs ih =>
    obtain ⟨hx, hcs⟩ := not_or.mp (mt List.mem_cons.mpr h)
    exact splitAt_cons_of_ne (Ne.symm hx) (ih hcs)

/-- The first piece stands in front of the first place, or there is no place. -/
theorem eq_of_splitAt_eq_cons (h : splitAt c cs = front :: pieces) :
    c ∉ front ∧ (pieces = [] ∧ cs = front ∨
      ∃ rest, cs = front ++ c :: rest ∧ splitAt c rest = pieces) := by
  induction cs generalizing front with
  | nil =>
    cases h
    exact ⟨List.not_mem_nil, .inl ⟨rfl, rfl⟩⟩
  | cons x cs ih =>
    by_cases hx : x = c
    · rw [hx, splitAt_cons_self] at h
      cases h
      exact ⟨List.not_mem_nil, .inr ⟨cs, hx ▸ rfl, rfl⟩⟩
    -- The character goes to the first piece of the rest.
    · obtain ⟨front', pieces', hcs⟩ := List.exists_cons_of_ne_nil (splitAt_ne_nil c cs)
      rw [splitAt_cons_of_ne hx hcs] at h
      cases h
      obtain ⟨hmem, hrest⟩ := ih hcs
      refine ⟨List.not_mem_cons_of_ne_of_not_mem (Ne.symm hx) hmem, ?_⟩
      obtain ⟨rfl, rfl⟩ | ⟨rest, rfl, hpieces⟩ := hrest
      · exact .inl ⟨rfl, rfl⟩
      · exact .inr ⟨rest, rfl, hpieces⟩

/-- A text that is split once has the mark between both parts. -/
theorem eq_append_of_splitOnce (h : splitOnce mark cs = some (front, rest)) :
    cs = front ++ mark ++ rest := by
  induction cs generalizing front with
  | nil =>
    rw [splitOnce] at h
    split at h
    -- The text is used up: only the empty mark is found there.
    · rename_i hmark
      cases h
      rw [List.isEmpty_iff.mp hmark]
      rfl
    · cases h
  | cons x cs ih =>
    rw [splitOnce] at h
    split at h
    · rename_i hmark
      cases h
      exact (List.prefix_iff_eq_append.mp (List.isPrefixOf_iff_prefix.mp hmark)).symm
    · obtain ⟨⟨front', rest'⟩, hsplit, heq⟩ := Option.map_eq_some_iff.mp h
      cases heq
      rw [ih hsplit]
      rfl

/-- A mark with a character that does not stand in a text does not stand there. -/
theorem splitOnce_eq_none (hmark : c ∈ mark) (h : c ∉ cs) : splitOnce mark cs = none := by
  refine Option.eq_none_iff_forall_ne_some.mpr fun (front, rest) hsplit => h ?_
  rw [eq_append_of_splitOnce hsplit]
  exact List.mem_append_left _ (List.mem_append_right _ hmark)

end ChainGauge.Text
