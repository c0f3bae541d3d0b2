import ChainGauge.Proofs.Net.Number

/-!
# Texts of network addresses

An address of four bytes has one text. An address of eight groups has many: digits of either case,
zeros in front of a group, a run of zero groups that is left out or not, and an address of the older
version in the place of the last two groups. What spells an address is told by a grammar (`Spells`)
apart from the readers, and the reader accepts the grammar (`Ip6.ofText?_eq_some_iff`). The text in
which an address is written is one of its spellings (`Ip6.spells_text`).

## Key results

- `Ip4.ofText?_eq_some_iff`, `Ip6.ofText?_eq_some_iff`: the texts that are read, and as what
- `Ip6.Spells.valid`: what is spelled has eight groups of two bytes
- `Ip6.spells_text`: the text of an address spells it
-/

namespace ChainGauge

open Ip

namespace Ip

variable {base : Nat} {c : Char} {cs rest : List Char}

/-- A character is taken exactly if it is in front. -/
private theorem takeChar_eq_some_iff : takeChar c cs = some rest ↔ cs = c :: rest := by
  cases cs with
  | nil => simp [takeChar]
  | cons x xs =>
    simp only [takeChar, Option.ite_none_right_eq_some, Option.some.injEq, List.cons.injEq]

/-- A character in front is taken. -/
@[simp] theorem takeChar_cons : takeChar c (c :: rest) = some rest :=
  takeChar_eq_some_iff.mpr rfl

end Ip

namespace Ip4

variable {ip : Ip4} {cs rest : List Char} {s : String}

/-- The four numbers are bytes. -/
def Valid (ip : Ip4) : Prop :=
  ip.a < 256 ∧ ip.b < 256 ∧ ip.c < 256 ∧ ip.d < 256

instance (ip : Ip4) : Decidable ip.Valid :=
  inferInstanceAs (Decidable (_ ∧ _ ∧ _ ∧ _))

/-- Every number gives a valid address. -/
private theorem valid_ofNat (n : Nat) : (ofNat n).Valid :=
  ⟨Nat.mod_lt _ (by decide), Nat.mod_lt _ (by decide), Nat.mod_lt _ (by decide),
    Nat.mod_lt _ (by decide)⟩

/-- The characters of an address: its four numbers with points in between. -/
private theorem toList_text (ip : Ip4) :
    ip.text.toList = Nat.toDigits 10 ip.a ++ '.' :: (Nat.toDigits 10 ip.b ++ '.' ::
      (Nat.toDigits 10 ip.c ++ '.' :: Nat.toDigits 10 ip.d)) := by
  simp [text, toString]

/-- No address has an empty text. -/
theorem text_ne_empty (ip : Ip4) : ip.text ≠ "" := fun hempty => by
  have hlength := congrArg List.length ((toList_text ip).symm.trans (congrArg String.toList hempty))
  simp at hlength

/-- An address is taken if its text stands in front and no digit behind it. -/
theorem take_eq_some_iff :
    take cs = some (ip, rest) ↔ ip.Valid ∧ cs = ip.text.toList ++ rest ∧ Ends 10 rest := by
  -- A point ends a decimal number.
  have hpoint : ∀ cs, Ends 10 ('.' :: cs) := by
    rintro cs _ ⟨rfl⟩
    decide
  rw [toList_text]
  simp only [take, Option.bind_eq_bind, Option.bind_eq_some_iff, Prod.exists,
    takeByte_eq_some_iff, takeChar_eq_some_iff, Option.some.injEq, Prod.mk.injEq]
  constructor
  · rintro ⟨a, _, ⟨ha, rfl, -⟩, _, rfl, b, _, ⟨hb, rfl, -⟩, _, rfl, c, _, ⟨hc, rfl, -⟩, _, rfl,
      d, rest, ⟨hd, rfl, hends⟩, rfl, rfl⟩
    refine ⟨⟨ha, hb, hc, hd⟩, ?_, hends⟩
    simp
  · rintro ⟨⟨ha, hb, hc, hd⟩, rfl, hends⟩
    simp only [List.append_assoc, List.cons_append]
    exact ⟨_, _, ⟨ha, rfl, hpoint _⟩, _, rfl, _, _, ⟨hb, rfl, hpoint _⟩, _, rfl, _, _,
      ⟨hc, rfl, hpoint _⟩, _, rfl, _, _, ⟨hd, rfl, hends⟩, rfl, rfl⟩

/-- An address has one text. -/
theorem ofText?_eq_some_iff : ofText? s = some ip ↔ ip.Valid ∧ s = ip.text := by
  have htake : ofText? s = some ip ↔ take s.toList = some (ip, []) := by
    rw [ofText?]
    split
    · rename_i ip' heq
      simp [heq]
    · rename_i hother
      exact ⟨nofun, fun h => absurd h (hother ip)⟩
  rw [htake, take_eq_some_iff, List.append_nil, String.toList_inj]
  exact ⟨fun h => ⟨h.1, h.2.1⟩, fun h => ⟨h.1, h.2, nofun⟩⟩

/-- An address is made of characters that stand in names. -/
theorem isNameChar_text (ip : Ip4) : ∀ c ∈ ip.text.toList, isNameChar c = true := by
  have hdigits : ∀ n, ∀ c ∈ Nat.toDigits 10 n, isNameChar c = true := fun n => by
    obtain ⟨ds, hdigits, -⟩ := exists_spellsDigits (by decide : 1 < 10) (by decide) n
    exact hdigits.isNameChar
  have hpoint : isNameChar '.' = true := by decide
  rw [toList_text]
  simp only [List.forall_mem_append, List.forall_mem_cons]
  exact ⟨hdigits _, hpoint, hdigits _, hpoint, hdigits _, hpoint, hdigits _⟩

/-- The four numbers as two groups of an address of the newer version. -/
def groups (ip : Ip4) : List Nat :=
  [256 * ip.a + ip.b, 256 * ip.c + ip.d]

end Ip4

namespace Ip6

variable {ip : Ip6} {old : Bool} {gs front back : List Nat} {g i limit : Nat}
  {cs ds rest : List Char} {s : String} {base : Nat}

/-! ## Spellings -/

/-- Characters are one to four hexadecimal digits of a group. -/
def IsGroup (cs : List Char) (g : Nat) : Prop :=
  ∃ ds, SpellsDigits 16 cs ds ∧ ds ≠ [] ∧ ds.length ≤ 4 ∧ ofDigits 16 ds = g

/-- Characters are groups with colons between them. The last two groups may be written as an address
of the older version, as the first argument tells. -/
inductive Groups : Bool → List Nat → List Char → Prop where
  | last {cs : List Char} {g : Nat} : IsGroup cs g → Groups false [g] cs
  | dotted {ip : Ip4} : ip.Valid → Groups true ip.groups ip.text.toList
  | cons {old : Bool} {cs rest : List Char} {g : Nat} {gs : List Nat} :
    IsGroup cs g → Groups old gs rest → Groups old (g :: gs) (cs ++ ':' :: rest)

/-- Characters are groups, or there are none on this side of what is left out. -/
inductive Side : Bool → List Nat → List Char → Prop where
  | nil : Side false [] []
  | groups {old : Bool} {gs : List Nat} {cs : List Char} : Groups old gs cs → Side old gs cs

/-- Characters spell an address: all of its groups, or those on the two sides of some zero groups
that are left out. -/
inductive Spells : Ip6 → List Char → Prop where
  | whole {old : Bool} {gs : List Nat} {cs : List Char} :
    Groups old gs cs → gs.length = 8 → Spells ⟨gs⟩ cs
  | gap {old : Bool} {front back : List Nat} {cs ds : List Char} :
    Side false front cs → Side old back ds → front.length + back.length ≤ 7 →
      Spells ⟨front ++ List.replicate (8 - front.length - back.length) 0 ++ back⟩
        (cs ++ ':' :: ':' :: ds)

/-- There are eight groups of two bytes. -/
def Valid (ip : Ip6) : Prop :=
  ip.groups.length = 8 ∧ ∀ g ∈ ip.groups, g < 65536

instance (ip : Ip6) : Decidable ip.Valid :=
  inferInstanceAs (Decidable (_ ∧ _))

/-- A group has sixteen bits. -/
theorem IsGroup.lt (h : IsGroup cs g) : g < 65536 := by
  obtain ⟨ds, hdigits, -, hlength, rfl⟩ := h
  calc ofDigits 16 ds
    _ < 16 ^ ds.length := ofDigits_lt hdigits.lt
    _ ≤ 16 ^ 4 := Nat.pow_le_pow_right (by decide) hlength

/-- So has each of several. -/
theorem Groups.lt (h : Groups old gs cs) : ∀ g ∈ gs, g < 65536 := by
  induction h with
  | last hg => simpa using hg.lt
  | @dotted ip hip =>
    obtain ⟨ha, hb, hc, hd⟩ := hip
    have : 256 * ip.a + ip.b < 65536 ∧ 256 * ip.c + ip.d < 65536 := by omega
    simpa [Ip4.groups] using this
  | cons hg _ ih => exact List.forall_mem_cons.mpr ⟨hg.lt, ih⟩

/-- So has each group of a side. -/
theorem Side.lt (h : Side old gs cs) : ∀ g ∈ gs, g < 65536 := by
  cases h with
  | nil => exact nofun
  | groups h => exact h.lt

/-- What is spelled is an address. -/
theorem Spells.valid (h : Spells ip cs) : ip.Valid := by
  cases h with
  | whole h hlength => exact ⟨hlength, h.lt⟩
  | gap hfront hback hle =>
    refine ⟨by simp; omega, fun g hg => ?_⟩
    obtain hg | hg := List.mem_append.mp hg
    · obtain hg | hg := List.mem_append.mp hg
      · exact hfront.lt g hg
      · rw [List.eq_of_mem_replicate hg]
        decide
    · exact hback.lt g hg

/-- Groups are made of digits, points and colons. -/
theorem Groups.mem (h : Groups old gs cs) : ∀ c ∈ cs, isNameChar c = true ∨ c = ':' := by
  induction h with
  | last hg =>
    obtain ⟨ds, hdigits, -⟩ := hg
    exact fun c hc => .inl (hdigits.isNameChar c hc)
  | dotted => exact fun c hc => .inl (Ip4.isNameChar_text _ c hc)
  | cons hg _ ih =>
    obtain ⟨ds, hdigits, -⟩ := hg
    rw [List.forall_mem_append, List.forall_mem_cons]
    exact ⟨fun c hc => .inl (hdigits.isNameChar c hc), .inr rfl, ih⟩

/-- So is a side. -/
theorem Side.mem (h : Side old gs cs) : ∀ c ∈ cs, isNameChar c = true ∨ c = ':' := by
  cases h with
  | nil => exact nofun
  | groups h => exact h.mem

/-- Addresses are spelled by characters of names and by colons. -/
theorem Spells.mem (h : Spells ip cs) : ∀ c ∈ cs, isNameChar c = true ∨ c = ':' := by
  cases h with
  | whole h _ => exact h.mem
  | gap hfront hback _ =>
    simp only [List.forall_mem_append, List.forall_mem_cons]
    exact ⟨hfront.mem, .inr trivial, .inr trivial, hback.mem⟩

/-- A group has a digit. -/
theorem IsGroup.length_pos (h : IsGroup cs g) : 0 < cs.length := by
  obtain ⟨ds, hdigits, hne, -⟩ := h
  exact hdigits.length_eq ▸ List.length_pos_iff.mpr hne

/-- There are no more groups than characters. -/
theorem Groups.length_le (h : Groups old gs cs) : gs.length ≤ cs.length := by
  induction h with
  | last hg => exact hg.length_pos
  | @dotted ip hip =>
    rw [Ip4.toList_text, List.length_append, List.length_cons, List.length_append, List.length_cons]
    show 2 ≤ _
    omega
  | cons hg _ ih =>
    rw [List.length_append, List.length_cons, List.length_cons]
    omega

/-! ## Reading -/

/-- A group is taken exactly if it is in front and no digit follows. -/
theorem takeNumber_eq_some_iff :
    takeNumber 16 (some 4) true 0x10000 cs = some (g, rest) ↔
      ∃ front, cs = front ++ rest ∧ IsGroup front g ∧ Ends 16 rest := by
  rw [Ip.takeNumber_eq_some_iff]
  constructor
  · rintro ⟨ds, hspan, hne, hwidth, -, hvalue, -⟩
    obtain ⟨front, hcs, hdigits, hends⟩ := spanDigits_eq_iff.mp hspan
    exact ⟨front, hcs, ⟨ds, hdigits, hne, hwidth 4 rfl, hvalue⟩, hends⟩
  · rintro ⟨front, rfl, hgroup, hends⟩
    -- Four hexadecimal digits are always below the limit.
    have hlt := hgroup.lt
    obtain ⟨ds, hdigits, hne, hlength, hvalue⟩ := hgroup
    exact ⟨ds, spanDigits_append hdigits hends, hne, fun w hw => by cases hw; exact hlength,
      .inl rfl, hvalue, hlt⟩

/-- The digits of an address of the older version could be those of a group. -/
theorem exists_isGroup_text {ip : Ip4} (h : ip.Valid) :
    ∃ cs g rest, ip.text.toList = cs ++ '.' :: rest ∧ IsGroup cs g := by
  obtain ⟨ds, htext, hlt, hne, -, -, -⟩ := exists_toDigits_eq (by decide : 1 < 10) ip.a
  have hlength : (Nat.toDigits 10 ip.a).length ≤ 4 :=
    (Nat.length_toDigits_le_iff (by decide) (by decide)).mpr (Nat.lt_trans h.1 (by decide))
  refine ⟨_, _, _, Ip4.toList_text ip, ds, ?_, hne, by simpa [htext] using hlength, rfl⟩
  rw [htext]
  exact spellsDigits_map_digitChar (by decide) fun d hd => Nat.lt_of_lt_of_le (hlt d hd) (by decide)

/-- A group does not begin with the end of a number. -/
theorem IsGroup.not_ends (h : IsGroup cs g) : ¬ Ends 16 (cs ++ rest) := by
  obtain ⟨ds, hdigits, hne, -⟩ := h
  exact hdigits.not_ends hne

/-- Groups start with a digit. -/
theorem Groups.not_ends (h : Groups old gs cs) : ¬ Ends 16 (cs ++ rest) := by
  cases h with
  | last hg => exact hg.not_ends
  | dotted hip =>
    obtain ⟨cs, g, rest, htext, hg⟩ := exists_isGroup_text hip
    rw [htext, List.append_assoc]
    exact hg.not_ends
  | cons hg _ =>
    rw [List.append_assoc]
    exact hg.not_ends

/-- Groups have characters. -/
theorem Groups.ne_nil (h : Groups old gs cs) : cs ≠ [] := by
  rintro rfl
  exact (h.not_ends : ¬ Ends 16 ([] ++ [])) fun _ hc => nomatch hc

/-- An address has characters. -/
theorem Spells.ne_nil (h : Spells ip cs) : cs ≠ [] := by
  cases h with
  | whole h _ => exact h.ne_nil
  | gap _ _ _ => simp

/-- No address of the older version starts with a group that ends in front of something else than a
point. -/
private theorem take4_eq_none (hcs : IsGroup cs g) (hends : Ends 16 rest)
    (hpoint : rest.head? ≠ some '.') : Ip4.take (cs ++ rest) = none := by
  refine Option.eq_none_iff_forall_ne_some.mpr fun (ip, behind) h => ?_
  obtain ⟨hip, htext, -⟩ := Ip4.take_eq_some_iff.mp h
  obtain ⟨cs', g', rest', htext', ds', hdigits', -⟩ := exists_isGroup_text hip
  obtain ⟨ds, hdigits, -⟩ := hcs
  have hspan := spanDigits_append hdigits hends
  rw [htext, htext', List.append_assoc] at hspan
  have hends' : Ends 16 ('.' :: rest' ++ behind) := by
    rintro _ ⟨rfl⟩
    decide
  have hspan' := spanDigits_append hdigits' hends'
  -- One text has one reading of its leading digits: what stands behind them would have to be the
  -- point.
  cases hspan.symm.trans hspan'
  exact hpoint rfl

/-- A number ends before a colon. -/
theorem ends_colon (rest : List Char) : Ends base (':' :: rest) := by
  rintro _ ⟨rfl⟩
  rfl

/-- Where no digit is in front, no group is taken. -/
private theorem takeNumber_eq_none (h : Ends 16 cs) :
    takeNumber 16 (some 4) true 0x10000 cs = none := by
  refine Option.eq_none_iff_forall_ne_some.mpr fun (g, rest) hg => ?_
  obtain ⟨front, rfl, hgroup, -⟩ := takeNumber_eq_some_iff.mp hg
  exact hgroup.not_ends h

/-- Nor is an address of the older version. -/
private theorem take4_eq_none_of_ends (h : Ends 16 cs) : Ip4.take cs = none := by
  refine Option.eq_none_iff_forall_ne_some.mpr fun (ip, rest) hip => ?_
  obtain ⟨hvalid, rfl, -⟩ := Ip4.take_eq_some_iff.mp hip
  exact (Groups.dotted hvalid).not_ends h

/-- Groups behind others stand behind a colon. -/
def led (i : Nat) (cs : List Char) : List Char :=
  if i = 0 then cs else ':' :: cs

/-- What follows does not matter to the colon in front. -/
private theorem led_append : led i (cs ++ rest) = led i cs ++ rest := by
  unfold led
  split <;> rfl

/-- How groups are taken: one in front, and the others behind its colon. -/
private theorem takeGroups_led :
    takeGroups i (limit + 1) (led i cs) =
      match if limit = 0 then none else Ip4.take cs with
      | some (ip, rest) => (ip.groups, true, rest)
      | none =>
        match takeNumber 16 (some 4) true 0x10000 cs with
        | none => ([], false, led i cs)
        | some (g, rest) =>
          (g :: (takeGroups (i + 1) limit rest).1, (takeGroups (i + 1) limit rest).2) := by
  -- The first group is not led by a colon, every other one is.
  have hhere : (if i = 0 then some (led i cs) else takeChar ':' (led i cs)) = some cs := by
    unfold led
    split <;> simp
  rw [takeGroups, hhere]
  rfl

/-- Without the colon in front no group is taken. -/
private theorem takeGroups_not_led (h : ∀ cs', cs ≠ led i cs') :
    takeGroups i limit cs = ([], false, cs) := by
  cases limit with
  | zero => rfl
  | succ limit =>
    have hi : i ≠ 0 := fun hi => h cs (if_pos hi).symm
    have hhere : takeChar ':' cs = none := by
      refine Option.eq_none_iff_forall_ne_some.mpr fun cs' hcs => ?_
      exact h cs' ((takeChar_eq_some_iff.mp hcs).trans (if_neg hi).symm)
    simp [takeGroups, hi, hhere]

/-- Nothing is taken where no digit stands. -/
private theorem takeGroups_eq_nil (h : ∀ cs', cs = led i cs' → Ends 16 cs') :
    takeGroups i limit cs = ([], false, cs) := by
  by_cases hled : ∃ cs', cs = led i cs'
  · obtain ⟨cs', rfl⟩ := hled
    have hends := h cs' rfl
    cases limit with
    | zero => rfl
    | succ limit =>
      rw [takeGroups_led, take4_eq_none_of_ends hends, takeNumber_eq_none hends, ite_self]
  · exact takeGroups_not_led (not_exists.mp hled)

/-- What is taken is groups. -/
private theorem takeGroups_sound (h : takeGroups i limit cs = (gs, old, rest)) :
    gs.length ≤ limit ∧ ((gs = [] ∧ old = false ∧ cs = rest) ∨
      ∃ front, Groups old gs front ∧ cs = led i front ++ rest) := by
  -- On the number of groups still allowed; only the first group, at `i = 0`, has no colon in front.
  induction limit generalizing i cs gs with
  | zero =>
    cases h
    exact ⟨Nat.le_refl 0, .inl ⟨rfl, rfl, rfl⟩⟩
  | succ limit ih =>
    by_cases hled : ∃ cs', cs = led i cs'
    · obtain ⟨cs, rfl⟩ := hled
      rw [takeGroups_led] at h
      split at h
      · rename_i ip rest' hip
        cases h
        obtain ⟨hlimit, hip⟩ := Option.ite_none_left_eq_some.mp hip
        obtain ⟨hvalid, rfl, -⟩ := Ip4.take_eq_some_iff.mp hip
        refine ⟨?_, .inr ⟨_, .dotted hvalid, led_append⟩⟩
        -- A dotted tail is tried only where two groups are left.
        show 2 ≤ limit + 1
        omega
      · split at h
        · cases h
          exact ⟨Nat.zero_le _, .inl ⟨rfl, rfl, rfl⟩⟩
        · rename_i g rest' hg
          obtain ⟨front, rfl, hgroup, -⟩ := takeNumber_eq_some_iff.mp hg
          rcases htail : takeGroups (i + 1) limit rest' with ⟨gs', old', rest''⟩
          rw [htail] at h
          cases h
          obtain ⟨hlength, ⟨rfl, rfl, rfl⟩ | ⟨front', hgroups, rfl⟩⟩ := ih htail
          · exact ⟨Nat.succ_le_succ hlength, .inr ⟨front, .last hgroup, led_append⟩⟩
          · refine ⟨Nat.succ_le_succ hlength, .inr ⟨_, .cons hgroup hgroups, ?_⟩⟩
            rw [← List.append_assoc]
            exact led_append
    · cases (takeGroups_not_led (not_exists.mp hled)).symm.trans h
      exact ⟨Nat.zero_le _, .inl ⟨rfl, rfl, rfl⟩⟩

/-- Nothing follows, or some groups are left out here. -/
def Stops (rest : List Char) : Prop :=
  rest = [] ∨ ∃ ds, rest = ':' :: ':' :: ds

/-- Where a side stops, a number ends. -/
theorem Stops.ends (h : Stops rest) : Ends base rest := by
  obtain rfl | ⟨ds, rfl⟩ := h
  · exact nofun
  · exact ends_colon _

/-- A side does not stop before a point. -/
private theorem Stops.head?_ne (h : Stops rest) : rest.head? ≠ some '.' := by
  obtain rfl | ⟨ds, rfl⟩ := h
  · exact nofun
  · exact fun h => absurd (Option.some.inj h) (by decide)

/-- Where a side stops, no group is taken. -/
private theorem takeGroups_of_stops (h : Stops rest) :
    takeGroups i limit rest = ([], false, rest) := by
  refine takeGroups_eq_nil fun cs hcs => ?_
  by_cases hi : i = 0
  · rw [led, if_pos hi] at hcs
    exact hcs ▸ h.ends
  · rw [led, if_neg hi] at hcs
    obtain rfl | ⟨ds, rfl⟩ := h
    · cases hcs
    · cases hcs
      exact ends_colon _

/-- Groups are taken up to their end. -/
private theorem takeGroups_complete (h : Groups old gs cs) (hlimit : gs.length ≤ limit)
    (hrest : Stops rest) : takeGroups i limit (led i cs ++ rest) = (gs, old, rest) := by
  -- On how the groups are spelled; each group uses up one of the limit, a dotted tail two.
  induction h generalizing i limit with
  | last hg =>
    obtain ⟨limit, rfl⟩ := Nat.exists_eq_add_of_le' hlimit
    have hnumber := takeNumber_eq_some_iff.mpr ⟨_, rfl, hg, hrest.ends⟩
    rw [← led_append, List.length_singleton, takeGroups_led,
      take4_eq_none hg hrest.ends hrest.head?_ne, ite_self, hnumber]
    simp only [takeGroups_of_stops hrest]
  | dotted hip =>
    obtain ⟨limit, rfl⟩ := Nat.exists_eq_add_of_le' (show 2 ≤ limit from hlimit)
    have htake := Ip4.take_eq_some_iff.mpr ⟨hip, rfl, hrest.ends⟩
    rw [← led_append, takeGroups_led, if_neg (Nat.succ_ne_zero limit), htake]
  | @cons _ cs rest' _ _ hg _ ih =>
    obtain ⟨limit, rfl⟩ := Nat.exists_eq_add_of_le' (Nat.zero_lt_of_lt hlimit)
    have hcs : led i (cs ++ ':' :: rest') ++ rest = led i (cs ++ (led (i + 1) rest' ++ rest)) := by
      rw [← led_append, List.append_assoc]
      rfl
    have hnumber := takeNumber_eq_some_iff.mpr ⟨cs, rfl, hg, ends_colon (rest' ++ rest)⟩
    -- A colon follows, not a point, so the group is not taken for a dotted tail.
    have hfour := take4_eq_none hg (ends_colon (rest' ++ rest)) nofun
    have htail := ih (i := i + 1) (Nat.le_of_succ_le_succ hlimit)
    rw [hcs, takeGroups_led]
    simp only [show led (i + 1) rest' ++ rest = ':' :: (rest' ++ rest) from rfl] at htail ⊢
    rw [hfour, ite_self, hnumber]
    simp only [htail]

/-- The groups of a side are taken up to its end. -/
theorem Side.takeGroups (h : Side old gs cs) (hlimit : gs.length ≤ limit) (hrest : Stops rest) :
    takeGroups 0 limit (cs ++ rest) = (gs, old, rest) := by
  cases h with
  | nil => exact takeGroups_of_stops hrest
  | groups h => exact takeGroups_complete h hlimit hrest

/-- Groups that are taken are a side. -/
private theorem side_of_takeGroups (h : Ip6.takeGroups 0 limit cs = (gs, old, rest)) :
    gs.length ≤ limit ∧ ∃ front, Side old gs front ∧ cs = front ++ rest := by
  obtain ⟨hlength, ⟨rfl, rfl, rfl⟩ | ⟨front, hgroups, rfl⟩⟩ := takeGroups_sound h
  · exact ⟨hlength, [], .nil, rfl⟩
  · exact ⟨hlength, front, .groups hgroups, rfl⟩

/-- A text that is read as an address spells it. -/
private theorem take_sound (h : take cs = some (ip, [])) : Spells ip cs := by
  unfold take at h
  rcases hfront : takeGroups 0 8 cs with ⟨front, old, rest⟩
  simp only [hfront] at h
  obtain ⟨hle, cs, hside, rfl⟩ := side_of_takeGroups hfront
  split at h
  · rename_i hlength
    cases h
    rw [List.append_nil]
    cases hside with
    | nil => cases hlength
    | groups hgroups => exact .whole hgroups hlength
  · rename_i hlength
    split at h
    · cases h
    · rename_i hold
      simp only [Option.bind_eq_bind, Option.bind_eq_some_iff, takeChar_eq_some_iff] at h
      -- Fewer than eight groups in front: the gap's two colons, and the groups behind it.
      obtain ⟨_, rfl, ds, rfl, h⟩ := h
      rcases hback : takeGroups 0 (7 - front.length) ds with ⟨back, old', rest⟩
      simp only [hback] at h
      cases h
      obtain ⟨hle', ds, hside', rfl⟩ := side_of_takeGroups hback
      cases Bool.eq_false_iff.mpr hold
      rw [List.append_nil]
      exact .gap hside hside' (by omega)

/-- A text that spells an address is read as it. -/
private theorem take_complete (h : Spells ip cs) : take cs = some (ip, []) := by
  unfold take
  cases h with
  | whole hgroups hlength =>
    have hread := (Side.groups hgroups).takeGroups (Nat.le_of_eq hlength) (.inl rfl)
    rw [List.append_nil] at hread
    simp [hread, hlength]
  | @gap old front back cs ds hfront hback hle =>
    have hread : takeGroups 0 8 (cs ++ ':' :: ':' :: ds) = (front, false, ':' :: ':' :: ds) :=
      hfront.takeGroups (by omega) (.inr ⟨ds, rfl⟩)
    have hread' : takeGroups 0 (7 - front.length) (ds ++ []) = (back, old, []) :=
      hback.takeGroups (by omega) (.inl rfl)
    rw [List.append_nil] at hread'
    -- The gap stands for at least one group, which keeps the front from being read as the whole.
    have hlength : front.length ≠ 8 := by omega
    simp [hread, hread', hlength]

/-- The reader accepts the grammar. -/
theorem ofText?_eq_some_iff : ofText? s = some ip ↔ Spells ip s.toList := by
  have htake : ofText? s = some ip ↔ take s.toList = some (ip, []) := by
    rw [ofText?]
    split
    · rename_i ip' heq
      simp [heq]
    · rename_i hother
      exact ⟨nofun, fun h => absurd h (hother ip)⟩
  exact htake.trans ⟨take_sound, take_complete⟩

/-! ## Writing -/

/-- The digits of a number of sixteen bits are a group. -/
private theorem isGroup_toDigits (h : g < 65536) : IsGroup (Nat.toDigits 16 g) g := by
  obtain ⟨ds, hdigits, hne, hvalue⟩ := exists_spellsDigits (by decide : 1 < 16) (by decide) g
  have hlength : (Nat.toDigits 16 g).length ≤ 4 :=
    (Nat.length_toDigits_le_iff (by decide) (by decide)).mpr h
  exact ⟨ds, hdigits, hne, hdigits.length_eq ▸ hlength, hvalue⟩

/-- The characters of joined groups. -/
private theorem toList_joined (gs : List Nat) :
    (joined gs).toList = List.intercalate [':'] (gs.map (Nat.toDigits 16)) := by
  simp [joined, Function.comp_def]

/-- Joined groups are a side. -/
private theorem side_joined (h : ∀ g ∈ gs, g < 65536) : Side false gs (joined gs).toList := by
  rw [toList_joined]
  induction gs with
  | nil => exact .nil
  | cons g gs ih =>
    obtain ⟨hg, hgs⟩ := List.forall_mem_cons.mp h
    cases gs with
    | nil => exact .groups (by simpa using Groups.last (isGroup_toDigits hg))
    | cons g' gs =>
      cases ih hgs with
      | groups hgroups => exact .groups (.cons (isGroup_toDigits hg) hgroups)

/-- A number of groups from a place on are zero. -/
def ZerosAt (gs : List Nat) (run : Nat × Nat) : Prop :=
  gs = gs.take run.1 ++ List.replicate run.2 0 ++ gs.drop (run.1 + run.2)

/-- Groups begin with their zeros. -/
private theorem eq_replicate_zeros (gs : List Nat) :
    gs = List.replicate (zeros gs) 0 ++ gs.drop (zeros gs) := by
  induction gs with
  | nil => rfl
  | cons g gs ih =>
    cases g with
    | zero => exact congrArg (0 :: ·) ih
    | succ g => rfl

/-- The longest row of zeros is one. -/
private theorem zerosAt_longestZeros {whole : List Nat} {best : Nat × Nat}
    (hbest : ZerosAt whole best)
    (hgs : gs = whole.drop i) : ZerosAt whole (longestZeros i best gs) := by
  induction gs generalizing i best with
  | nil => exact hbest
  | cons g gs ih =>
    refine ih ?_ (by rw [← List.drop_drop, ← hgs]; rfl)
    split
    -- A longer run begins here: the list is what was passed, the run, and what is left.
    · calc whole
        _ = whole.take i ++ whole.drop i := (List.take_append_drop i whole).symm
        _ = whole.take i ++ (List.replicate (zeros (g :: gs)) 0 ++
              (g :: gs).drop (zeros (g :: gs))) := by rw [← hgs, ← eq_replicate_zeros]
        _ = _ := by rw [hgs, List.drop_drop, List.append_assoc]
    · exact hbest

/-- The text of groups, shortened at its zeros, spells the address. -/
private theorem spells_groupText (h : ip.Valid) : Spells ip ip.groupText.toList := by
  obtain ⟨groups⟩ := ip
  obtain ⟨hlength : groups.length = 8, hlt : ∀ g ∈ groups, g < 65536⟩ := h
  rcases hrun : longestZeros 0 (0, 0) groups with ⟨start, count⟩
  have hzeros : ZerosAt groups (longestZeros 0 (0, 0) groups) :=
    zerosAt_longestZeros (by simp [ZerosAt]) rfl
  rw [hrun] at hzeros
  simp only [groupText, hrun]
  split
  · rename_i hcount
    have hsum := congrArg List.length hzeros
    simp only [List.length_append, List.length_replicate, hlength] at hsum
    have hfront := side_joined fun g hg => hlt g (List.mem_of_mem_take (i := start) hg)
    have hback := side_joined fun g hg => hlt g (List.mem_of_mem_drop (i := start + count) hg)
    have hspells := Spells.gap hfront hback (by omega)
    -- The gap is as long as the run of zeros it replaces.
    have hzero : 8 - (groups.take start).length - (groups.drop (start + count)).length = count := by
      omega
    rw [hzero, ← hzeros] at hspells
    simpa using hspells
  · cases side_joined hlt with
    | nil => cases hlength
    | groups hgroups => exact .whole hgroups hlength

/-- The text of an address spells it. -/
theorem spells_text (h : ip.Valid) : Spells ip ip.text.toList := by
  unfold text
  split
  · rename_i x y hgroups
    obtain ⟨groups⟩ := ip
    cases hgroups
    have hx : x < 65536 := h.2 x (by simp)
    have hy : y < 65536 := h.2 y (by simp)
    -- An address with an IPv4 one in it is written with a dotted tail behind `::ffff:`.
    have hgroups : (Ip4.ofNat (x * 0x10000 + y)).groups = [x, y] := by
      simp only [Ip4.groups, Ip4.ofNat, List.cons.injEq, and_true]
      omega
    have hback := Groups.cons (isGroup_toDigits (by decide : 0xffff < 65536))
      (.dotted (Ip4.valid_ofNat (x * 0x10000 + y)))
    rw [hgroups] at hback
    have hspells := Spells.gap .nil (.groups hback) (show 3 ≤ 7 by decide)
    have hdigits : Nat.toDigits 16 0xffff = ['f', 'f', 'f', 'f'] := by decide
    rw [hdigits] at hspells
    simpa using hspells
  · exact spells_groupText h

end Ip6

end ChainGauge
