import ChainGauge.Net.Url
import ChainGauge.Proofs.Net.Ip

/-!
# Addresses in URLs

A URL has a reader of its own for addresses of the newer version: it looks at four characters at a
time and notes the place where groups are left out. It accepts the same grammar as the reader for
addresses that stand alone (`ip6?_eq_some_iff`), so that what is proved of `Ip6.Spells` holds here.
-/

namespace ChainGauge.Url

open Ip Ip6

variable {seen fuel g : Nat} {gap gap' : Option Nat} {old old' : Bool}
  {gs front back ds : List Nat} {c : Char} {cs behind rest : List Char} {ip : Ip6}

/-! ## One piece -/

/-- The digits among the next four characters, up to a character that is no digit. -/
def piece (cs : List Char) : List Nat :=
  (spanDigits 16 (cs.take 4)).1

/-- A piece is spelled by the characters in front, of which it has four at most. -/
private theorem exists_piece (cs : List Char) :
    ∃ digits, SpellsDigits 16 digits (piece cs) ∧ (piece cs).length ≤ 4 ∧
      cs = digits ++ cs.drop (piece cs).length := by
  obtain ⟨digits, hcs, hdigits, -⟩ := exists_spanDigits 16 (cs.take 4)
  have hlength : digits.length = (piece cs).length := hdigits.length_eq
  -- A piece is looked for in four characters only.
  have hle : digits.length ≤ 4 := by
    calc digits.length
      _ ≤ (cs.take 4).length := by rw [hcs]; simp
      _ ≤ 4 := List.length_take_le ..
  have hprefix : digits <+: cs :=
    (hcs ▸ List.prefix_append ..).trans (List.take_prefix 4 cs)
  refine ⟨digits, hdigits, hlength ▸ hle, ?_⟩
  rw [← hlength]
  exact (List.prefix_iff_eq_append.mp hprefix).symm

/-- Up to four digits in front of no digit are a piece. -/
private theorem piece_append (hdigits : SpellsDigits 16 cs ds) (hle : ds.length ≤ 4)
    (hends : Ends 16 rest) : piece (cs ++ rest) = ds := by
  have hlength : cs.length = ds.length := hdigits.length_eq
  have hends' : Ends 16 (rest.take (4 - cs.length)) := by
    intro c hc
    rw [List.head?_take] at hc
    split at hc
    · cases hc
    · exact hends c hc
  rw [piece, List.take_append, List.take_of_length_le (by omega), spanDigits_append hdigits hends']

/-- What is read behind a character that is no colon, by what follows its piece. -/
private theorem ip6Groups_cons (hseen : seen < 8) (hc : c ≠ ':') :
    ip6Groups seen gap (fuel + 1) (c :: cs) =
      match (c :: cs).drop (piece (c :: cs)).length with
      | [] => some ([ofDigits 16 (piece (c :: cs))], gap)
      | '.' :: _ =>
        if (piece (c :: cs)).isEmpty ∨ 6 < seen then none
        else (ip4Tail? (c :: cs)).map fun gs => (gs, gap)
      | ':' :: rest =>
        if rest.isEmpty then none
        else
          (ip6Groups (seen + 1) gap fuel rest).map fun r =>
            (ofDigits 16 (piece (c :: cs)) :: r.1, r.2)
      | _ => none := by
  rw [ip6Groups, if_neg (Nat.not_le.mpr hseen), if_neg hc]
  rfl

/-- An address of the older version is read at the end exactly if its text stands there. -/
private theorem ip4Tail?_eq_some_iff :
    ip4Tail? cs = some gs ↔ ∃ ip : Ip4, ip.Valid ∧ cs = ip.text.toList ∧ gs = ip.groups := by
  -- The tail has to be used up, so it is the dotted reader with nothing left over.
  have htake : ip4Tail? cs = some gs ↔ ∃ ip, Ip4.take cs = some (ip, []) ∧ gs = ip.groups := by
    rw [ip4Tail?]
    split
    · rename_i ip heq
      rw [heq]
      refine ⟨fun h => ⟨ip, rfl, (Option.some.inj h).symm⟩, fun ⟨_, h, hgs⟩ => ?_⟩
      cases h
      exact congrArg some hgs.symm
    · rename_i hother
      exact ⟨nofun, fun ⟨ip, h, _⟩ => absurd h (hother ip)⟩
  rw [htake]
  refine exists_congr fun ip => ?_
  rw [Ip4.take_eq_some_iff, List.append_nil, and_assoc]
  exact and_congr_right fun _ => ⟨fun h => ⟨h.1.1, h.2⟩, fun h => ⟨⟨h.1, nofun⟩, h.2⟩⟩

/-! ## Groups -/

/-- Groups spelled by a text: a side, or two sides around a gap where none was met before. -/
def GroupsSpelled (seen : Nat) (gap gap' : Option Nat) (gs : List Nat) (cs : List Char) : Prop :=
  (gap' = gap ∧ ∃ old, Side old gs cs) ∨
    gap = none ∧ ∃ old front back behind, gap' = some (seen + front.length + 1) ∧
      gs = front ++ back ∧ Side old back behind ∧
        (front = [] ∧ cs = ':' :: behind ∨
          ∃ lead, Groups false front lead ∧ cs = lead ++ ':' :: ':' :: behind)

/-- Another group in front of groups. -/
private theorem GroupsSpelled.cons {digits : List Char} (hgroup : IsGroup digits g)
    (hrest : rest ≠ []) (h : GroupsSpelled (seen + 1) gap gap' gs rest) :
    GroupsSpelled seen gap gap' (g :: gs) (digits ++ ':' :: rest) := by
  obtain ⟨rfl, old, hside⟩ | ⟨rfl, old, front, back, behind, rfl, rfl, hback, hfront⟩ := h
  · cases hside with
    | nil => exact absurd rfl hrest
    | groups hgroups => exact .inl ⟨rfl, old, .groups (.cons hgroup hgroups)⟩
  · refine .inr ⟨rfl, old, g :: front, back, behind, ?_, rfl, hback, .inr ?_⟩
    · simp only [List.length_cons, Option.some.injEq]
      omega
    · obtain ⟨rfl, rfl⟩ | ⟨lead, hlead, rfl⟩ := hfront
      · exact ⟨digits, .last hgroup, rfl⟩
      · exact ⟨_, .cons hgroup hlead, by rw [List.append_assoc]; rfl⟩

/-- Groups that are read are a side, or two sides around a gap. -/
private theorem ip6Groups_sound (h : ip6Groups seen gap fuel cs = some (gs, gap')) :
    GroupsSpelled seen gap gap' gs cs := by
  induction fuel generalizing seen gap cs gs with
  | zero =>
    cases cs with
    | nil =>
      cases h
      exact .inl ⟨rfl, false, .nil⟩
    | cons c cs => cases h
  | succ fuel ih =>
    cases cs with
    | nil =>
      cases h
      exact .inl ⟨rfl, false, .nil⟩
    | cons c cs =>
      by_cases hseen : 8 ≤ seen
      · rw [ip6Groups, if_pos hseen] at h
        cases h
      by_cases hc : c = ':'
      -- Groups are left out here, so that none are behind.
      · rw [ip6Groups, if_neg hseen, if_pos hc] at h
        obtain ⟨hgap, h⟩ := Option.ite_none_left_eq_some.mp h
        obtain ⟨rfl, old, hside⟩ | ⟨hnone, -⟩ := ih h
        · exact .inr ⟨by simpa using hgap, old, [], gs, cs, rfl, rfl, hside, .inl ⟨rfl, hc ▸ rfl⟩⟩
        · cases hnone
      rw [ip6Groups_cons (Nat.not_le.mp hseen) hc] at h
      obtain ⟨digits, hdigits, hle, hcs⟩ := exists_piece (c :: cs)
      generalize hds : piece (c :: cs) = ds at h hdigits hle hcs
      split at h
      -- The last group
      · rename_i hdrop
        cases h
        rw [hdrop, List.append_nil] at hcs
        have hne : ds ≠ [] := by
          rintro rfl
          cases hdigits
          cases hcs
        exact .inl ⟨rfl, false, .groups (hcs ▸ .last ⟨ds, hdigits, hne, hle, rfl⟩)⟩
      -- An address of the older version
      · obtain ⟨-, h⟩ := Option.ite_none_left_eq_some.mp h
        obtain ⟨gs', htail, heq⟩ := Option.map_eq_some_iff.mp h
        cases heq
        obtain ⟨ip, hip, htext, rfl⟩ := ip4Tail?_eq_some_iff.mp htail
        exact .inl ⟨rfl, true, .groups (htext ▸ .dotted hip)⟩
      -- A group in front of others
      · rename_i rest hdrop
        rw [hdrop] at hcs
        obtain ⟨hrest, h⟩ := Option.ite_none_left_eq_some.mp h
        obtain ⟨⟨gs', gap''⟩, htail, heq⟩ := Option.map_eq_some_iff.mp h
        cases heq
        have hne : ds ≠ [] := by
          rintro rfl
          cases hdigits
          exact hc (List.cons.inj hcs).1
        rw [hcs]
        exact .cons ⟨ds, hdigits, hne, hle, rfl⟩ (by simpa using hrest) (ih htail)
      · cases h

/-- Digits in front of something else are the next piece. -/
private theorem exists_cons_of_isGroup (hg : IsGroup cs g) (hends : Ends 16 rest) :
    ∃ c cs', cs ++ rest = c :: cs' ∧ c ≠ ':' ∧ (piece (c :: cs')).isEmpty = false ∧
      ofDigits 16 (piece (c :: cs')) = g ∧ (c :: cs').drop (piece (c :: cs')).length = rest := by
  obtain ⟨ds, hdigits, hne, hle, rfl⟩ := hg
  have hpiece : piece (cs ++ rest) = ds := piece_append hdigits hle hends
  have hdrop : (cs ++ rest).drop ds.length = rest := by
    rw [← hdigits.length_eq, List.drop_left]
  -- A group has a digit to begin with, and no digit is a colon.
  cases hdigits with
  | nil => exact absurd rfl hne
  | @cons c _ cs _ hc hcs =>
    have hcolon : c ≠ ':' := by
      rintro rfl
      cases hc
    rw [List.cons_append] at hpiece hdrop
    exact ⟨c, cs ++ rest, rfl, hcolon, by rw [hpiece]; rfl, by rw [hpiece], by rw [hpiece, hdrop]⟩

/-- A group at the end is read. -/
private theorem ip6Groups_last (hg : IsGroup cs g) (hseen : seen < 8) :
    ip6Groups seen gap (fuel + 1) cs = some ([g], gap) := by
  obtain ⟨c, cs', hcs, hc, -, hvalue, hdrop⟩ := exists_cons_of_isGroup hg (nofun : Ends 16 [])
  rw [List.append_nil] at hcs
  rw [hcs, ip6Groups_cons hseen hc, hdrop, hvalue]

/-- So is an address of the older version, where there is room for two groups. -/
private theorem ip6Groups_dotted {ip : Ip4} (hip : ip.Valid) (hseen : seen ≤ 6) :
    ip6Groups seen gap (fuel + 1) ip.text.toList = some (ip.groups, gap) := by
  obtain ⟨cs, g, rest, htext, hg⟩ := exists_isGroup_text hip
  have hends : Ends 16 ('.' :: rest) := by
    rintro _ ⟨rfl⟩
    decide
  have htail : ip4Tail? ip.text.toList = some ip.groups :=
    ip4Tail?_eq_some_iff.mpr ⟨ip, hip, rfl, rfl⟩
  obtain ⟨c, cs', hcs, hc, hne, -, hdrop⟩ := exists_cons_of_isGroup hg hends
  rw [htext, hcs] at htail ⊢
  rw [ip6Groups_cons (by omega) hc, hdrop, htail]
  -- The dotted tail needs room for two groups.
  exact if_neg (by simpa [hne] using hseen)

/-- A group in front of a colon is read, and then what stands behind the colon. -/
private theorem ip6Groups_group (hg : IsGroup cs g) (hseen : seen < 8) (hrest : rest ≠ []) :
    ip6Groups seen gap (fuel + 1) (cs ++ ':' :: rest) =
      (ip6Groups (seen + 1) gap fuel rest).map fun r => (g :: r.1, r.2) := by
  obtain ⟨c, cs', hcs, hc, -, hvalue, hdrop⟩ := exists_cons_of_isGroup hg (ends_colon rest)
  rw [hcs, ip6Groups_cons hseen hc, hdrop, hvalue]
  exact if_neg (by simpa using hrest)

/-- Groups that fit are read to the end. -/
private theorem ip6Groups_complete (h : Groups old gs cs) (hseen : seen + gs.length ≤ 8)
    (hfuel : cs.length ≤ fuel) : ip6Groups seen gap fuel cs = some (gs, gap) := by
  -- Each group uses a character at least, so the text's length is fuel enough.
  induction h generalizing seen fuel with
  | last hg =>
    obtain ⟨fuel, rfl⟩ := Nat.exists_eq_add_of_le' (Nat.le_trans hg.length_pos hfuel)
    exact ip6Groups_last hg hseen
  | @dotted ip hip =>
    have hlength : 2 ≤ ip.text.toList.length := (Groups.dotted hip).length_le
    obtain ⟨fuel, rfl⟩ := Nat.exists_eq_add_of_le' (show 1 ≤ fuel by omega)
    exact ip6Groups_dotted hip (Nat.le_of_add_le_add_right hseen)
  | @cons _ cs rest g gs hg hgroups ih =>
    rw [List.length_append, List.length_cons] at hfuel
    rw [List.length_cons] at hseen
    obtain ⟨fuel, rfl⟩ := Nat.exists_eq_add_of_le' (show 1 ≤ fuel by omega)
    rw [ip6Groups_group hg (by omega) hgroups.ne_nil, ih (by omega) (by omega)]
    rfl

/-- So is a side. -/
private theorem ip6Groups_side (h : Side old gs cs) (hseen : seen + gs.length ≤ 8)
    (hfuel : cs.length ≤ fuel) : ip6Groups seen gap fuel cs = some (gs, gap) := by
  cases h with
  | nil => cases fuel <;> rfl
  | groups h => exact ip6Groups_complete h hseen hfuel

/-- A colon behind a colon opens the gap. -/
private theorem ip6Groups_colon (hseen : seen < 8) :
    ip6Groups seen none (fuel + 1) (':' :: cs) =
      ip6Groups (seen + 1) (some (seen + 1)) fuel cs := by
  rw [ip6Groups, if_neg (Nat.not_le.mpr hseen)]
  rfl

/-- Two sides around a gap are read, if together they leave out a group. -/
private theorem ip6Groups_gap (h : Groups old front cs) (hold : old = false)
    (hback : Side old' back behind) (hseen : seen + front.length + 1 + back.length ≤ 8)
    (hfuel : (cs ++ ':' :: ':' :: behind).length ≤ fuel) :
    ip6Groups seen none fuel (cs ++ ':' :: ':' :: behind) =
      some (front ++ back, some (seen + front.length + 1)) := by
  -- The groups in front of the gap are read one by one; the two colons are met behind the last of
  -- them.
  induction h generalizing seen fuel with
  | last hg =>
    rw [List.length_append, List.length_cons, List.length_cons] at hfuel
    rw [List.length_singleton] at hseen
    obtain ⟨fuel, rfl⟩ := Nat.exists_eq_add_of_le' (show 2 ≤ fuel by omega)
    rw [ip6Groups_group hg (by omega) (List.cons_ne_nil _ _), ip6Groups_colon (by omega),
      ip6Groups_side hback (by omega) (by omega)]
    rfl
  | dotted => cases hold
  | @cons _ cs rest g front hg hgroups ih =>
    rw [List.append_assoc, List.cons_append] at hfuel ⊢
    rw [List.length_append, List.length_cons] at hfuel
    rw [List.length_cons] at hseen
    obtain ⟨fuel, rfl⟩ := Nat.exists_eq_add_of_le' (show 1 ≤ fuel by omega)
    rw [ip6Groups_group hg (by omega) (by simp), ih hold (by omega) (by omega)]
    simp only [Option.map_some, List.cons_append, List.length_cons]
    congr 3
    omega

/-! ## Whole addresses -/

/-- The address whose groups were read, with zeros where groups are left out. -/
def filled (groups : List Nat) (gap : Option Nat) : Option Ip6 :=
  match gap with
  | none => if groups.length = 8 then some ⟨groups⟩ else none
  | some place =>
    if 8 < groups.length + 1 then none
    else
      some ⟨groups.take (place - 1) ++ List.replicate (8 - groups.length) 0 ++
        groups.drop (place - 1)⟩

/-- An address may begin with its gap. -/
private theorem ip6?_colons (cs : List Char) :
    ip6? (':' :: ':' :: cs) =
      (ip6Groups 1 (some 1) (cs.length + 1) cs).bind fun r => filled r.1 r.2 :=
  rfl

/-- Any other address begins with a group. -/
private theorem ip6?_groups (hlength : 2 ≤ cs.length) (hcolon : cs.head? ≠ some ':') :
    ip6? cs = (ip6Groups 0 none (cs.length + 1) cs).bind fun r => filled r.1 r.2 := by
  unfold ip6?
  split
  · exact absurd rfl hcolon
  · exact absurd rfl hcolon
  · cases hlength
  · exact absurd hlength (Nat.not_succ_le_self 1)
  · rfl

/-- How an address that is read begins. -/
private theorem start_of_ip6?_eq_some (h : ip6? cs = some ip) :
    (∃ rest, cs = ':' :: ':' :: rest) ∨ 2 ≤ cs.length ∧ cs.head? ≠ some ':' := by
  unfold ip6? at h
  split at h
  · exact .inl ⟨_, rfl⟩
  · cases h
  · cases h
  · cases h
  · rename_i hcolon hnil hone
    -- A single leading colon and texts of less than two characters are refused at once.
    match cs with
    | [] => exact absurd rfl hnil
    | [c] => exact absurd rfl (hone c)
    | c :: c' :: cs =>
      refine .inr ⟨Nat.le_add_left 2 _, fun hc => ?_⟩
      cases hc
      exact hcolon _ rfl

/-- A text that is read as an address spells it. -/
private theorem ip6?_sound (h : ip6? cs = some ip) : Spells ip cs := by
  obtain ⟨cs, rfl⟩ | ⟨hlength, hcolon⟩ := start_of_ip6?_eq_some h
  · rw [ip6?_colons] at h
    obtain ⟨⟨groups, gap⟩, hread, h⟩ := Option.bind_eq_some_iff.mp h
    obtain ⟨rfl, old, hside⟩ | ⟨hnone, -⟩ := ip6Groups_sound hread
    · obtain ⟨hle, h⟩ := Option.ite_none_left_eq_some.mp h
      cases h
      have hle : groups.length ≤ 7 := Nat.le_of_succ_le_succ (Nat.not_lt.mp hle)
      exact .gap .nil hside (by simpa using hle)
    -- With the gap at the front there is no second one.
    · cases hnone
  · rw [ip6?_groups hlength hcolon] at h
    obtain ⟨⟨groups, gap⟩, hread, h⟩ := Option.bind_eq_some_iff.mp h
    obtain ⟨rfl, old, hside⟩ | ⟨-, old, front, back, behind, rfl, rfl, hback, hfront⟩ :=
      ip6Groups_sound hread
    · obtain ⟨hcount, h⟩ := Option.ite_none_right_eq_some.mp h
      cases h
      cases hside with
      | nil => cases hlength
      | groups hgroups => exact .whole hgroups hcount
    · obtain ⟨hle, h⟩ := Option.ite_none_left_eq_some.mp h
      cases h
      -- No group in front of the gap would mean a leading colon.
      obtain ⟨rfl, rfl⟩ | ⟨lead, hlead, rfl⟩ := hfront
      · exact absurd rfl hcolon
      · rw [List.length_append] at hle
        have hspells := Spells.gap (.groups hlead) hback (by omega)
        simpa [Nat.sub_sub] using hspells

/-- Groups do not begin with a colon. -/
private theorem head?_ne_colon (h : Groups old gs cs) : (cs ++ rest).head? ≠ some ':' := by
  intro hhead
  have hends : Ends 16 (cs ++ rest) := fun c hc => by
    cases hhead.symm.trans hc
    rfl
  exact h.not_ends hends

/-- A text that spells an address is read as it. -/
private theorem ip6?_complete (h : Spells ip cs) : ip6? cs = some ip := by
  cases h with
  | whole hgroups hcount =>
    have hlength := hgroups.length_le
    have hcolon : (cs ++ []).head? ≠ some ':' := head?_ne_colon hgroups
    rw [List.append_nil] at hcolon
    rw [ip6?_groups (by omega) hcolon, ip6Groups_complete hgroups (by omega) (by omega)]
    simp [filled, hcount]
  | @gap _ front back lead behind hfront hback hle =>
    -- The gap at the front is a case of its own: the reader checks for it first.
    cases hfront with
    | nil =>
      rw [List.length_nil] at hle
      rw [List.nil_append, ip6?_colons, ip6Groups_side hback (by omega) (by omega)]
      simp only [Option.bind_some, filled, if_neg (show ¬ 8 < back.length + 1 by omega)]
      rfl
    | groups hgroups =>
      rw [ip6?_groups (by simp; omega) (head?_ne_colon hgroups),
        ip6Groups_gap hgroups rfl hback (by omega) (by omega)]
      have hcount : ¬ 8 < (front ++ back).length + 1 := by
        rw [List.length_append]
        omega
      simp only [Option.bind_some, filled, if_neg hcount]
      simp [Nat.sub_sub]

/-- The reader of URLs accepts the grammar. -/
theorem ip6?_eq_some_iff : ip6? cs = some ip ↔ Spells ip cs :=
  ⟨ip6?_sound, ip6?_complete⟩

end ChainGauge.Url
