import ChainGauge.Json.Record
import ChainGauge.Proofs.Except
import Mathlib.Data.List.Forall2
import Mathlib.Data.List.Nodup

/-!
# Records and lists of values

A record is read from an object in which each of its fields is written at most once, in any order and
among any members of other names (`IsRecord`, `fields_of_isRecord`). A list is read exactly if each of
its values is (`readEach_eq_ok_iff`). Parts of a value nest less deep than the value.
-/

namespace ChainGauge.Json

variable {checks : List FieldCheck} {names seen : List String} {ms members : List (String × Json)}
  {name : String} {j v : Json}

/-! ## Members of an object -/

/-- The names of the members that a record knows. -/
def knownNames (checks : List FieldCheck) (ms : List (String × Json)) : List String :=
  (ms.map (·.1)).filter fun n => (checks.map (·.name)).contains n

/-- A value is an object whose members of some names are the given ones, in any order and among any
members of other names. -/
def IsRecord (names : List String) (members : List (String × Json)) (j : Json) : Prop :=
  ∃ all, j = .object all ∧ (all.filter fun m => names.contains m.1).Perm members

/-- No check has a name exactly if it is none of theirs. -/
private theorem find?_eq_none_iff_contains :
    checks.find? (·.name == name) = none ↔ (checks.map (·.name)).contains name = false := by
  simp [List.find?_eq_none]

/-- The members of an object pass if those of known names fit, and none of these names comes twice. -/
private theorem checkMembers_eq_ok_iff :
    checkMembers checks seen ms = .ok () ↔
      (∀ m ∈ ms, ∀ c, checks.find? (·.name == m.1) = some c → c.fits m.2 = .ok ()) ∧
        (knownNames checks ms).Nodup ∧ ∀ n ∈ knownNames checks ms, n ∉ seen := by
  induction ms generalizing seen with
  | nil => simp [checkMembers, knownNames]
  | cons m ms ih =>
    obtain ⟨n, v⟩ := m
    rw [checkMembers]
    cases hfind : checks.find? (·.name == n) with
    | none =>
      have hknown : knownNames checks ((n, v) :: ms) = knownNames checks ms := by
        rw [knownNames, List.map_cons, List.filter_cons_of_neg]
        · rfl
        · simpa using find?_eq_none_iff_contains.mp hfind
      simp [ih, hknown, hfind]
    | some c =>
      have hknown : knownNames checks ((n, v) :: ms) = n :: knownNames checks ms := by
        rw [knownNames, List.map_cons, List.filter_cons_of_pos]
        · rfl
        · by_contra hnot
          rw [find?_eq_none_iff_contains.mpr (by simpa using hnot)] at hfind
          cases hfind
      dsimp only
      by_cases hseen : n ∈ seen
      · rw [if_pos (by simpa using hseen), hknown]
        exact ⟨nofun, fun h => absurd hseen (h.2.2 n List.mem_cons_self)⟩
      · rw [if_neg (by simpa using hseen), hknown]
        cases hfits : c.fits v with
        | error e =>
          refine ⟨nofun, fun h => ?_⟩
          have := h.1 (n, v) List.mem_cons_self c hfind
          rw [hfits] at this
          exact this
        -- The name joins those that must not come again.
        | ok u =>
          rw [ih]
          simp only [List.nodup_cons, List.mem_cons, not_or]
          grind

/-- A member whose name comes once is found by its name. -/
private theorem lookup_of_mem (hnodup : (knownNames checks ms).Nodup)
    (hname : name ∈ checks.map (·.name)) (hmem : (name, v) ∈ ms) : ms.lookup name = some v := by
  induction ms with
  | nil => cases hmem
  | cons m ms ih =>
    obtain ⟨n, w⟩ := m
    -- The first member of that name is the one `lookup` finds; since the known names are told
    -- apart, it is also the only one.
    by_cases hn : name = n
    · subst hn
      have hknown : knownNames checks ((name, w) :: ms) = name :: knownNames checks ms := by
        rw [knownNames, List.map_cons, List.filter_cons_of_pos (by simpa using hname)]
        rfl
      rw [hknown, List.nodup_cons] at hnodup
      rcases List.mem_cons.mp hmem with heq | hrest
      · rw [(Prod.mk.inj heq).2]
        exact List.lookup_cons_self
      · refine absurd ?_ hnodup.1
        exact List.mem_filter.mpr ⟨List.mem_map_of_mem hrest, by simpa using hname⟩
    · have hrest : (name, v) ∈ ms := by simpa [hn] using hmem
      have hsub : (knownNames checks ms).Nodup :=
        hnodup.sublist (List.Sublist.filter _ (List.sublist_cons_self ..))
      have hne : (name == n) = false := beq_false_of_ne hn
      rw [List.lookup_cons, hne]
      exact ih hsub hrest

/-- A member that is found is there. -/
theorem mem_of_lookup (h : ms.lookup name = some v) : (name, v) ∈ ms := by
  obtain ⟨l₁, l₂, rfl, -⟩ := List.lookup_eq_some_iff.mp h
  simp

/-- A member of an object that passes is found by its name. -/
theorem lookup_of_fields {fs : List (String × Json) × Bool}
    (h : (object ms).fields checks = .ok fs) (hname : name ∈ checks.map (·.name))
    (hmem : (name, v) ∈ ms) : fs.1.lookup name = some v := by
  obtain ⟨u, hcheck, rfl⟩ := Except.map_eq_ok_iff.mp h
  exact lookup_of_mem (checkMembers_eq_ok_iff.mp hcheck).2.1 hname hmem

variable (checks) in
/-- A record is read from its members, wherever they stand. -/
theorem fields_of_isRecord (h : IsRecord (checks.map (·.name)) members j)
    (hnodup : (members.map (·.1)).Nodup)
    (hfits : ∀ m ∈ members, ∀ c ∈ checks, c.name = m.1 → c.fits m.2 = .ok ()) :
    ∃ all, j.fields checks = .ok (all, false) ∧
      ∀ name ∈ checks.map (·.name), all.lookup name = members.lookup name := by
  obtain ⟨all, rfl, hperm⟩ := h
  have hknown : (knownNames checks all).Nodup := by
    have hnames : (knownNames checks all).Perm (members.map (·.1)) := by
      rw [knownNames, List.filter_map]
      exact hperm.map _
    exact hnames.nodup_iff.mpr hnodup
  have hmem {m : String × Json} (hname : m.1 ∈ checks.map (·.name)) : m ∈ all ↔ m ∈ members := by
    rw [← hperm.mem_iff, List.mem_filter]
    simp only [List.contains_iff_mem, hname, and_true]
  -- Members of unknown names fail no check, so what the record's own members pass, all of them
  -- pass.
  have hcheck : checkMembers checks [] all = .ok () := by
    refine checkMembers_eq_ok_iff.mpr ⟨fun m hm c hc => ?_, hknown, by simp⟩
    have hname : c.name = m.1 := by simpa using List.find?_some hc
    have hc := List.mem_of_find?_eq_some hc
    exact hfits m ((hmem (hname ▸ List.mem_map_of_mem hc)).mp hm) c hc hname
  refine ⟨all, by simp [fields, hcheck, Except.map], fun name hname => ?_⟩
  cases hlookup : members.lookup name with
  | none =>
    rw [List.lookup_eq_none_iff] at hlookup ⊢
    intro m hm
    by_cases heq : m.1 = name
    · exact hlookup m ((hmem (heq ▸ hname)).mp hm)
    · simpa using Ne.symm heq
  | some v =>
    exact lookup_of_mem hknown hname ((hmem hname).mpr (mem_of_lookup hlookup))

/-! ## The canonical form -/

section Canonical

variable {done : List (String × Json)}

/-- A member in canonical form. -/
def canonicalMember (m : String × Json) : String × Json :=
  (m.1, m.2.canonical)

/-- A member of another name is not among those that are looked at. -/
private theorem filter_insertMember_of_not_mem (h : name ∉ names) :
    (insertMember name v done).filter (fun m => names.contains m.1) =
      done.filter fun m => names.contains m.1 := by
  induction done with
  | nil => simp [insertMember, h]
  | cons m done ih =>
    obtain ⟨n, w⟩ := m
    rw [insertMember]
    -- The unknown member is filtered out wherever it is inserted.
    split_ifs with hlt heq
    · simp [h]
    · subst heq
      simp [h]
    · rw [List.filter_cons, List.filter_cons, ih]

/-- A member of a new name is put somewhere among the others. -/
private theorem insertMember_perm (h : name ∉ done.map (·.1)) :
    (insertMember name v done).Perm ((name, v) :: done) := by
  induction done with
  | nil => exact .refl _
  | cons m done ih =>
    obtain ⟨n, w⟩ := m
    obtain ⟨hn, hdone⟩ := not_or.mp (fun hor => h (List.mem_cons.mpr hor))
    rw [insertMember]
    split_ifs with hlt
    · exact .refl _
    · exact ((ih hdone).cons (n, w)).trans (.swap ..)

/-- Putting members into sorted ones keeps those of known names, none of which comes twice. -/
private theorem filter_canonicalMembers_perm
    (hnodup : ((done.filter (fun m => names.contains m.1) ++
      ms.filter fun m => names.contains m.1).map (·.1)).Nodup) :
    ((canonicalMembers done ms).filter fun m => names.contains m.1).Perm
      (done.filter (fun m => names.contains m.1) ++
        (ms.filter fun m => names.contains m.1).map canonicalMember) := by
  induction ms generalizing done with
  | nil => simp [canonicalMembers]
  | cons m ms ih =>
    obtain ⟨n, w⟩ := m
    rw [canonicalMembers]
    -- A member of a known name takes no other one's place, as none of its name was there.
    by_cases hn : n ∈ names
    · rw [List.filter_cons_of_pos (by simpa using hn)] at hnodup ⊢
      have hfresh : n ∉ done.map (·.1) := by
        intro hmem
        obtain ⟨m, hm, rfl⟩ := List.mem_map.mp hmem
        rw [List.map_append, List.nodup_append] at hnodup
        exact hnodup.2.2 _ (List.mem_map_of_mem (List.mem_filter.mpr ⟨hm, by simpa using hn⟩))
          _ List.mem_cons_self rfl
      have hinsert : ((insertMember n w.canonical done).filter fun m => names.contains m.1).Perm
          ((n, w.canonical) :: done.filter fun m => names.contains m.1) := by
        have := (insertMember_perm (v := w.canonical) hfresh).filter fun m => names.contains m.1
        rwa [List.filter_cons_of_pos (by simpa using hn)] at this
      refine (ih ?_).trans ?_
      · refine (((hinsert.append_right _).map (·.1)).nodup_iff).mpr ?_
        rw [List.map_append, List.map_cons] at hnodup
        rw [List.cons_append, List.map_cons, List.map_append]
        exact List.perm_middle.nodup_iff.mp hnodup
      · exact (hinsert.append_right _).trans List.perm_middle.symm
    · rw [List.filter_cons_of_neg (by simpa using hn)] at hnodup ⊢
      have hinsert : (insertMember n w.canonical done).filter (fun m => names.contains m.1) =
          done.filter fun m => names.contains m.1 := filter_insertMember_of_not_mem hn
      rw [← hinsert]
      exact ih (by rwa [hinsert])

/-- The members that a record knows stay in its canonical form. -/
theorem isRecord_canonical (h : IsRecord names members j) (hnodup : (members.map (·.1)).Nodup) :
    IsRecord names (members.map canonicalMember) j.canonical := by
  obtain ⟨all, rfl, hperm⟩ := h
  refine ⟨canonicalMembers [] all, by rw [canonical], ?_⟩
  have hknown : ((all.filter fun m => names.contains m.1).map (·.1)).Nodup :=
    (hperm.map _).nodup_iff.mpr hnodup
  exact (filter_canonicalMembers_perm (by exact hknown)).trans (hperm.map _)

/-- A settled record is a record of its settled members. -/
theorem isRecord_settled (h : IsRecord names members j) :
    IsRecord names (members.map canonicalMember) j.settled := by
  obtain ⟨all, rfl, hperm⟩ := h
  refine ⟨all.map canonicalMember, rfl, ?_⟩
  rw [List.filter_map]
  exact hperm.map _

end Canonical

/-! ## Lists -/

section Lists

variable {α : Type} {read read' : Reader α} {js : List Json} {as : List α}

/-- A list is read exactly if every item is. -/
theorem readEach_eq_ok_iff :
    readEach read js = .ok as ↔ List.Forall₂ (fun j a => read j = .ok a) js as := by
  induction js generalizing as with
  | nil => cases as <;> simp [readEach]
  | cons j js ih =>
    rw [readEach]
    cases hj : read j with
    | error e => simp [List.forall₂_cons_left_iff, hj]
    -- What the rest reads is under the first value's success, so the case of the rest follows the
    -- case of the first.
    | ok a =>
      cases hjs : readEach read js with
      | error e =>
        simp [List.forall₂_cons_left_iff, hj, ← ih, hjs]
      | ok as' =>
        simp [List.forall₂_cons_left_iff, hj, ← ih, hjs, eq_comm]

/-- Readers that agree on the items read a list alike. -/
theorem readEach_congr (h : ∀ j ∈ js, read j = read' j) : readEach read js = readEach read' js := by
  induction js with
  | nil => rfl
  | cons j js ih =>
    obtain ⟨hj, hjs⟩ := List.forall_mem_cons.mp h
    rw [readEach, readEach, hj, ih hjs]

end Lists

/-! ## Depth -/

/-- Items nest less deep than their array. -/
theorem depth_lt_of_mem_array {items : List Json} (h : j ∈ items) : j.depth < (array items).depth := by
  rw [depth]
  induction items with
  | nil => cases h
  | cons i items ih =>
    rw [depthItems]
    rcases List.mem_cons.mp h with rfl | hrest
    · omega
    · have := ih hrest
      omega

/-- Members nest less deep than their object. -/
private theorem depth_lt_of_mem_object (h : (name, v) ∈ ms) : v.depth < (object ms).depth := by
  rw [depth]
  induction ms with
  | nil => cases h
  | cons m ms ih =>
    obtain ⟨n, w⟩ := m
    rw [depthMembers]
    -- The depth of a list of members is the largest one of them.
    rcases List.mem_cons.mp h with heq | hrest
    · cases heq
      omega
    · have := ih hrest
      omega

/-- What is read of a record nests less deep. -/
theorem depth_lt_of_fields {fs : List (String × Json) × Bool} (h : j.fields checks = .ok fs)
    (hmem : (name, v) ∈ fs.1) : v.depth < j.depth := by
  cases j with
  | object ms =>
    cases hcheck : checkMembers checks [] ms with
    | error e => simp [fields, hcheck, Except.map] at h
    | ok u =>
      obtain rfl : (ms, false) = fs := by simpa [fields, hcheck, Except.map] using h
      exact depth_lt_of_mem_object hmem
  -- A list is read as a record by position, and its items are just as much below it.
  | array items =>
    cases hcheck : checkItems checks items with
    | error e => simp [fields, hcheck, Except.map] at h
    | ok u =>
      obtain rfl : (namedItems checks items, true) = fs := by
        simpa [fields, hcheck, Except.map] using h
      exact depth_lt_of_mem_array (List.of_mem_zip hmem).2
  | null => cases h
  | bool b => cases h
  | number n => cases h
  | string s => cases h

/-! ## Checks that agree -/

/-- Two checks of the same name that agree on values less deep than a bound. -/
def FieldCheck.Agree (bound : Nat) (c c' : FieldCheck) : Prop :=
  c.name = c'.name ∧ ∀ v : Json, v.depth < bound → c.fits v = c'.fits v

section Congr

variable {checks' : List FieldCheck} {bound : Nat}
  (h : List.Forall₂ (FieldCheck.Agree bound) checks checks')
include h

/-- Checks that agree have the same names. -/
private theorem names_eq_of_agree : checks.map (·.name) = checks'.map (·.name) := by
  induction h with
  | nil => rfl
  | cons hc _ ih => rw [List.map_cons, List.map_cons, hc.1, ih]

/-- Checks that agree find the same names. -/
private theorem find?_of_agree (name : String) :
    (checks.find? (·.name == name) = none ∧ checks'.find? (·.name == name) = none) ∨
      ∃ c c', checks.find? (·.name == name) = some c ∧
        checks'.find? (·.name == name) = some c' ∧ c.Agree bound c' := by
  induction h with
  | nil => exact .inl ⟨rfl, rfl⟩
  | @cons c c' cs cs' hc _ ih =>
    rw [List.find?_cons, List.find?_cons, ← hc.1]
    cases c.name == name with
    | true => exact .inr ⟨c, c', rfl, rfl, hc⟩
    | false => exact ih

/-- Checks that agree on what nests less deep pass the same members. -/
private theorem checkMembers_congr (hms : ∀ m ∈ ms, m.2.depth < bound) :
    checkMembers checks seen ms = checkMembers checks' seen ms := by
  induction ms generalizing seen with
  | nil => rfl
  | cons m ms ih =>
    obtain ⟨n, v⟩ := m
    obtain ⟨hv, hrest⟩ := List.forall_mem_cons.mp hms
    rw [checkMembers, checkMembers]
    rcases find?_of_agree h n with ⟨hnone, hnone'⟩ | ⟨c, c', hsome, hsome', hc⟩
    · simp only [hnone, hnone', ih hrest]
    · simp only [hsome, hsome', hc.2 v hv, ih hrest]

/-- They pass the same items. -/
private theorem checkItems_congr {items : List Json} (hitems : ∀ v ∈ items, v.depth < bound) :
    checkItems checks items = checkItems checks' items := by
  induction h generalizing items with
  | nil => cases items <;> rfl
  | cons hc _ ih =>
    cases items with
    | nil => rfl
    | cons v items =>
      obtain ⟨hv, hrest⟩ := List.forall_mem_cons.mp hitems
      rw [checkItems, checkItems, hc.2 v hv, ih hrest]

end Congr

/-- Checks that agree on what nests less deep than a value agree on its fields. -/
theorem fields_congr {checks' : List FieldCheck}
    (h : List.Forall₂ (FieldCheck.Agree j.depth) checks checks') :
    j.fields checks = j.fields checks' := by
  cases j with
  | object ms =>
    rw [fields, fields, checkMembers_congr h fun m hm => depth_lt_of_mem_object hm]
  | array items =>
    rw [fields, fields, checkItems_congr h fun v hv => depth_lt_of_mem_array hv]
    simp only [namedItems, names_eq_of_agree h]
  | _ => rfl

end ChainGauge.Json
