import ChainGauge.Proofs.Except
import ChainGauge.Proofs.Net.UrlIp
import ChainGauge.Proofs.Text.Split
import Mathlib.Data.List.DropRight
import Mathlib.Data.List.TakeDrop

/-!
# URLs of schemes that are not special

The host of such a URL is kept as it is written, unless it stands in brackets.

## Key results

- `exists_parse_eq_ok`: a host that is written out, with a port behind it, is the host of the URL
- `exists_opaqueHost_of_parse`: conversely, the host of a URL comes from `opaqueHost`
- `opaqueHost_eq_ok`: what a host can be, whatever is written
-/

namespace ChainGauge.Url

open Ip Ip6

variable {special : Bool} {scheme : String} {cs port rest tail : List Char} {ds : List Nat}
  {host : Host} {ip : Ip6}

/-! ## Hosts -/

/-- Characters stand for a host of a URL that is not special. -/
inductive WritesHost : Host → List Char → Prop where
  | name {cs : List Char} : cs ≠ [] → (∀ c ∈ cs, isNameChar c = true) →
      WritesHost (.name (String.ofList cs)) cs
  | ip6 {ip : Ip6} {cs : List Char} : Spells ip cs →
      WritesHost (.ip6 ip) ('[' :: (cs ++ [']']))

/-- Characters of names are visible ones of ASCII. -/
private theorem bounds_of_isNameChar {c : Char} (h : isNameChar c = true) :
    32 < c.toNat ∧ c.toNat < 127 := by
  obtain h | h | h | rfl | rfl := isNameChar_iff.mp h
  · omega
  · omega
  · omega
  · decide
  · decide

/-- Characters of names are none of those that mean something else. -/
theorem not_mem_of_isNameChar {c : Char} (h : isNameChar c = true) (marks : List Char)
    (hmarks : (marks.all fun c => !isNameChar c) = true) : c ∉ marks := by
  intro hc
  have hmark := List.all_eq_true.mp hmarks c hc
  simp [h] at hmark

/-- A host is written with characters of names, colons and square brackets. -/
theorem WritesHost.mem (h : WritesHost host cs) :
    ∀ c ∈ cs, isNameChar c = true ∨ c ∈ [':', '[', ']'] := by
  cases h with
  | name _ h => exact fun c hc => .inl (h c hc)
  | ip6 h =>
    simp only [List.forall_mem_cons, List.forall_mem_append]
    refine ⟨.inr (by decide), fun c hc => ?_, .inr (by decide), nofun⟩
    exact (h.mem c hc).imp_right fun hcolon => List.mem_cons.mpr (.inl hcolon)

/-- Where nothing is to be escaped, a text stays as it is. -/
private theorem escape_eq_self {test : Char → Bool} (h : ∀ c ∈ cs, test c = false) :
    escape test cs = String.ofList cs := by
  have hkeep : cs.flatMap (fun c =>
      if test c then (Utf8.encode c.toString).flatMap escapeByte else [c]) = cs := by
    induction cs with
    | nil => rfl
    | cons c cs ih =>
      obtain ⟨hc, hcs⟩ := List.forall_mem_cons.mp h
      rw [List.flatMap_cons, ih hcs, hc]
      rfl
  rw [escape, hkeep]

/-- A written host is read as it. -/
theorem WritesHost.opaqueHost (h : WritesHost host cs) : opaqueHost cs = .ok host := by
  cases h with
  | name hne h =>
    have hhead : cs.head? ≠ some '[' := fun hhead =>
      absurd (h '[' (List.mem_of_mem_head? hhead)) (by decide)
    -- A name's characters are neither forbidden in a host nor escaped there.
    have hforbidden : cs.any "\x00\t\n\r #/:<>?@[\\]^|".toList.contains = false := by
      refine List.any_eq_false.mpr fun c hc => ?_
      have hmark := not_mem_of_isNameChar (h c hc) "\x00\t\n\r #/:<>?@[\\]^|".toList (by decide)
      simpa using hmark
    have hescape : escape isControl cs = String.ofList cs := escape_eq_self fun c hc => by
      have := bounds_of_isNameChar (h c hc)
      simp only [isControl, Bool.or_eq_false_iff, decide_eq_false_iff_not]
      omega
    rw [Url.opaqueHost, if_neg hhead, hforbidden, hescape]
    rfl
  | @ip6 ip cs h =>
    have hread : ip6? (('[' :: (cs ++ [']'])).drop 1).dropLast = some ip := by
      simpa using ip6?_eq_some_iff.mpr h
    rw [Url.opaqueHost, if_pos List.head?_cons, bracketed, hread]
    have hlast : ('[' :: (cs ++ [']'])).getLast? = some ']' := by
      rw [← List.cons_append, List.getLast?_concat]
    exact if_neg (not_not.mpr hlast)

/-- No host is written by nothing. -/
private theorem WritesHost.ne_name_empty (h : WritesHost host cs) : host ≠ .name "" := by
  cases h with
  | name hne h => simpa using hne
  | ip6 h => exact nofun

/-- Inside of brackets a colon does not end the host. -/
private theorem splitHost_inside (h : ∀ c ∈ cs, isNameChar c = true ∨ c = ':') (rest : List Char) :
    splitHost false true (cs ++ ']' :: rest) =
      (cs ++ ']' :: (splitHost false false rest).1, (splitHost false false rest).2) := by
  induction cs with
  | nil => rfl
  | cons c cs ih =>
    obtain ⟨hc, hcs⟩ := List.forall_mem_cons.mp h
    -- Inside the brackets neither hexadecimal digits, points nor colons end the host.
    have hplain : c ∉ ['/', '?', '#', '\\', '[', ']'] := by
      obtain hc | rfl := hc
      · exact not_mem_of_isNameChar hc _ (by decide)
      · decide
    simp only [List.mem_cons, not_or] at hplain
    simp [splitHost, endsAuthority, hplain, ih hcs]

/-- Outside of them it does. -/
private theorem splitHost_name (h : ∀ c ∈ cs, isNameChar c = true) (rest : List Char) :
    splitHost false false (cs ++ ':' :: rest) = (cs, ':' :: rest) := by
  induction cs with
  | nil => rfl
  | cons c cs ih =>
    obtain ⟨hc, hcs⟩ := List.forall_mem_cons.mp h
    have hplain := not_mem_of_isNameChar hc ['/', '?', '#', '\\', '[', ']', ':'] (by decide)
    simp only [List.mem_cons, not_or] at hplain
    simp [splitHost, endsAuthority, hplain, ih hcs]

/-- A written host ends at the colon in front of its port. -/
theorem WritesHost.splitHost (h : WritesHost host cs) (rest : List Char) :
    splitHost false false (cs ++ ':' :: rest) = (cs, ':' :: rest) := by
  cases h with
  | name _ h => exact splitHost_name h rest
  | ip6 h =>
    have hinside := splitHost_inside h.mem (':' :: rest)
    have hbracket : ∀ cs, Url.splitHost false false ('[' :: cs) =
        ('[' :: (Url.splitHost false true cs).1, (Url.splitHost false true cs).2) := fun _ => rfl
    rw [List.cons_append, List.append_assoc, List.singleton_append, hbracket, hinside]
    rfl

/-! ## Authorities -/

/-- What follows an authority. -/
def Follows (tail : List Char) : Prop :=
  ∀ c ∈ tail.head?, endsAuthority false c = true

/-- A text is split before the first character that passes a test. -/
private theorem splitBefore_append {test : Char → Bool} (h : ∀ c ∈ cs, test c = false)
    (hrest : ∀ c ∈ rest.head?, test c = true) : splitBefore test (cs ++ rest) = (cs, rest) := by
  have hcs : ∀ c ∈ cs, (!test c) = true := fun c hc => by rw [h c hc]; rfl
  rw [splitBefore, List.span_eq_takeWhile_dropWhile, List.takeWhile_append_of_pos hcs,
    List.dropWhile_append_of_pos hcs]
  cases rest with
  | nil => simp
  | cons c rest => simp [hrest c rfl]

/-- Without an at sign there is no user. -/
private theorem splitUser_eq_none (h : ∀ c ∈ cs, endsAuthority special c = false) (hat : '@' ∉ cs)
    (htail : ∀ c ∈ tail.head?, endsAuthority special c = true) :
    splitUser special (cs ++ tail) = (none, cs ++ tail) := by
  rw [splitUser, splitBefore_append h htail]
  simp only [Text.splitAt_of_not_mem hat]
  rfl

/-- A host with a port is written with the same characters. -/
theorem WritesHost.mem_append (h : WritesHost host cs) (hport : SpellsDigits 10 port ds) :
    ∀ c ∈ cs ++ ':' :: port, isNameChar c = true ∨ c ∈ [':', '[', ']'] := by
  simp only [List.forall_mem_append, List.forall_mem_cons]
  exact ⟨h.mem, .inr (by decide), fun c hc => .inl (hport.isNameChar c hc)⟩

/-- None of these characters is blank. -/
private theorem not_isMargin {c : Char} (h : isNameChar c = true ∨ c ∈ [':', '[', ']']) :
    isMargin c = false := by
  obtain h | h := h
  · simpa [isMargin] using (bounds_of_isNameChar h).1
  · simp only [List.mem_cons, List.not_mem_nil, or_false] at h
    obtain rfl | rfl | rfl := h <;> rfl

/-- None of them ends an authority. -/
private theorem not_endsAuthority {c : Char} (h : isNameChar c = true ∨ c ∈ [':', '[', ']']) :
    endsAuthority false c = false := by
  obtain h | h := h
  · have hplain := not_mem_of_isNameChar h ['/', '?', '#'] (by decide)
    simpa [endsAuthority, and_assoc] using hplain
  · simp only [List.mem_cons, List.not_mem_nil, or_false] at h
    obtain rfl | rfl | rfl := h <;> rfl

/-- What follows an authority is no digit, so the port ends there. -/
theorem Follows.ends (h : Follows tail) : Ends 10 tail := by
  intro c hc
  have hmark := h c hc
  simp only [endsAuthority, Bool.or_eq_true, Bool.and_eq_true, beq_iff_eq] at hmark
  obtain ((rfl | rfl) | rfl) | ⟨hfalse, -⟩ := hmark
  · rfl
  · rfl
  · rfl
  · cases hfalse

/-- A port is taken up to what follows it. -/
private theorem takePort_append (scheme : String) (hport : SpellsDigits 10 port ds)
    (hlt : ofDigits 10 ds < 0x10000) (htail : Follows tail) :
    ∃ p, takePort scheme (port ++ tail) = .ok (p, tail) := by
  -- A port ends where the authority does.
  have hend : tail.head?.any (fun c => !endsAuthority true c) = false := by
    cases tail with
    | nil => rfl
    | cons c tail =>
      have hmark := htail c rfl
      simp only [endsAuthority, Bool.false_and, Bool.or_false] at hmark
      simp only [List.head?_cons, Option.any_some, endsAuthority, hmark]
      rfl
  rw [takePort, spanDigits_append hport htail.ends]
  simp only [if_neg (Nat.not_le.mpr hlt), hend]
  exact ⟨_, rfl⟩

/-- An authority is taken up to what follows it, with its host. -/
private theorem takeAuthority_append (scheme : String) (hhost : WritesHost host cs)
    (hport : SpellsDigits 10 port ds) (hlt : ofDigits 10 ds < 0x10000) (htail : Follows tail) :
    ∃ p, takeAuthority scheme false (cs ++ ':' :: (port ++ tail)) = .ok (⟨host, p⟩, tail) := by
  have hchars := hhost.mem_append hport
  have hat : '@' ∉ cs ++ ':' :: port := fun hat => absurd (hchars '@' hat) (by decide)
  have huser := splitUser_eq_none (fun c hc => not_endsAuthority (hchars c hc)) hat htail
  rw [List.append_assoc, List.cons_append] at huser
  obtain ⟨p, hp⟩ := takePort_append scheme hport hlt htail
  refine ⟨p, ?_⟩
  rw [takeAuthority, huser]
  simp [hhost.splitHost, hhost.opaqueHost, hhost.ne_name_empty, hp, bind, Except.bind]

/-! ## Whole URLs -/

/-- The characters that count, of those behind the blanks in front. -/
def kept (cs : List Char) : List Char :=
  (cs.rdropWhile isMargin).filter fun c => !(c == '\t' || c == '\n' || c == '\r')

/-- A URL is read as what stands behind its scheme, without what does not count. -/
theorem parse_eq (s : String) :
    parse s =
      match splitScheme? (kept (s.toList.dropWhile isMargin)) with
      | none => .error .relative
      | some (scheme, rest) => ofScheme scheme rest :=
  rfl

/-- What is dropped at the end comes from the tail where nothing else can be dropped. -/
private theorem rdropWhile_append {p : Char → Bool} (h : ∀ c ∈ cs, p c = false) (tail : List Char) :
    (cs ++ tail).rdropWhile p = cs ++ tail.rdropWhile p := by
  induction tail using List.reverseRecOn with
  | nil =>
    rw [List.append_nil, List.rdropWhile_nil, List.append_nil]
    refine List.rdropWhile_eq_self_iff.mpr fun hne => ?_
    rw [h _ (List.getLast_mem hne)]
    exact Bool.false_ne_true
  | append_singleton tail c ih =>
    rw [← List.append_assoc]
    -- From the right, characters are dropped until one is kept; the front is not reached.
    by_cases hc : p c = true
    · rw [List.rdropWhile_concat_pos _ _ _ hc, List.rdropWhile_concat_pos _ _ _ hc, ih]
    · rw [List.rdropWhile_concat_neg _ _ _ hc, List.rdropWhile_concat_neg _ _ _ hc,
        List.append_assoc]

/-- Characters that count are kept. -/
private theorem kept_append (h : ∀ c ∈ cs, isMargin c = false) (tail : List Char) :
    kept (cs ++ tail) = cs ++ kept tail := by
  -- None of these characters is stripped anywhere in the text.
  have hcs : cs.filter (fun c => !(c == '\t' || c == '\n' || c == '\r')) = cs := by
    refine List.filter_eq_self.mpr fun c hc => ?_
    have hmargin := h c hc
    have hkeep : c ∉ ['\t', '\n', '\r'] := by
      intro hblank
      have hall : ['\t', '\n', '\r'].all isMargin = true := by decide
      exact absurd (List.all_eq_true.mp hall c hblank) (by simp [hmargin])
    simpa [and_assoc] using hkeep
  rw [kept, rdropWhile_append h, List.filter_append, hcs]
  rfl

/-- What follows an authority still does if only the characters that count are kept. -/
theorem Follows.kept (h : Follows tail) : Follows (kept tail) := by
  cases tail with
  | nil => exact nofun
  | cons c tail =>
    have hc := h c rfl
    have hmargin : isMargin c = false := by
      simp only [endsAuthority, Bool.or_eq_true, Bool.and_eq_true, beq_iff_eq] at hc
      obtain ((rfl | rfl) | rfl) | ⟨hfalse, -⟩ := hc
      · rfl
      · rfl
      · rfl
      · cases hfalse
    -- What ends an authority is no tab and no line break, so it is kept.
    have hkept : Url.kept (c :: tail) = c :: Url.kept tail :=
      kept_append (List.forall_mem_singleton.mpr hmargin) tail
    rw [hkept]
    rintro _ ⟨rfl⟩
    exact hc

/-- The schemes under which nodes announce addresses. -/
def nodeSchemes : List String :=
  ["grpc", "grpcs"]

/-- A scheme of nodes is split off at its colon. -/
private theorem splitScheme?_append (hscheme : scheme ∈ nodeSchemes) (rest : List Char) :
    splitScheme? (scheme.toList ++ ':' :: rest) = some (scheme, rest) := by
  simp only [nodeSchemes, List.mem_cons, List.not_mem_nil, or_false] at hscheme
  obtain rfl | rfl := hscheme <;> rfl

/-- Behind such a scheme and two slashes stands an authority. -/
private theorem ofScheme_slashes (hscheme : scheme ∈ nodeSchemes) (rest : List Char) :
    ofScheme scheme ('/' :: '/' :: rest) = (takeAuthority scheme false rest).map fun r =>
      withRest scheme (some r.1) (writtenPath false) r.2 := by
  have hplain : ∀ scheme ∈ nodeSchemes, scheme ≠ "file" ∧ isSpecial scheme = false := by decide
  obtain ⟨hfile, hspecial⟩ := hplain scheme hscheme
  rw [ofScheme, if_neg hfile, hspecial]
  cases takeAuthority scheme false rest <;> rfl

/-- A URL of a node is its authority with what follows. -/
private theorem parse_of_scheme {s : String} (hscheme : scheme ∈ nodeSchemes)
    (hs : s.toList = scheme.toList ++ ':' :: '/' :: '/' :: rest) :
    parse s = (takeAuthority scheme false (kept rest)).map fun r =>
      withRest scheme (some r.1) (writtenPath false) r.2 := by
  have hall : ∀ scheme ∈ nodeSchemes,
      ((scheme.toList ++ [':', '/', '/']).all fun c => !isMargin c) = true := by decide
  -- The two schemes and their slashes hold no character that is stripped.
  have hmargin : ∀ c ∈ scheme.toList ++ [':', '/', '/'], isMargin c = false := fun c hc => by
    simpa using List.all_eq_true.mp (hall scheme hscheme) c hc
  have hfront : s.toList.dropWhile isMargin = s.toList := by
    simp only [nodeSchemes, List.mem_cons, List.not_mem_nil, or_false] at hscheme
    rw [hs]
    obtain rfl | rfl := hscheme <;> rfl
  have hkept : kept s.toList = scheme.toList ++ ':' :: '/' :: '/' :: kept rest := by
    have happend : s.toList = (scheme.toList ++ [':', '/', '/']) ++ rest := by
      rw [hs, List.append_assoc]
      rfl
    rw [happend, kept_append hmargin, List.append_assoc]
    rfl
  rw [parse_eq, hfront, hkept, splitScheme?_append hscheme]
  exact ofScheme_slashes hscheme _

/-- The host of a URL is that of its authority. -/
private theorem host?_withRest {a : Authority} {readPath : List Char → String}
    (h : a.host ≠ .name "") :
    (withRest scheme (some a) readPath rest).host? = some a.host :=
  if_neg h

/-- A URL of a node names the host that is written in its authority. -/
theorem exists_parse_eq_ok {s : String} (hscheme : scheme ∈ nodeSchemes)
    (hs : s.toList = scheme.toList ++ ':' :: '/' :: '/' :: (cs ++ ':' :: (port ++ tail)))
    (hhost : WritesHost host cs) (hport : SpellsDigits 10 port ds) (hlt : ofDigits 10 ds < 0x10000)
    (htail : Follows tail) : ∃ u, parse s = .ok u ∧ u.host? = some host := by
  have hkept := kept_append (fun c hc => not_isMargin (hhost.mem_append hport c hc)) tail
  rw [List.append_assoc, List.cons_append, List.append_assoc, List.cons_append] at hkept
  obtain ⟨p, hauthority⟩ := takeAuthority_append scheme hhost hport hlt htail.kept
  rw [parse_of_scheme hscheme hs, hkept, hauthority]
  exact ⟨_, rfl, host?_withRest hhost.ne_name_empty⟩

/-! ## What a host may be -/

/-- What is written for escaped characters is percent signs and digits. -/
private theorem mem_escape {test : Char → Bool} {c : Char} (h : c ∈ (escape test cs).toList) :
    c ∈ cs ∨ c = '%' ∨ isNameChar c = true := by
  rw [escape, String.toList_ofList] at h
  obtain ⟨x, hx, hc⟩ := List.mem_flatMap.mp h
  split at hc
  · obtain ⟨b, -, hc⟩ := List.mem_flatMap.mp hc
    obtain rfl | hc := List.mem_cons.mp hc
    · exact .inr (.inl rfl)
    · obtain ⟨digit, hdigit, rfl⟩ := List.mem_map.mp hc
      obtain ⟨ds, htext, hlt, -⟩ := exists_toDigits_eq (by decide : 1 < 16) (256 + b.toNat)
      obtain ⟨d, hd, rfl⟩ := List.mem_map.mp (htext ▸ List.mem_of_mem_tail hdigit)
      -- An escape writes a per cent sign and two upper case hexadecimal digits.
      have hall : ∀ d < 16, isNameChar (Nat.digitChar d).toUpper = true := by decide
      exact .inr (.inr (hall d (hlt d hd)))
  · exact .inl (List.mem_singleton.mp hc ▸ hx)

/-- The characters that a name in a URL does not have. -/
def hostMarks : List Char :=
  [':', '/', '@', '[', ']']

/-- A host is an address in brackets or a name without marks. -/
theorem opaqueHost_eq_ok (h : opaqueHost cs = .ok host) :
    (∃ ip : Ip6, ip.Valid ∧ host = .ip6 ip) ∨
      ∃ text, host = .name text ∧ ∀ c ∈ hostMarks, c ∉ text.toList := by
  rw [opaqueHost] at h
  split at h
  · rw [bracketed] at h
    split at h
    · cases h
    · split at h
      · rename_i ip hread
        cases h
        exact .inl ⟨ip, (ip6?_eq_some_iff.mp hread).valid, rfl⟩
      · cases h
  · split at h
    · cases h
    · rename_i hplain
      cases h
      refine .inr ⟨_, rfl, fun c hmark hc => ?_⟩
      -- A character of the escaped name was written, or is part of an escape; a mark is neither.
      obtain hc | rfl | hname := mem_escape hc
      · have hall : hostMarks.all "\x00\t\n\r #/:<>?@[\\]^|".toList.contains = true := by decide
        exact hplain (List.any_eq_true.mpr ⟨c, hc, List.all_eq_true.mp hall c hmark⟩)
      · exact absurd hmark (by decide)
      · exact not_mem_of_isNameChar hname hostMarks (by decide) hmark

/-- An authority that is taken has a host that was read. -/
private theorem exists_opaqueHost_of_takeAuthority {r : Authority × List Char}
    (h : takeAuthority scheme false cs = .ok r) : ∃ cs, opaqueHost cs = .ok r.1.host := by
  rw [takeAuthority] at h
  rcases huser : splitUser false cs with ⟨user, behind⟩
  rcases hsplit : splitHost false false behind with ⟨hostChars, rest⟩
  simp only [huser, hsplit, Except.ite_throw_eq_ok_iff, Bool.false_eq_true, if_false, false_and,
    Except.bind_eq_ok_iff] at h
  obtain ⟨-, host, hhost, -, h⟩ := h
  refine ⟨hostChars, ?_⟩
  -- With a port or without one, the host is read by the same call.
  split at h
  · obtain ⟨_, -, h⟩ := Except.bind_eq_ok_iff.mp h
    obtain ⟨-, h⟩ := Except.ite_throw_eq_ok_iff.mp h
    cases h
    exact hhost
  · obtain ⟨_, -, h⟩ := Except.bind_eq_ok_iff.mp h
    obtain ⟨-, h⟩ := Except.ite_throw_eq_ok_iff.mp h
    cases h
    exact hhost

/-- The host of a URL of a node was read as one of a URL that is not special. -/
theorem exists_opaqueHost_of_parse {s : String} {u : Url} (hscheme : scheme ∈ nodeSchemes)
    (hs : s.toList = scheme.toList ++ ':' :: '/' :: '/' :: rest) (hparse : parse s = .ok u)
    (hhost : u.host? = some host) : host ≠ .name "" ∧ ∃ cs, opaqueHost cs = .ok host := by
  rw [parse_of_scheme hscheme hs] at hparse
  obtain ⟨⟨a, rest⟩, hauthority, rfl⟩ := Except.map_eq_ok_iff.mp hparse
  obtain ⟨hne, heq⟩ := Option.ite_none_left_eq_some.mp hhost
  cases heq
  exact ⟨hne, exists_opaqueHost_of_takeAuthority hauthority⟩

end ChainGauge.Url
