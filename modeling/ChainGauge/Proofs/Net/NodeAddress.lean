import ChainGauge.Net.NodeAddress
import ChainGauge.Proofs.Config.Duration
import ChainGauge.Proofs.Net.Url

/-!
# Announced forms of one address

A node may announce where it can be reached as a path, as a URL or as a host with a port, and an
address of the newer version can be spelled in many ways. All of these announce one host, whose text
is the canonical one (`forms_agree`), so that a node counts once whatever form it uses.

## Key results

- `host_path`, `host_url`, `host_pair`: the host of each form
- `forms_agree`: the host of all of them
-/

namespace ChainGauge.NodeAddress

open Ip Url

/-- The protocols under which a path names a host. -/
def nameProtocols : List String :=
  ["dns", "dns4", "dns6"]

/-- Where a node can be reached. -/
inductive Place where
  | ip4 (ip : Ip4)
  | ip6 (ip : Ip6)
  | name (text : String)
  deriving DecidableEq, Repr

namespace Place

/-- The numbers of an address fit. A name is made of letters, digits, hyphens and points. -/
def Valid : Place → Prop
  | .ip4 ip => ip.Valid
  | .ip6 ip => ip.Valid
  | .name text => text ≠ "" ∧ ∀ c ∈ text.toList, isNameChar c = true

instance (place : Place) : Decidable place.Valid :=
  match place with
  | .ip4 ip => inferInstanceAs (Decidable ip.Valid)
  | .ip6 ip => inferInstanceAs (Decidable ip.Valid)
  | .name _ => inferInstanceAs (Decidable (_ ∧ _))

/-- The canonical text. -/
def text : Place → String
  | .ip4 ip => ip.text
  | .ip6 ip => ip.text
  | .name text => text

/-- A text spells a place. -/
def Spells : Place → String → Prop
  | .ip4 ip, s => ip.Valid ∧ s = ip.text
  | .ip6 ip, s => Ip6.Spells ip s.toList
  | .name text, s => (Place.name text).Valid ∧ s = text

/-- The protocols under which a path names a place. -/
def protocols : Place → List String
  | .ip4 _ => ["ip4"]
  | .ip6 _ => ["ip6"]
  | .name _ => nameProtocols

/-- How a spelling stands in front of a port. -/
def atPort : Place → String → String
  | .ip6 _, s => "[" ++ s ++ "]"
  | _, s => s

/-- The forms in which a place is announced with a port. -/
inductive Announces (place : Place) (port : Nat) : String → Prop where
  | path {protocol spelling transport suffix : String} :
    protocol ∈ place.protocols → place.Spells spelling → transport ∈ ["tcp", "udp"] →
      (∀ c ∈ suffix.toList.head?, c = '/') →
      Announces place port
        (s!"/{protocol}/{spelling}/{transport}/{port}{suffix}")
  | url {scheme spelling tail : String} :
    scheme ∈ nodeSchemes → place.Spells spelling → Follows tail.toList →
      Announces place port (s!"{scheme}://{place.atPort spelling}:{port}{tail}")
  | pair {spelling : String} :
    place.Spells spelling → Announces place port (s!"{place.atPort spelling}:{port}")

end Place

variable {place : Place} {port : Nat} {s spelling address : String}

/-- The canonical text of a place spells it. -/
theorem spells_text (h : place.Valid) : place.Spells place.text := by
  cases place with
  | ip4 ip => exact ⟨h, rfl⟩
  | ip6 ip => exact Ip6.spells_text h
  | name text => exact ⟨h, rfl⟩

/-- A spelling has no characters but those of names, and colons. -/
theorem Place.Spells.mem (h : place.Spells s) : ∀ c ∈ s.toList, isNameChar c = true ∨ c = ':' := by
  cases place with
  | ip4 ip =>
    obtain ⟨-, rfl⟩ := h
    exact fun c hc => .inl (Ip4.isNameChar_text ip c hc)
  | ip6 ip => exact Ip6.Spells.mem h
  | name text =>
    obtain ⟨⟨-, hchars⟩, rfl⟩ := h
    exact fun c hc => .inl (hchars c hc)

/-- A name is taken as it is, whatever its characters. -/
theorem networkHost_name {protocol : String} (hp : protocol ∈ nameProtocols) (hne : s ≠ "") :
    networkHost address protocol s = .ok s := by
  have hempty : s.isEmpty = false := by simpa using hne
  simp only [nameProtocols, List.mem_cons, List.not_mem_nil, or_false] at hp
  obtain rfl | rfl | rfl := hp <;> simp only [networkHost, hempty] <;> rfl

/-- A protocol that a place goes by names it by its canonical text, however it is spelled. -/
private theorem networkHost_eq (h : place.Spells s) {protocol : String}
    (hp : protocol ∈ place.protocols) :
    networkHost address protocol s = .ok place.text := by
  -- Each kind of place is spelled under its own protocols.
  cases place with
  | ip4 ip =>
    cases List.mem_singleton.mp hp
    simp only [networkHost, Ip4.ofText?_eq_some_iff.mpr h, Place.text]
  | ip6 ip =>
    cases List.mem_singleton.mp hp
    simp only [networkHost, Ip6.ofText?_eq_some_iff.mpr h, Place.text]
  | name text =>
    obtain ⟨⟨hne, -⟩, rfl⟩ := h
    exact networkHost_name hp hne

/-- No slash is among such characters, so a spelling is one piece of a path. -/
private theorem slash_not_mem (h : ∀ c ∈ s.toList, isNameChar c = true ∨ c = ':') :
    '/' ∉ s.toList :=
  fun hslash => absurd (h '/' hslash) (by decide)

/-- A number in front of a slash, or at the end, is a piece of a path. -/
private theorem exists_splitAt_number {suffix : List Char} (hsuffix : ∀ c ∈ suffix.head?, c = '/')
    (port : Nat) :
    ∃ more, Text.splitAt '/' (Nat.toDigits 10 port ++ suffix) = Nat.toDigits 10 port :: more := by
  obtain ⟨ds, hdigits, -⟩ := exists_spellsDigits (by decide : 1 < 10) (by decide) port
  have hslash : '/' ∉ Nat.toDigits 10 port := fun h =>
    absurd (hdigits.isNameChar '/' h) (by decide)
  cases suffix with
  | nil => exact ⟨[], by rw [List.append_nil, Text.splitAt_of_not_mem hslash]⟩
  | cons c suffix =>
    cases hsuffix c rfl
    exact ⟨_, Text.splitAt_append hslash suffix⟩

/-- The digits of a number within the limit are read as the number. -/
private theorem natBelow?_toDigits {limit : Nat} (h : port < limit) :
    Text.natBelow? limit (Nat.toDigits 10 port) = some port :=
  (Duration.natBelow?_eq_some_iff Nat.toDigits_ne_nil fun _ =>
    Nat.isDigit_of_mem_toDigits (by decide) (by decide)).mpr ⟨Nat.ofDigitChars_ten_toDigits, h⟩

/-- The host of a path is the one that its protocol and its value name. -/
theorem host_eq_networkHost (hport : port < 65536) {protocol value transport suffix : String}
    (hprotocol : protocol ∈ ["ip4", "ip6", "dns", "dns4", "dns6"]) (hvalue : '/' ∉ value.toList)
    (htransport : transport ∈ ["tcp", "udp"]) (hsuffix : ∀ c ∈ suffix.toList.head?, c = '/')
    (haddress : address = s!"/{protocol}/{value}/{transport}/{port}{suffix}") :
    host address = networkHost address protocol value := by
  -- None of the names has a slash, so the path splits where the parts were put together.
  have hprotocols : '/' ∉ protocol.toList ∧
      ∀ cs, (protocol.toList ++ cs).dropWhile (· = '/') = protocol.toList ++ cs := by
    simp only [List.mem_cons, List.not_mem_nil, or_false] at hprotocol
    obtain rfl | rfl | rfl | rfl | rfl := hprotocol <;> exact ⟨by decide, fun _ => rfl⟩
  have htransports : ∀ transport ∈ ["tcp", "udp"], '/' ∉ transport.toList ∧
      ¬ (transport.toList ≠ ['t', 'c', 'p'] ∧ transport.toList ≠ ['u', 'd', 'p']) := by decide
  obtain ⟨hslash, hdrop⟩ := hprotocols
  obtain ⟨hslash', hplain⟩ := htransports transport htransport
  obtain ⟨more, hnumber⟩ := exists_splitAt_number hsuffix port
  have htext : address.toList =
      '/' :: (protocol.toList ++ '/' :: (value.toList ++ '/' :: (transport.toList ++ '/' ::
        (Nat.toDigits 10 port ++ suffix.toList)))) := by
    simp [haddress, toString]
  rw [host, htext, if_pos List.head?_cons, pathHost, htext,
    List.dropWhile_cons_of_pos (by rfl), hdrop, Text.splitAt_append hslash,
    Text.splitAt_append hvalue, Text.splitAt_append hslash', hnumber]
  simp only [String.ofList_toList, List.head?_cons, Option.bind_some,
    natBelow?_toDigits hport, if_neg hplain, Option.isSome_some, if_true]
  cases networkHost address protocol value <;> rfl

/-- The host of a path is the canonical text of its place. -/
theorem host_path (hport : port < 65536) {protocol transport suffix : String}
    (hprotocol : protocol ∈ place.protocols) (hspells : place.Spells spelling)
    (htransport : transport ∈ ["tcp", "udp"]) (hsuffix : ∀ c ∈ suffix.toList.head?, c = '/') :
    host (s!"/{protocol}/{spelling}/{transport}/{port}{suffix}") = .ok place.text := by
  have hall : ∀ protocol ∈ place.protocols, protocol ∈ ["ip4", "ip6", "dns", "dns4", "dns6"] := by
    cases place <;> simp [Place.protocols, nameProtocols]
  rw [host_eq_networkHost hport (hall protocol hprotocol) (slash_not_mem hspells.mem) htransport
    hsuffix rfl]
  exact networkHost_eq hspells hprotocol

/-- The text of a host. -/
def hostText : Url.Host → String
  | .name text => text
  | .ip4 ip => ip.text
  | .ip6 ip => ip.text

/-- A URL with a host names the text of this host. -/
private theorem urlHost_eq {url : String} {u : Url} {h : Url.Host} (hparse : parse url = .ok u)
    (hhost : u.host? = some h) : urlHost url = .ok (hostText h) := by
  rw [urlHost, hparse]
  simp only [hhost]
  cases h <;> rfl

/-- A name writes itself. -/
private theorem writesHost_name (hne : s ≠ "") (h : ∀ c ∈ s.toList, isNameChar c = true) :
    WritesHost (.name s) s.toList := by
  have hwrites := WritesHost.name (fun hnil => hne (String.toList_eq_nil_iff.mp hnil)) h
  rwa [String.ofList_toList] at hwrites

/-- The spelling of a place, as it stands in front of a port, writes a host with its canonical text. -/
private theorem exists_writesHost (h : place.Spells s) :
    ∃ h, WritesHost h (place.atPort s).toList ∧ hostText h = place.text := by
  cases place with
  | ip4 ip =>
    obtain ⟨-, rfl⟩ := h
    exact ⟨.name ip.text, writesHost_name ip.text_ne_empty ip.isNameChar_text, rfl⟩
  | ip6 ip => exact ⟨.ip6 ip, by simpa [Place.atPort] using WritesHost.ip6 h, rfl⟩
  | name text =>
    obtain ⟨⟨hne, hchars⟩, rfl⟩ := h
    exact ⟨.name s, writesHost_name hne hchars, rfl⟩

/-- A URL for a place has the host of the place. -/
private theorem urlHost_of_spells (hport : port < 65536) {scheme url : String} {tail : List Char}
    (hscheme : scheme ∈ nodeSchemes) (hspells : place.Spells spelling) (htail : Follows tail)
    (hurl : url.toList = scheme.toList ++ ':' :: '/' :: '/' ::
      ((place.atPort spelling).toList ++ ':' :: (Nat.toDigits 10 port ++ tail))) :
    urlHost url = .ok place.text := by
  obtain ⟨h, hwrites, htext⟩ := exists_writesHost hspells
  obtain ⟨ds, hdigits, -, hvalue⟩ := exists_spellsDigits (by decide : 1 < 10) (by decide) port
  obtain ⟨u, hparse, hhost⟩ :=
    exists_parse_eq_ok hscheme hurl hwrites hdigits (hvalue ▸ hport) htail
  rw [urlHost_eq hparse hhost, htext]

/-- A URL of a node is read as it is. -/
private theorem host_eq_urlHost {scheme : String} {rest : List Char}
    (hscheme : scheme ∈ nodeSchemes)
    (h : address.toList = scheme.toList ++ ':' :: '/' :: '/' :: rest) :
    host address = urlHost address := by
  rw [host, h]
  simp only [nodeSchemes, List.mem_cons, List.not_mem_nil, or_false] at hscheme
  obtain rfl | rfl := hscheme <;> rfl

/-- What has no slash is read behind a scheme. -/
private theorem host_eq_of_no_slash (h : '/' ∉ address.toList) :
    host address = urlHost ("grpc://" ++ address) := by
  have hstart : address.toList.head? ≠ some '/' := fun hhead => h (List.mem_of_mem_head? hhead)
  have hmark : '/' ∈ [':', '/', '/'] := by decide
  rw [host, if_neg hstart, Text.splitOnce_eq_none hmark h]

/-- The host of a URL is the canonical text of its place, whatever follows the port. -/
theorem host_url (hport : port < 65536) {scheme tail : String} (hscheme : scheme ∈ nodeSchemes)
    (hspells : place.Spells spelling) (htail : Follows tail.toList) :
    host (s!"{scheme}://{place.atPort spelling}:{port}{tail}") = .ok place.text := by
  have htext : (s!"{scheme}://{place.atPort spelling}:{port}{tail}").toList =
      scheme.toList ++ ':' :: '/' :: '/' ::
        ((place.atPort spelling).toList ++ ':' :: (Nat.toDigits 10 port ++ tail.toList)) := by
    simp [toString]
  rw [host_eq_urlHost hscheme htext]
  exact urlHost_of_spells hport hscheme hspells htail htext

/-- The host of a pair with a port is that of the URL in front of which only the scheme is missing. -/
theorem host_pair (hport : port < 65536) (hspells : place.Spells spelling) :
    host (s!"{place.atPort spelling}:{port}") = .ok place.text := by
  have htext : (s!"{place.atPort spelling}:{port}").toList =
      (place.atPort spelling).toList ++ ':' :: Nat.toDigits 10 port := by
    simp [toString]
  obtain ⟨h, hwrites, -⟩ := exists_writesHost hspells
  obtain ⟨ds, hdigits, -⟩ := exists_spellsDigits (by decide : 1 < 10) (by decide) port
  -- No slash: neither a path nor a scheme, so it is read as `grpc://` and the pair.
  have hslash : '/' ∉ (s!"{place.atPort spelling}:{port}").toList := by
    rw [htext]
    exact fun hslash => absurd (hwrites.mem_append hdigits '/' hslash) (by decide)
  rw [host_eq_of_no_slash hslash]
  refine urlHost_of_spells hport List.mem_cons_self hspells (nofun : Follows []) ?_
  rw [String.toList_append, htext, List.append_nil]
  rfl

/-- Whatever the form in which a place is announced, the host is its canonical text. That text is a
spelling of the place, so that there are announcements in every form. -/
theorem forms_agree (hplace : place.Valid) (hport : port < 65536) :
    place.Spells place.text ∧
      ∀ address, place.Announces port address → host address = .ok place.text := by
  refine ⟨spells_text hplace, fun address h => ?_⟩
  cases h with
  | path hprotocol hspells htransport hsuffix =>
    exact host_path hport hprotocol hspells htransport hsuffix
  | url hscheme hspells htail => exact host_url hport hscheme hspells htail
  | pair hspells => exact host_pair hport hspells

/-- An address of the newer version in brackets, with a port. -/
theorem forms_agree_ip6 :
    (Place.ip6 ⟨[0x2004, 0xeb1, 0, 0, 0, 0, 0, 1]⟩).Valid ∧ 8080 < 65536 ∧
      host "[2004:eb1::1]:8080" = .ok "2004:eb1::1" := by
  have hplace : (Place.ip6 ⟨[0x2004, 0xeb1, 0, 0, 0, 0, 0, 1]⟩).Valid := by decide
  have hport : 8080 < 65536 := by decide
  obtain ⟨hspells, hagree⟩ := forms_agree hplace hport
  have htext : (Place.ip6 ⟨[0x2004, 0xeb1, 0, 0, 0, 0, 0, 1]⟩).text = "2004:eb1::1" := by
    decide
  have hhost := hagree _ (.pair hspells)
  rw [htext] at hhost
  exact ⟨hplace, hport, hhost⟩

end ChainGauge.NodeAddress
