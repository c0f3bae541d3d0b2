import ChainGauge.Proofs.Net.NodeAddress

/-!
# Hosts without port and user

A host that comes from an announced address becomes a label of samples and should be bare: no port
and no user survives. Addresses and the hosts of URLs are. A name in a path is taken as it stands
there, whatever its characters, so that `/dns4/user@node:8080/tcp/8080` has the host
`user@node:8080`, while the URL `grpc://user@node:8080` has the host `node`. This is the one way
for a host not to be bare (`bare_or_named`).
-/

namespace ChainGauge.NodeAddress

open Ip Url

variable {address text protocol value : String} {port : Nat} {h : Url.Host}

/-- A host is there, without port or user, and has colons only in an address. -/
structure Bare (text : String) : Prop where
  ne_empty : text ≠ ""
  marks : ∀ c ∈ ['/', '@', '[', ']'], c ∉ text.toList
  colon : ':' ∈ text.toList → ∃ ip : Ip6, ip.Valid ∧ text = ip.text

/-- A path names the text as it is, behind a slash or more. -/
def Names (address text : String) : Prop :=
  ∃ slashes protocol rest, protocol ∈ nameProtocols ∧ slashes ≠ [] ∧ (∀ c ∈ slashes, c = '/') ∧
    address.toList = slashes ++ (protocol.toList ++ '/' :: (text.toList ++ '/' :: rest))

/-- The text of an address is bare. -/
private theorem bare_ip4 (ip : Ip4) : Bare ip.text where
  ne_empty := ip.text_ne_empty
  marks c hc hmem := not_mem_of_isNameChar (ip.isNameChar_text c hmem) _ (by decide) hc
  colon hcolon := absurd (ip.isNameChar_text ':' hcolon) (by decide)

/-- So is that of the newer version, whose colons are those of the address. -/
private theorem bare_ip6 {ip : Ip6} (hip : ip.Valid) : Bare ip.text where
  ne_empty hempty := (Ip6.spells_text hip).ne_nil (String.toList_eq_nil_iff.mpr hempty)
  marks c hc hmem := by
    obtain hname | rfl := (Ip6.spells_text hip).mem c hmem
    · exact not_mem_of_isNameChar hname _ (by decide) hc
    · exact absurd hc (by decide)
  colon _ := ⟨ip, hip, rfl⟩

/-- The host of a URL is bare unless it is empty, for it is refused with marks in it. -/
private theorem bare_of_opaqueHost {cs : List Char} (hne : h ≠ .name "")
    (hhost : opaqueHost cs = .ok h) :
    Bare (hostText h) := by
  obtain ⟨ip, hip, rfl⟩ | ⟨text, rfl, hmarks⟩ := opaqueHost_eq_ok hhost
  · exact bare_ip6 hip
  · exact {
      ne_empty := fun hempty => hne (congrArg Url.Host.name hempty)
      marks := fun c hc => hmarks c (List.mem_cons_of_mem ':' hc)
      colon := fun hcolon => absurd hcolon (hmarks ':' (by decide)) }

/-- A URL that names a host is read, and has that host. -/
private theorem exists_of_urlHost {url : String} (hhost : urlHost url = .ok text) :
    ∃ u h, parse url = .ok u ∧ u.host? = some h ∧ text = hostText h := by
  rw [urlHost] at hhost
  split at hhost
  · cases hhost
  · rename_i u hparse
    split at hhost
    · rename_i name hname
      cases hhost
      exact ⟨u, _, hparse, hname, rfl⟩
    · rename_i ip hip
      cases hhost
      exact ⟨u, _, hparse, hip, rfl⟩
    · rename_i ip hip
      cases hhost
      exact ⟨u, _, hparse, hip, rfl⟩
    · cases hhost

/-- A URL of a node names a bare host. -/
private theorem bare_of_urlHost {scheme url : String} {rest : List Char}
    (hscheme : scheme ∈ nodeSchemes)
    (hurl : url.toList = scheme.toList ++ ':' :: '/' :: '/' :: rest)
    (hhost : urlHost url = .ok text) : Bare text := by
  obtain ⟨u, h, hparse, hh, rfl⟩ := exists_of_urlHost hhost
  obtain ⟨hne, cs, hopaque⟩ := exists_opaqueHost_of_parse hscheme hurl hparse hh
  exact bare_of_opaqueHost hne hopaque

/-- A protocol names an address, which is bare, or a name as it stands there. -/
private theorem networkHost_eq_ok (hhost : networkHost address protocol value = .ok text) :
    Bare text ∨ protocol ∈ nameProtocols ∧ value ≠ "" ∧ text = value := by
  -- The three name protocols share this branch.
  have hname : (if value.isEmpty then .error (.network address protocol) else .ok value) =
      (.ok text : Except Fault String) → value ≠ "" ∧ text = value := by
    intro hvalue
    split at hvalue
    · cases hvalue
    · rename_i hempty
      cases hvalue
      exact ⟨by simpa using hempty, rfl⟩
  unfold networkHost at hhost
  split at hhost
  · split at hhost
    · cases hhost
      exact .inl (bare_ip4 _)
    · cases hhost
  · split at hhost
    · rename_i ip hread
      cases hhost
      exact .inl (bare_ip6 (Ip6.ofText?_eq_some_iff.mp hread).valid)
    · cases hhost
  · exact .inr ⟨by decide, hname hhost⟩
  · exact .inr ⟨by decide, hname hhost⟩
  · exact .inr ⟨by decide, hname hhost⟩
  · cases hhost

/-- The host of a path is bare, or the path names it as it is. -/
private theorem pathHost_eq_ok (hpath : address.toList.head? = some '/')
    (hhost : pathHost address = .ok text) :
    text ≠ "" ∧ '/' ∉ text.toList ∧ (Bare text ∨ Names address text) := by
  have hslashes : address.toList.takeWhile (· = '/') ≠ [] := by
    obtain ⟨cs, hcs⟩ := List.head?_eq_some_iff.mp hpath
    rw [hcs, List.takeWhile_cons_of_pos (by rfl)]
    exact List.cons_ne_nil _ _
  rw [pathHost] at hhost
  split at hhost
  · rename_i protocol value rest hsplit
    obtain ⟨-, ⟨hnil, -⟩ | ⟨behind, hfront, hsplit⟩⟩ := Text.eq_of_splitAt_eq_cons hsplit
    · cases hnil
    obtain ⟨hslash, hvalue⟩ := Text.eq_of_splitAt_eq_cons hsplit
    split at hhost
    · cases hhost
    · rename_i host hnetwork
      split at hhost
      -- There is a transport behind the value, so the value ends at a slash.
      · obtain ⟨hnil, -⟩ | ⟨rest, rfl, -⟩ := hvalue
        · cases hnil
        split at hhost
        · cases hhost
        · split at hhost
          · cases hhost
            obtain hbare | ⟨hprotocol, hne, rfl⟩ := networkHost_eq_ok hnetwork
            · exact ⟨hbare.ne_empty, hbare.marks '/' (by decide), .inl hbare⟩
            · rw [String.toList_ofList]
              -- A name is taken as it stands: what `Names` says is that the address spells it
              -- between two slashes.
              refine ⟨hne, hslash, .inr ⟨address.toList.takeWhile (· = '/'), _, rest, hprotocol,
                hslashes, fun c hc => by simpa using List.mem_takeWhile_imp hc, ?_⟩⟩
              rw [String.toList_ofList, String.toList_ofList, ← hfront,
                List.takeWhile_append_dropWhile]
          · cases hhost
      · cases hhost
  · cases hhost

/-- A host is bare unless a path names it as it is; even then it is there and has no slash. -/
theorem bare_or_named (hhost : host address = .ok text) :
    text ≠ "" ∧ '/' ∉ text.toList ∧ (Bare text ∨ Names address text) := by
  have hbare : Bare text → text ≠ "" ∧ '/' ∉ text.toList ∧ (Bare text ∨ Names address text) :=
    fun hbare => ⟨hbare.ne_empty, hbare.marks '/' (by decide), .inl hbare⟩
  rw [host] at hhost
  split at hhost
  · rename_i hpath
    exact pathHost_eq_ok hpath hhost
  · split at hhost
    · rename_i scheme rest hsplit
      dsimp only at hhost
      split at hhost
      · rename_i hscheme
        have hmem : String.ofList scheme ∈ nodeSchemes := by simpa [nodeSchemes] using hscheme
        have hurl : address.toList =
            (String.ofList scheme).toList ++ ':' :: '/' :: '/' :: rest := by
          rw [Text.eq_append_of_splitOnce hsplit, String.toList_ofList, List.append_assoc]
          rfl
        exact hbare (bare_of_urlHost hmem hurl hhost)
      · cases hhost
    -- Without a scheme the address is read as if it had `grpc://` in front.
    · have hurl : ("grpc://" ++ address).toList =
          "grpc".toList ++ ':' :: '/' :: '/' :: address.toList := String.toList_append
      exact hbare (bare_of_urlHost List.mem_cons_self hurl hhost)

/-- A user and a port in a URL do not survive. -/
theorem bare_or_named_user :
    host "grpc://user@node:8080" = .ok "node" ∧ "node" ≠ "" ∧ '/' ∉ "node".toList ∧
      (Bare "node" ∨ Names "grpc://user@node:8080" "node") := by
  have hhost : host "grpc://user@node:8080" = .ok "node" := by rfl
  exact ⟨hhost, bare_or_named hhost⟩

/-- User and port of a name in a path survive. -/
theorem not_bare_user_port :
    host "/dns4/user@node:8080/tcp/8080" = .ok "user@node:8080" ∧ ¬ Bare "user@node:8080" := by
  refine ⟨by rfl, fun hbare => ?_⟩
  exact hbare.marks '@' (by decide) (by decide)

/-- Any text without a slash is a host, since a path may name it. -/
theorem host_of_name (hport : port < 65536) {protocol transport suffix : String}
    (hprotocol : protocol ∈ nameProtocols) (hne : text ≠ "") (hslash : '/' ∉ text.toList)
    (htransport : transport ∈ ["tcp", "udp"]) (hsuffix : ∀ c ∈ suffix.toList.head?, c = '/') :
    host (s!"/{protocol}/{text}/{transport}/{port}{suffix}") = .ok text := by
  have hall : ∀ protocol ∈ nameProtocols, protocol ∈ ["ip4", "ip6", "dns", "dns4", "dns6"] := by
    decide
  rw [host_eq_networkHost hport (hall protocol hprotocol) hslash htransport hsuffix rfl]
  exact networkHost_name hprotocol hne

end ChainGauge.NodeAddress
