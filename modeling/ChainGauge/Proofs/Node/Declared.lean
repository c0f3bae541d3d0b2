import ChainGauge.Node.Node

/-!
# The node that a descriptor declares

A descriptor declares a node if its key is one (`Node.ofInfo_eq_ok_iff`), and then every part of the
node is told without the reader's loops (`Node.Declared`): the address is the host of the first
address that names one, and a name that several attributes have stands for the last one's value. The
attributes of a node are a table that is sorted by name, so the node holds each name once.
-/

namespace ChainGauge

/-- The value that attributes give to a name: the last attribute of that name counts. -/
def NodeAttribute.lastValue? (name : String) (attributes : List NodeAttribute) : Option String :=
  (attributes.reverse.find? (·.key == name)).map (·.value)

/-- The host that addresses name: that of the first address that has one, or no host at all. -/
inductive FirstHost : List String → String → Prop where
  | unnamed {addresses : List String} (h : ∀ a ∈ addresses, ∀ host, NodeAddress.host a ≠ .ok host) :
    FirstHost addresses ""
  | named {before after : List String} {address host : String}
    (h : ∀ a ∈ before, ∀ host, NodeAddress.host a ≠ .ok host)
    (haddress : NodeAddress.host address = .ok host) : FirstHost (before ++ address :: after) host

namespace NodeAttribute

variable {name : String} {attributes : List NodeAttribute}

/-- An attribute in front counts only if none of its name follows. -/
private theorem lastValue?_cons (a : NodeAttribute) :
    lastValue? name (a :: attributes) =
      (lastValue? name attributes).or (if a.key = name then some a.value else none) := by
  rw [lastValue?, List.reverse_cons, List.find?_append, lastValue?]
  cases attributes.reverse.find? (·.key == name) with
  | some b => rfl
  | none =>
    by_cases h : a.key = name
    · simp [h]
    · simp [h]

end NodeAttribute

namespace Node

/-! ## Attributes -/

section Attributes

variable {name value : String} {table : List (String × String)}

/-- What is found in a table with an entry in front. -/
theorem lookup_cons (other : String) :
    ((name, value) :: table).lookup other =
      if other = name then some value else table.lookup other := by
  rw [List.lookup_cons]
  by_cases h : other = name
  · rw [if_pos h, beq_iff_eq.mpr h]
  · rw [if_neg h, beq_eq_false_iff_ne.mpr h]

/-- Putting an attribute changes what is found under its name, and nothing else. -/
private theorem lookup_insertAttribute (other : String) :
    (insertAttribute name value table).lookup other =
      if other = name then some value else table.lookup other := by
  induction table with
  | nil => rw [insertAttribute, lookup_cons]
  | cons entry rest ih =>
    obtain ⟨n, v⟩ := entry
    rw [insertAttribute]
    split
    · rw [lookup_cons]
    · split
      · rename_i heq
        subst heq
        simp only [lookup_cons]
        split <;> rfl
      · rename_i hne
        -- The first entry stays, and it hides what stands behind it under its own name only.
        simp only [lookup_cons, ih]
        by_cases h : other = n
        · have hother : other ≠ name := fun hname => hne (hname.symm.trans h)
          rw [if_pos h, if_neg hother, if_pos h]
        · rw [if_neg h, if_neg h]

/-- An entry of a table with a new one is the new one or an old one. -/
private theorem mem_insertAttribute {entry : String × String}
    (h : entry ∈ insertAttribute name value table) : entry = (name, value) ∨ entry ∈ table := by
  induction table with
  | nil => simpa [insertAttribute] using h
  | cons first rest ih =>
    obtain ⟨n, v⟩ := first
    rw [insertAttribute] at h
    split at h
    · simpa using h
    · split at h
      · simp only [List.mem_cons] at h ⊢
        exact h.imp_right .inr
      · simp only [List.mem_cons] at h ⊢
        -- The name is larger than the first one of the table: it goes further behind.
        rcases h with h | h
        · exact .inr (.inl h)
        · exact (ih h).imp_right .inr

/-- An entry is put where its name belongs. -/
private theorem sorted_insertAttribute (name value : String) (h : table.Pairwise (·.1 < ·.1)) :
    (insertAttribute name value table).Pairwise (·.1 < ·.1) := by
  induction table with
  | nil => simp [insertAttribute]
  | cons entry rest ih =>
    obtain ⟨n, v⟩ := entry
    obtain ⟨hfirst, hrest⟩ := List.pairwise_cons.mp h
    rw [insertAttribute]
    split
    · rename_i hlt
      refine List.pairwise_cons.mpr ⟨fun e he => ?_, h⟩
      rcases List.mem_cons.mp he with rfl | he
      · exact hlt
      · exact String.lt_trans hlt (hfirst e he)
    · split
      · rename_i heq
        subst heq
        exact List.pairwise_cons.mpr ⟨hfirst, hrest⟩
      · rename_i hlt hne
        -- Neither smaller nor equal: the name belongs behind the first entry.
        have hbehind : n < name := by
          refine Decidable.byContradiction fun hbehind => hne ?_
          exact String.le_antisymm (String.not_lt.mp hbehind) (String.not_lt.mp hlt)
        refine List.pairwise_cons.mpr ⟨fun e he => ?_, ih hrest⟩
        rcases mem_insertAttribute he with rfl | he
        · exact hbehind
        · exact hfirst e he

/-- The table that attributes make when they are put one after the other. -/
private theorem foldl_insertAttribute (attributes : List NodeAttribute)
    (h : table.Pairwise (·.1 < ·.1)) :
    (attributes.foldl (fun acc a => insertAttribute a.key a.value acc) table).Pairwise (·.1 < ·.1) ∧
      ∀ name, (attributes.foldl (fun acc a => insertAttribute a.key a.value acc) table).lookup name =
        (NodeAttribute.lastValue? name attributes).or (table.lookup name) := by
  induction attributes generalizing table with
  | nil => exact ⟨h, fun name => rfl⟩
  | cons a attributes ih =>
    -- The attributes left to go through are later ones, so theirs come first in `or`.
    obtain ⟨hsorted, hlookup⟩ := ih (sorted_insertAttribute a.key a.value h)
    refine ⟨hsorted, fun name => ?_⟩
    rw [List.foldl_cons, hlookup, lookup_insertAttribute, NodeAttribute.lastValue?_cons,
      Option.or_assoc]
    by_cases hname : a.key = name
    · simp [hname]
    · simp [hname, Ne.symm hname]

/-- The attributes of a node are in the order of their names. -/
private theorem sorted_attributesOf (attributes : List NodeAttribute) :
    (attributesOf attributes).Pairwise (·.1 < ·.1) :=
  (foldl_insertAttribute attributes .nil).1

/-- The value of a name is the one that was declared last. -/
private theorem lookup_attributesOf (name : String) (attributes : List NodeAttribute) :
    (attributesOf attributes).lookup name = NodeAttribute.lastValue? name attributes := by
  rw [attributesOf, (foldl_insertAttribute attributes .nil).2, List.lookup_nil, Option.or_none]

end Attributes

/-! ## Addresses -/

/-- The host of a node is that of the first address that has one. -/
private theorem firstHost_hostOf (addresses : List String) :
    FirstHost addresses (hostOf addresses) := by
  -- Addresses that cannot be read are passed over.
  have hnone (a : String) : (NodeAddress.host a).toOption = none ↔
      ∀ host, NodeAddress.host a ≠ .ok host := by
    cases NodeAddress.host a <;> simp [Except.toOption]
  have hsome (a host : String) : (NodeAddress.host a).toOption = some host ↔
      NodeAddress.host a = .ok host := by
    cases NodeAddress.host a <;> simp [Except.toOption]
  rw [hostOf]
  cases hfound : addresses.findSome? fun a => (NodeAddress.host a).toOption with
  | none =>
    rw [List.findSome?_eq_none_iff] at hfound
    exact .unnamed fun a ha => (hnone a).mp (hfound a ha)
  | some host =>
    rw [List.findSome?_eq_some_iff] at hfound
    obtain ⟨before, address, after, rfl, haddress, hbefore⟩ := hfound
    exact .named (fun a ha => (hnone a).mp (hbefore a ha)) ((hsome address host).mp haddress)

/-! ## Nodes -/

/-- What a descriptor declares about a node, part by part. -/
structure Declared (info : NodeInfo) (n : Node) : Prop where
  key : PublicKey.ofBytes info.publicKey = .ok n.key
  id : n.id = idOf info.publicKey
  address : FirstHost info.addresses n.address
  /-- The attributes stand in the order of their names, each name once. -/
  sorted : n.attributes.Pairwise (·.1 < ·.1)
  attributes : ∀ name, n.attributes.lookup name = NodeAttribute.lastValue? name info.attributes
  locode : n.locode = NodeAttribute.lastValue? locodeAttribute info.attributes
  /-- The capacity is there if the value is a number of sixty-four bits. -/
  capacity : n.capacity = (NodeAttribute.lastValue? capacityAttribute info.attributes).bind
    fun text => Text.natBelow? 0x10000000000000000 text.toList

/-- A descriptor with a key gives a node. -/
theorem ofInfo_of_key {info : NodeInfo} {k : PublicKey} (h : PublicKey.ofBytes info.publicKey = .ok k) :
    ∃ n, ofInfo info = .ok n := by
  rw [ofInfo, h]
  exact ⟨_, rfl⟩

/-- That node is as declared. -/
theorem declared_of_ofInfo {info : NodeInfo} {n : Node} (h : ofInfo info = .ok n) :
    Declared info n := by
  rw [ofInfo] at h
  -- Only the public key can fail; everything else of a node has a value for any info.
  cases hkey : PublicKey.ofBytes info.publicKey with
  | error e =>
    rw [hkey] at h
    cases h
  | ok k =>
    rw [hkey] at h
    cases h
    exact
      { key := hkey
        id := rfl
        address := firstHost_hostOf info.addresses
        sorted := sorted_attributesOf info.attributes
        attributes := fun name => lookup_attributesOf name info.attributes
        locode := lookup_attributesOf locodeAttribute info.attributes
        capacity := by simp only [lookup_attributesOf] }

end Node

end ChainGauge
