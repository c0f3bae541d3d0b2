import ChainGauge.Contract.Container
import ChainGauge.Proofs.Contract.Heard
import ChainGauge.Proofs.Stack.Views
import ChainGauge.Proofs.Text.Base58

/-!
# Reports of containers

An item reports a container if it has the shape of a report (`ContainerContract.Reports`). The usage
of all containers is read exactly if every item that the contract lists is a report, and it then has
one record for each of them, in their order (`heard_usages_eq_ok_iff`). A record keeps apart what the
report does: its text is that of the identifier, and identifiers have a text each (`id_usage_inj`).
-/

namespace ChainGauge.ContainerContract

open Chain
open NetmapContract (viewed_eq_ok_iff)

/-- What an item reports of a container; the numbers may be negative. -/
@[ext]
structure Report where
  id : Bytes
  size : Int
  objects : Int

/-- An item is a report: an identifier of full length, and behind it a size and a number of objects
that are words of sixty-four bits. Items behind these make no difference. -/
def Reports (item : StackItem) (r : Report) : Prop :=
  ∃ key usage more, item.HasItems (key :: usage :: more) ∧
    key.HasBytes r.id ∧ r.id.length = idLength ∧
    ∃ size objects rest, usage.HasItems (size :: objects :: rest) ∧
      size.int64? = .ok r.size ∧ objects.int64? = .ok r.objects

/-- The record that is made of a report. -/
def Report.usage (r : Report) : ContainerUsage :=
  ⟨Base58.encode r.id, r.size.toNat, r.objects.toNat⟩

variable {item : StackItem} {u : ContainerUsage}

/-- Records have the same text exactly if the identifiers are the same. -/
theorem Report.id_usage_inj {r r' : Report} : r.usage.id = r'.usage.id ↔ r.id = r'.id :=
  Base58.encode_injective.eq_iff

/-- An item is a report of one container only. -/
theorem Reports.unique {r r' : Report} (h : Reports item r) (h' : Reports item r') : r = r' := by
  obtain ⟨key, usage, more, hitem, hid, -, size, objects, rest, husage, hsize, hobjects⟩ := h
  obtain ⟨key', usage', more', hitem', hid', -, size', objects', rest', husage', hsize', hobjects'⟩ := h'
  obtain ⟨rfl, rfl, rfl⟩ : key = key' ∧ usage = usage' ∧ more = more' := by
    simpa using hitem.unique hitem'
  obtain ⟨rfl, rfl, rfl⟩ : size = size' ∧ objects = objects' ∧ rest = rest' := by
    simpa using husage.unique husage'
  exact Report.ext (hid.unique hid') (Except.ok.inj (hsize.symm.trans hsize'))
    (Except.ok.inj (hobjects.symm.trans hobjects'))

/-- An item is read as a record exactly if it is a report with this record. -/
private theorem readUsage_eq_ok_iff :
    readUsage item = .ok u ↔ ∃ r, Reports item r ∧ r.usage = u := by
  unfold readUsage
  rw [Except.bind_eq_ok_iff]
  constructor
  · rintro ⟨fields, hfields, h⟩
    rw [viewed_eq_ok_iff, StackItem.list?_eq_ok_iff] at hfields
    -- Both lists are read by their first two items only.
    match fields, hfields with
    | key :: usage :: more, hfields =>
      simp only [Except.bind_eq_ok_iff, Except.ite_throw_eq_ok_iff, viewed_eq_ok_iff,
        StackItem.bytes?_eq_ok_iff, StackItem.list?_eq_ok_iff, ne_eq, not_not] at h
      obtain ⟨id, hid, numbers, hnumbers, hlength, h⟩ := h
      match numbers, hnumbers with
      | size :: objects :: rest, hnumbers =>
        simp only [Except.bind_eq_ok_iff, viewed_eq_ok_iff] at h
        obtain ⟨sz, hsize, n, hobjects, hu⟩ := h
        cases hu
        exact ⟨⟨id, sz, n⟩, ⟨key, usage, more, hfields, hid, hlength,
          size, objects, rest, hnumbers, hsize, hobjects⟩, rfl⟩
  · rintro ⟨r, ⟨key, usage, more, hfields, hid, hlength, size, objects, rest, hnumbers, hsize,
      hobjects⟩, rfl⟩
    refine ⟨key :: usage :: more, ?_, ?_⟩
    · rwa [viewed_eq_ok_iff, StackItem.list?_eq_ok_iff]
    · simp only [Except.bind_eq_ok_iff, Except.ite_throw_eq_ok_iff, viewed_eq_ok_iff,
        StackItem.bytes?_eq_ok_iff, StackItem.list?_eq_ok_iff, ne_eq, not_not]
      refine ⟨r.id, hid, size :: objects :: rest, hnumbers, hlength, ?_⟩
      simp only [Except.bind_eq_ok_iff, viewed_eq_ok_iff]
      exact ⟨r.size, hsize, r.objects, hobjects, rfl⟩

variable {answer : (q : Query) → q.Reply} {contract : ScriptHash} {items : List StackItem}

/-- A chain lists these items when it is asked for the reports of all containers. -/
def Lists (answer : (q : Query) → q.Reply) (contract : ScriptHash) (items : List StackItem) : Prop :=
  answer (.traverse contract "iterateAllReportSummaries" [] pageSize) = .ok items

/-- The usage of all containers is what is read of the items that the contract lists. -/
private theorem heard_usages (h : Lists answer contract items) :
    heard answer (usages contract) = items.mapM readUsage := by
  have hlisted : heard answer (query (.traverse contract "iterateAllReportSummaries" [] pageSize)) =
      .ok items := h
  rw [usages, heard_bind, heard_during, hlisted]
  rfl

/-- The usage of all containers is read exactly if every item is a report. -/
theorem exists_heard_usages_iff (h : Lists answer contract items) :
    (∃ us, heard answer (usages contract) = .ok us) ↔ ∀ item ∈ items, ∃ r, Reports item r := by
  simp only [heard_usages h, Except.exists_mapM_eq_ok_iff, readUsage_eq_ok_iff]
  refine forall₂_congr fun item _ => ?_
  rw [exists_comm]
  simp

/-- What is read has one record for each item, that of its report. -/
theorem heard_usages_eq_ok_iff (h : Lists answer contract items) {us : List ContainerUsage} :
    heard answer (usages contract) = .ok us ↔
      ∃ reports, List.Forall₂ Reports items reports ∧ us = reports.map Report.usage := by
  simp only [heard_usages h, Except.mapM_eq_ok_iff, readUsage_eq_ok_iff]
  constructor
  · intro hread
    -- The induction is over the items that were read; how they were listed does not matter any
    -- more.
    clear h
    induction hread with
    | nil => exact ⟨[], .nil, rfl⟩
    | cons hitem _ ih =>
      obtain ⟨r, hr, rfl⟩ := hitem
      obtain ⟨reports, hreports, rfl⟩ := ih
      exact ⟨r :: reports, .cons hr hreports, rfl⟩
  · rintro ⟨reports, hreports, rfl⟩
    rw [List.forall₂_map_right_iff]
    exact hreports.imp fun _ r hr => ⟨r, hr, rfl⟩

end ChainGauge.ContainerContract
