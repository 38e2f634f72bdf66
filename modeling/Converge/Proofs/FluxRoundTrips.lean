import Converge.Proofs.FluxResults

/-!
# Flux objects written and read again

* `Item.Returns i o` : the item is written as the object, and what is read from that has an equal wanted state and is written as
  the same object again. `Item.exists_returns`: every item that was read does so.
* `Item.round_trip`: and the wanted states of two such items are equal iff their written forms are, as JSON.
-/

namespace Converge

set_option autoImplicit false

namespace Flux.Item

variable {k : Kind}

/-- What is read from the written form of a status that was read is written alike. Of times only the parts of a second are lost. -/
theorem exists_reread_status {found : Option Json} {status : Option Status} (h : ReadsStatus found status) :
    ∃ again, ReadsStatus (status.map Status.codec.write) again ∧
      again.map Status.codec.write = status.map Status.codec.write := by
  let member : Field (Option Status) := .optional "status" Status.codec id fun v _ => v
  have lawful : member.Lawful none := .optional Status.lawful
  cases found with
  | none =>
    obtain rfl : status = none := h
    exact ⟨none, rfl, rfl⟩
  | some v => exact lawful.rereads lawful.rereads_blank h

/-- The item is written as the object, and what is read from the object has an equal wanted state and is written as it, too. -/
structure Returns (i : Item k) (o : Object) : Prop where
  written : i.toObject = .ok o
  again : ∃ j, ofObject k o = .ok j ∧ (j.spec == i.spec) = true ∧ j.toObject = .ok o

/-- **Writing loses nothing that reading found**: after one round trip the object stays as it is. -/
theorem exists_returns {o : Object} {i : Item k} (h : ofObject k o = .ok i) :
    ∃ o', i.Returns o' ∧ o'.data.get? "spec" = some (k.record.write i.spec) := by
  obtain ⟨data, hdata⟩ := exists_data_of_ofObject h
  obtain ⟨status, hstatus, hsame⟩ := exists_reread_status ((ofObject_eq_ok hdata).1 h).2.2
  obtain ⟨m, hread, hwrite, hobject, -⟩ := exists_toObject (metadata_sound h)
  have hm : Metadata.codec.read (Metadata.codec.write m) = .ok m := by rw [hwrite, hread]
  have hagain : ofObject k (filed k m (k.record.write i.spec) (i.status.map Status.codec.write)) = .ok ⟨m, i.spec, status⟩ :=
    ofObject_filed.2 ⟨hm, spec_kept h, hstatus⟩
  refine ⟨_, ⟨hobject, _, hagain, k.beq_refl i.spec, toObject_eq_ok.2 ⟨m, hm, ?_⟩⟩, ?_⟩
  · rw [hsame]
  · cases i.status <;> rfl

/-- **Reading and writing Flux objects is stable, and comparing written forms tells a change.** This goes for objects of every
kind and shape that can be read: without a wanted state, with members that are not known, and with lists for structures. -/
theorem round_trip {o p : Object} {i j : Item k} (hi : ofObject k o = .ok i) (hj : ofObject k p = .ok j) :
    ∃ o' p', i.Returns o' ∧ j.Returns p' ∧
      ((i.spec == j.spec) = true ↔ (o'.data.get? "spec" == p'.data.get? "spec") = true) := by
  obtain ⟨o', ho', hspec⟩ := exists_returns hi
  obtain ⟨p', hp', hspec'⟩ := exists_returns hj
  refine ⟨o', p', ho', hp', ?_⟩
  rw [hspec, hspec']
  exact Kind.beq_iff_write

end Flux.Item

namespace Sample

open Flux

/-- A release without a wanted state, reported on within a second. -/
def blankRelease : Object where
  metadata := { name := some "web", creationTimestamp := some ⟨1700000000, 250⟩ }
  data := .object [("status", .object [("conditions", .array [.object [("lastTransitionTime", .string "2024-05-06T07:08:09.5Z")]])])]

/-- A release whose wanted state is a list, with empty members where the other has none, and a member that is not known. -/
def listedRelease : Object where
  metadata := { name := some "web" }
  data := .object [("extra", .bool true), ("spec", .array [.null, .null, .string "", .null, .null, .null, .null, .object [],
    .bool false])]

/-- Unset members are not taken for empty ones. -/
theorem round_trip_releases : ∃ i j o' p', Item.ofObject .helmRelease blankRelease = .ok i ∧
    Item.ofObject .helmRelease listedRelease = .ok j ∧ i.Returns o' ∧ j.Returns p' ∧
    (i.spec == j.spec) = false ∧ (o'.data.get? "spec" == p'.data.get? "spec") = false := by
  obtain ⟨i, hi⟩ : ∃ i, Item.ofObject .helmRelease blankRelease = .ok i := ⟨_, rfl⟩
  obtain ⟨j, hj⟩ : ∃ j, Item.ofObject .helmRelease listedRelease = .ok j := ⟨_, rfl⟩
  have differ : (do return (← Item.ofObject .helmRelease blankRelease).spec == (← Item.ofObject .helmRelease listedRelease).spec :
      Except Error Bool) = .ok false := by decide +kernel
  rw [hi, hj] at differ
  have differ : (i.spec == j.spec) = false := Except.ok.inj differ
  obtain ⟨o', p', ho', hp', hiff⟩ := Item.round_trip hi hj
  refine ⟨i, j, o', p', hi, hj, ho', hp', differ, ?_⟩
  rw [Bool.eq_false_iff] at differ ⊢
  exact fun same => differ (hiff.2 same)

end Sample

end Converge
