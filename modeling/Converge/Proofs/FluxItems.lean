import Converge.Flux.Item
import Converge.Proofs.FluxCodecs
import Converge.Proofs.PrintedObjects

/-!
# Flux objects in print and in objects

* `Item.read_iff`, `Item.ofObject_eq_ok`: which item an object holds, part by part.
* `Item.shown_of_ofObject`: an item shows the name, the namespace and the generation of its object.
* `Item.filed` is the object as which an item is filed: `toObject_eq_ok`. `ofObject_filed` reads it back, with whatever status
  it was given.
* `Item.exists_toObject`: an item with metadata that was once read can be filed, and the written form of the filed object is
  that of the item.
-/

namespace Converge

set_option autoImplicit false

/-! ## Metadata that were read -/

/-- A member that may be missing is loaded as it is, if its values are. -/
theorem Field.eq_of_takes_optional {σ β : Type} {key : String} {c : Codec β} {get : σ → Option β} {set : Option β → σ → σ}
    {get_set : ∀ p s, get (set p s) = p} {set_get : ∀ s, set (get s) s = s}
    (returns : ∀ a b, c.write a ≠ .null ∧ (c.read (c.write a) = .ok b → b = a)) {p q : Option β}
    (h : (Field.optional key c get set get_set set_get).Takes ((Field.optional key c get set get_set set_get).writePart p) none q) :
    q = p := by
  cases p with
  | none => exact h
  | some a =>
    obtain ⟨b, hb, rfl⟩ := (Field.optional_readPart_eq_ok (returns a a).1).1 h
    exact congrArg some ((returns a b).2 hb)

theorem Metadata.eq_of_read {m m' : Metadata} (h : Metadata.codec.read (Metadata.codec.write m) = .ok m') :
    m'.name = m.name ∧ m'.ns? = m.ns? ∧ m'.generation = m.generation := by
  have text : ∀ a b, Codec.string.write a ≠ .null ∧ (Codec.string.read (Codec.string.write a) = .ok b → b = a) :=
    fun a b => ⟨nofun, fun hb => (Except.ok.inj hb).symm⟩
  have number : ∀ a b, Codec.int64.write a ≠ .null ∧ (Codec.int64.read (Codec.int64.write a) = .ok b → b = a) := by
    refine fun a b => ⟨nofun, fun hb => ?_⟩
    simp only [Codec.int64] at hb
    split at hb
    · exact (Except.ok.inj hb).symm
    · cases hb
  obtain ⟨-, -, -, -, -, -, hgeneration, -, -, hname, hns, -⟩ := List.forall_iff_forall_mem.2 (Record.read_write_iff.1 h).2
  exact ⟨Field.eq_of_takes_optional text hname, Field.eq_of_takes_optional text hns,
    Field.eq_of_takes_optional number hgeneration⟩

namespace Flux.Item

variable {k : Kind}

/-! ## Reading -/

/-- What the status of an object, or the lack of one, is read as: it alone, without the item it belongs to. -/
def ReadsStatus (found : Option Json) (status : Option Status) : Prop :=
  (Field.optional "status" Status.codec id fun v _ => v).Takes found none status

theorem read_iff {es : List (String × Json)} (hes : (es.map (·.1)).Nodup) {i : Item k} :
    (record k).read (.object es) = .ok i ↔
      (∃ m, Assoc.get? "metadata" es = some m ∧ Metadata.codec.read m = .ok i.metadata) ∧
      (∃ s, Assoc.get? "spec" es = some s ∧ k.record.codec.read s = .ok i.spec) ∧
      ReadsStatus (Assoc.get? "status" es) i.status := by
  refine (Record.read_object_iff hes).trans ?_
  rw [← List.forall_iff_forall_mem, ← List.forall_iff_forall_mem]
  constructor
  · rintro ⟨⟨hm, hs, -⟩, hm', hs', hst⟩
    obtain ⟨m, hfound⟩ := Option.isSome_iff_exists.1 (hm rfl)
    obtain ⟨s, hfound'⟩ := Option.isSome_iff_exists.1 (hs rfl)
    rw [hfound] at hm'
    rw [hfound'] at hs'
    exact ⟨⟨m, hfound, hm'⟩, ⟨s, hfound', hs'⟩, hst⟩
  · rintro ⟨⟨m, hfound, hm⟩, ⟨s, hfound', hs⟩, hst⟩
    refine ⟨⟨fun _ => Option.isSome_iff_exists.2 ⟨m, hfound⟩, fun _ => Option.isSome_iff_exists.2 ⟨s, hfound'⟩, nofun⟩,
      ?_, ?_, hst⟩
    · show Field.Takes _ (Assoc.get? "metadata" es) _ _
      rw [hfound]
      exact hm
    · show Field.Takes _ (Assoc.get? "spec" es) _ _
      rw [hfound']
      exact hs

/-- An object is read from its printed form, where the default stands for a missing wanted state. -/
theorem ofObject_iff_ofJson {o : Object} {i : Item k} :
    ofObject k o = .ok i ↔ ∃ v, o.toJson = .ok v ∧
      ofJson k (if (v.get? "spec").isNone then v.insert "spec" (k.record.write k.blank) else v) = .ok i := by
  unfold ofObject
  rw [bind_eq_ok]
  refine exists_congr fun v => and_congr_right fun _ => ?_
  dsimp only
  cases ofJson k _ with
  | ok j => exact ⟨fun h => congrArg _ (Except.ok.inj h), fun h => congrArg _ (Except.ok.inj h)⟩
  | error e => exact ⟨nofun, nofun⟩

/-- Which item an object holds. -/
theorem ofObject_eq_ok {o : Object} {data : List (String × Json)} (hdata : Object.dataEntries o.data = .ok data) {i : Item k} :
    ofObject k o = .ok i ↔
      Metadata.codec.read ((Assoc.last? "metadata" data).getD (Metadata.codec.write o.metadata)) = .ok i.metadata ∧
      k.record.codec.read ((Assoc.last? "spec" data).getD (k.record.write k.blank)) = .ok i.spec ∧
      ReadsStatus (Assoc.last? "status" data) i.status := by
  obtain ⟨es, hes⟩ : ∃ es, es = Assoc.ofList (o.typeEntries ++ ("metadata", Metadata.codec.write o.metadata) :: data) := ⟨_, rfl⟩
  have hasc : Assoc.Ascending es := hes ▸ Assoc.ascending_ofList _
  have hm : Assoc.get? "metadata" es = some ((Assoc.last? "metadata" data).getD (Metadata.codec.write o.metadata)) := by
    rw [hes, Object.get?_written (by decide) (by decide), if_pos rfl]
    cases Assoc.last? "metadata" data <;> rfl
  have hspec : Assoc.get? "spec" es = Assoc.last? "spec" data := by
    rw [hes, Object.get?_written (by decide) (by decide), if_neg (by decide), Option.or_none]
  have hstatus : Assoc.get? "status" es = Assoc.last? "status" data := by
    rw [hes, Object.get?_written (by decide) (by decide), if_neg (by decide), Option.or_none]
  have hread : ofObject k o = .ok i ↔ ofJson k (if (Assoc.get? "spec" es).isNone then
      .object (Assoc.insert "spec" (k.record.write k.blank) es) else .object es) = .ok i := by
    rw [ofObject_iff_ofJson, Object.toJson_of_data hdata, hes]
    constructor
    · rintro ⟨_, ⟨⟩, h⟩
      exact h
    · exact fun h => ⟨_, rfl, h⟩
  rw [hread, ofJson, hspec]
  cases hlast : Assoc.last? "spec" data with
  | none =>
    have hspec' : Assoc.get? "spec" (Assoc.insert "spec" (k.record.write k.blank) es) = some (k.record.write k.blank) :=
      Assoc.get?_insert_self ..
    have hm' : Assoc.get? "metadata" (Assoc.insert "spec" (k.record.write k.blank) es) = Assoc.get? "metadata" es :=
      Assoc.get?_insert_of_ne (by decide) ..
    have hstatus' : Assoc.get? "status" (Assoc.insert "spec" (k.record.write k.blank) es) = Assoc.get? "status" es :=
      Assoc.get?_insert_of_ne (by decide) ..
    rw [Option.isNone_none, if_pos rfl, read_iff (hasc.insert _ _).nodup_keys, hspec', hm', hstatus', hm, hstatus]
    simp
  | some s =>
    rw [Option.isNone_some, if_neg (by decide), read_iff hasc.nodup_keys, hm, hspec, hstatus, hlast]
    simp

theorem exists_data_of_ofObject {o : Object} {i : Item k} (h : ofObject k o = .ok i) :
    ∃ data, Object.dataEntries o.data = .ok data := by
  obtain ⟨v, hv, -⟩ := ofObject_iff_ofJson.1 h
  exact Object.exists_data_of_toJson hv

/-- The metadata of an item that was read can be written and read again. -/
theorem metadata_sound {o : Object} {i : Item k} (h : ofObject k o = .ok i) : Metadata.record.Sound i.metadata := by
  obtain ⟨data, hdata⟩ := exists_data_of_ofObject h
  exact Record.sound_of_read Metadata.members_lawful ((ofObject_eq_ok hdata).1 h).1

/-- The metadata of an item are read from those of the object, if there are no others in its data. -/
theorem read_metadata {o : Object} {i : Item k} (h : ofObject k o = .ok i) (parted : o.Parted) :
    Metadata.codec.read (Metadata.codec.write o.metadata) = .ok i.metadata := by
  obtain ⟨data, hd⟩ := exists_data_of_ofObject h
  have hnone : Assoc.last? "metadata" data = none := by
    rw [Object.dataEntries_eq hd]
    exact Assoc.last?_eq_none parted
  have hread := ((ofObject_eq_ok hd).1 h).1
  rw [hnone] at hread
  exact hread

/-- Metadata that was read from its written form is kept. -/
theorem metadata_kept {o : Object} {i : Item k} (h : ofObject k o = .ok i) (hdata : o.data.get? "metadata" = none) :
    Metadata.codec.Kept i.metadata :=
  Metadata.neat _ _ (read_metadata h hdata)

/-- What an item shows of its object. -/
theorem shown_of_ofObject {o : Object} {i : Item k} (loads : ofObject k o = .ok i) (parted : o.Parted) :
    i.metadata.name = o.metadata.name ∧ i.metadata.ns? = o.metadata.ns? ∧ i.metadata.generation = o.metadata.generation :=
  Metadata.eq_of_read (read_metadata loads parted)

theorem key_of_ofObject {o : Object} {i : Item k} {key : ObjectKey} (loads : ofObject k o = .ok i) (parted : o.Parted)
    (named : o.key = .ok key) : i.key = key := by
  obtain ⟨hname, hns, -⟩ := shown_of_ofObject loads parted
  obtain ⟨hname', hns'⟩ := Object.key_eq_ok.1 named
  unfold Item.key
  rw [hname, hname', hns, hns']
  rfl

theorem spec_kept {o : Object} {i : Item k} (h : ofObject k o = .ok i) : k.record.codec.Kept i.spec := by
  obtain ⟨data, hdata⟩ := exists_data_of_ofObject h
  exact Kind.kept_of_read ((ofObject_eq_ok hdata).1 h).2.1

/-- The status that an object shows is the one that is read, if no member comes twice. -/
theorem readsStatus_of_ofObject {o : Object} {i : Item k} (h : ofObject k o = .ok i) (hdata : (o.data.entries.map (·.1)).Nodup) :
    ReadsStatus o.status i.status := by
  obtain ⟨data, hd⟩ := exists_data_of_ofObject h
  have hstatus := ((ofObject_eq_ok hd).1 h).2.2
  rw [Object.dataEntries_eq hd, Assoc.last?_eq_get? hdata] at hstatus
  exact hstatus

/-! ## Writing -/

/-- The members of an item in print. -/
def entries (k : Kind) (metadata spec : Json) (status : Option Json) : List (String × Json) :=
  ("apiVersion", .string k.resource.apiVersion) :: ("kind", .string k.resource.kind) :: ("metadata", metadata) ::
    ("spec", spec) :: (status.map fun v => ("status", v)).toList

theorem entries_ascending (k : Kind) (metadata spec : Json) (status : Option Json) :
    Assoc.Ascending (entries k metadata spec status) := by
  have hkeys : ((entries k metadata spec status).map (·.1)).Pairwise fun a b => (compare a b).isLT = true := by
    cases status with
    | none => exact (by decide : ["apiVersion", "kind", "metadata", "spec"].Pairwise fun a b => (compare a b).isLT = true)
    | some v =>
      exact (by decide : ["apiVersion", "kind", "metadata", "spec", "status"].Pairwise fun a b => (compare a b).isLT = true)
  exact List.pairwise_map.1 hkeys

theorem get?_entries_metadata (k : Kind) (metadata spec : Json) (status : Option Json) :
    Json.get? (.object (entries k metadata spec status)) "metadata" = some metadata := by
  simp [Json.get?, Json.entries, entries, Assoc.get?]

theorem get?_entries_spec (k : Kind) (metadata spec : Json) (status : Option Json) :
    Json.get? (.object (entries k metadata spec status)) "spec" = some spec := by
  simp [Json.get?, Json.entries, entries, Assoc.get?]

theorem toJson_eq (i : Item k) : i.toJson = .object (entries k (Metadata.codec.write i.metadata) (k.record.write i.spec)
    (i.status.map Status.codec.write)) := by
  rw [← Assoc.ofList_of_ascending (entries_ascending ..)]
  obtain ⟨metadata, spec, status⟩ := i
  cases status <;> rfl

/-- The object as which an item is filed. -/
def filed (k : Kind) (metadata : Metadata) (spec : Json) (status : Option Json) : Object where
  types := some ⟨k.resource.apiVersion, k.resource.kind⟩
  metadata
  data := .object (("spec", spec) :: (status.map fun v => ("status", v)).toList)

theorem toJson_filed (k : Kind) (m : Metadata) (spec : Json) (status : Option Json) :
    (filed k m spec status).toJson = .ok (.object (entries k (Metadata.codec.write m) spec status)) := by
  rw [← Assoc.ofList_of_ascending (entries_ascending ..)]
  rfl

theorem withStatus_filed (k : Kind) (m : Metadata) (spec : Json) (status status' : Option Json) :
    (filed k m spec status).withStatus status' = filed k m spec status' := by
  have hlt : (compare "status" "spec").isLT = false := by decide
  cases status <;> cases status' <;> simp [filed, Object.withStatus, Assoc.insert, Assoc.erase, hlt]

theorem status_filed (k : Kind) (m : Metadata) (spec : Json) (status : Option Json) :
    (filed k m spec status).status = status := by
  cases status <;> simp [filed, Object.status, Json.get?, Json.entries, Assoc.get?]

theorem read_entries (k : Kind) (metadata spec : Json) (status : Option Json) :
    Object.read (.object (entries k metadata spec status)) =
      match Metadata.codec.read metadata with
      | .ok m => .ok (filed k m spec status)
      | .error e => .error (e.under (.key "metadata")) := by
  have hmetadata : Assoc.get? "metadata" (entries k metadata spec status) = some metadata := get?_entries_metadata ..
  have htypes : Object.takeTypes none none ((entries k metadata spec status).filter fun e => e.1 ≠ "metadata") =
      (some ⟨k.resource.apiVersion, k.resource.kind⟩, ("spec", spec) :: (status.map fun v => ("status", v)).toList) := by
    cases status <;> rfl
  unfold Object.read
  dsimp only
  rw [htypes, hmetadata]
  dsimp only
  cases Metadata.codec.read metadata <;> rfl

theorem toObject_eq_ok {i : Item k} {o : Object} : i.toObject = .ok o ↔
    ∃ m, Metadata.codec.read (Metadata.codec.write i.metadata) = .ok m ∧
      filed k m (k.record.write i.spec) (i.status.map Status.codec.write) = o := by
  unfold toObject
  rw [toJson_eq, read_entries]
  cases Metadata.codec.read (Metadata.codec.write i.metadata) with
  | ok m => simp
  | error e => simp

/-- What is read back from the object as which an item is filed. -/
theorem ofObject_filed {m : Metadata} {spec : Json} {status : Option Json} {i : Item k} :
    ofObject k (filed k m spec status) = .ok i ↔
      Metadata.codec.read (Metadata.codec.write m) = .ok i.metadata ∧ k.record.codec.read spec = .ok i.spec ∧
      ReadsStatus status i.status := by
  have hdata : Object.dataEntries (filed k m spec status).data =
      .ok (("spec", spec) :: (status.map fun v => ("status", v)).toList) := rfl
  rw [ofObject_eq_ok hdata]
  have hm : (filed k m spec status).metadata = m := rfl
  cases status <;> simp [Assoc.last?, Assoc.get?, hm]

/-- **An item whose metadata was read can be filed, and prints as the object as which it is filed.** -/
theorem exists_toObject {i : Item k} (h : Metadata.record.Sound i.metadata) :
    ∃ m, Metadata.codec.read (Metadata.codec.write i.metadata) = .ok m ∧
      Metadata.codec.write m = Metadata.codec.write i.metadata ∧
      i.toObject = .ok (filed k m (k.record.write i.spec) (i.status.map Status.codec.write)) ∧
      (filed k m (k.record.write i.spec) (i.status.map Status.codec.write)).toJson = .ok i.toJson := by
  obtain ⟨m, hread, hwrite⟩ := h.rereads Metadata.members_lawful
  have hread' : Metadata.codec.read (Metadata.codec.write i.metadata) = .ok m := hread
  have hwrite' : Metadata.codec.write m = Metadata.codec.write i.metadata := hwrite
  refine ⟨m, hread', hwrite', toObject_eq_ok.2 ⟨m, hread', rfl⟩, ?_⟩
  rw [toJson_filed, toJson_eq, hwrite']

end Flux.Item

end Converge
