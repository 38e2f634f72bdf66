import Converge.Proofs.FluxItems
import Converge.Proofs.StoreEffects
import Converge.Reconciler.FluxPairs

/-!
# Upserts of Flux objects

* `Item.toward` is the item that an upsert wants, `Item.Settled` says that an item prints like it.
* `FluxReconciler.report` is an upsert with what it reports.
* `FluxReconciler.change_eq`: what an upsert makes of an object that can be loaded.
* `FluxReconciler.report_leaves`: what a successful upsert leaves in the store. `Item.Left` is the item in it, either the one
  before, which was settled, or the wanted one.
-/

namespace Converge

set_option autoImplicit false

/-- Metadata that is written alike agrees on what an upsert looks at. -/
theorem Metadata.eq_of_write {m m' : Metadata} (h : (Metadata.codec.write m == Metadata.codec.write m') = true) :
    m.labels = m'.labels ∧ m.name = m'.name ∧ m.ns? = m'.ns? := by
  obtain ⟨-, -, -, -, -, -, -, hlabels, -, hname, hns, -⟩ := Record.members_beq_of_write h
  exact ⟨Field.Injective.optional Codec.stringMap_injective _ _ hlabels,
    Field.Injective.optional Codec.string_injective _ _ hname, Field.Injective.optional Codec.string_injective _ _ hns⟩

namespace Flux

/-- The item that a manifest is read as from its own written form. -/
def Manifest.reading (m : Manifest) : Except Error (Item m.kind) := do Item.ofObject m.kind (← m.toObject)

namespace Item

variable {k : Kind}

/-- The item with a wanted state and labels, as an upsert gives them to it. -/
def toward (i : Item k) (wanted : k.Spec) (labels : Labels) : Item k where
  metadata := { i.metadata with labels := some (i.metadata.labelMap.insertAll labels.entries) }
  spec := k.applyDefaults (k.withSuspend (k.suspend i.spec) wanted)
  status := i.status

variable {i j : Item k} {wanted : k.Spec} {labels : Labels}

theorem suspend_toward : k.suspend (i.toward wanted labels).spec = k.suspend i.spec := by
  rw [toward, Kind.suspend_applyDefaults, Kind.suspend_withSuspend]

theorem toward_sound (h : Metadata.record.Sound i.metadata) : Metadata.record.Sound (i.toward wanted labels).metadata := by
  let member : Field Metadata := .optional "labels" .stringMap (·.labels) fun v m => { m with labels := v }
  have hmem : member ∈ Metadata.record.fields := by
    iterate 7 refine List.mem_cons_of_mem _ ?_
    exact List.mem_cons_self ..
  exact h.set hmem (Field.optional_rereads_some (Codec.stringMap_kept _).rereads nofun)

theorem toward_kept (h : Metadata.codec.Kept i.metadata) : Metadata.codec.Kept (i.toward wanted labels).metadata := by
  let member : Field Metadata := .optional "labels" .stringMap (·.labels) fun v m => { m with labels := v }
  have hmem : member ∈ Metadata.record.fields := by
    iterate 7 refine List.mem_cons_of_mem _ ?_
    exact List.mem_cons_self ..
  exact Record.Kept.set h hmem (Field.optional_kept_some (Codec.stringMap_kept _) nofun) nofun

theorem spec_toward_kept (h : k.record.codec.Kept wanted) : k.record.codec.Kept (i.toward wanted labels).spec :=
  Kind.kept_applyDefaults (Kind.kept_withSuspend h _)

/-- Two items print alike if their parts do. -/
theorem toJson_beq_iff : (i.toJson == j.toJson) = true ↔
    (Metadata.codec.write i.metadata == Metadata.codec.write j.metadata) = true ∧
    (k.record.write i.spec == k.record.write j.spec) = true ∧
    (i.status.map Status.codec.write == j.status.map Status.codec.write) = true := by
  rw [toJson_eq, toJson_eq]
  show Json.beqEntries (entries k _ _ _) (entries k _ _ _) = true ↔ _
  cases i.status <;> cases j.status <;> simp [entries, Json.beqEntries, Json.beq, Json.beq_def]

/-! ## Settled items -/

/-- The item prints like the one that an upsert wants of it. -/
def Settled (i : Item k) (wanted : k.Spec) (labels : Labels) : Prop := (i.toJson == (i.toward wanted labels).toJson) = true

theorem settled_iff : i.Settled wanted labels ↔
    (Metadata.codec.write i.metadata == Metadata.codec.write (i.toward wanted labels).metadata) = true ∧
    (k.record.write i.spec == k.record.write (i.toward wanted labels).spec) = true := by
  refine toJson_beq_iff.trans ⟨fun h => ⟨h.1, h.2.1⟩, fun h => ⟨h.1, h.2, ?_⟩⟩
  exact BEq.rfl

/-- Only the status of an item does not count. -/
theorem Settled.congr (h : i.Settled wanted labels) (hm : j.metadata = i.metadata) (hs : j.spec = i.spec) :
    j.Settled wanted labels := by
  rw [settled_iff] at h ⊢
  simpa only [toward, hm, hs] using h

theorem Settled.metadata_eq (h : i.Settled wanted labels) : (i.toward wanted labels).metadata = i.metadata := by
  have hlabels := (Metadata.eq_of_write (settled_iff.1 h).1).1
  show { i.metadata with labels := some (i.metadata.labelMap.insertAll labels.entries) } = i.metadata
  rw [show some (i.metadata.labelMap.insertAll labels.entries) = i.metadata.labels from hlabels.symm]

/-- What an upsert wants of what it wanted is the same. -/
theorem settled_toward {i' : Item k} (hlabels : i'.metadata.labels = (i.toward wanted labels).metadata.labels)
    (hspec : i'.spec = (i.toward wanted labels).spec) : i'.Settled wanted labels := by
  have hm : (i'.toward wanted labels).metadata = i'.metadata := by
    show { i'.metadata with labels := some (i'.metadata.labelMap.insertAll labels.entries) } = i'.metadata
    have hsame : some (i'.metadata.labelMap.insertAll labels.entries) = i'.metadata.labels := by
      rw [Metadata.labelMap, hlabels]
      exact congrArg some (SortedMap.insertAll_insertAll ..)
    rw [hsame]
  have hs : (i'.toward wanted labels).spec = i'.spec := by
    show k.applyDefaults (k.withSuspend (k.suspend i'.spec) wanted) = i'.spec
    rw [hspec, suspend_toward]
    rfl
  rw [settled_iff, hm, hs]
  exact ⟨BEq.rfl, BEq.rfl⟩

/-- The item that an upsert leaves where it found `before`. -/
inductive Left (before : Item k) (wanted : k.Spec) (labels : Labels) : Item k → Prop
  | same (h : before.Settled wanted labels) : Left before wanted labels before
  | written {m : Metadata} (h : Metadata.codec.read (Metadata.codec.write (before.toward wanted labels).metadata) = .ok m)
    (hm : Metadata.codec.write m = Metadata.codec.write (before.toward wanted labels).metadata) :
    Left before wanted labels ⟨m, (before.toward wanted labels).spec, before.status⟩

theorem Left.settled {after : Item k} (h : Left i wanted labels after) : after.Settled wanted labels := by
  cases h with
  | same h => exact h
  | @written m _ hm =>
    have hsame : (Metadata.codec.write m == Metadata.codec.write (i.toward wanted labels).metadata) = true := by
      rw [hm]
      exact BEq.rfl
    exact settled_toward (Metadata.eq_of_write hsame).1 rfl

end Item

end Flux

/-! ## What an upsert makes of an object -/

namespace FluxReconciler

open Flux

variable {desired : Manifest} {labels : Labels} {o d : Object} {current : Item desired.kind}

theorem target_eq_ok {t : Item desired.kind} :
    target current desired labels = .ok t ↔ ∃ wanted, desired.reading = .ok wanted ∧ current.toward wanted.spec labels = t := by
  unfold target Item.adopt Manifest.reading
  split
  · rename_i hne
    exact absurd rfl hne
  · cases desired.toObject with
    | error e =>
      constructor
      · intro h
        cases h
      · rintro ⟨_, h, -⟩
        cases h
    | ok written =>
      show ((Item.ofObject desired.kind written >>= fun wanted => pure _).map _ = _) ↔
        ∃ wanted, Item.ofObject desired.kind written = .ok wanted ∧ _
      cases Item.ofObject desired.kind written with
      | error e =>
        constructor
        · intro h
          cases h
        · rintro ⟨_, h, -⟩
          cases h
      | ok wanted =>
        constructor
        · intro h
          exact ⟨wanted, rfl, Except.ok.inj h⟩
        · rintro ⟨_, hw, ht⟩
          cases hw
          exact congrArg Except.ok ht

/-- What an upsert makes of an object that can be loaded. -/
theorem change_eq {wanted : Item desired.kind} (loaded : Item.ofObject desired.kind o = .ok current)
    (hwanted : desired.reading = .ok wanted) (labels : Labels) :
    ∃ m, Metadata.codec.read (Metadata.codec.write (current.toward wanted.spec labels).metadata) = .ok m ∧
      Metadata.codec.write m = Metadata.codec.write (current.toward wanted.spec labels).metadata ∧
      change desired labels o = .ok (if (current.toward wanted.spec labels).toJson == current.toJson then o else
        Item.filed desired.kind m (desired.kind.record.write (current.toward wanted.spec labels).spec)
          (current.status.map Status.codec.write)) := by
  have hsound := Item.metadata_sound loaded
  have hsound' : Metadata.record.Sound (current.toward wanted.spec labels).metadata := Item.toward_sound hsound
  obtain ⟨m, hread, hwrite, hobject, hjson⟩ := Item.exists_toObject hsound'
  obtain ⟨m', -, -, hobject', hjson'⟩ := Item.exists_toObject hsound
  have htarget : target current desired labels = .ok (current.toward wanted.spec labels) :=
    target_eq_ok.2 ⟨wanted, hwanted, rfl⟩
  refine ⟨m, hread, hwrite, ?_⟩
  exact bind_eq_ok.2 ⟨_, loaded, bind_eq_ok.2 ⟨_, hobject', bind_eq_ok.2 ⟨_, hjson', bind_eq_ok.2 ⟨_, htarget,
    bind_eq_ok.2 ⟨_, hobject, bind_eq_ok.2 ⟨_, hjson, rfl⟩⟩⟩⟩⟩⟩

/-- An object that holds a settled item stays as it is. -/
theorem change_of_settled {wanted : Item desired.kind} (loaded : Item.ofObject desired.kind o = .ok current)
    (hwanted : desired.reading = .ok wanted) (hsettled : current.Settled wanted.spec labels) :
    change desired labels o = .ok o := by
  obtain ⟨m, -, -, hchange⟩ := change_eq loaded hwanted labels
  rw [if_pos (BEq.symm hsettled)] at hchange
  exact hchange

theorem exists_of_change (h : change desired labels o = .ok d) :
    ∃ current wanted, Item.ofObject desired.kind o = .ok current ∧ desired.reading = .ok wanted := by
  unfold change at h
  obtain ⟨current, loaded, h⟩ := bind_eq_ok.1 h
  obtain ⟨_, -, h⟩ := bind_eq_ok.1 h
  obtain ⟨_, -, h⟩ := bind_eq_ok.1 h
  obtain ⟨t, ht, -⟩ := bind_eq_ok.1 h
  obtain ⟨wanted, hwanted, -⟩ := target_eq_ok.1 ht
  exact ⟨current, wanted, loaded, hwanted⟩

theorem reading_kept {wanted : Item desired.kind} (h : desired.reading = .ok wanted) :
    desired.kind.record.codec.Kept wanted.spec := by
  obtain ⟨_, -, loaded⟩ := bind_eq_ok.1 h
  exact Item.spec_kept loaded

/-! ## The shell -/

theorem bare_kept (desired : Manifest) : Metadata.codec.Kept desired.item.bare.metadata :=
  (Record.kept_iff rfl).2 ⟨rfl, rfl, rfl, rfl, rfl, rfl, rfl, rfl, rfl, Field.optional_kept Codec.string_kept _,
    Field.optional_kept Codec.string_kept _, rfl, rfl, rfl, rfl⟩

/-- The object from which an upsert makes one that does not exist yet. -/
def shellOf (desired : Manifest) : Object :=
  Item.filed desired.kind desired.item.bare.metadata (desired.kind.record.write desired.kind.blank) none

theorem bare_toObject (desired : Manifest) : desired.bare.toObject = .ok (shellOf desired) :=
  Item.toObject_eq_ok.2 ⟨_, bare_kept desired, rfl⟩

theorem shellOf_key (desired : Manifest) : (shellOf desired).key = .ok desired.key := rfl

theorem ofObject_shellOf (desired : Manifest) : Item.ofObject desired.kind (shellOf desired) = .ok desired.item.bare :=
  Item.ofObject_filed.2 ⟨bare_kept desired, desired.kind.kept_blank, rfl⟩

/-! ## What an upsert does -/

/-- An object that prints like the changed one is settled. -/
theorem settled_of_toJson_beq {wanted : desired.kind.Spec} (loaded : Item.ofObject desired.kind o = .ok current)
    (hkept : desired.kind.record.codec.Kept wanted) {m : Metadata}
    (hread : Metadata.codec.read (Metadata.codec.write (current.toward wanted labels).metadata) = .ok m)
    (hwrite : Metadata.codec.write m = Metadata.codec.write (current.toward wanted labels).metadata) {before after : Json}
    (hbefore : o.toJson = .ok before) {status : Option Json}
    (hafter : (Item.filed desired.kind m (desired.kind.record.write (current.toward wanted labels).spec) status).toJson =
      .ok after)
    (h : (after == before) = true) : current.Settled wanted labels := by
  obtain ⟨data, hdata⟩ := Object.exists_data_of_toJson hbefore
  obtain ⟨hm, hs, -⟩ := (Item.ofObject_eq_ok hdata).1 loaded
  obtain rfl := Except.ok.inj ((Object.toJson_of_data hdata).symm.trans hbefore)
  obtain rfl := Except.ok.inj ((Item.toJson_filed ..).symm.trans hafter)
  have hmetadata := Json.get?_beq h "metadata"
  have hspec := Json.get?_beq h "spec"
  rw [show Json.get? (.ofEntries _) "metadata" = _ from Object.get?_written (by decide) (by decide), if_pos rfl, Option.or_some,
    Item.get?_entries_metadata] at hmetadata
  rw [show Json.get? (.ofEntries _) "spec" = _ from Object.get?_written (by decide) (by decide), if_neg (by decide),
    Option.or_none, Item.get?_entries_spec] at hspec
  refine Item.settled_iff.2 ⟨?_, ?_⟩
  · have hreread : Metadata.codec.read (Metadata.codec.write m) = .ok m := by rw [hwrite, hread]
    obtain ⟨b, hb, halike⟩ := Metadata.lawful.congr hmetadata hreread
    obtain rfl : b = current.metadata := Except.ok.inj (hb.symm.trans hm)
    rw [← hwrite]
    exact BEq.symm halike
  · cases hlast : Assoc.last? "spec" data with
    | none =>
      rw [hlast] at hspec
      cases hspec
    | some v =>
      rw [hlast] at hspec hs
      obtain ⟨b, hb, halike⟩ := desired.kind.lawful.congr hspec (Item.spec_toward_kept hkept)
      obtain rfl : b = current.spec := Except.ok.inj (hb.symm.trans hs)
      exact BEq.symm halike

section
variable {r : FluxReconciler Store} {c : Component Store} {s s' : Store}

/-- An upsert, with what it reports. -/
def report {σ : Type} (r : FluxReconciler σ) (c : Component σ) (desired : Manifest) : Act σ Upserted := do
  let shell ← Act.ofExcept desired.bare.toObject
  r.client.createOrUpdate desired.resource shell (change desired (r.labels c))

theorem upsert_eq {σ : Type} (r : FluxReconciler σ) (c : Component σ) (desired : Manifest) :
    r.upsert c desired = (do let _ ← r.report c desired) := by
  unfold upsert report
  rw [bind_assoc]

theorem run_report (hr : r.client = Store.client) (c : Component Store) (s : Store) : (r.report c desired).run s =
    (Store.client.createOrUpdate desired.resource (shellOf desired) (change desired (r.labels c))).run s := by
  unfold report
  rw [hr, bare_toObject, run_bind_ok (Act.run_ofExcept _ s)]

theorem run_upsert_of_report {u : Upserted} (h : (r.report c desired).run s = (.ok u, s')) :
    (r.upsert c desired).run s = (.ok (), s') := by
  rw [upsert_eq, run_bind_ok h]
  rfl

theorem exists_report_of_upsert (h : (r.upsert c desired).run s = (.ok (), s')) :
    ∃ u, (r.report c desired).run s = (.ok u, s') := by
  rcases hrun : (r.report c desired).run s with ⟨x, t⟩
  rw [upsert_eq] at h
  cases x with
  | ok u =>
    rw [run_bind_ok hrun] at h
    obtain ⟨-, rfl⟩ := Prod.mk.inj h
    exact ⟨u, rfl⟩
  | error e =>
    rw [run_bind_error hrun] at h
    cases h

/-- The item that an upsert starts from: what the stored object holds, or a bare one. -/
def Before (desired : Manifest) : Option Object → Item desired.kind → Prop
  | some o, i => Item.ofObject desired.kind o = .ok i
  | none, i => i = desired.item.bare

/-- From `before` an upsert went on to leave `o'`, which holds `after`. -/
structure Leaves (desired : Manifest) (labels : Labels) (s s' : Store) (wanted before after : Item desired.kind) (o' : Object) :
    Prop where
  reading : desired.reading = .ok wanted
  served : s.Serves desired.resource
  started : Before desired (s.stored desired.resource desired.key) before
  stored : s'.stored desired.resource desired.key = some o'
  named : o'.key = .ok desired.key
  loads : Item.ofObject desired.kind o' = .ok after
  left : Item.Left before wanted.spec labels after
  status : o'.status = (s.stored desired.resource desired.key).bind Object.status

/-- A change of an object that can be loaded gives it back if it is settled, and otherwise files the wanted item. -/
theorem change_cases (h : change desired labels o = .ok d) :
    ∃ current wanted, Item.ofObject desired.kind o = .ok current ∧ desired.reading = .ok wanted ∧
      (current.Settled wanted.spec labels ∧ d = o ∨
        ∃ m, Metadata.codec.read (Metadata.codec.write (current.toward wanted.spec labels).metadata) = .ok m ∧
          Metadata.codec.write m = Metadata.codec.write (current.toward wanted.spec labels).metadata ∧
          ¬ current.Settled wanted.spec labels ∧
          d = Item.filed desired.kind m (desired.kind.record.write (current.toward wanted.spec labels).spec)
            (current.status.map Status.codec.write)) := by
  obtain ⟨current, wanted, loaded, hwanted⟩ := exists_of_change h
  obtain ⟨m, hread, hwrite, hchange⟩ := change_eq loaded hwanted labels
  refine ⟨current, wanted, loaded, hwanted, ?_⟩
  have hd := Except.ok.inj (h.symm.trans hchange)
  by_cases hsettled : current.Settled wanted.spec labels
  · rw [if_pos (BEq.symm hsettled)] at hd
    exact .inl ⟨hsettled, hd⟩
  · rw [if_neg fun heq => hsettled (BEq.symm heq)] at hd
    exact .inr ⟨m, hread, hwrite, hsettled, hd⟩

theorem loads_filed {wanted : Item desired.kind} (hwanted : desired.reading = .ok wanted) {m : Metadata}
    (hread : Metadata.codec.read (Metadata.codec.write (current.toward wanted.spec labels).metadata) = .ok m)
    (hwrite : Metadata.codec.write m = Metadata.codec.write (current.toward wanted.spec labels).metadata) {status : Option Json}
    (hstatus : Item.ReadsStatus status current.status) :
    Item.ofObject desired.kind (Item.filed desired.kind m
      (desired.kind.record.write (current.toward wanted.spec labels).spec) status) =
      .ok ⟨m, (current.toward wanted.spec labels).spec, current.status⟩ := by
  refine Item.ofObject_filed.2 ⟨?_, Item.spec_toward_kept (reading_kept hwanted), hstatus⟩
  rw [hwrite, hread]

theorem leaves_created (served : s.Serves desired.resource) (absent : s.stored desired.resource desired.key = none)
    (hd : change desired labels (shellOf desired) = .ok d) (named : d.key = .ok desired.key) :
    ∃ wanted before after,
      Leaves desired labels s (s.created (desired.resource.storeKey desired.key) d) wanted before after d := by
  have hstored : (s.created (desired.resource.storeKey desired.key) d).stored desired.resource desired.key = some d :=
    Store.get?_created ..
  obtain ⟨current, wanted, loaded, hwanted, ⟨hsettled, rfl⟩ | ⟨m, hread, hwrite, -, rfl⟩⟩ := change_cases hd
  all_goals obtain rfl : desired.item.bare = current := Except.ok.inj ((ofObject_shellOf desired).symm.trans loaded)
  · exact ⟨wanted, _, _, hwanted, served, by rw [absent]; rfl, hstored, named, loaded, .same hsettled, by rw [absent]; rfl⟩
  · refine ⟨wanted, _, _, hwanted, served, by rw [absent]; rfl, hstored, named, loads_filed hwanted hread hwrite rfl,
      .written hread hwrite, ?_⟩
    rw [absent, Item.status_filed]
    rfl

theorem leaves_unchanged {before after : Json} (served : s.Serves desired.resource)
    (there : s.stored desired.resource desired.key = some o) (hbefore : o.toJson = .ok before)
    (hd : change desired labels o = .ok d) (named : d.key = .ok desired.key)
    (hafter : (d.withStatus o.status).toJson = .ok after) (heq : (after == before) = true) :
    ∃ wanted before, Leaves desired labels s s wanted before before o := by
  obtain ⟨current, wanted, loaded, hwanted, ⟨hsettled, rfl⟩ | ⟨m, hread, hwrite, hnot, rfl⟩⟩ := change_cases hd
  · exact ⟨wanted, _, hwanted, served, by rw [there]; exact loaded, there, named, loaded, .same hsettled, by rw [there]; rfl⟩
  · rw [Item.withStatus_filed] at hafter
    exact absurd (settled_of_toJson_beq loaded (reading_kept hwanted) hread hwrite hbefore hafter heq) hnot

theorem leaves_updated {before after : Json} (once : (o.data.entries.map (·.1)).Nodup) (served : s.Serves desired.resource)
    (there : s.stored desired.resource desired.key = some o) (hbefore : o.toJson = .ok before)
    (hd : change desired labels o = .ok d) (named : d.key = .ok desired.key)
    (hafter : (d.withStatus o.status).toJson = .ok after) (hne : ¬ (after == before) = true) :
    ∃ wanted before after,
      Leaves desired labels s (s.updated (desired.resource.storeKey desired.key) (d.withStatus o.status)) wanted before after
        (d.withStatus o.status) := by
  have hstored : (s.updated (desired.resource.storeKey desired.key) (d.withStatus o.status)).stored desired.resource desired.key =
      some (d.withStatus o.status) := Store.get?_updated ..
  have hkey : (d.withStatus o.status).key = .ok desired.key := (d.key_withStatus _).trans named
  obtain ⟨current, wanted, loaded, hwanted, ⟨hsettled, rfl⟩ | ⟨m, hread, hwrite, -, rfl⟩⟩ := change_cases hd
  · obtain rfl := Except.ok.inj ((Object.toJson_withStatus_self hbefore).symm.trans hafter)
    exact absurd BEq.rfl hne
  · have hstatus := Item.readsStatus_of_ofObject loaded once
    rw [Item.withStatus_filed] at *
    refine ⟨wanted, _, _, hwanted, served, by rw [there]; exact loaded, hstored, hkey, loads_filed hwanted hread hwrite hstatus,
      .written hread hwrite, ?_⟩
    rw [there, Item.status_filed]
    rfl

/-- **What a successful upsert leaves**: the object that was there, or the wanted one with the status that was there. -/
theorem report_leaves (hr : r.client = Store.client) {u : Upserted}
    (once : ∀ o, s.stored desired.resource desired.key = some o → (o.data.entries.map (·.1)).Nodup)
    (h : (r.report c desired).run s = (.ok u, s')) :
    ∃ wanted before after o', Leaves desired (r.labels c) s s' wanted before after o' := by
  have hkey := shellOf_key desired
  rw [run_report hr] at h
  cases course_of_run h with
  | created lacks =>
    obtain rfl := Except.ok.inj (hkey.symm.trans lacks.named)
    obtain ⟨wanted, before, after, hleaves⟩ := leaves_created lacks.served lacks.absent lacks.changed lacks.kept
    exact ⟨wanted, before, after, _, hleaves⟩
  | updated meets other =>
    obtain rfl := Except.ok.inj (hkey.symm.trans meets.named)
    obtain ⟨d, hd, named, rfl⟩ := meets.changed
    obtain ⟨wanted, i, j, hleaves⟩ := leaves_updated (once _ meets.there) meets.served meets.there meets.printed hd named
      meets.reprinted (Bool.eq_false_iff.1 other)
    exact ⟨wanted, i, j, _, hleaves⟩
  | unchanged meets same =>
    obtain rfl := Except.ok.inj (hkey.symm.trans meets.named)
    obtain ⟨d, hd, named, rfl⟩ := meets.changed
    obtain ⟨wanted, i, hleaves⟩ := leaves_unchanged meets.served meets.there meets.printed hd named meets.reprinted same
    exact ⟨wanted, i, i, _, hleaves⟩

end

end FluxReconciler

end Converge
