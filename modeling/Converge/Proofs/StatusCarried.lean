import Converge.Proofs.Deeds
import Converge.Proofs.Settling

/-!
# What becomes of the status

Creating or updating gives an existing object its status back after the change. That takes data that members can be put in.

* `Object.Ordered.status_withStatus_iff`: when an object has the status that it was given.
* `Object.AlikeButStatus` : two objects that differ in nothing but their status; `AlikeButStatus.beq_iff`: when giving the
  second one the status of the first makes them print alike.
* `Client.carries_status_iff`: every client is given an update with the status that was there, and none at all for a change of
  nothing but the status, exactly if the change does not put `null` in place of data with a status.
-/

namespace Converge

set_option autoImplicit false

namespace Object

variable {o d : Object}

theorem withStatus_of_null (h : o.data = .null) (status : Option Json) : o.withStatus status = o := by
  unfold withStatus
  rw [h]

theorem types_withStatus (o : Object) (status : Option Json) : (o.withStatus status).types = o.types := by
  unfold withStatus
  split
  · split <;> rfl
  · rfl

theorem Ordered.entries (h : o.Ordered) : Assoc.Ascending o.data.entries := by
  cases hdata : o.data with
  | object es => exact h es hdata
  | _ => exact .nil

theorem Ordered.withStatus (h : o.Ordered) (status : Option Json) : (o.withStatus status).Ordered := by
  obtain ⟨types, metadata, data⟩ := o
  cases data with
  | object es =>
    have hes : Assoc.Ascending es := h es rfl
    cases status with
    | some v => exact fun es' hes' => Json.object.inj hes' ▸ hes.insert "status" v
    | none => exact fun es' hes' => Json.object.inj hes' ▸ hes.erase "status"
  | _ => exact nofun

/-- Members are needed for a status to be put in. -/
theorem Ordered.status_withStatus_iff (h : o.Ordered) (status : Option Json) {data : List (String × Json)}
    (writable : dataEntries (o.withStatus status).data = .ok data) :
    (o.withStatus status).status = status ↔ (o.data = .null → status = none) := by
  obtain ⟨types, metadata, data'⟩ := o
  cases data' with
  | null => exact ⟨fun h' _ => h'.symm, fun h' => (h' rfl).symm⟩
  | object es =>
    refine ⟨nofun, fun _ => ?_⟩
    cases status with
    | some v => exact Assoc.get?_insert_self ..
    | none => exact Assoc.get?_erase_self (h es rfl) "status"
  | _ => cases writable

theorem Ordered.get?_toJson_status (h : o.Ordered) {v : Json} (hv : o.toJson = .ok v) : v.get? "status" = o.status := by
  obtain ⟨data, hdata⟩ := exists_data_of_toJson hv
  obtain rfl := Except.ok.inj ((toJson_of_data hdata).symm.trans hv)
  refine (get?_written (by decide) (by decide)).trans ?_
  rw [dataEntries_eq hdata, Assoc.last?_eq_get? h.nodup_keys]
  exact Option.or_none

/-- The objects can be printed, and differ in nothing but their status. -/
structure AlikeButStatus (o d : Object) : Prop where
  types : d.types = o.types
  metadata : d.metadata = o.metadata
  members : ∀ k, k ≠ "status" → d.data.get? k = o.data.get? k
  printable : ∃ v, o.toJson = .ok v
  printable' : ∃ v, d.toJson = .ok v

theorem AlikeButStatus.exists_toJson (h : AlikeButStatus o d) (status : Option Json) :
    ∃ v, (d.withStatus status).toJson = .ok v := by
  obtain ⟨v, hv⟩ := h.printable'
  obtain ⟨types, metadata, data⟩ := d
  cases data with
  | object es => cases status <;> exact ⟨_, rfl⟩
  | _ => exact ⟨v, hv⟩

theorem AlikeButStatus.beq_iff (h : AlikeButStatus o d) (ho : o.Ordered) (hd : d.Ordered) {before after : Json}
    (hbefore : o.toJson = .ok before) (hafter : (d.withStatus o.status).toJson = .ok after) :
    (after == before) = true ↔ (d.data = .null → o.status = none) := by
  obtain ⟨data, hdata⟩ := exists_data_of_toJson hbefore
  obtain ⟨data', hdata'⟩ := exists_data_of_toJson hafter
  have hstatus := hd.status_withStatus_iff o.status hdata'
  constructor
  · intro heq hnull
    have hlook := Json.get?_beq heq "status"
    rw [(hd.withStatus _).get?_toJson_status hafter, ho.get?_toJson_status hbefore, withStatus_of_null hnull] at hlook
    have hnone : d.status = none := by
      unfold status
      rw [hnull]
      rfl
    rw [hnone] at hlook
    cases hs : o.status with
    | none => rfl
    | some v =>
      rw [hs] at hlook
      cases hlook
  · intro hcond
    -- Every member is the same: the status because it was put back, the others because the change left them.
    have hmembers : ∀ k, (d.withStatus o.status).data.get? k = o.data.get? k := by
      intro k
      by_cases hk : k = "status"
      · rw [hk]
        exact hstatus.2 hcond
      · exact (get?_withStatus_of_ne hk d _).trans (h.members k hk)
    have hentries : data' = data := by
      rw [dataEntries_eq hdata, dataEntries_eq hdata']
      exact (hd.withStatus _).entries.ext ho.entries hmembers
    have htypes : (d.withStatus o.status).typeEntries = o.typeEntries := by
      unfold typeEntries
      rw [types_withStatus, h.types]
    have hsame : (d.withStatus o.status).toJson = o.toJson := by
      rw [toJson_of_data hdata', toJson_of_data hdata, htypes, metadata_withStatus, h.metadata, hentries]
    obtain rfl : after = before := Except.ok.inj (hafter.symm.trans (hsame.trans hbefore))
    exact beq_self_eq_true after

end Object

/-! ## Updates -/

namespace Client

variable {σ : Type} (c : Client σ) {r : Resource} {shell existing d : Object} {change : Object → Except Error Object}
  {key : ObjectKey} {s s₁ : σ}

/-- An update is noted even if the cluster refuses it. -/
theorem deeds_carryOut_update (o : Object) (deeds : List Deed) :
    ((c.noted.carryOut r (.update o)).run (s, deeds)).2.2 = deeds ++ [.update r o] := by
  unfold carryOut
  rcases hrun : (c.update r o).run s with ⟨e | o', t⟩
  · rw [run_bind_error ((c.run_update_noted r s deeds o).trans (by rw [hrun]))]
  · rw [run_bind_ok ((c.run_update_noted r s deeds o).trans (by rw [hrun]))]
    rfl

/-- **The status of an existing object is carried over, unless `null` takes the place of its data.** A change makes `d` of
the `existing` object that the client finds, both in order as all objects are that were read. The only write there can be is an
update, whose object has the status that was there, and a change of nothing but the status makes no write, exactly if no status
goes with the data. -/
theorem carries_status_iff (named : shell.key = .ok key) (found : (c.get r key).run s = (.ok (some existing), s₁))
    (changed : change existing = .ok d) (kept : d.key = .ok key) (ordered : existing.Ordered) (ordered' : d.Ordered)
    (deeds : List Deed) :
    (((c.noted.createOrUpdate r shell change).run (s, deeds)).2.2 = deeds ∨
      ((c.noted.createOrUpdate r shell change).run (s, deeds)).2.2 = deeds ++ [.update r (d.withStatus existing.status)] ∧
        ((d.withStatus existing.status).status = existing.status ↔ (d.data = .null → existing.status = none))) ∧
    (existing.AlikeButStatus d →
      ((c.noted.createOrUpdate r shell change).run (s, deeds) = (.ok .unchanged, s₁, deeds) ↔
        (d.data = .null → existing.status = none))) := by
  have hfound : (c.noted.get r key).run (s, deeds) = (.ok (some existing), s₁, deeds) := by
    rw [c.run_get_noted, found]
  have hrun : (c.noted.createOrUpdate r shell change).run (s, deeds) = _ := run_createOrUpdate_found named hfound
  refine ⟨?_, fun alike => ?_⟩
  · rcases hplan : Plan.ofExisting key existing change with e | p
    · left
      rw [hrun, hplan]
    · obtain ⟨before, d', after, -, hd', -, hafter, rfl⟩ := Plan.ofExisting_eq_ok_iff.1 hplan
      obtain rfl : d' = d := Except.ok.inj (hd'.symm.trans changed)
      obtain ⟨data, hdata⟩ := Object.exists_data_of_toJson hafter
      rw [hrun, hplan]
      cases after == before with
      | true =>
        left
        rfl
      | false => exact .inr ⟨c.deeds_carryOut_update _ deeds, ordered'.status_withStatus_iff _ hdata⟩
  · obtain ⟨before, hbefore⟩ := alike.printable
    obtain ⟨after, hafter⟩ := alike.exists_toJson existing.status
    have hplan := Plan.ofExisting_eq_ok_iff.2 ⟨before, d, after, hbefore, changed, kept, hafter, rfl⟩
    rw [← alike.beq_iff ordered ordered' hbefore hafter, hrun, hplan]
    cases after == before with
    | true => exact ⟨fun _ => rfl, fun _ => rfl⟩
    | false =>
      refine ⟨fun h => ?_, nofun⟩
      have hdeeds := c.deeds_carryOut_update (r := r) (s := s₁) (d.withStatus existing.status) deeds
      rw [show (c.noted.carryOut r (.update (d.withStatus existing.status))).run (s₁, deeds) = _ from h] at hdeeds
      simp at hdeeds

end Client

/-! ## A sample: settings that show a status -/

namespace Sample

def configMaps : Resource := .ofGroup "" "v1" "ConfigMap" "configmaps"

def settingsKey : ObjectKey := ⟨some "default", "settings"⟩

def settings : Object :=
  { Object.shell configMaps settingsKey with
    data := .object [("data", .object [("key", .string "value")]), ("status", .object [("phase", .string "Ready")])] }

def cabinet : Store where
  objects := .ofList [(configMaps.storeKey settingsKey, settings)]

/-- The settings with another status, and nothing else changed. -/
def marked : Object := { settings with data := settings.data.insert "status" (.object [("phase", .string "Broken")]) }

/-- The settings with `null` in place of their data. -/
def emptied : Object := { settings with data := .null }

def marking : Object → Except Error Object := fun _ => .ok marked

def emptying : Object → Except Error Object := fun _ => .ok emptied

theorem run_get_settings : (Store.client.get configMaps settingsKey).run cabinet = (.ok (some settings), cabinet) := by
  rw [Store.run_get (Store.serves_of_nil rfl configMaps)]
  exact congrArg (fun o => (Except.ok o, cabinet)) (SortedMap.get?_insert_self ..)

theorem settings_ordered : settings.Ordered := by
  intro es hes
  obtain rfl := Json.object.inj hes
  have hlt : compare "data" "status" = .lt := by decide
  simp [Assoc.Ascending, hlt]

theorem marked_ordered : marked.Ordered := fun _ hes =>
  Json.object.inj hes ▸ (settings_ordered _ rfl).insert "status" (.object [("phase", .string "Broken")])

/-- Settings of which only the status was changed are not written. -/
theorem carries_status_iff_settings : settings.AlikeButStatus marked ∧
    (Store.client.noted.createOrUpdate configMaps (Object.shell configMaps settingsKey) marking).run (cabinet, []) =
      (.ok .unchanged, cabinet, []) := by
  have alike : settings.AlikeButStatus marked :=
    ⟨rfl, rfl, fun k hk => Assoc.get?_insert_of_ne hk _ _, ⟨_, rfl⟩, ⟨_, rfl⟩⟩
  have changed : marking settings = .ok marked := rfl
  have carries := Store.client.carries_status_iff (Object.key_shell configMaps settingsKey) run_get_settings changed rfl
    settings_ordered marked_ordered []
  exact ⟨alike, (carries.2 alike).2 nofun⟩

/-- Settings whose data become `null` are written, and their status is lost. -/
theorem not_carries_status : ¬ ∀ (r : Resource) (shell existing d : Object) (change : Object → Except Error Object)
    (key : ObjectKey) (s : Store), shell.key = .ok key → (Store.client.get r key).run s = (.ok (some existing), s) →
    change existing = .ok d → d.key = .ok key → existing.Ordered → d.Ordered → ∀ o,
    ((Store.client.noted.createOrUpdate r shell change).run (s, [])).2.2 = [.update r o] → o.status = existing.status := by
  intro carried
  have hplan : Plan.ofExisting settingsKey settings emptying = .ok (.update emptied) :=
    Plan.ofExisting_eq_ok_iff.2 ⟨_, emptied, _, rfl, rfl, rfl, rfl, if_neg (by decide +kernel)⟩
  have hfound : (Store.client.noted.get configMaps settingsKey).run (cabinet, []) = (.ok (some settings), cabinet, []) := by
    rw [Client.run_get_noted, run_get_settings]
  have hdeeds : ((Store.client.noted.createOrUpdate configMaps (Object.shell configMaps settingsKey) emptying).run
      (cabinet, [])).2.2 = [.update configMaps emptied] := by
    rw [run_createOrUpdate_found (Object.key_shell ..) hfound, hplan]
    exact Store.client.deeds_carryOut_update emptied []
  have hlost := carried configMaps _ settings emptied emptying settingsKey cabinet (Object.key_shell ..) run_get_settings
    rfl rfl settings_ordered nofun _ hdeeds
  cases hlost

end Sample

end Converge
