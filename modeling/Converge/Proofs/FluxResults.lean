import Converge.Proofs.FluxUpserts

/-!
# Results of Flux upserts

* `Flux.Kind.Decided` spells out, field by field, what an upsert leaves of a wanted state; `Item.Brought` adds the metadata.
* `FluxReconciler.upsert_brings`: a successful upsert brings the stored item there, and leaves its raw status.
* `FluxReconciler.Decides` : an upsert writes exactly when the written forms of the item and of its target differ, unless it refuses
  an object that is not filed under its own name; `report_unchanged_iff`: after an upsert they do not differ.
-/

namespace Converge

set_option autoImplicit false

namespace Flux

namespace Kind

/-- What is left of a wanted state: the engine's decisions, the given suspension, defaults where nothing is wanted, and
otherwise what is wanted. -/
def Decided : (k : Kind) → Option Bool → k.Spec → k.Spec → Prop
  | helmRepository => fun suspension wanted s =>
    s.interval = some interval ∧ s.suspend = suspension ∧ s.provider = some (wanted.provider.getD defaultProvider) ∧
    s.url = wanted.url ∧ s.type = wanted.type ∧ s.timeout = wanted.timeout ∧ s.secretRef = wanted.secretRef ∧
    s.insecure = wanted.insecure
  | gitRepository => fun suspension wanted s =>
    s.interval = some interval ∧ s.suspend = suspension ∧ s.timeout = some (wanted.timeout.getD defaultTimeout) ∧
    s.url = wanted.url ∧ s.ref = wanted.ref ∧ s.secretRef = wanted.secretRef ∧ s.ignore = wanted.ignore
  | ociRepository => fun suspension wanted s =>
    s.interval = some interval ∧ s.suspend = suspension ∧ s.provider = some (wanted.provider.getD defaultProvider) ∧
    s.timeout = some (wanted.timeout.getD defaultTimeout) ∧ s.url = wanted.url ∧ s.ref = wanted.ref ∧
    s.secretRef = wanted.secretRef ∧ s.insecure = wanted.insecure
  | helmRelease => fun suspension wanted s =>
    s.interval = some interval ∧ s.suspend = suspension ∧
    s.install = some
      { createNamespace := some true
        crds := wanted.install.bind (·.crds)
        remediation := some { retries := some retryForever } } ∧
    s.upgrade = some
      { crds := wanted.upgrade.bind (·.crds)
        remediation := some { retries := some retryForever } } ∧
    s.chart = wanted.chart ∧ s.chartRef = wanted.chartRef ∧ s.releaseName = wanted.releaseName ∧
    s.targetNamespace = wanted.targetNamespace ∧ (s.values == wanted.values) = true
  | kustomization => fun suspension wanted s =>
    s.interval = some interval ∧ s.suspend = suspension ∧ s.sourceRef = wanted.sourceRef ∧ s.path = wanted.path ∧
    s.prune = wanted.prune ∧ s.targetNamespace = wanted.targetNamespace ∧ s.wait = wanted.wait

theorem beq_refl (k : Kind) (s : k.Spec) : (s == s) = true := by
  cases k with
  | helmRepository => exact beq_self_eq_true (α := HelmRepository) s
  | gitRepository => exact beq_self_eq_true (α := GitRepository) s
  | ociRepository => exact beq_self_eq_true (α := OciRepository) s
  | helmRelease => exact beq_self_eq_true (α := HelmRelease) s
  | kustomization => exact beq_self_eq_true (α := Kustomization) s

theorem suspend_blank (k : Kind) : k.suspend k.blank = none := by
  cases k <;> rfl

theorem decided_of_beq {k : Kind} {v : Option Bool} {wanted s : k.Spec}
    (h : (s == k.applyDefaults (k.withSuspend v wanted)) = true) : k.Decided v wanted s := by
  cases k with
  | helmRepository =>
    obtain rfl := eq_of_beq (α := HelmRepository) h
    exact ⟨rfl, rfl, rfl, rfl, rfl, rfl, rfl, rfl⟩
  | gitRepository =>
    obtain rfl := eq_of_beq (α := GitRepository) h
    exact ⟨rfl, rfl, rfl, rfl, rfl, rfl, rfl⟩
  | ociRepository =>
    obtain rfl := eq_of_beq (α := OciRepository) h
    exact ⟨rfl, rfl, rfl, rfl, rfl, rfl, rfl, rfl⟩
  | helmRelease =>
    have hparts : instBEqHelmRelease.beq s (helmRelease.applyDefaults (helmRelease.withSuspend v wanted)) = true := h
    simp only [instBEqHelmRelease.beq, Bool.and_eq_true, beq_iff_eq] at hparts
    obtain ⟨hchart, hchartRef, hinterval, hreleaseName, htargetNamespace, hinstall, hupgrade, hvalues, hsuspend⟩ := hparts
    refine ⟨hinterval, hsuspend, hinstall.trans ?_, hupgrade.trans ?_, hchart, hchartRef, hreleaseName, htargetNamespace,
      hvalues⟩
    · cases hw : wanted.install <;> simp [applyDefaults, withSuspend, remedyForever, hw]
    · cases hw : wanted.upgrade <;> simp [applyDefaults, withSuspend, remedyForever, hw]
  | kustomization =>
    obtain rfl := eq_of_beq (α := Kustomization) h
    exact ⟨rfl, rfl, rfl, rfl, rfl, rfl, rfl⟩

end Kind

namespace Item

variable {k : Kind}

/-- The metadata of an item, under labels that override its own. -/
def relabelled (i : Item k) (labels : Labels) : Metadata :=
  { i.metadata with labels := some (i.metadata.labelMap.insertAll labels.entries) }

/-- The item after an upsert has what is wanted, in its own suspension, and its own metadata under the labels. -/
structure Brought (before after : Item k) (wanted : k.Spec) (labels : Labels) : Prop where
  spec : (after.spec == k.applyDefaults (k.withSuspend (k.suspend before.spec) wanted)) = true
  decided : k.Decided (k.suspend before.spec) wanted after.spec
  labelled : after.metadata.labels = some (before.metadata.labelMap.insertAll labels.entries)
  metadata : Metadata.codec.write after.metadata = Metadata.codec.write (before.relabelled labels)

/-- The written form of an item. -/
def written (i : Item k) : Except Error Json := do (← i.toObject).toJson

theorem written_eq {i : Item k} (h : Metadata.record.Sound i.metadata) : i.written = .ok i.toJson := by
  obtain ⟨m, -, -, hobject, hjson⟩ := exists_toObject h
  exact bind_eq_ok.2 ⟨_, hobject, hjson⟩

variable {before after : Item k} {wanted : k.Spec} {labels : Labels}

theorem Left.brought (h : Left before wanted labels after) : before.Brought after wanted labels := by
  cases h with
  | same hsettled =>
    have hspec := Kind.beq_of_write (settled_iff.1 hsettled).2
    have hmetadata : before.relabelled labels = before.metadata := hsettled.metadata_eq
    exact ⟨hspec, Kind.decided_of_beq hspec, (congrArg Metadata.labels hmetadata).symm, by rw [hmetadata]⟩
  | @written m hread hwrite =>
    have hspec := k.beq_refl (before.toward wanted labels).spec
    have hsame : (Metadata.codec.write m == Metadata.codec.write (before.toward wanted labels).metadata) = true := by
      rw [hwrite]
      exact BEq.rfl
    exact ⟨hspec, Kind.decided_of_beq hspec, (Metadata.eq_of_write hsame).1, hwrite⟩

theorem Left.suspend_eq (h : Left before wanted labels after) : k.suspend after.spec = k.suspend before.spec := by
  cases h with
  | same => rfl
  | written =>
    have htoward : k.suspend (before.toward wanted labels).spec = k.suspend before.spec := suspend_toward
    exact htoward

/-- Metadata that prints in full comes through exactly. -/
theorem Left.metadata_eq (h : Left before wanted labels after) (hkept : Metadata.codec.Kept before.metadata) :
    after.metadata = before.relabelled labels := by
  cases h with
  | same hsettled => exact hsettled.metadata_eq.symm
  | @written m hread hwrite =>
    have hkept' : Metadata.codec.Kept (before.toward wanted labels).metadata := toward_kept hkept
    exact Except.ok.inj (hread.symm.trans hkept')

end Item

end Flux

/-! ## The result of an upsert -/

namespace FluxReconciler

open Flux

variable {desired : Manifest} {o : Object} {s s' : Store} {current : Item desired.kind}

/-- **What a successful upsert brings about**, whether or not there was an object before. -/
theorem upsert_brings {r : FluxReconciler Store} (hr : r.client = Store.client) (c : Component Store) (desired : Manifest)
    (once : ∀ o, s.stored desired.resource desired.key = some o → (o.data.entries.map (·.1)).Nodup)
    (h : (r.upsert c desired).run s = (.ok (), s')) :
    ∃ wanted after o', desired.reading = .ok wanted ∧ s'.stored desired.resource desired.key = some o' ∧
      Item.ofObject desired.kind o' = .ok after ∧
      (∀ o, s.stored desired.resource desired.key = some o → ∃ before, Item.ofObject desired.kind o = .ok before ∧
        before.Brought after wanted.spec (r.labels c) ∧ o'.status = o.status ∧
        (o.data.get? "metadata" = none → after.metadata = before.relabelled (r.labels c))) ∧
      (s.stored desired.resource desired.key = none →
        desired.item.bare.Brought after wanted.spec (r.labels c) ∧ o'.status = none ∧
        desired.kind.suspend after.spec = none ∧ after.metadata =
          { name := some desired.key.name, ns? := desired.key.ns?, labels := some (r.labels c) }) := by
  obtain ⟨u, hu⟩ := exists_report_of_upsert h
  obtain ⟨wanted, before, after, o', hleaves⟩ := report_leaves hr once hu
  refine ⟨wanted, after, o', hleaves.reading, hleaves.stored, hleaves.loads, ?_, ?_⟩
  · intro o there
    have hstarted := hleaves.started
    have hstatus := hleaves.status
    rw [there] at hstarted hstatus
    exact ⟨before, hstarted, hleaves.left.brought, hstatus,
      fun hdata => hleaves.left.metadata_eq (Item.metadata_kept hstarted hdata)⟩
  · intro absent
    have hstarted := hleaves.started
    have hstatus := hleaves.status
    rw [absent] at hstarted hstatus
    obtain rfl : before = desired.item.bare := hstarted
    refine ⟨hleaves.left.brought, hstatus, ?_, ?_⟩
    · rw [hleaves.left.suspend_eq]
      exact desired.kind.suspend_blank
    · rw [hleaves.left.metadata_eq (bare_kept desired), Item.relabelled]
      show Metadata.mk .. = _
      rw [show (desired.item.bare.metadata.labelMap.insertAll (r.labels c).entries) = r.labels c from
        SortedMap.insertAll_entries _]
      rfl

end FluxReconciler

/-! ## A sample: a Git repository -/

namespace Sample

open Flux

def repository : Manifest where
  kind := .gitRepository
  item := { metadata := { name := some "web", ns? := some "apps" }, spec := { url := "https://git.example/web" } }

/-- The repository as the cluster has it: elsewhere, paused, and with members that the engine does not know. -/
def paused : Object where
  types := some ⟨Kind.gitRepository.resource.apiVersion, Kind.gitRepository.resource.kind⟩
  metadata := { name := some "web", ns? := some "apps", resourceVersion := some "7" }
  data := .object [
    ("spec", .object [("suspend", .bool true), ("url", .string "https://git.example/old"), ("verify", .string "head")]),
    ("status", .object [("artifact", .string "main")])]

def repositories : Store where
  objects := .ofList [(repository.resource.storeKey repository.key, paused)]

def web : Component Store where
  name := "Web"
  kind := "Web"
  enabled := true

def flux : FluxReconciler Store := .managed Store.client {}

theorem stored_paused : repositories.stored repository.resource repository.key = some paused := SortedMap.get?_insert_self ..

theorem once_paused : ∀ o, repositories.stored repository.resource repository.key = some o →
    (o.data.entries.map (·.1)).Nodup := by
  intro o ho
  obtain rfl := Option.some.inj (stored_paused.symm.trans ho)
  decide

/-- A repository that was paused stays paused when it is moved. -/
theorem upsert_brings_paused : ∃ s', ∃ after : Item .gitRepository, ∃ o',
    (flux.upsert web repository).run repositories = (.ok (), s') ∧
      s'.stored repository.resource repository.key = some o' ∧ Item.ofObject .gitRepository o' = .ok after ∧
      after.spec.suspend = some true ∧ after.metadata.resourceVersion = some "7" ∧ o'.status = paused.status := by
  have hrun : (flux.upsert web repository).run repositories = (.ok (), ((flux.upsert web repository).run repositories).2) := by
    have hok : ((flux.upsert web repository).run repositories).1.isOk = true := by decide +kernel
    rcases h : (flux.upsert web repository).run repositories with ⟨x | ⟨⟩, s'⟩
    · rw [h] at hok
      cases hok
    · rfl
  obtain ⟨wanted, after, o', -, hstored, hloads, hthere, -⟩ := FluxReconciler.upsert_brings rfl web repository once_paused hrun
  obtain ⟨before, hbefore, hbrought, hstatus, hmetadata⟩ := hthere paused stored_paused
  have hbefore : Item.ofObject .gitRepository paused = .ok before := hbefore
  have hsuspend : before.spec.suspend = some true := by
    have hpaused : (Item.ofObject .gitRepository paused).map (·.spec.suspend) = .ok (some true) := by rfl
    rw [hbefore] at hpaused
    exact Except.ok.inj hpaused
  have hversion : before.metadata.resourceVersion = some "7" := by
    have hpaused : (Item.ofObject .gitRepository paused).map (·.metadata.resourceVersion) = .ok (some "7") := by rfl
    rw [hbefore] at hpaused
    exact Except.ok.inj hpaused
  refine ⟨_, after, o', hrun, hstored, hloads, hbrought.decided.2.1.trans hsuspend, ?_, hstatus⟩
  rw [hmetadata rfl]
  exact hversion

end Sample

/-! ## When an upsert writes -/

namespace FluxReconciler

open Flux

variable {desired : Manifest} {o : Object} {s s' : Store} {current : Item desired.kind}

section
variable {r : FluxReconciler Store} {c : Component Store} {wanted : Item desired.kind}

/-- What is left to an upsert of a settled item is to make sure of the key of its object. -/
theorem report_of_settled (hr : r.client = Store.client) (served : s.Serves desired.resource)
    (there : s.stored desired.resource desired.key = some o) (loaded : Item.ofObject desired.kind o = .ok current)
    (hwanted : desired.reading = .ok wanted) (hsettled : current.Settled wanted.spec (r.labels c)) :
    (r.report c desired).run s = ((Plan.ensureKey desired.key o).map fun _ => .unchanged, s) := by
  obtain ⟨data, hdata⟩ := Item.exists_data_of_ofObject loaded
  have hprint := Object.toJson_of_data hdata
  have hchange : change desired (r.labels c) o = .ok o := change_of_settled loaded hwanted hsettled
  have hplan := Plan.ofExisting_of_printed desired.key hprint hchange (Object.toJson_withStatus_self hprint)
  rw [if_pos BEq.rfl] at hplan
  rw [run_report hr, run_createOrUpdate_present (shellOf_key desired) served there, hplan]
  cases Plan.ensureKey desired.key o <;> rfl

/-- What an upsert makes of any other item has the item's name and namespace, and is written if these are those of the key. -/
theorem report_of_not_settled (hr : r.client = Store.client) (served : s.Serves desired.resource)
    (there : s.stored desired.resource desired.key = some o) (loaded : Item.ofObject desired.kind o = .ok current)
    (hwanted : desired.reading = .ok wanted) (hnot : ¬ current.Settled wanted.spec (r.labels c)) :
    ∃ d : Object, d.metadata.name = current.metadata.name ∧ d.metadata.ns? = current.metadata.ns? ∧
      (r.report c desired).run s = match Plan.ensureKey desired.key d with
        | .ok _ => (.ok .updated, s.updated (desired.resource.storeKey desired.key) (d.withStatus o.status))
        | .error x => (.error x, s) := by
  obtain ⟨data, hdata⟩ := Item.exists_data_of_ofObject loaded
  have hprint := Object.toJson_of_data hdata
  obtain ⟨m, hread, hwrite, hchange⟩ := change_eq loaded hwanted (r.labels c)
  rw [if_neg fun heq => hnot (BEq.symm heq)] at hchange
  have hsame : (Metadata.codec.write m == Metadata.codec.write (current.toward wanted.spec (r.labels c)).metadata) = true := by
    rw [hwrite]
    exact BEq.rfl
  obtain ⟨-, hname, hns⟩ := Metadata.eq_of_write hsame
  have hafter := Item.toJson_filed desired.kind m
    (desired.kind.record.write (current.toward wanted.spec (r.labels c)).spec) o.status
  have hne := fun heq => hnot (settled_of_toJson_beq loaded (reading_kept hwanted) hread hwrite hprint hafter heq)
  have hplan := Plan.ofExisting_of_printed desired.key hprint hchange (by rw [Item.withStatus_filed]; exact hafter)
  rw [if_neg hne] at hplan
  refine ⟨Item.filed desired.kind m (desired.kind.record.write (current.toward wanted.spec (r.labels c)).spec)
    (current.status.map Flux.Status.codec.write), hname, hns, ?_⟩
  rw [run_report hr, run_createOrUpdate_present (shellOf_key desired) served there, hplan]
  cases hkey : Plan.ensureKey desired.key (Item.filed ..) with
  | ok u => exact run_carryOut_update served there ((Object.key_withStatus _ _).trans (Plan.ensureKey_eq_ok.1 hkey))
  | error x => rfl

/-- Without a target an upsert fails. -/
theorem report_of_target_error (hr : r.client = Store.client) (served : s.Serves desired.resource)
    (there : s.stored desired.resource desired.key = some o) (loaded : Item.ofObject desired.kind o = .ok current) {x : Error}
    (hx : target current desired (r.labels c) = .error x) : (r.report c desired).run s = (.error x, s) := by
  obtain ⟨data, hdata⟩ := Item.exists_data_of_ofObject loaded
  obtain ⟨m, -, -, hobject, hjson⟩ := Item.exists_toObject (Item.metadata_sound loaded)
  have hchange : change desired (r.labels c) o = .error x := by
    unfold change
    simp only [loaded, hobject, hjson, hx, bind, Except.bind]
  have hplan : Plan.ofExisting desired.key o (change desired (r.labels c)) = .error x := by
    unfold Plan.ofExisting
    rw [Object.toJson_of_data hdata, hchange]
    rfl
  rw [run_report hr, run_createOrUpdate_present (shellOf_key desired) served there, hplan]

/-- The item is written like its target is, so that an upsert has nothing to write. -/
def AtTarget {k : Kind} (current : Item k) (desired : Manifest) (labels : Labels) : Prop :=
  ∃ goal before after, target current desired labels = .ok goal ∧ current.written = .ok before ∧ goal.written = .ok after ∧
    (after == before) = true

theorem atTarget_iff {labels : Labels} (loaded : Item.ofObject desired.kind o = .ok current)
    (hwanted : desired.reading = .ok wanted) : AtTarget current desired labels ↔ current.Settled wanted.spec labels := by
  have hsound := Item.metadata_sound loaded
  have hbefore := Item.written_eq hsound
  have hafter : (current.toward wanted.spec labels).written = _ := Item.written_eq (Item.toward_sound hsound)
  have hgoal : target current desired labels = .ok (current.toward wanted.spec labels) := target_eq_ok.2 ⟨wanted, hwanted, rfl⟩
  constructor
  · rintro ⟨goal, before, after, hg, hb, ha, heq⟩
    obtain rfl := Except.ok.inj (hgoal.symm.trans hg)
    obtain rfl := Except.ok.inj (hbefore.symm.trans hb)
    obtain rfl := Except.ok.inj (hafter.symm.trans ha)
    exact BEq.symm heq
  · intro hsettled
    exact ⟨_, _, _, hgoal, hbefore, hafter, BEq.symm hsettled⟩

/-- How an upsert goes on a stored object that was loaded. What it hands on, the object as it is or else the target of its item,
must have the name and the namespace under which the object is stored. -/
structure Decides (r : FluxReconciler Store) (c : Component Store) (desired : Manifest) (s : Store) (o : Object)
    (current : Item desired.kind) : Prop where
  keeps : (r.report c desired).run s = (.ok .unchanged, s) ↔
    AtTarget current desired (r.labels c) ∧ o.metadata.Bears desired.key
  writes : (∃ o', (r.report c desired).run s = (.ok .updated, s.updated (desired.resource.storeKey desired.key) o')) ↔
    ¬ AtTarget current desired (r.labels c) ∧ current.metadata.Bears desired.key
  refuses : ∀ x, (r.report c desired).run s = (.error x, s) ↔
    (AtTarget current desired (r.labels c) ∧ o.metadata.Strange desired.key x) ∨
      (¬ AtTarget current desired (r.labels c) ∧ current.metadata.Strange desired.key x)

theorem decides (hr : r.client = Store.client) (served : s.Serves desired.resource)
    (there : s.stored desired.resource desired.key = some o) (loaded : Item.ofObject desired.kind o = .ok current)
    (hwanted : desired.reading = .ok wanted) : Decides r c desired s o current := by
  have at_iff : AtTarget current desired (r.labels c) ↔ _ := atTarget_iff loaded hwanted
  by_cases hsettled : current.Settled wanted.spec (r.labels c)
  case pos =>
    have hat := at_iff.2 hsettled
    have hrun := report_of_settled hr served there loaded hwanted hsettled
    obtain ⟨hkey, bears, fits⟩ | ⟨y, hkey, strange, why⟩ := Plan.ensureKey_cases (o := o) rfl rfl desired.key
    all_goals rw [hkey] at hrun
    · constructor <;> simp [run_eq_iff hrun, hat, bears, fits, Except.map]
    · constructor <;> simp [run_eq_iff hrun, hat, strange, why, Except.map, eq_comm]
  case neg =>
    have hnot : ¬ AtTarget current desired (r.labels c) := fun hat => hsettled (at_iff.1 hat)
    obtain ⟨d, hname, hns, hrun⟩ := report_of_not_settled hr served there loaded hwanted hsettled
    obtain ⟨hkey, bears, fits⟩ | ⟨y, hkey, strange, why⟩ := Plan.ensureKey_cases hname hns desired.key
    all_goals rw [hkey] at hrun
    · constructor <;> simp [run_eq_iff hrun, hnot, bears, fits]
    · constructor <;> simp [run_eq_iff hrun, hnot, strange, why, eq_comm]

theorem serves_of_report {u : Upserted} (hr : r.client = Store.client) (served : s.Serves desired.resource)
    (h : (r.report c desired).run s = (.ok u, s')) : s'.Serves desired.resource := by
  have hupserts : Upserts desired.resource desired.key (shellOf desired) (change desired (r.labels c)) s _ _ :=
    createOrUpdate_upserts (shellOf_key desired) s
  rw [← run_report hr, h] at hupserts
  rw [Store.Serves, ← hupserts.frame.unserved] at served
  exact served

/-- What an upsert left is at its target, and stays there as long as its metadata and its wanted state do. -/
theorem decides_of_left {before after later : Item desired.kind} (hr : r.client = Store.client)
    (hwanted : desired.reading = .ok wanted) (left : Item.Left before wanted.spec (r.labels c) after) (served : s.Serves desired.resource)
    (there : s.stored desired.resource desired.key = some o) (loaded : Item.ofObject desired.kind o = .ok later)
    (hm : later.metadata = after.metadata) (hs : later.spec = after.spec) : AtTarget later desired (r.labels c) ∧
      ((r.report c desired).run s = (.ok .unchanged, s) ↔ o.metadata.Bears desired.key) ∧
      ∀ x, (r.report c desired).run s = (.error x, s) ↔ o.metadata.Strange desired.key x := by
  have hat : AtTarget later desired (r.labels c) := (atTarget_iff loaded hwanted).2 (left.settled.congr hm hs)
  have hdecides : Decides r c desired s o later := decides hr served there loaded hwanted
  refine ⟨hat, hdecides.keeps.trans (and_iff_right hat), fun x => (hdecides.refuses x).trans ?_⟩
  exact ⟨fun h => h.elim And.right fun h => absurd hat h.1, fun h => .inl ⟨hat, h⟩⟩

/-- **An upsert writes exactly if the item is not at its target**, and brings it there: whatever the cluster then does to the
object besides, a later upsert writes nothing. An object that is handed on under another name or namespace is refused instead, and
so nothing is written either. -/
theorem report_unchanged_iff (hr : r.client = Store.client) (c : Component Store) (desired : Manifest) :
    (r.upsert c desired = do let _ ← r.report c desired) ∧
    (∀ (s : Store) (o : Object) (current : Item desired.kind), s.Serves desired.resource →
      s.stored desired.resource desired.key = some o → Item.ofObject desired.kind o = .ok current →
      (∀ goal, target current desired (r.labels c) = .ok goal →
        (∃ before after, current.written = .ok before ∧ goal.written = .ok after) ∧ Decides r c desired s o current) ∧
      (∀ x, target current desired (r.labels c) = .error x → (r.report c desired).run s = (.error x, s)) ∧
      (o.Parted → (current.metadata.Bears desired.key ↔ o.metadata.Bears desired.key))) ∧
    (∀ s s' : Store, (∀ o, s.stored desired.resource desired.key = some o → (o.data.entries.map (·.1)).Nodup) →
      (r.upsert c desired).run s = (.ok (), s') →
      s'.Serves desired.resource ∧ ∃ o' after, s'.stored desired.resource desired.key = some o' ∧
        o'.metadata.Bears desired.key ∧ Item.ofObject desired.kind o' = .ok after ∧
        ∀ (t : Store) (o : Object) (later : Item desired.kind), t.Serves desired.resource →
          t.stored desired.resource desired.key = some o → Item.ofObject desired.kind o = .ok later →
          later.metadata = after.metadata → later.spec = after.spec →
          AtTarget later desired (r.labels c) ∧
          ((r.report c desired).run t = (.ok .unchanged, t) ↔ o.metadata.Bears desired.key) ∧
          (∀ x, (r.report c desired).run t = (.error x, t) ↔ o.metadata.Strange desired.key x) ∧
          (o'.Parted → o.Parted → o.metadata.Bears desired.key)) := by
  refine ⟨upsert_eq r c desired, ?_, ?_⟩
  · intro s o current served there loaded
    refine ⟨fun goal hgoal => ?_, fun x hx => report_of_target_error hr served there loaded hx, fun parted => ?_⟩
    · obtain ⟨wanted, hwanted, rfl⟩ := target_eq_ok.1 hgoal
      have hsound := Item.metadata_sound loaded
      exact ⟨⟨_, _, Item.written_eq hsound, Item.written_eq (Item.toward_sound hsound)⟩,
        decides hr served there loaded hwanted⟩
    · obtain ⟨hname, hns, -⟩ := Item.shown_of_ofObject loaded parted
      rw [Metadata.Bears, Metadata.Bears, hname, hns]
  · intro s s' once h
    obtain ⟨u, hu⟩ := exists_report_of_upsert h
    obtain ⟨wanted, before, after, o', hleaves⟩ := report_leaves hr once hu
    have named := Object.key_eq_ok.1 hleaves.named
    refine ⟨serves_of_report hr hleaves.served hu, o', after, hleaves.stored, named, hleaves.loads, ?_⟩
    intro t o later served there loaded hm hs
    obtain ⟨hat, hkeeps, hrefuses⟩ := decides_of_left hr hleaves.reading hleaves.left served there loaded hm hs
    refine ⟨hat, hkeeps, hrefuses, fun parted' parted => ?_⟩
    obtain ⟨hname', hns', -⟩ := Item.shown_of_ofObject hleaves.loads parted'
    obtain ⟨hname, hns, -⟩ := Item.shown_of_ofObject loaded parted
    rw [hm] at hname hns
    exact ⟨hname.symm.trans (hname'.trans named.1), hns.symm.trans (hns'.trans named.2)⟩

end

end FluxReconciler

section
open Flux Sample FluxReconciler

/-- The paused repository is moved, and then left alone. -/
theorem report_unchanged_iff_paused : ∃ s', (flux.report web repository).run repositories = (.ok .updated, s') ∧
    (flux.report web repository).run s' = (.ok .unchanged, s') := by
  obtain ⟨-, hwrites, hsilent⟩ := report_unchanged_iff (r := flux) rfl web repository
  obtain ⟨current, loaded⟩ : ∃ i, Item.ofObject .gitRepository paused = .ok i := ⟨_, by rfl⟩
  obtain ⟨wanted, hwanted⟩ : ∃ i, repository.reading = .ok i := ⟨_, by rfl⟩
  have hgoal : target current repository (flux.labels web) = .ok (current.toward wanted.spec (flux.labels web)) :=
    target_eq_ok.2 ⟨wanted, hwanted, rfl⟩
  have served : repositories.Serves repository.resource := Store.serves_of_nil rfl _
  obtain ⟨hdecides, -, hparted⟩ := hwrites repositories paused current served stored_paused loaded
  obtain ⟨-, hkeeps, hupdates, -⟩ := hdecides _ hgoal
  have bears : paused.metadata.Bears repository.key := ⟨rfl, rfl⟩
  have hnot : ¬ AtTarget current repository (flux.labels web) := by
    intro hat
    have hunchanged : ((flux.report web repository).run repositories).1.toOption ≠ some .unchanged := by decide +kernel
    rw [hkeeps.2 ⟨hat, bears⟩] at hunchanged
    exact hunchanged rfl
  obtain ⟨o', hrun⟩ := hupdates.2 ⟨hnot, (hparted rfl).2 bears⟩
  refine ⟨_, hrun, ?_⟩
  obtain ⟨hserves, o, after, hstored, named, hloads, hlater⟩ := hsilent repositories _ once_paused (run_upsert_of_report hrun)
  exact (hlater _ o after hserves hstored hloads rfl rfl).2.1.2 named

/-- The paused repository without its name. -/
def Sample.anonymous : Object := { paused with metadata := { ns? := some "apps" } }

/-- A cluster that has it where the repository belongs. -/
def Sample.misfiled : Store where
  objects := .ofList [(repository.resource.storeKey repository.key, anonymous)]

/-- Not every item that is away from its target is brought there: an object without a name is refused. -/
theorem not_report_unchanged_iff : ¬ ∀ (r : FluxReconciler Store) (c : Component Store) (desired : Manifest) (s : Store)
    (o : Object) (current goal : Item desired.kind), r.client = Store.client → s.Serves desired.resource →
    s.stored desired.resource desired.key = some o → Item.ofObject desired.kind o = .ok current →
    target current desired (r.labels c) = .ok goal →
    (AtTarget current desired (r.labels c) ↔ (r.report c desired).run s = (.ok .unchanged, s)) ∧
    (¬ AtTarget current desired (r.labels c) →
      ∃ o', (r.report c desired).run s = (.ok .updated, s.updated (desired.resource.storeKey desired.key) o')) := by
  intro h
  obtain ⟨current, loaded⟩ : ∃ i, Item.ofObject .gitRepository anonymous = .ok i := ⟨_, by rfl⟩
  obtain ⟨wanted, hwanted⟩ : ∃ i, repository.reading = .ok i := ⟨_, by rfl⟩
  have hgoal : target current repository (flux.labels web) = .ok (current.toward wanted.spec (flux.labels web)) :=
    target_eq_ok.2 ⟨wanted, hwanted, rfl⟩
  have served : misfiled.Serves repository.resource := Store.serves_of_nil rfl _
  have there : misfiled.stored repository.resource repository.key = some anonymous := SortedMap.get?_insert_self ..
  obtain ⟨hkeeps, hwrites⟩ := h flux web repository misfiled _ current _ rfl served there loaded hgoal
  have fails : ((flux.report web repository).run misfiled).1.toOption = none := by decide +kernel
  have hnot : ¬ AtTarget current repository (flux.labels web) := by
    intro hat
    rw [hkeeps.1 hat] at fails
    cases fails
  obtain ⟨o', hrun⟩ := hwrites hnot
  rw [hrun] at fails
  cases fails

end

end Converge
