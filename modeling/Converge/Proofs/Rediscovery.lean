import Converge.Proofs.Detection
import Converge.Proofs.FluxUpserts

/-!
# What is installed is found again

* `Object.Parted.get?_toJson`: what is written for an object tells its metadata, if no member of its data is named as they are.
* `createOrUpdate_leaves`: a successful write leaves an object with the wanted labels under its key.
* `ObjectView.Modest` : a component leaves the ownership labels of its object alone, and its data parted.
* `ObjectReconciler.Refound` : detection for the kind of a component finds its object, detection for other kinds does not.
  `refound_of_apply`: so it is after the component was installed.
-/

namespace Converge

set_option autoImplicit false

/-- Settings that make a configuration make one that is accepted. -/
theorem Config.validate_of_ofLookup {lookup : String → Option String} {c : Config} (h : ofLookup lookup = .ok c) :
    c.validate = .ok () :=
  validate_eq_ok_iff.mpr (ofLookup_eq_ok_iff.mp h).2

/-! ## Written metadata -/

namespace Object

variable {o d : Object}

/-- What is written for an object tells its metadata. -/
theorem Parted.get?_toJson (h : o.Parted) {v : Json} (hv : o.toJson = .ok v) :
    v.get? "metadata" = some (Metadata.codec.write o.metadata) := by
  obtain ⟨data, hdata⟩ := exists_data_of_toJson hv
  rw [toJson_of_data hdata] at hv
  obtain rfl := Except.ok.inj hv
  have none : Assoc.get? "metadata" data = none := by
    rw [dataEntries_eq hdata]
    exact h
  change Assoc.get? "metadata" (Assoc.ofList _) = _
  rw [get?_written (by decide) (by decide), Assoc.last?_eq_none none]
  rfl

/-- Objects that are written alike have the same labels. -/
theorem Parted.labels_eq (ho : o.Parted) (hd : d.Parted) {v w : Json} (hv : o.toJson = .ok v) (hw : d.toJson = .ok w)
    (same : (w == v) = true) : o.metadata.labels = d.metadata.labels := by
  have written := Json.get?_beq same "metadata"
  rw [ho.get?_toJson hv, hd.get?_toJson hw] at written
  exact (Metadata.eq_of_write written).1.symm

end Object

/-- A successful write leaves an object with the wanted labels under its key. -/
theorem createOrUpdate_leaves {r : Resource} {key : ObjectKey} {shell : Object} {change : Object → Except Error Object}
    {s s' : Store} {u : Upserted} (hkey : shell.key = .ok key)
    (parted : ∀ o, s.stored r key = some o → o.Parted ∧ ∀ d, change o = .ok d → d.Parted)
    (run : (Store.client.createOrUpdate r shell change).run s = (.ok u, s')) :
    s'.Serves r ∧ ∃ o d o', change o = .ok d ∧ s'.stored r key = some o' ∧ o'.metadata.labels = d.metadata.labels := by
  cases course_of_run run with
  | created lacks =>
    obtain rfl := Except.ok.inj (hkey.symm.trans lacks.named)
    exact ⟨lacks.served, shell, _, _, lacks.changed, s.get?_created _ _, rfl⟩
  | updated meets =>
    obtain rfl := Except.ok.inj (hkey.symm.trans meets.named)
    obtain ⟨d, made, -, rfl⟩ := meets.changed
    exact ⟨meets.served, _, d, _, made, s.get?_updated _ _, congrArg _ (d.metadata_withStatus _)⟩
  | unchanged meets same =>
    obtain rfl := Except.ok.inj (hkey.symm.trans meets.named)
    obtain ⟨d, made, -, rfl⟩ := meets.changed
    obtain ⟨ho, hd⟩ := parted _ meets.there
    have labels := ho.labels_eq ((hd d made).withStatus _) meets.printed meets.reprinted same
    exact ⟨meets.served, _, d, _, made, meets.there, labels.trans (congrArg _ (d.metadata_withStatus _))⟩

/-- The component leaves the ownership labels of its object alone, and its data parted. -/
structure ObjectView.Modest (config : Config) (v : ObjectView) : Prop where
  labels : ∀ o d, v.shape o = .ok d →
    ∀ l ∈ [managedByLabel, config.componentLabel, config.kindLabel], d.label? l = o.label? l
  parted : ∀ o d, v.shape o = .ok d → o.Parted → d.Parted

namespace ObjectReconciler

/-- The component was installed successfully under a configuration that is accepted. -/
structure Installed (r : ObjectReconciler Store) (c : Component Store) (v : ObjectView) (i : ObjectIdentity) (s s' : Store) :
    Prop where
  client : r.client = Store.client
  valid : r.config.validate = .ok ()
  owns : c.Owns v i
  run : (r.apply c).run s = (.ok (), s')

/-- Detectors find the object of a component again, and only for its own kind. -/
structure Refound (r : ObjectReconciler Store) (c : Component Store) (i : ObjectIdentity) (s : Store) : Prop where
  /-- The detector for its kind reports it, once the component is not configured any more. -/
  own : ∀ configured, (∀ d ∈ configured, d.kind = c.kind → ¬ d.Names i.storeKey) → ∃ xs : List Orphan,
    (detect r.client configured [(c.kind, some (.managedBy r.config c.kind i.resource))]).run s =
      (.ok (xs.map Orphan.component), s) ∧ ⟨c.name, c.kind, i⟩ ∈ xs
  /-- A detector for another kind does not report it, whatever it lists. -/
  others : ∀ kind, r.config.Reads kind → kind ≠ c.kind → ∀ resource configured, ∃ xs : List Orphan,
    (detect r.client configured [(kind, some (.managedBy r.config kind resource))]).run s =
      (.ok (xs.map Orphan.component), s) ∧ ∀ x ∈ xs, x.identity.storeKey ≠ i.storeKey

section
variable {r : ObjectReconciler Store} {c : Component Store} {v : ObjectView} {i : ObjectIdentity} {s s' : Store}

theorem Installed.exists_run (h : r.Installed c v i s s') :
    ∃ u, (Store.client.createOrUpdate i.resource i.shell (shape r.config c v)).run s = (.ok u, s') := by
  have run := h.run
  unfold apply at run
  rw [view_eq_ok h.owns, run_bind_ok (Act.run_ofExcept _ s), h.client] at run
  dsimp only at run
  rcases hx : (Store.client.createOrUpdate i.resource i.shell (shape r.config c v)).run s with ⟨x | u, t⟩
  · rw [run_bind_error hx] at run
    cases run
  · rw [run_bind_ok hx] at run
    cases run
    exact ⟨u, rfl⟩

theorem Installed.filed (h : r.Installed c v i s s') (filed : s.Filed) : s'.Filed := by
  obtain ⟨u, run⟩ := h.exists_run
  have upserts : Upserts i.resource i.key i.shell (shape r.config c v) s
      ((Store.client.createOrUpdate i.resource i.shell (shape r.config c v)).run s).1
      ((Store.client.createOrUpdate i.resource i.shell (shape r.config c v)).run s).2 :=
    createOrUpdate_upserts (Object.key_shell i.resource i.key) s
  rw [run] at upserts
  exact upserts.filed filed

/-- After it was installed, the object of a component carries its labels. -/
theorem Installed.labels (h : r.Installed c v i s s') (modest : v.Modest r.config)
    (parted : ∀ o, s.objects.get? i.storeKey = some o → o.Parted) :
    s'.Serves i.resource ∧ ∃ o, s'.objects.get? i.storeKey = some o ∧
      ∀ l ∈ Ownership.entries r.config c, o.label? l.1 = some l.2 := by
  obtain ⟨u, run⟩ := h.exists_run
  obtain ⟨served, o, d, o', made, there, labels⟩ := createOrUpdate_leaves (Object.key_shell i.resource i.key)
    (fun o ho => ⟨parted o ho, fun d hd => modest.parted (Ownership.stamp r.config c o) d hd (parted o ho)⟩) run
  refine ⟨served, o', there, fun l hl => ?_⟩
  have kept := modest.labels _ d made l.1 (List.mem_map_of_mem (f := Prod.fst) hl)
  rw [Ownership.label?_stamp h.valid c o l hl] at kept
  unfold Object.label? Metadata.labelMap at kept ⊢
  rw [labels, kept]

/-- **What is installed is found again**, and only for its own kind. -/
theorem refound_of_apply (h : r.Installed c v i s s') (reads : r.config.Reads c.kind) (modest : v.Modest r.config)
    (filed : s.Filed) (parted : ∀ o, s.objects.get? i.storeKey = some o → o.Parted) : r.Refound c i s' := by
  obtain ⟨served, o, there, labels⟩ := h.labels modest parted
  have marks := Ownership.marks_of_labels labels
  have filed' := h.filed filed
  constructor
  · intro configured unowned
    rw [h.client]
    refine ⟨_, run_detect_managedBy reads filed' c.kind i.resource configured, Watch.mem_strays.mpr ⟨served, rfl, rfl, o, there, ?_, ?_⟩⟩
    · exact ⟨rfl, rfl, .inl rfl, marks, unowned⟩
    · exact labels (r.config.componentLabel, c.name) (by simp [Ownership.entries])
  · intro kind hkind other resource configured
    rw [h.client]
    refine ⟨_, run_detect_managedBy hkind filed' kind resource configured, fun x hx same => other ?_⟩
    obtain ⟨-, -, -, o', there', strays, -⟩ := Watch.mem_strays.mp hx
    rw [same, there] at there'
    cases there'
    exact Option.some.inj (strays.marks.kind.symm.trans marks.kind)

theorem Refound.reports (h : r.Refound c i s) :
    ((detect r.client [] [(c.kind, some (.managedBy r.config c.kind i.resource))]).run s).1.toOption.map List.isEmpty =
      some false := by
  obtain ⟨xs, run, there⟩ := h.own [] fun _ hd => absurd hd List.not_mem_nil
  rw [run]
  cases xs with
  | nil => cases there
  | cons x xs => rfl

end

end ObjectReconciler

/-! ## Samples -/

namespace Sample

/-- A reconciler that claims no kind. -/
def keeper (config : Config) : ObjectReconciler Store := ⟨Store.client, config, .empty⟩

/-- The credentials as a component that shapes its object. -/
def shaping (shape : Object → Except Error Object) : ObjectView := ⟨.ok creds, shape, fun _ => .good⟩

def shaped (shape : Object → Except Error Object) : Component Store := { component "Old" (.ok creds) with object := some (shaping shape) }

/-- The store after the credentials were installed. -/
def after (config : Config) (shape : Object → Except Error Object) (s : Store) : Store :=
  (((keeper config).apply (shaped shape)).run s).2

theorem installed (config : Config) (shape : Object → Except Error Object) (s : Store) (valid : config.validate = .ok ())
    (run : (((keeper config).apply (shaped shape)).run s).1 = .ok ()) :
    (keeper config).Installed (shaped shape) (shaping shape) creds s (after config shape s) :=
  ⟨rfl, valid, ⟨rfl, rfl⟩, Prod.ext run rfl⟩

theorem modest (config : Config) : (shaping .ok).Modest config := by
  constructor
  · rintro o d ⟨⟩ l -
    rfl
  · rintro o d ⟨⟩ h
    exact h

theorem letters : ∀ x ∈ "Old".toList, x.isAlphanum = true := List.all_eq_true.mp (by decide +kernel)

/-- Takes the labels away again. -/
def bare (o : Object) : Object := { o with metadata := { o.metadata with labels := none } }

/-- The credentials with data that says what the metadata say. -/
def twice : Object where
  metadata := { name := some "creds", ns? := some "apps" }
  data := .object [("metadata", Metadata.codec.write { name := some "creds", ns? := some "apps" })]

end Sample

namespace ObjectReconciler
open Sample

/-- A default configuration is what settings leave that are not made. -/
theorem refound_of_apply_creds : (keeper {}).Refound (shaped .ok) creds (after {} .ok {}) :=
  have valid : Config.validate {} = .ok () :=
    Config.validate_of_ofLookup (show Config.ofLookup (fun _ => none) = .ok {} from rfl)
  refound_of_apply (installed {} .ok {} valid rfl) (legible.reads (by decide +kernel)) (modest {}) (.empty []) fun _ ho => nomatch ho

/-- What is installed is not found again, each time with all the rest given, under a configuration with a comma in its texts,
if the component takes its labels away, if the data of the object hides its metadata, and next to an object without a name. -/
theorem not_refound_of_apply :
    (¬ ∀ (r : ObjectReconciler Store) (c : Component Store) (v : ObjectView) (i : ObjectIdentity) (s s' : Store),
      r.Installed c v i s s' → (∀ x ∈ c.kind.toList, x.isAlphanum = true) → v.Modest r.config → s.Filed →
        (∀ o, s.objects.get? i.storeKey = some o → o.Parted) → r.Refound c i s') ∧
    (¬ ∀ (r : ObjectReconciler Store) (c : Component Store) (v : ObjectView) (i : ObjectIdentity) (s s' : Store),
      r.Installed c v i s s' → (∀ x ∈ c.kind.toList, x.isAlphanum = true) → r.config.Legible → s.Filed →
        (∀ o, s.objects.get? i.storeKey = some o → o.Parted) → r.Refound c i s') ∧
    (¬ ∀ (r : ObjectReconciler Store) (c : Component Store) (v : ObjectView) (i : ObjectIdentity) (s s' : Store),
      r.Installed c v i s s' → (∀ x ∈ c.kind.toList, x.isAlphanum = true) → r.config.Legible → v.Modest r.config → s.Filed →
        r.Refound c i s') ∧
    ¬ ∀ (r : ObjectReconciler Store) (c : Component Store) (v : ObjectView) (i : ObjectIdentity) (s s' : Store),
      r.Installed c v i s s' → (∀ x ∈ c.kind.toList, x.isAlphanum = true) → r.config.Legible → v.Modest r.config →
        (∀ o, s.objects.get? i.storeKey = some o → o.Parted) → r.Refound c i s' := by
  refine ⟨fun all => ?_, fun all => ?_, fun all => ?_, fun all => ?_⟩
  · have found := (all _ _ _ _ _ _ (installed { managedBy := "a,b" } .ok {} rfl rfl) letters (modest _) (.empty [])
      fun _ ho => nomatch ho).reports
    revert found
    decide +kernel
  · have found := (all _ _ _ _ _ _ (installed {} (fun o => .ok (bare o)) {} rfl rfl) letters legible (.empty [])
      fun _ ho => nomatch ho).reports
    revert found
    decide +kernel
  · have found := (all _ _ _ _ _ _ (installed {} .ok (holding creds twice) rfl rfl) letters legible (modest _)
      (filed_holding rfl)).reports
    revert found
    decide +kernel
  · have found := (all _ _ _ _ _ _ (installed {} .ok (holding token (unnamed token)) rfl rfl) letters legible (modest _)
      fun _ ho => nomatch ho).reports
    revert found
    decide +kernel

end ObjectReconciler

end Converge
