import Converge.Cluster.Store
import Converge.Proofs.Selectors
import Converge.Reconciler.FluxPairs
import Converge.Reconciler.Objects
import Mathlib.Data.List.Nodup

/-!
# What accepted settings write on objects

* `SortedMap.perm_ofList`: a map that is made of entries with different keys has just these.
* `Ownership.ReadBack` : labels are the three that tell who owns an object, each under a key of its own; `Ownership.readBack_labels`.
* `ObjectReconciler.shape_eq`: what is written on single objects is what is written on pairs.
* `Config.ofLookup_settles`: which settings are accepted, how the others are refused, and what is written with the accepted ones.
-/

namespace Converge

set_option autoImplicit false

/-! ## Maps of given entries -/

section
variable {κ β : Type} [DecidableEq κ] [Ord κ] [Std.TransOrd κ] [Std.LawfulEqOrd κ]

namespace SortedMap

/-- A map that is made of entries with different keys has just these. -/
theorem perm_ofList {es : List (κ × β)} (distinct : (es.map (·.1)).Nodup) : (ofList es).entries.Perm es := by
  refine (List.perm_ext_iff_of_nodup (List.Nodup.of_map _ (ofList es).nodup_keys) (List.Nodup.of_map _ distinct)).mpr fun e => ?_
  rw [Assoc.mem_iff_get? distinct, ← Assoc.get?_reverse distinct, ← get?_ofList]
  exact (ofList es).mem_entries_iff e.1 e.2

/-- Inserting the entries of a map that is made of a list comes to inserting the list. -/
theorem insertAll_ofList (m : SortedMap κ β) (es : List (κ × β)) : m.insertAll (ofList es).entries = m.insertAll es := by
  refine ext_get? fun k => ?_
  rw [get?_insertAll, get?_insertAll, Assoc.get?_reverse (ofList es).nodup_keys, ← get?_ofList]
  rfl

end SortedMap

end

/-! ## Ownership labels -/

variable {σ : Type}

namespace Ownership
variable {config : Config} {c : Component σ}

/-- The labels are the three that tell who owns an object, each under a key of its own. -/
structure ReadBack (config : Config) (c : Component σ) (labels : Labels) : Prop where
  entries : labels.entries.Perm
    [(managedByLabel, config.managedBy), (config.componentLabel, c.name), (config.kindLabel, c.kind)]
  managedBy : labels.get? managedByLabel = some config.managedBy
  name : labels.get? config.componentLabel = some c.name
  kind : labels.get? config.kindLabel = some c.kind

theorem readBack_labels (usable : config.Usable) (c : Component σ) : ReadBack config c (labels config c) := by
  have read : ∀ e ∈ entries config c, (labels config c).get? e.1 = some e.2 := fun _ he =>
    SortedMap.get?_insertAll_of_mem .empty (nodup_keys_entries usable c) he
  exact ⟨SortedMap.perm_ofList (nodup_keys_entries usable c), read (managedByLabel, config.managedBy) (by simp [entries]),
    read (config.componentLabel, c.name) (by simp [entries]), read (config.kindLabel, c.kind) (by simp [entries])⟩

end Ownership

/-- What is written on single objects is what is written on pairs. -/
theorem ObjectReconciler.shape_eq (config : Config) (client : Client σ) (c : Component σ) (view : ObjectView) (o : Object) :
    shape config c view o = view.shape { o with metadata := { o.metadata with
      labels := some (o.metadata.labelMap.insertAll ((FluxReconciler.managed client config).labels c).entries) } } := by
  change _ = view.shape { o with metadata := { o.metadata with
    labels := some (o.metadata.labelMap.insertAll (SortedMap.ofList (Ownership.entries config c)).entries) } }
  rw [SortedMap.insertAll_ofList]
  rfl

/-- **Settings are accepted iff what they write can be read back.** A configuration is made of settings iff it is the defaults with
them over it, no text of it is empty and its label keys differ; else the first setting that is wrong is named. With an accepted
configuration pairs and single objects get the same three labels, over those that an object has. -/
theorem Config.ofLookup_settles (lookup : String → Option String) :
    (∀ config, ofLookup lookup = .ok config ↔ config.Overlays (Setting.text lookup) ∧ config.Usable) ∧
      (∀ e, ofLookup lookup = .error e ↔ ∃ s : Setting, s.FirstWrong (Setting.text lookup) ∧
        e = .config (s.complaint (Setting.text lookup)) (some s.variable)) ∧
      (∀ config : Config, config.validate = .ok () ↔ config.Usable) ∧
      ∀ config : Config, config.Usable → ∀ (c : Component σ) (client : Client σ),
        Ownership.ReadBack config c ((FluxReconciler.managed client config).labels c) ∧
          ∀ (view : ObjectView) (o : Object), ObjectReconciler.shape config c view o =
            view.shape { o with metadata := { o.metadata with
              labels := some (o.metadata.labelMap.insertAll ((FluxReconciler.managed client config).labels c).entries) } } :=
  ⟨fun _ => ofLookup_eq_ok_iff, fun _ => ofLookup_eq_error_iff, fun _ => validate_eq_ok_iff, fun config usable c client =>
    ⟨Ownership.readBack_labels usable c, ObjectReconciler.shape_eq config client c⟩⟩

/-- Of several wrong settings the switch is named, which is read before the others are checked. -/
example : Config.ofLookup (fun _ => some "") =
    .error (.config "expected true or false, got \"\"" (some "JUGGLER_HONOR_KEEP_ON_UNINSTALL")) := by
  decide

/-! ## A sample: a depot with a manager of its own -/

namespace Sample

def depot (key : String) : Option String :=
  if key = "JUGGLER_MANAGED_BY" then some "depot-operator"
  else if key = "JUGGLER_COMPONENT_LABEL" then some "depot.dev/addon"
  else if key = "JUGGLER_HONOR_KEEP_ON_UNINSTALL" then some " false\n"
  else none

def depotConfig : Config where
  managedBy := "depot-operator"
  componentLabel := "depot.dev/addon"
  honorKeep := false

def addon : Component Store := { name := "Ingress", kind := "Addon", enabled := true }

theorem ofLookup_settles_depot : Config.ofLookup depot = .ok depotConfig ∧ depotConfig.Usable ∧
    Ownership.ReadBack depotConfig addon ((FluxReconciler.managed Store.client depotConfig).labels addon) := by
  obtain ⟨accepted, -, -, marks⟩ := Config.ofLookup_settles (σ := Store) depot
  have made : Config.ofLookup depot = .ok depotConfig := by decide
  have usable : depotConfig.Usable := ((accepted depotConfig).mp made).2
  exact ⟨made, usable, (marks depotConfig usable addon Store.client).1⟩

end Sample

end Converge
