import Converge.Proofs.Calls
import Mathlib.Data.List.Chain

/-!
# What a pass may ask, and when

Whatever reconcilers and components answer, and however their answers hang on what was asked before:

* `Told`, `Failed`, `Asked`, `Found` read the calls of a turn.
* `Gated` : which calls a component's turn makes, in which order and under which conditions, and which status goes with
  which calls.
* `reconcile_gated`: every turn of every pass is so.
-/

namespace Converge

set_option autoImplicit false

variable {σ : Type}

/-- A call with the question succeeded with the answer. -/
def Told (calls : List Call) (q : Question) (a : Answer) : Prop := ∃ k ∈ calls, k.question = q ∧ k.answer = .ok a

def Failed (calls : List Call) (q : Question) : Prop := ∃ k ∈ calls, k.question = q ∧ ∃ x, k.answer = .error x

def Asked (calls : List Call) (q : Question) : Prop := ∃ k ∈ calls, k.question = q

/-- The first look found something, or nothing. -/
def Found (calls : List Call) (there : Bool) : Prop :=
  ∃ k, calls.head? = some k ∧ ∃ seen, k.answer = .ok (.seen seen) ∧ seen.present = there

/-- The last look found it healthy, or not. -/
def FoundHealthy (calls : List Call) (healthy : Bool) : Prop :=
  ∃ k, calls.getLast? = some k ∧ ∃ seen, k.answer = .ok (.seen seen) ∧ seen.health.healthy = healthy

section
variable (place : Nat) (name : String) (said : List (Question × Except Error Answer))

theorem told_map (q : Question) (a : Answer) : Told (said.map (Call.of place name)) q a ↔ (q, .ok a) ∈ said := by
  constructor
  · rintro ⟨k, hk, rfl, ha⟩
    obtain ⟨⟨q, x⟩, hm, rfl⟩ := List.mem_map.mp hk
    exact (show x = .ok a from ha) ▸ hm
  · intro h
    exact ⟨_, List.mem_map_of_mem h, rfl, rfl⟩

theorem failed_map (q : Question) : Failed (said.map (Call.of place name)) q ↔ ∃ x, (q, .error x) ∈ said := by
  constructor
  · rintro ⟨k, hk, rfl, y, hy⟩
    obtain ⟨⟨q, x⟩, hm, rfl⟩ := List.mem_map.mp hk
    exact ⟨y, (show x = .error y from hy) ▸ hm⟩
  · rintro ⟨y, h⟩
    exact ⟨_, List.mem_map_of_mem h, rfl, y, rfl⟩

theorem asked_map (q : Question) : Asked (said.map (Call.of place name)) q ↔ ∃ x, (q, x) ∈ said := by
  constructor
  · rintro ⟨k, hk, rfl⟩
    obtain ⟨⟨q, x⟩, hm, rfl⟩ := List.mem_map.mp hk
    exact ⟨x, hm⟩
  · rintro ⟨x, h⟩
    exact ⟨_, List.mem_map_of_mem h, rfl⟩

theorem exists_map_seen (P : Observation → Prop) (one : Option (Question × Except Error Answer)) :
    (∃ k, one.map (Call.of place name) = some k ∧ ∃ seen, k.answer = .ok (.seen seen) ∧ P seen) ↔
      ∃ q seen, one = some (q, .ok (.seen seen)) ∧ P seen := by
  constructor
  · rintro ⟨k, hk, seen, ha, hs⟩
    obtain ⟨⟨q, x⟩, hm, rfl⟩ := Option.map_eq_some_iff.mp hk
    exact ⟨q, seen, (show x = .ok (.seen seen) from ha) ▸ hm, hs⟩
  · rintro ⟨q, seen, rfl, hs⟩
    exact ⟨_, rfl, seen, rfl, hs⟩

theorem found_map (there : Bool) : Found (said.map (Call.of place name)) there ↔
    ∃ q seen, said.head? = some (q, .ok (.seen seen)) ∧ seen.present = there := by
  unfold Found
  rw [List.head?_map]
  exact exists_map_seen place name (·.present = there) said.head?

theorem foundHealthy_map (healthy : Bool) : FoundHealthy (said.map (Call.of place name)) healthy ↔
    ∃ q seen, said.getLast? = some (q, .ok (.seen seen)) ∧ seen.health.healthy = healthy := by
  unfold FoundHealthy
  rw [List.getLast?_map]
  exact exists_map_seen place name (·.health.healthy = healthy) said.getLast?

end

namespace Engine

/-- The component is wanted, it may be installed, and it has what it needs. -/
def Cleared (e : Engine σ) (c : Component σ) (calls : List Call) : Prop :=
  c.enabled = true ∧ Told calls .installable (.verdict true) ∧ DependenciesMet e.components c

/-- The resources of the component stay when it is not wanted. -/
def Keeps (e : Engine σ) (c : Component σ) : Prop := (c.keep && e.config.honorKeep) = true

/-- How the calls of a component's turn hang together, and with the status that the turn ends with. -/
structure Gated (e : Engine σ) (c : Component σ) (status : ComponentStatus) (calls : List Call) : Prop where
  /-- Without exactly one reconciler for the kind nothing is asked. -/
  unclaimed : e.reconcilers.countP (·.claims c.kind) ≠ 1 → calls = []
  /-- With one, it alone is asked, and the component itself whether it may be installed. -/
  addressed : e.reconcilers.countP (·.claims c.kind) = 1 → ∃ (place : Nat) (r : Reconciler σ),
    e.reconcilers[place]? = some r ∧ r.claims c.kind = true ∧
      ∀ k ∈ calls, k.component = c.name ∧ k.reconciler = if k.question = .installable then none else some place
  looksFirst : e.reconcilers.countP (·.claims c.kind) = 1 → ∃ k, calls.head? = some k ∧ k.question = .observe
  actsOnce : (calls.filter (·.question.acts)).length ≤ 1
  /-- What changes something is asked right after its preparation succeeded. -/
  prepared : calls.IsChain fun p k =>
    k.question.acts = true → k.question.preparation = some p.question ∧ p.answer = .ok .done
  installable : Asked calls .installable ↔ c.enabled = true ∧ (Found calls true ∨ Found calls false)
  preInstall : Asked calls .preInstall ↔ e.Cleared c calls ∧ Found calls false
  install : Asked calls .install ↔ Told calls .preInstall .done
  preUpdate : Asked calls .preUpdate ↔ e.Cleared c calls ∧ Found calls true
  update : Asked calls .update ↔ Told calls .preUpdate .done
  preUninstall : Asked calls .preUninstall ↔ ¬ c.enabled = true ∧ Found calls true ∧ ¬ e.Keeps c
  uninstall : Asked calls .uninstall ↔ Told calls .preUninstall .done
  reconcilerNotFound : status = .reconcilerNotFound ↔ e.reconcilers.countP (·.claims c.kind) ≠ 1
  observationFailed : status = .observationFailed ↔ Failed calls .observe
  uninstallFailed : status = .uninstallFailed ↔ Failed calls .preUninstall ∨ Failed calls .uninstall
  uninstalled : status = .uninstalled ↔
    Told calls .uninstall .done ∨ (¬ c.enabled = true ∧ Found calls true ∧ e.Keeps c)
  disabled : status = .disabled ↔ ¬ c.enabled = true ∧ Found calls false
  componentNotAllowed : status = .componentNotAllowed ↔ Told calls .installable (.verdict false)
  dependencyCheckFailed : status = .dependencyCheckFailed ↔
    Told calls .installable (.verdict true) ∧ ¬ DependenciesMet e.components c
  installFailed : status = .installFailed ↔
    Failed calls .installable ∨ Failed calls .preInstall ∨ Failed calls .install
  installed : status = .installed ↔ Told calls .install .done
  updateFailed : status = .updateFailed ↔ Failed calls .preUpdate ∨ Failed calls .update
  unhealthy : status = .unhealthy ↔ Told calls .update .done ∧ FoundHealthy calls false
  healthy : status = .healthy ↔ Told calls .update .done ∧ FoundHealthy calls true

/-! ## Turns that are not routed -/

theorem gated_unclaimed {e : Engine σ} {c : Component σ} (h : e.reconcilers.countP (·.claims c.kind) ≠ 1) :
    Gated e c .reconcilerNotFound [] := by
  constructor <;> simp [Told, Failed, Asked, Found, FoundHealthy, h]

/-! ## Turns that are routed -/

theorem Talk.gated {e : Engine σ} {c : Component σ} {place : Nat} {r : Reconciler σ} {status : ComponentStatus}
    {said : List (Question × Except Error Answer)} (one : e.reconcilers.countP (·.claims c.kind) = 1)
    (at_ : e.reconcilers[place]? = some r) (claims : r.claims c.kind = true)
    (h : Talk (c.enabled = true) (e.Keeps c) (DependenciesMet e.components c) status said) :
    Gated e c status (said.map (Call.of place c.name)) := by
  constructor
  case unclaimed => exact fun hn => absurd one hn
  case addressed =>
    intro _
    refine ⟨place, r, at_, claims, fun k hk => ?_⟩
    obtain ⟨⟨q, x⟩, -, rfl⟩ := List.mem_map.mp hk
    exact ⟨rfl, rfl⟩
  case looksFirst => cases h <;> exact fun _ => ⟨_, rfl, rfl⟩
  case actsOnce => cases h <;> simp [Call.of, Question.acts]
  case prepared => cases h <;> simp [Call.of, Question.acts, Question.preparation]
  case reconcilerNotFound => cases h <;> simp [one]
  all_goals simp only [asked_map, found_map, told_map, failed_map, foundHealthy_map, Cleared]
  case installable => cases h <;> simp_all
  case preInstall => cases h <;> simp_all
  case install => cases h <;> simp
  case preUpdate => cases h <;> simp_all
  case update => cases h <;> simp
  case preUninstall => cases h <;> simp_all
  case uninstall => cases h <;> simp
  case observationFailed => cases h <;> simp
  case uninstallFailed => cases h <;> simp
  case uninstalled => cases h <;> simp_all
  case disabled => cases h <;> simp_all
  case componentNotAllowed => cases h <;> simp
  case dependencyCheckFailed => cases h <;> simp_all
  case installFailed => cases h <;> simp
  case installed => cases h <;> simp
  case updateFailed => cases h <;> simp
  case unhealthy => cases h <;> simp_all
  case healthy => cases h <;> simp_all

/-! ## Every turn of every pass -/

theorem firstOf_map_watched (cs : List (Component (Watched σ))) (kind : ComponentKind) :
    firstOf (cs.map (·.watched)) kind = (firstOf cs kind).map (·.watched) := by
  unfold firstOf
  rw [List.find?_map]
  rfl

theorem dependenciesMet_watched (cs : List (Component (Watched σ))) (c : Component (Watched σ)) :
    DependenciesMet (cs.map (·.watched)) c.watched ↔ DependenciesMet cs c := by
  refine forall₂_congr fun kind _ => ?_
  simp only [← firstOf_eq_some]
  rw [firstOf_map_watched]
  cases firstOf cs kind with
  | none => simp
  | some d => simp [Component.watched]

theorem converge_gated (e : Engine (Watched σ)) (c : Component (Watched σ)) (w : Watched σ) :
    ∃ calls, Gated e c ((e.watched.converge c.watched).run w).1.1 calls ∧
      ((e.watched.converge c.watched).run w).2.calls = w.calls ++ calls := by
  have h := converge_turns e.watched c.watched w
  generalize ((e.watched.converge c.watched).run w).1 = ending at h ⊢
  generalize ((e.watched.converge c.watched).run w).2 = w' at h ⊢
  cases h with
  | unrouted route =>
    have hn := length_of_route_eq_error route
    rw [length_claimants, countP_watched] at hn
    exact ⟨[], gated_unclaimed hn, (List.append_nil _).symm⟩
  | routed route drive =>
    have one := length_of_route route
    rw [length_claimants, countP_watched] at one
    obtain ⟨place, r, hp, hr, rfl⟩ := exists_of_route_watched route
    obtain ⟨said, ht, hc⟩ := drive.talk
    rw [show e.watched.components = e.components.map (·.watched) from rfl, dependenciesMet_watched] at ht
    exact ⟨_, ht.gated one hp hr, hc⟩

theorem calls_announce_watched (e : Engine (Watched σ)) (o : Outcome (Watched σ)) (w : Watched σ) :
    ((e.watched.announce o).run w).2.calls = w.calls := by
  unfold announce
  split <;> rfl

theorem turn_gated (e : Engine (Watched σ)) (c : Component (Watched σ)) (w : Watched σ) :
    ((e.watched.turn c.watched).run w).1.component = c.watched ∧
      ∃ calls, Gated e c ((e.watched.turn c.watched).run w).1.status calls ∧
        ((e.watched.turn c.watched).run w).2.calls = w.calls ++ calls := by
  obtain ⟨calls, hg, hc⟩ := converge_gated e c w
  rw [turn_run]
  exact ⟨rfl, calls, hg, (calls_announce_watched e _ _).trans hc⟩

theorem turns_gated (e : Engine (Watched σ)) (cs : List (Component (Watched σ))) (w : Watched σ) :
    ∃ turns : List (Outcome (Watched σ) × List Call),
      ((e.watched.turns (cs.map (·.watched))).run w).1 = turns.map (·.1) ∧
      ((e.watched.turns (cs.map (·.watched))).run w).2.calls = w.calls ++ turns.flatMap (·.2) ∧
      List.Forall₂ (fun c t => t.1.component = c.watched ∧ Gated e c t.1.status t.2) cs turns := by
  induction cs generalizing w with
  | nil => exact ⟨[], rfl, (List.append_nil _).symm, .nil⟩
  | cons c cs ih =>
    obtain ⟨hcomp, calls, hg, hc⟩ := turn_gated e c w
    obtain ⟨turns, ho, hcs, hall⟩ := ih ((e.watched.turn c.watched).run w).2
    rw [List.map_cons, turns_cons_run]
    refine ⟨(((e.watched.turn c.watched).run w).1, calls) :: turns, ?_, ?_, .cons ⟨hcomp, hg⟩ hall⟩
    · rw [ho]; rfl
    · rw [hcs, hc, List.flatMap_cons, List.append_assoc]

/-- **Every pass asks only what it may.** The outcomes and the calls of a pass come in turns, one for each registered
component in order, and the calls of each turn are gated. -/
theorem reconcile_gated (e : Engine (Watched σ)) (w : Watched σ) :
    ∃ turns : List (Outcome (Watched σ) × List Call),
      (e.watched.reconcile.run w).1 = turns.map (·.1) ∧
      (e.watched.reconcile.run w).2.calls = w.calls ++ turns.flatMap (·.2) ∧
      List.Forall₂ (fun c t => t.1.component = c.watched ∧ Gated e c t.1.status t.2) e.components turns :=
  turns_gated e e.components w

end Engine

end Converge
