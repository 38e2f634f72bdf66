import Converge.Proofs.Detection

/-!
# The search for orphans

Reconcilers are asked one after the other, and each of them searches its kinds one after the other.

* `run_detect_append`: the search kind by kind, of which any part can be looked at by itself.
* `Engine.answers` : what every detector answers, in the order of the reconcilers; `answers_append`. `found` and `failures` take the
  answers apart.
* `run_registerOrphans_eq`, `Collects` : registering orphans registers all that is found, whatever fails.
* `Engine.Asks` : in which state one detector among them is asked; `Asks.collects`.
-/

namespace Converge

set_option autoImplicit false

/-! ## Kind by kind -/

namespace ObjectReconciler

section
variable {σ : Type} {client : Client σ} {configured found : List (Component σ)} {kind : ComponentKind} {d : Detector σ}
  {before : List (ComponentKind × Option (Detector σ))} {s s' : σ} {x : Error}

theorem run_detect_of_ok {existing : List Object} {candidates : List (Component σ)}
    (lists : (client.list d.resource d.options).run s = (.ok existing, s')) (converts : d.convert existing = .ok candidates)
    (others : List (ComponentKind × Option (Detector σ))) :
    (detect client configured ((kind, some d) :: others)).run s =
      (((detect client configured others).run s').1.map (d.leftOver kind configured candidates ++ ·),
        ((detect client configured others).run s').2) := by
  rw [run_detect_listed lists, converts, run_bind_ok (Act.run_ofExcept _ s')]
  exact run_bind_pure _ _ s'

theorem run_detect_of_unfit {existing : List Object} (lists : (client.list d.resource d.options).run s = (.ok existing, s'))
    (unfit : d.convert existing = .error x) (others : List (ComponentKind × Option (Detector σ))) :
    (detect client configured ((kind, some d) :: others)).run s = (.error x, s') := by
  rw [run_detect_listed lists, unfit]
  exact run_bind_error (Act.run_ofExcept _ s') _

/-- The search goes on from where the kinds before left the state. -/
theorem run_detect_append (h : (detect client configured before).run s = (.ok found, s'))
    (others : List (ComponentKind × Option (Detector σ))) :
    (detect client configured (before ++ others)).run s =
      (((detect client configured others).run s').1.map (found ++ ·), ((detect client configured others).run s').2) := by
  induction before generalizing s found with
  | nil =>
    obtain ⟨hfound, rfl⟩ := Prod.mk.inj h
    obtain rfl : [] = found := Except.ok.inj hfound
    show (detect client configured others).run s = _
    rcases (detect client configured others).run s with ⟨x | os, s₁⟩ <;> rfl
  | cons entry before ih =>
    obtain ⟨kind, _ | d⟩ := entry
    · exact ih h
    · rw [List.cons_append]
      -- As the kinds before were searched to their end, the first one was passed over, or its objects were taken for components.
      rcases hlist : (client.list d.resource d.options).run s with ⟨x | existing, s₁⟩
      · rw [run_detect_unlisted hlist] at h ⊢
        split
        · rename_i unserved
          rw [if_pos unserved] at h
          exact ih h
        · rename_i other
          rw [if_neg other] at h
          exact nomatch h
      · rcases hconvert : d.convert existing with x | candidates
        · rw [run_detect_of_unfit hlist hconvert] at h
          exact nomatch h
        · rw [run_detect_of_ok hlist hconvert] at h ⊢
          rcases hbefore : (detect client configured before).run s₁ with ⟨x | more, s₂⟩
          · rw [hbefore] at h
            exact nomatch h
          · rw [hbefore] at h
            obtain ⟨hfound, rfl⟩ := Prod.mk.inj h
            obtain rfl : d.leftOver kind configured candidates ++ more = found := Except.ok.inj hfound
            rw [ih hbefore]
            rcases (detect client configured others).run s₂ with ⟨x | os, s₃⟩
            · rfl
            · exact Prod.ext (congrArg Except.ok (List.append_assoc _ _ _).symm) rfl

end

end ObjectReconciler

/-! ## Reconciler by reconciler -/

namespace Engine
variable {σ : Type}

/-- What every detector answers, in the order of the reconcilers. -/
def answers (configured : List (Component σ)) (rs : List (Reconciler σ)) : StateM σ (List (Except Error (List (Component σ)))) :=
  (rs.filterMap (·.orphans)).mapM fun find => (find configured).run

/-- What the detectors found that did not fail. -/
def found (as : List (Except Error (List (Component σ)))) : List (Component σ) := as.flatMap fun a => a.toOption.getD []

/-- Why the others failed. -/
def failures (as : List (Except Error (List (Component σ)))) : List Error :=
  as.filterMap fun
    | .ok _ => none
    | .error x => some x

theorem failures_eq_nil {as : List (Except Error (List (Component σ)))} : failures as = [] ↔ ∀ a ∈ as, ∃ cs, a = .ok cs := by
  unfold failures
  rw [List.filterMap_eq_nil_iff]
  refine forall₂_congr fun a _ => ?_
  cases a with
  | ok cs => exact ⟨fun _ => ⟨cs, rfl⟩, fun _ => rfl⟩
  | error x => exact ⟨nofun, nofun⟩

section
variable {r : Reconciler σ} (rs : List (Reconciler σ)) (configured : List (Component σ)) (s : σ)

theorem answers_cons_none (hr : r.orphans = none) : answers configured (r :: rs) = answers configured rs := by
  unfold answers
  rw [List.filterMap_cons, hr]

theorem run_answers_cons {find : List (Component σ) → Act σ (List (Component σ))} (hr : r.orphans = some find) :
    (answers configured (r :: rs)).run s =
      (((find configured).run.run s).1 :: ((answers configured rs).run ((find configured).run.run s).2).1,
        ((answers configured rs).run ((find configured).run.run s).2).2) := by
  unfold answers
  rw [List.filterMap_cons, hr]
  dsimp only
  rw [List.mapM_cons]
  rfl

/-- The search for orphans asks one detector after the other. -/
theorem run_detect_eq : (detect configured rs).run s =
    ((found ((answers configured rs).run s).1, failures ((answers configured rs).run s).1), ((answers configured rs).run s).2) := by
  induction rs generalizing s with
  | nil => rfl
  | cons r rs ih =>
    unfold detect
    cases hr : r.orphans with
    | none =>
      rw [answers_cons_none rs configured hr]
      exact ih s
    | some find =>
      rw [run_answers_cons rs configured s hr]
      have rest := ih ((find configured).run.run s).2
      change StateT.run (match ((find configured).run.run s).1 with
        | .ok cs => pure (cs ++ ((detect configured rs).run ((find configured).run.run s).2).1.1,
          ((detect configured rs).run ((find configured).run.run s).2).1.2)
        | .error x => pure (((detect configured rs).run ((find configured).run.run s).2).1.1,
          x :: ((detect configured rs).run ((find configured).run.run s).2).1.2) : StateM σ _)
        ((detect configured rs).run ((find configured).run.run s).2).2 = _
      rw [rest]
      cases ((find configured).run.run s).1 <;> rfl

end

/-- Registering orphans registers all that is found, and the answer is their number unless a detector failed. -/
theorem run_registerOrphans_eq (e : Engine σ) (s : σ) : e.registerOrphans.run s =
    ((e.register (found ((answers e.components e.reconcilers).run s).1),
      if failures ((answers e.components e.reconcilers).run s).1 = [] then
        .ok (found ((answers e.components e.reconcilers).run s).1).length
      else .error (.internal ("; ".intercalate ((failures ((answers e.components e.reconcilers).run s).1).map Error.message))
        "orphans")), ((answers e.components e.reconcilers).run s).2) := by
  unfold registerOrphans
  rw [StateT.run_bind, run_detect_eq]
  change ((_, if (failures _).isEmpty = true then _ else _), _) = _
  simp only [List.isEmpty_iff]

/-- What registering orphans makes of an engine, and what it answers, by the answers of the detectors. -/
structure Collects (e e' : Engine σ) (answer : Except Error Nat) (as : List (Except Error (List (Component σ)))) : Prop where
  registered : e' = { e with components := e.components ++ found as }
  succeeds : (∃ n, answer = .ok n) ↔ ∀ a ∈ as, ∃ cs, a = .ok cs
  counts : ∀ n, answer = .ok n → n = (found as).length
  explains : ∀ x, answer = .error x → x = .internal ("; ".intercalate ((failures as).map Error.message)) "orphans"

theorem collects_registerOrphans (e : Engine σ) (s : σ) : Collects e (e.registerOrphans.run s).1.1 (e.registerOrphans.run s).1.2
    ((answers e.components e.reconcilers).run s).1 := by
  rw [run_registerOrphans_eq]
  by_cases none : failures ((answers e.components e.reconcilers).run s).1 = []
  · rw [if_pos none]
    exact ⟨rfl, ⟨fun _ => failures_eq_nil.mp none, fun _ => ⟨_, rfl⟩⟩, fun _ hn => (Except.ok.inj hn).symm, nofun⟩
  · rw [if_neg none]
    exact ⟨rfl, ⟨nofun, fun all => absurd (failures_eq_nil.mpr all) none⟩, nofun, fun _ hx => (Except.error.inj hx).symm⟩

/-! ## One detector among others -/

section
variable {client : Client σ} {e : Engine σ} {kind : ComponentKind} {d : Detector σ} {r : ObjectReconciler σ}
  {before after : List (Reconciler σ)} {pre others : List (ComponentKind × Option (Detector σ))} {found : List (Component σ)}
  {s w : σ}

theorem answers_append (configured : List (Component σ)) (before after : List (Reconciler σ)) (s : σ) :
    (answers configured (before ++ after)).run s =
      (((answers configured before).run s).1 ++ ((answers configured after).run ((answers configured before).run s).2).1,
        ((answers configured after).run ((answers configured before).run s).2).2) := by
  unfold answers
  rw [List.filterMap_append, List.mapM_append]
  rfl

/-- Registering orphans in the state `s` asks the detector of a kind in the state `w`: the reconcilers before have answered, and
`found` is what the kinds before have. -/
structure Asks (e : Engine σ) (client : Client σ) (s : σ) (before : List (Reconciler σ)) (r : ObjectReconciler σ)
    (after : List (Reconciler σ)) (pre : List (ComponentKind × Option (Detector σ))) (kind : ComponentKind) (d : Detector σ)
    (others : List (ComponentKind × Option (Detector σ))) (found : List (Component σ)) (w : σ) : Prop where
  on : r.client = client
  registered : e.reconcilers = before ++ r.toReconciler :: after
  claimed : r.kinds.entries = pre ++ (kind, some d) :: others
  reached : (ObjectReconciler.detect client e.components pre).run ((answers e.components before).run s).2 = (.ok found, w)

/-- Registering orphans collects what the others answer and, between them, what the detector and the kinds after it do. -/
theorem Asks.collects (h : e.Asks client s before r after pre kind d others found w) {answer : Except Error (List (Component σ))}
    {s' : σ} (answers_d : (ObjectReconciler.detect client e.components ((kind, some d) :: others)).run w = (answer, s')) :
    Collects e (e.registerOrphans.run s).1.1 (e.registerOrphans.run s).1.2
      (((answers e.components before).run s).1 ++ answer.map (found ++ ·) :: ((answers e.components after).run s').1) := by
  have searches : r.toReconciler.orphans = some fun configured => ObjectReconciler.detect r.client configured r.kinds.entries :=
    if_pos (List.any_eq_true.mpr ⟨(kind, some d), by simp [h.claimed], rfl⟩)
  have goes : (ObjectReconciler.detect client e.components (pre ++ (kind, some d) :: others)).run.run
      ((answers e.components before).run s).2 = (answer.map (found ++ ·), s') := by
    have joins := ObjectReconciler.run_detect_append h.reached ((kind, some d) :: others)
    rw [answers_d] at joins
    exact joins
  have all := collects_registerOrphans e s
  rw [h.registered, answers_append, run_answers_cons _ _ _ searches, h.claimed, h.on, goes] at all
  exact all

end

end Engine

end Converge
