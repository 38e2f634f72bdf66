import Converge.Cluster.Client

/-!
# Runs of operations

What an operation on a state ends with, step by step.

* `bind_eq_ok`: how two steps without a state succeed; `map_eq_ok`: how one whose answer is changed does.
* `run_bind_ok`, `run_bind_error`: the second operation starts from where the first one ended, or not at all; `run_bind_pure`: it
  changes the answer only.
* `Act.run_ofExcept`, `Act.run_attempt`, `Act.run_ofStep_ok`: the ways of making an operation; `Act.run_attempt_bind`: what follows
  an attempt; `Act.run_ofStep_map_eq_ok`: how a step succeeds.
* `Act.Quiet a` : the operation leaves the state alone, whatever it answers; `Act.Quiet.bind`: so do such operations in a row.
-/

namespace Converge

set_option autoImplicit false

variable {σ ε ε' α β : Type}

theorem bind_eq_ok {x : Except ε α} {f : α → Except ε β} {b : β} : x >>= f = .ok b ↔ ∃ a, x = .ok a ∧ f a = .ok b := by
  cases x with
  | ok a => exact ⟨fun h => ⟨a, rfl, h⟩, fun ⟨_, h, h'⟩ => Except.ok.inj h ▸ h'⟩
  | error e => exact ⟨nofun, nofun⟩

theorem map_eq_ok {x : Except ε α} {f : α → β} {b : β} : x.map f = .ok b ↔ ∃ a, x = .ok a ∧ f a = b := by
  cases x with
  | ok a => exact ⟨fun h => ⟨a, rfl, Except.ok.inj h⟩, fun ⟨_, h, h'⟩ => Except.ok.inj h ▸ congrArg Except.ok h'⟩
  | error e => exact ⟨nofun, nofun⟩

theorem run_bind_ok {a : ExceptT ε (StateM σ) α} {s s' : σ} {x : α} (h : a.run s = (.ok x, s'))
    (f : α → ExceptT ε (StateM σ) β) : (a >>= f).run s = (f x).run s' := by
  change (ExceptT.bindCont f (a.run s).1) (a.run s).2 = _
  rw [h]
  rfl

theorem run_bind_error {a : ExceptT ε (StateM σ) α} {s s' : σ} {x : ε} (h : a.run s = (.error x, s'))
    (f : α → ExceptT ε (StateM σ) β) : (a >>= f).run s = (.error x, s') := by
  change (ExceptT.bindCont f (a.run s).1) (a.run s).2 = _
  rw [h]
  rfl

theorem run_bind_pure (a : ExceptT ε (StateM σ) α) (f : α → β) (s : σ) :
    (a >>= fun x => pure (f x)).run s = ((a.run s).1.map f, (a.run s).2) := by
  rcases h : a.run s with ⟨e | x, s'⟩
  · exact run_bind_error h _
  · exact run_bind_ok h _

/-- A run has one end. -/
theorem run_eq_iff {a : ExceptT ε (StateM σ) α} {s s' : σ} {x : Except ε α} (h : a.run s = (x, s')) {y : Except ε α} {t : σ} :
    a.run s = (y, t) ↔ x = y ∧ s' = t :=
  ⟨fun h' => Prod.mk.inj (h.symm.trans h'), fun ⟨hx, hs⟩ => hx ▸ hs ▸ h⟩

theorem run_adapt_ok {a : ExceptT ε (StateM σ) α} {s s' : σ} {x : α} (h : a.run s = (.ok x, s')) (f : ε → ε') :
    (ExceptT.adapt f a).run s = (.ok x, s') := by
  change ((a.run s).1.mapError f, (a.run s).2) = _
  rw [h]
  rfl

theorem run_adapt_error {a : ExceptT ε (StateM σ) α} {s s' : σ} {x : ε} (h : a.run s = (.error x, s')) (f : ε → ε') :
    (ExceptT.adapt f a).run s = (.error (f x), s') := by
  change ((a.run s).1.mapError f, (a.run s).2) = _
  rw [h]
  rfl

namespace Act

theorem run_ofExcept (x : Except Error α) (s : σ) : (ofExcept x : Act σ α).run s = (x, s) := rfl

theorem run_attempt (a : Act σ α) (s : σ) : a.attempt.run s = (.ok (a.run s).1, (a.run s).2) := rfl

/-- What follows an attempt starts from what it ended with. -/
theorem run_attempt_bind {a : Act σ α} {s s' : σ} {x : Except Error α} (h : a.run s = (x, s')) (f : Except Error α → Act σ β) :
    (a.attempt >>= f).run s = (f x).run s' := by
  rw [run_bind_ok (run_attempt a s), h]

theorem run_ofStep_ok {f : σ → Except Error (α × σ)} {s s' : σ} {x : α} (h : f s = .ok (x, s')) :
    (ofStep f).run s = (.ok x, s') := by
  unfold ofStep
  rw [ExceptT.run_mk, h]

theorem run_ofStep_error {f : σ → Except Error (α × σ)} {s : σ} {e : Error} (h : f s = .error e) :
    (ofStep f).run s = (.error e, s) := by
  unfold ofStep
  rw [ExceptT.run_mk, h]

/-- How a step succeeds whose answer is changed. -/
theorem run_ofStep_map_eq_ok {f : σ → Except Error (α × σ)} {g : α → β} {s s' : σ} {b : β} :
    (do return g (← ofStep f) : Act σ β).run s = (.ok b, s') ↔ ∃ a, f s = .ok (a, s') ∧ g a = b := by
  rcases hf : f s with e | ⟨a, t⟩
  · rw [run_bind_error (run_ofStep_error hf)]
    exact ⟨nofun, fun ⟨_, ha, _⟩ => nomatch ha⟩
  · rw [run_bind_ok (run_ofStep_ok hf)]
    constructor
    · intro h
      cases h
      exact ⟨a, rfl, rfl⟩
    · rintro ⟨_, ha, rfl⟩
      cases ha
      rfl

/-- A step that fails leaves the state alone. -/
theorem eq_of_run_ofStep_map_error {f : σ → Except Error (α × σ)} {g : α → β} {s s' : σ} {e : Error}
    (h : (do return g (← ofStep f) : Act σ β).run s = (.error e, s')) : s' = s := by
  rcases hf : f s with e | ⟨a, t⟩
  · rw [run_bind_error (run_ofStep_error hf)] at h
    cases h
    rfl
  · rw [run_bind_ok (run_ofStep_ok hf)] at h
    cases h

/-- The operation leaves the state alone, whatever it answers. -/
def Quiet (a : Act σ α) : Prop := ∀ s, (a.run s).2 = s

theorem Quiet.eq_of_run {a : Act σ α} (h : a.Quiet) {s s' : σ} {x : Except Error α} (hr : a.run s = (x, s')) : s' = s := by
  rw [← h s, hr]

theorem Quiet.done (v : α) : (pure v : Act σ α).Quiet := fun _ => rfl

theorem Quiet.ofExcept (x : Except Error α) : (ofExcept x : Act σ α).Quiet := fun _ => rfl

theorem Quiet.attempt {a : Act σ α} (h : a.Quiet) : a.attempt.Quiet := h

theorem Quiet.bind {a : Act σ α} {f : α → Act σ β} (ha : a.Quiet) (hf : ∀ v, (f v).Quiet) : (a >>= f).Quiet := by
  intro s
  have hs := ha s
  rcases hrun : a.run s with ⟨e | v, s'⟩
  · rw [hrun] at hs
    rw [run_bind_error hrun]
    exact hs
  · rw [hrun] at hs
    obtain rfl : s' = s := hs
    rw [run_bind_ok hrun]
    exact hf v s'

end Act

end Converge
