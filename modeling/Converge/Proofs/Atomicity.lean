import Converge.Proofs.StoreEffects

/-!
# Creating or updating is all or nothing

* `Course.eq_of_error`, `lacks`, `meets_other`, `meets_same`: what each answer of creating or updating means; `Course.frame`: no
  entry but the shell's is touched.
* `createOrUpdate_atomic`: what each answer says of the store before and after, whatever the store, the type, the shell and
  the change are.
-/

namespace Converge

set_option autoImplicit false

/-- How many objects were created, updated and deleted. -/
def Store.counts (s : Store) : Nat × Nat × Nat := (s.creates, s.updates, s.deletes)

section
variable {r : Resource} {shell : Object} {change : Object → Except Error Object} {s : Store} {key : ObjectKey}

/-- An object that prints as another one did is another one. -/
theorem Store.Meets.ne {old new : Object} {before after : Json} (h : s.Meets r shell change key old new before after)
    (other : (after == before) = false) : new ≠ old := by
  rintro rfl
  obtain rfl : before = after := Except.ok.inj (h.printed.symm.trans h.reprinted)
  rw [beq_self_eq_true] at other
  cases other

section
variable {x : Except Error Upserted} {t : Store}

theorem Course.eq_of_error {e : Error} (h : Course r shell change s (.error e) t) : t = s := by
  cases h
  rfl

theorem Course.lacks (h : Course r shell change s (.ok .created) t) : ∃ key made, s.Lacks r shell change key made := by
  cases h with
  | created lacks => exact ⟨_, _, lacks⟩

theorem Course.meets_other (h : Course r shell change s (.ok .updated) t) :
    ∃ key old new before after, s.Meets r shell change key old new before after ∧ (after == before) = false := by
  cases h with
  | updated meets other => exact ⟨_, _, _, _, _, meets, other⟩

theorem Course.meets_same (h : Course r shell change s (.ok .unchanged) t) : t = s ∧
    ∃ key old new before after, s.Meets r shell change key old new before after ∧ (after == before) = true := by
  cases h with
  | unchanged meets same => exact ⟨rfl, _, _, _, _, _, meets, same⟩

/-- No entry but the shell's is added, changed or removed, and none at all if the shell has no name. -/
theorem Course.frame (h : Course r shell change s x t) :
    s.Frame t fun k => ∃ key, shell.key = .ok key ∧ k = r.storeKey key := by
  cases h with
  | failed => exact .refl s _
  | created lacks => exact (s.frame_created _ _).mono fun k hk => ⟨_, lacks.named, hk⟩
  | updated meets => exact (s.frame_updated _ _).mono fun k hk => ⟨_, meets.named, hk⟩
  | unchanged => exact .refl s _

end

end

/-- What the answer `x` of creating or updating says of the store `s` before and the store `t` after. -/
structure AllOrNothing (r : Resource) (shell : Object) (change : Object → Except Error Object) (s : Store)
    (x : Except Error Upserted) (t : Store) : Prop where
  failed : ∀ e, x = .error e → t = s
  created : x = .ok .created ↔ ∃ key made, s.Lacks r shell change key made
  creates : ∀ key made, s.Lacks r shell change key made →
    t.stored r key = some made ∧ t.counts = (s.creates + 1, s.updates, s.deletes)
  updated : x = .ok .updated ↔
    ∃ key old new before after, s.Meets r shell change key old new before after ∧ (after == before) = false
  updates : ∀ key old new before after, s.Meets r shell change key old new before after → (after == before) = false →
    t.stored r key = some new ∧ new ≠ old ∧ t.counts = (s.creates, s.updates + 1, s.deletes)
  unchanged : x = .ok .unchanged ↔
    ∃ key old new before after, s.Meets r shell change key old new before after ∧ (after == before) = true
  keeps : x = .ok .unchanged → t = s
  frame : s.Frame t fun k => ∃ key, shell.key = .ok key ∧ k = r.storeKey key

/-- **Creating or updating is atomic and touches one object.** -/
theorem createOrUpdate_atomic (r : Resource) (shell : Object) (change : Object → Except Error Object) (s : Store) :
    AllOrNothing r shell change s ((Store.client.createOrUpdate r shell change).run s).1
      ((Store.client.createOrUpdate r shell change).run s).2 := by
  -- From an answer to its cause by the course that was taken, from a cause to the answer by the run that it leads to.
  have course := createOrUpdate_course r shell change s
  refine ⟨?failed, ⟨?created, ?lacks⟩, ?creates, ⟨?updated, ?other⟩, ?updates, ⟨?unchanged, ?same⟩, ?keeps, course.frame⟩
  case failed =>
    intro e hx
    rw [hx] at course
    exact course.eq_of_error
  case created =>
    intro hx
    rw [hx] at course
    exact course.lacks
  case lacks =>
    rintro ⟨key, made, lacks⟩
    rw [lacks.run]
  case creates =>
    intro key made lacks
    rw [lacks.run]
    exact ⟨s.get?_created _ made, rfl⟩
  case updated =>
    intro hx
    rw [hx] at course
    exact course.meets_other
  case other =>
    rintro ⟨key, old, new, before, after, meets, other⟩
    rw [meets.run_other other]
  case updates =>
    intro key old new before after meets other
    rw [meets.run_other other]
    exact ⟨s.get?_updated _ new, meets.ne other, rfl⟩
  case unchanged =>
    intro hx
    rw [hx] at course
    exact course.meets_same.2
  case same =>
    rintro ⟨key, old, new, before, after, meets, same⟩
    rw [meets.run_same same]
  case keeps =>
    intro hx
    rw [hx] at course
    exact course.meets_same.1

end Converge
