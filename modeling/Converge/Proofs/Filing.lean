import Converge.Proofs.StoreEffects

/-!
# Objects under their own keys

* `Store.Filed` : every object is filed under its own key; `Filed.created`, `Filed.updated`, `Filed.deleted`: writes keep it so.
* `Store.Built` : a store that seeding and the operations on it make of an empty one; `Built.filed`: it is filed.
* `Upserts.filed`: creating or updating an object keeps a store filed.
-/

namespace Converge

set_option autoImplicit false

namespace Store

/-- Every object is filed under its own key. -/
def Filed (s : Store) : Prop := ∀ k o, s.objects.get? k = some o → o.key = .ok k.key

variable {s s' : Store} {r : Resource} {k : ObjectKey} {o o' : Object}

theorem Filed.empty (unserved : List String) : Filed { unserved } := fun _ _ ho => nomatch ho

theorem Filed.insert (h : s.Filed) (ho : o.key = .ok k) :
    ∀ k' o', (s.objects.insert (r.storeKey k) o).get? k' = some o' → o'.key = .ok k'.key := by
  intro k' o' ho'
  by_cases hk : k' = r.storeKey k
  · rw [hk, SortedMap.get?_insert_self] at ho'
    obtain rfl := Option.some.inj ho'
    rw [hk, ho]
    rfl
  · rw [SortedMap.get?_insert_of_ne _ hk] at ho'
    exact h k' o' ho'

theorem Filed.created (h : s.Filed) (ho : o.key = .ok k) : (s.created (r.storeKey k) o).Filed := h.insert ho

theorem Filed.updated (h : s.Filed) (ho : o.key = .ok k) : (s.updated (r.storeKey k) o).Filed := h.insert ho

theorem Filed.deleted (h : s.Filed) (k : StoreKey) : (s.deleted k).Filed := by
  intro k' o' ho'
  by_cases hk : k' = k
  · rw [hk, get?_deleted] at ho'
    cases ho'
  · rw [(s.frame_deleted k).entry k' hk] at ho'
    exact h k' o' ho'

/-! ## Stores that are built -/

/-- What seeding and the operations make of an empty store. -/
inductive Built : Store → Prop
  | empty (unserved : List String) : Built { unserved }
  | seeded {s s' : Store} {r : Resource} {o : Object} (h : Built s) (run : seed r o s = .ok s') : Built s'
  | created {s s' : Store} {r : Resource} {o o' : Object} (h : Built s) (run : create r o s = .ok (o', s')) : Built s'
  | updated {s s' : Store} {r : Resource} {o o' : Object} (h : Built s) (run : update r o s = .ok (o', s')) : Built s'
  | deleted {s s' : Store} {r : Resource} {k : ObjectKey} (h : Built s) (run : delete r k s = .ok ((), s')) : Built s'

/-- **Every store that is built is filed.** -/
theorem Built.filed (h : s.Built) : s.Filed := by
  induction h with
  | empty unserved => exact .empty unserved
  | seeded _ run ih =>
    obtain ⟨k, hk, rfl⟩ := seed_eq_ok.mp run
    exact ih.insert hk
  | created _ run ih =>
    obtain ⟨-, -, k, hk, -, rfl⟩ := create_eq_ok.mp run
    exact ih.created hk
  | updated _ run ih =>
    obtain ⟨-, -, k, hk, -, rfl⟩ := update_eq_ok.mp run
    exact ih.updated hk
  | deleted _ run ih =>
    obtain ⟨-, -, rfl⟩ := delete_eq_ok.mp run
    exact ih.deleted _

end Store

/-- Creating or updating an object keeps a store filed. -/
theorem Upserts.filed {r : Resource} {key : ObjectKey} {shell : Object} {change : Object → Except Error Object}
    {s s' : Store} {x : Except Error Upserted} (h : Upserts r key shell change s x s') (hs : s.Filed) : s'.Filed := by
  cases h with
  | failed => exact hs
  | created _ _ _ named => exact hs.created named
  | updated _ _ _ named => exact hs.updated ((Object.key_withStatus ..).trans named)
  | unchanged => exact hs

end Converge
