import Converge.Cluster.Store
import Converge.Cluster.Upsert
import Converge.Proofs.PrintedObjects
import Converge.Proofs.Runs

/-!
# What access to a store does

* `Store.Frame s t W` : every entry outside the set `W` of keys is unchanged from `s` to `t`, and the same kinds are served;
  `Frame.trans`, `Frame.mono`, `Frame.has`.
* `Store.seed_eq_ok`, `get_eq_ok`, `create_eq_ok`, `update_eq_ok`, `delete_eq_ok`, `list_eq_ok`: how the operations succeed, and with
  what; `Store.run_unserved`: what those of the client all say of a type that is not served.
* `Metadata.Bears`, `Metadata.Strange` : whether a changed object is that of a key, or why it is refused.
* `Store.Lacks`, `Store.Meets` : the object of a shell is missing, or there, and the change makes one of the same key.
* `Course` : the ways that creating or updating can go; `createOrUpdate_course`: there is no other. `Upserts` : what it can do to
  the store under a key; `createOrUpdate_upserts`: it does nothing else.
-/

namespace Converge

set_option autoImplicit false

/-- The object with the names of a type. -/
def Object.typed (o : Object) (r : Resource) : Object := { o with types := some ⟨r.apiVersion, r.kind⟩ }

namespace Store

/-! ## Frames -/

/-- Every entry outside `W` is unchanged from `s` to `t`, and the same kinds are served. -/
structure Frame (s t : Store) (W : StoreKey → Prop) : Prop where
  entry : ∀ k, ¬ W k → t.objects.get? k = s.objects.get? k
  unserved : t.unserved = s.unserved

theorem Frame.refl (s : Store) (W : StoreKey → Prop) : Frame s s W := ⟨fun _ _ => rfl, rfl⟩

theorem Frame.trans {s t u : Store} {W : StoreKey → Prop} (h₁ : Frame s t W) (h₂ : Frame t u W) : Frame s u W :=
  ⟨fun k hk => (h₂.entry k hk).trans (h₁.entry k hk), h₂.unserved.trans h₁.unserved⟩

theorem Frame.mono {s t : Store} {W W' : StoreKey → Prop} (h : Frame s t W) (hW : ∀ k, W k → W' k) : Frame s t W' :=
  ⟨fun k hk => h.entry k (fun hw => hk (hW k hw)), h.unserved⟩

/-- Whether there is an object under a key. -/
def Has (s : Store) (k : StoreKey) : Prop := (s.objects.get? k).isSome = true

instance (s : Store) (k : StoreKey) : Decidable (s.Has k) :=
  inferInstanceAs (Decidable ((s.objects.get? k).isSome = true))

theorem Frame.has {s t : Store} {W : StoreKey → Prop} (h : Frame s t W) {k : StoreKey} (hk : ¬ W k) :
    t.Has k ↔ s.Has k := by
  unfold Has
  rw [h.entry k hk]

theorem has_iff {s : Store} {k : StoreKey} : s.Has k ↔ ∃ o, s.objects.get? k = some o := Option.isSome_iff_exists

/-! ## Writes -/

/-- The store after an object was put under a key, uncounted. -/
def seeded (s : Store) (k : StoreKey) (o : Object) : Store := { s with objects := s.objects.insert k o }

/-- The store after an object was created under a key. -/
def created (s : Store) (k : StoreKey) (o : Object) : Store :=
  { s with objects := s.objects.insert k o, creates := s.creates + 1 }

/-- The store after the object under a key was updated. -/
def updated (s : Store) (k : StoreKey) (o : Object) : Store :=
  { s with objects := s.objects.insert k o, updates := s.updates + 1 }

/-- The store after the object under a key was deleted. -/
def deleted (s : Store) (k : StoreKey) : Store :=
  { s with objects := s.objects.erase k, deletes := s.deletes + 1 }

section
variable (s : Store) (k : StoreKey) (o : Object)

@[simp] theorem get?_seeded : (s.seeded k o).objects.get? k = some o := SortedMap.get?_insert_self ..
@[simp] theorem get?_created : (s.created k o).objects.get? k = some o := SortedMap.get?_insert_self ..
@[simp] theorem get?_updated : (s.updated k o).objects.get? k = some o := SortedMap.get?_insert_self ..
@[simp] theorem get?_deleted : (s.deleted k).objects.get? k = none := SortedMap.get?_erase_self ..

theorem frame_seeded : Frame s (s.seeded k o) (· = k) := ⟨fun _ h => SortedMap.get?_insert_of_ne _ h _, rfl⟩
theorem frame_created : Frame s (s.created k o) (· = k) := ⟨fun _ h => SortedMap.get?_insert_of_ne _ h _, rfl⟩
theorem frame_updated : Frame s (s.updated k o) (· = k) := ⟨fun _ h => SortedMap.get?_insert_of_ne _ h _, rfl⟩
theorem frame_deleted : Frame s (s.deleted k) (· = k) := ⟨fun _ h => SortedMap.get?_erase_of_ne _ h, rfl⟩

theorem has_created : (s.created k o).Has k := by simp [Has]
theorem has_updated : (s.updated k o).Has k := by simp [Has]
theorem not_has_deleted : ¬ (s.deleted k).Has k := by simp [Has]

end

/-! ## The operations -/

/-- Whether a type is served. -/
def Serves (s : Store) (r : Resource) : Prop := r.kind ∉ s.unserved

instance (s : Store) (r : Resource) : Decidable (s.Serves r) := inferInstanceAs (Decidable (r.kind ∉ s.unserved))

variable {s : Store} {r : Resource} {k : ObjectKey}

theorem serves_of_nil (h : s.unserved = []) (r : Resource) : s.Serves r := by
  unfold Serves
  rw [h]
  exact List.not_mem_nil

theorem ensureServed_ok (h : s.Serves r) : s.ensureServed r = .ok () := by
  unfold ensureServed
  rw [if_neg (by simpa [Serves] using h)]

theorem ensureServed_error (h : ¬ s.Serves r) : s.ensureServed r = .error (.kindNotFound r.apiVersion r.kind) := by
  unfold ensureServed
  rw [if_pos (by simpa [Serves] using h)]

/-- An operation that looks first whether the type is served. -/
theorem run_unserved {α : Type} {f : Store → Except Error (α × Store)} {rest : Unit → Except Error (α × Store)}
    (h : ¬ s.Serves r) (hf : f s = s.ensureServed r >>= rest) :
    (Act.ofStep f).run s = (.error (.kindNotFound r.apiVersion r.kind), s) := by
  refine Act.run_ofStep_error ?_
  rw [hf, ensureServed_error h]
  rfl

/-- A step that looks first whether the type is served succeeds on a type that is. -/
theorem ensureServed_bind_eq_ok {α : Type} {rest : Unit → Except Error α} {x : α} :
    s.ensureServed r >>= rest = .ok x ↔ s.Serves r ∧ rest () = .ok x := by
  by_cases served : s.Serves r
  · rw [ensureServed_ok served]
    exact ⟨fun h => ⟨served, h⟩, And.right⟩
  · rw [ensureServed_error served]
    exact ⟨nofun, fun h => absurd h.1 served⟩

section
variable {s' : Store} {o o' : Object}

theorem seed_eq_ok : seed r o s = .ok s' ↔ ∃ k, o.key = .ok k ∧ s' = s.seeded (r.storeKey k) (o.typed r) := by
  unfold seed
  rw [map_eq_ok]
  exact exists_congr fun k => and_congr_right fun _ => eq_comm

theorem get_eq_ok {found : Option Object} : get r k s = .ok (found, s') ↔ s.Serves r ∧ found = s.stored r k ∧ s' = s := by
  unfold get
  rw [ensureServed_bind_eq_ok]
  refine and_congr_right fun _ => ⟨fun h => ?_, fun ⟨hf, hs⟩ => hf ▸ hs ▸ rfl⟩
  cases h
  exact ⟨rfl, rfl⟩

theorem create_eq_ok : create r o s = .ok (o', s') ↔
    s.Serves r ∧ o' = o ∧ ∃ k, o.key = .ok k ∧ s.stored r k = none ∧ s' = s.created (r.storeKey k) o := by
  unfold create
  rw [ensureServed_bind_eq_ok, bind_eq_ok]
  refine and_congr_right fun _ => ⟨fun ⟨k, hk, h⟩ => ?_, fun ⟨ho, k, hk, free, hs⟩ => ⟨k, hk, ?_⟩⟩
  · by_cases there : (s.stored r k).isSome = true
    · rw [if_pos there] at h
      cases h
    · rw [if_neg there] at h
      cases h
      exact ⟨rfl, k, hk, Option.not_isSome_iff_eq_none.mp there, rfl⟩
  · rw [if_neg (by simp [free]), ho, hs]
    rfl

theorem update_eq_ok : update r o s = .ok (o', s') ↔
    s.Serves r ∧ o' = o ∧ ∃ k, o.key = .ok k ∧ s.stored r k ≠ none ∧ s' = s.updated (r.storeKey k) o := by
  unfold update
  rw [ensureServed_bind_eq_ok, bind_eq_ok]
  refine and_congr_right fun _ => ⟨fun ⟨k, hk, h⟩ => ?_, fun ⟨ho, k, hk, there, hs⟩ => ⟨k, hk, ?_⟩⟩
  · by_cases gone : (s.stored r k).isNone = true
    · rw [if_pos gone] at h
      cases h
    · rw [if_neg gone] at h
      cases h
      exact ⟨rfl, k, hk, fun none => gone (Option.isNone_iff_eq_none.mpr none), rfl⟩
  · rw [if_neg (fun gone => there (Option.isNone_iff_eq_none.mp gone)), ho, hs]
    rfl

theorem delete_eq_ok {u : Unit} : delete r k s = .ok (u, s') ↔
    s.Serves r ∧ s.stored r k ≠ none ∧ s' = s.deleted (r.storeKey k) := by
  unfold delete
  rw [ensureServed_bind_eq_ok]
  refine and_congr_right fun _ => ⟨fun h => ?_, fun ⟨there, hs⟩ => ?_⟩
  · by_cases gone : (s.stored r k).isNone = true
    · rw [if_pos gone] at h
      cases h
    · rw [if_neg gone] at h
      cases h
      exact ⟨fun none => gone (Option.isNone_iff_eq_none.mpr none), rfl⟩
  · rw [if_neg (fun gone => there (Option.isNone_iff_eq_none.mp gone)), hs]
    rfl

theorem list_eq_ok {options : ListOptions} {os : List Object} : list r options s = .ok (os, s') ↔
    s.Serves r ∧ os = (s.objects.entries.filter (matching r options)).map (·.2) ∧ s' = s := by
  unfold list
  rw [ensureServed_bind_eq_ok]
  refine and_congr_right fun _ => ⟨fun h => ?_, fun ⟨ho, hs⟩ => ho ▸ hs ▸ rfl⟩
  cases h
  exact ⟨rfl, rfl⟩

end

theorem run_get (h : s.Serves r) : (client.get r k).run s = (.ok (s.stored r k), s) :=
  Act.run_ofStep_ok (get_eq_ok.mpr ⟨h, rfl, rfl⟩)

theorem run_get_unserved (h : ¬ s.Serves r) :
    (client.get r k).run s = (.error (.kindNotFound r.apiVersion r.kind), s) :=
  run_unserved h rfl

theorem run_create {o : Object} (h : s.Serves r) (hk : o.key = .ok k) (hn : s.stored r k = none) :
    (client.create r o).run s = (.ok o, s.created (r.storeKey k) o) :=
  Act.run_ofStep_ok (create_eq_ok.mpr ⟨h, rfl, k, hk, hn, rfl⟩)

theorem run_update {o o' : Object} (h : s.Serves r) (hk : o'.key = .ok k) (ho : s.stored r k = some o) :
    (client.update r o').run s = (.ok o', s.updated (r.storeKey k) o') :=
  Act.run_ofStep_ok (update_eq_ok.mpr ⟨h, rfl, k, hk, Option.ne_none_iff_exists'.mpr ⟨o, ho⟩, rfl⟩)

theorem run_delete {o : Object} (h : s.Serves r) (ho : s.stored r k = some o) :
    (client.delete r k).run s = (.ok (), s.deleted (r.storeKey k)) :=
  Act.run_ofStep_ok (delete_eq_ok.mpr ⟨h, Option.ne_none_iff_exists'.mpr ⟨o, ho⟩, rfl⟩)

theorem run_list (h : s.Serves r) (options : ListOptions) :
    (client.list r options).run s = (.ok ((s.objects.entries.filter (matching r options)).map (·.2)), s) :=
  Act.run_ofStep_ok (list_eq_ok.mpr ⟨h, rfl, rfl⟩)

theorem run_list_unserved (h : ¬ s.Serves r) (options : ListOptions) :
    (client.list r options).run s = (.error (.kindNotFound r.apiVersion r.kind), s) :=
  run_unserved h rfl

end Store

/-! ## Creating or updating -/

theorem Object.metadata_withStatus (o : Object) (status : Option Json) : (o.withStatus status).metadata = o.metadata := by
  unfold withStatus
  split
  · split <;> rfl
  · rfl

theorem Object.key_withStatus (o : Object) (status : Option Json) : (o.withStatus status).key = o.key := by
  unfold key
  rw [o.metadata_withStatus]

/-- The metadata have the name and the namespace of a key. -/
def Metadata.Bears (m : Metadata) (key : ObjectKey) : Prop := m.name = some key.name ∧ m.ns? = key.ns?

/-- Why an object of such metadata is not the object of a key. -/
inductive Metadata.Strange (m : Metadata) (key : ObjectKey) : Error → Prop
  | nameless (h : m.name = none) : Strange m key (.internal "object has no name" "object-key")
  | renamed {name} (h : m.name = some name) (other : ObjectKey.mk m.ns? name ≠ key) : Strange m key
      (.internal ("mutation changed object identity from " ++ key.text ++ " to " ++ (ObjectKey.mk m.ns? name).text)
        "create-or-update")

theorem Plan.ensureKey_eq_ok {key : ObjectKey} {o : Object} : ensureKey key o = .ok () ↔ o.key = .ok key := by
  unfold ensureKey
  cases h : o.key with
  | error e => exact ⟨nofun, nofun⟩
  | ok actual =>
    change (if actual ≠ key then _ else _) = _ ↔ _
    by_cases hk : actual = key
    · rw [if_neg (fun hn => hn hk), hk]
      exact ⟨fun _ => rfl, fun _ => rfl⟩
    · rw [if_pos hk]
      exact ⟨nofun, fun h' => absurd (Except.ok.inj h') hk⟩

theorem Plan.ensureKey_eq_error {key : ObjectKey} {o : Object} {x : Error} :
    ensureKey key o = .error x ↔ o.metadata.Strange key x := by
  unfold ensureKey Object.key
  cases hname : o.metadata.name with
  | none =>
    refine ⟨fun h => Except.error.inj h ▸ .nameless hname, fun h => ?_⟩
    cases h with
    | nameless => rfl
    | renamed h => cases hname.symm.trans h
  | some name =>
    change (if ObjectKey.mk o.metadata.ns? name ≠ key then _ else _) = _ ↔ _
    by_cases hk : ObjectKey.mk o.metadata.ns? name = key
    · rw [if_neg (fun hn => hn hk)]
      refine ⟨nofun, fun h => ?_⟩
      cases h with
      | nameless h => cases hname.symm.trans h
      | renamed h other =>
        obtain rfl := Option.some.inj (hname.symm.trans h)
        exact absurd hk other
    · rw [if_pos hk]
      refine ⟨fun h => Except.error.inj h ▸ .renamed hname hk, fun h => ?_⟩
      cases h with
      | nameless h => cases hname.symm.trans h
      | renamed h =>
        obtain rfl := Option.some.inj (hname.symm.trans h)
        rfl

/-- The guard lets the objects of a key pass, and says why others are not; it looks at nothing but the name and the namespace. -/
theorem Plan.ensureKey_cases {o : Object} {m : Metadata} (hname : o.metadata.name = m.name) (hns : o.metadata.ns? = m.ns?)
    (key : ObjectKey) : (ensureKey key o = .ok () ∧ m.Bears key ∧ ∀ x, ¬ m.Strange key x) ∨
      ∃ y, ensureKey key o = .error y ∧ ¬ m.Bears key ∧ ∀ x, m.Strange key x ↔ x = y := by
  have same : ensureKey key o = ensureKey key { metadata := m } := by
    unfold ensureKey Object.key
    rw [hname, hns]
  have bears : ensureKey key { metadata := m } = .ok () ↔ m.Bears key := ensureKey_eq_ok.trans Object.key_eq_ok
  have strange : ∀ x, ensureKey key { metadata := m } = .error x ↔ m.Strange key x := fun x => ensureKey_eq_error
  rw [same]
  cases h : ensureKey key { metadata := m } with
  | ok u => exact .inl ⟨rfl, bears.1 h, fun x hx => nomatch h.symm.trans ((strange x).2 hx)⟩
  | error y =>
    have foreign : ¬ m.Bears key := fun hm => nomatch h.symm.trans (bears.2 hm)
    refine .inr ⟨y, rfl, foreign, fun x => ?_⟩
    rw [← strange x, h, Except.error.injEq, eq_comm]

/-- What creating or updating the object of a key can do to a store, and what it answers. Creating an object of a type that
is served fails only if the change does. -/
inductive Upserts (r : Resource) (key : ObjectKey) (shell : Object) (change : Object → Except Error Object) (s : Store) :
    Except Error Upserted → Store → Prop
  | failed {x} (why : s.Serves r → s.stored r key = none → ∀ o, change shell = .ok o → o.key ≠ .ok key) :
    Upserts r key shell change s (.error x) s
  | created {o} (served : s.Serves r) (absent : s.stored r key = none) (made : change shell = .ok o)
    (named : o.key = .ok key) : Upserts r key shell change s (.ok .created) (s.created (r.storeKey key) o)
  | updated {o d} (served : s.Serves r) (there : s.stored r key = some o) (made : change o = .ok d)
    (named : d.key = .ok key) :
    Upserts r key shell change s (.ok .updated) (s.updated (r.storeKey key) (d.withStatus o.status))
  | unchanged {o} (served : s.Serves r) (there : s.stored r key = some o) :
    Upserts r key shell change s (.ok .unchanged) s

theorem Plan.ofAbsent_eq_ok {key : ObjectKey} {shell : Object} {change : Object → Except Error Object} {p : Plan} :
    ofAbsent key shell change = .ok p ↔ ∃ o, change shell = .ok o ∧ o.key = .ok key ∧ p = .create o := by
  unfold ofAbsent
  cases hc : change shell with
  | error e =>
    constructor
    · intro h
      cases h
    · rintro ⟨o, ho, -⟩
      cases ho
  | ok o =>
    cases hk : ensureKey key o with
    | error e =>
      constructor
      · intro h
        change (ensureKey key o >>= fun _ => _) = _ at h
        rw [hk] at h
        cases h
      · rintro ⟨o', ho, named, -⟩
        cases ho
        cases hk.symm.trans (ensureKey_eq_ok.mpr named)
    | ok u =>
      have hp : (Except.ok o >>= fun desired => ensureKey key desired >>= fun _ => pure (.create desired) : Except Error Plan) =
          .ok (.create o) := by
        change (ensureKey key o >>= fun _ => _) = _
        rw [hk]
        rfl
      constructor
      · intro h
        exact ⟨o, rfl, ensureKey_eq_ok.mp hk, (Except.ok.inj (hp.symm.trans h)).symm⟩
      · rintro ⟨o', ho, -, rfl⟩
        cases ho
        exact hp

theorem Plan.ofExisting_eq_ok_iff {key : ObjectKey} {existing : Object} {change : Object → Except Error Object} {p : Plan} :
    ofExisting key existing change = .ok p ↔ ∃ before d after, existing.toJson = .ok before ∧ change existing = .ok d ∧
      d.key = .ok key ∧ (d.withStatus existing.status).toJson = .ok after ∧
      (if after == before then .keep else .update (d.withStatus existing.status)) = p := by
  constructor
  · intro h
    unfold ofExisting at h
    obtain ⟨before, hbefore, h⟩ := bind_eq_ok.1 h
    obtain ⟨d, hd, h⟩ := bind_eq_ok.1 h
    obtain ⟨_, hkey, h⟩ := bind_eq_ok.1 h
    obtain ⟨after, hafter, h⟩ := bind_eq_ok.1 h
    exact ⟨before, d, after, hbefore, hd, ensureKey_eq_ok.1 hkey, hafter, Except.ok.inj h⟩
  · rintro ⟨before, d, after, hbefore, hd, hkey, hafter, rfl⟩
    unfold ofExisting
    exact bind_eq_ok.2 ⟨before, hbefore, bind_eq_ok.2 ⟨d, hd, bind_eq_ok.2 ⟨(), ensureKey_eq_ok.2 hkey,
      bind_eq_ok.2 ⟨after, hafter, rfl⟩⟩⟩⟩

/-- If only the key of the changed object is in doubt, then that decides. -/
theorem Plan.ofExisting_of_printed (key : ObjectKey) {existing d : Object} {change : Object → Except Error Object}
    {before after : Json} (hbefore : existing.toJson = .ok before) (hd : change existing = .ok d)
    (hafter : (d.withStatus existing.status).toJson = .ok after) : ofExisting key existing change =
      (ensureKey key d).map fun _ => if after == before then .keep else .update (d.withStatus existing.status) := by
  cases hkey : ensureKey key d with
  | ok u => exact ofExisting_eq_ok_iff.2 ⟨before, d, after, hbefore, hd, ensureKey_eq_ok.1 hkey, hafter, rfl⟩
  | error x =>
    unfold ofExisting
    rw [hbefore, hd]
    change (ensureKey key d >>= fun _ => _) = _
    rw [hkey]
    rfl

theorem Plan.ofExisting_eq_ok {key : ObjectKey} {existing : Object} {change : Object → Except Error Object} {p : Plan}
    (h : ofExisting key existing change = .ok p) :
    ∃ d, change existing = .ok d ∧ d.key = .ok key ∧ (p = .keep ∨ p = .update (d.withStatus existing.status)) := by
  obtain ⟨before, d, after, -, hd, hkey, -, rfl⟩ := ofExisting_eq_ok_iff.1 h
  refine ⟨d, hd, hkey, ?_⟩
  split
  · exact .inl rfl
  · exact .inr rfl

section
variable {r : Resource} {key : ObjectKey} {shell : Object} {change : Object → Except Error Object} {s : Store}

theorem run_carryOut_create {o : Object} (served : s.Serves r) (absent : s.stored r key = none) (named : o.key = .ok key) :
    (Store.client.carryOut r (.create o)).run s = (.ok .created, s.created (r.storeKey key) o) := by
  unfold Client.carryOut
  rw [run_bind_ok (Store.run_create served named absent)]
  rfl

theorem run_carryOut_update {o o' : Object} (served : s.Serves r) (there : s.stored r key = some o) (named : o'.key = .ok key) :
    (Store.client.carryOut r (.update o')).run s = (.ok .updated, s.updated (r.storeKey key) o') := by
  unfold Client.carryOut
  rw [run_bind_ok (Store.run_update served named there)]
  rfl

theorem run_carryOut_keep : (Store.client.carryOut r .keep).run s = (.ok .unchanged, s) := rfl

theorem run_createOrUpdate_unserved (hkey : shell.key = .ok key) (served : ¬ s.Serves r) :
    (Store.client.createOrUpdate r shell change).run s = (.error (.kindNotFound r.apiVersion r.kind), s) := by
  unfold Client.createOrUpdate
  rw [hkey, run_bind_ok (Act.run_ofExcept _ s), run_bind_error (Store.run_get_unserved served)]

theorem run_createOrUpdate_absent (hkey : shell.key = .ok key) (served : s.Serves r) (absent : s.stored r key = none) :
    (Store.client.createOrUpdate r shell change).run s =
      match Plan.ofAbsent key shell change with
      | .ok p => (Store.client.carryOut r p).run s
      | .error e => (.error e, s) := by
  unfold Client.createOrUpdate
  rw [hkey, run_bind_ok (Act.run_ofExcept _ s), run_bind_ok (Store.run_get served), absent]
  cases Plan.ofAbsent key shell change <;> rfl

/-- What any client does with an object that it finds. -/
theorem run_createOrUpdate_found {σ : Type} {c : Client σ} {x y : σ} {o : Object} (hkey : shell.key = .ok key)
    (found : (c.get r key).run x = (.ok (some o), y)) :
    (c.createOrUpdate r shell change).run x =
      match Plan.ofExisting key o change with
      | .ok p => (c.carryOut r p).run y
      | .error e => (.error e, y) := by
  unfold Client.createOrUpdate
  rw [hkey, run_bind_ok (Act.run_ofExcept _ x), run_bind_ok found]
  dsimp only
  cases Plan.ofExisting key o change <;> rfl

theorem run_createOrUpdate_present {o : Object} (hkey : shell.key = .ok key) (served : s.Serves r)
    (there : s.stored r key = some o) :
    (Store.client.createOrUpdate r shell change).run s =
      match Plan.ofExisting key o change with
      | .ok p => (Store.client.carryOut r p).run s
      | .error e => (.error e, s) :=
  run_createOrUpdate_found hkey ((Store.run_get served).trans (by rw [there]))

/-- The object of the shell is missing, and the change makes one of the same key. -/
structure Store.Lacks (s : Store) (r : Resource) (shell : Object) (change : Object → Except Error Object) (key : ObjectKey)
    (made : Object) : Prop where
  named : shell.key = .ok key
  served : s.Serves r
  absent : s.stored r key = none
  changed : change shell = .ok made
  kept : made.key = .ok key

/-- The object of the shell is there and prints as `before`, and the change makes one of the same key that, with the status
of the old one, prints as `after`. -/
structure Store.Meets (s : Store) (r : Resource) (shell : Object) (change : Object → Except Error Object) (key : ObjectKey)
    (old new : Object) (before after : Json) : Prop where
  named : shell.key = .ok key
  served : s.Serves r
  there : s.stored r key = some old
  printed : old.toJson = .ok before
  changed : ∃ d, change old = .ok d ∧ d.key = .ok key ∧ new = d.withStatus old.status
  reprinted : new.toJson = .ok after

theorem Store.Lacks.run {made : Object} (h : s.Lacks r shell change key made) :
    (Store.client.createOrUpdate r shell change).run s = (.ok .created, s.created (r.storeKey key) made) := by
  have hplan : Plan.ofAbsent key shell change = .ok (.create made) := Plan.ofAbsent_eq_ok.2 ⟨made, h.changed, h.kept, rfl⟩
  rw [run_createOrUpdate_absent h.named h.served h.absent, hplan]
  exact run_carryOut_create h.served h.absent h.kept

theorem Store.Meets.plan {old new : Object} {before after : Json} (h : s.Meets r shell change key old new before after) :
    Plan.ofExisting key old change = .ok (if after == before then .keep else .update new) := by
  obtain ⟨d, hd, hkey, rfl⟩ := h.changed
  exact Plan.ofExisting_eq_ok_iff.2 ⟨before, d, after, h.printed, hd, hkey, h.reprinted, rfl⟩

theorem Store.Meets.run_same {old new : Object} {before after : Json} (h : s.Meets r shell change key old new before after)
    (same : (after == before) = true) : (Store.client.createOrUpdate r shell change).run s = (.ok .unchanged, s) := by
  rw [run_createOrUpdate_present h.named h.served h.there, h.plan, same]
  exact run_carryOut_keep

theorem Store.Meets.run_other {old new : Object} {before after : Json} (h : s.Meets r shell change key old new before after)
    (other : (after == before) = false) :
    (Store.client.createOrUpdate r shell change).run s = (.ok .updated, s.updated (r.storeKey key) new) := by
  have hkey : new.key = .ok key := by
    obtain ⟨d, -, hd, rfl⟩ := h.changed
    exact (d.key_withStatus _).trans hd
  rw [run_createOrUpdate_present h.named h.served h.there, h.plan, other]
  exact run_carryOut_update h.served h.there hkey

/-- The ways that creating or updating can go: its answer, and the store after it. -/
inductive Course (r : Resource) (shell : Object) (change : Object → Except Error Object) (s : Store) :
    Except Error Upserted → Store → Prop
  | failed (e) : Course r shell change s (.error e) s
  | created {key made} (lacks : s.Lacks r shell change key made) :
    Course r shell change s (.ok .created) (s.created (r.storeKey key) made)
  | updated {key old new before after} (meets : s.Meets r shell change key old new before after)
    (other : (after == before) = false) : Course r shell change s (.ok .updated) (s.updated (r.storeKey key) new)
  | unchanged {key old new before after} (meets : s.Meets r shell change key old new before after)
    (same : (after == before) = true) : Course r shell change s (.ok .unchanged) s

variable (r shell change s) in
/-- There is no other way: every step that can fail stands before the only write, or is it. -/
theorem createOrUpdate_course : Course r shell change s ((Store.client.createOrUpdate r shell change).run s).1
    ((Store.client.createOrUpdate r shell change).run s).2 := by
  cases hkey : shell.key with
  | error e =>
    have failed : (Store.client.createOrUpdate r shell change).run s = (.error e, s) := by
      unfold Client.createOrUpdate
      rw [hkey, run_bind_error (Act.run_ofExcept _ s)]
    rw [failed]
    exact .failed e
  | ok key =>
    by_cases served : s.Serves r
    case neg =>
      rw [run_createOrUpdate_unserved hkey served]
      exact .failed _
    cases there : s.stored r key with
    | none =>
      rcases hplan : Plan.ofAbsent key shell change with e | p
      · rw [run_createOrUpdate_absent hkey served there, hplan]
        exact .failed e
      · obtain ⟨made, hmade, hkept, -⟩ := Plan.ofAbsent_eq_ok.1 hplan
        have lacks : s.Lacks r shell change key made := ⟨hkey, served, there, hmade, hkept⟩
        rw [lacks.run]
        exact .created lacks
    | some old =>
      rcases hplan : Plan.ofExisting key old change with e | p
      · rw [run_createOrUpdate_present hkey served there, hplan]
        exact .failed e
      · obtain ⟨before, d, after, hbefore, hd, hkept, hafter, -⟩ := Plan.ofExisting_eq_ok_iff.1 hplan
        have meets : s.Meets r shell change key old (d.withStatus old.status) before after :=
          ⟨hkey, served, there, hbefore, ⟨d, hd, hkept, rfl⟩, hafter⟩
        cases heq : after == before with
        | true =>
          rw [meets.run_same heq]
          exact .unchanged meets heq
        | false =>
          rw [meets.run_other heq]
          exact .updated meets heq

theorem course_of_run {x : Except Error Upserted} {t : Store}
    (h : (Store.client.createOrUpdate r shell change).run s = (x, t)) : Course r shell change s x t := by
  have course := createOrUpdate_course r shell change s
  rwa [h] at course

/-- **Creating or updating does nothing else.** -/
theorem createOrUpdate_upserts (hkey : shell.key = .ok key) (s : Store) :
    Upserts r key shell change s ((Store.client.createOrUpdate r shell change).run s).1
      ((Store.client.createOrUpdate r shell change).run s).2 := by
  rcases hrun : (Store.client.createOrUpdate r shell change).run s with ⟨x, t⟩
  cases course_of_run hrun with
  | failed e =>
    refine .failed fun served absent o made named => ?_
    have lacks : Store.Lacks _ r shell change key o := ⟨hkey, served, absent, made, named⟩
    cases hrun.symm.trans lacks.run
  | created lacks =>
    obtain rfl := Except.ok.inj (hkey.symm.trans lacks.named)
    exact .created lacks.served lacks.absent lacks.changed lacks.kept
  | updated meets =>
    obtain rfl := Except.ok.inj (hkey.symm.trans meets.named)
    obtain ⟨d, hd, hkept, rfl⟩ := meets.changed
    exact .updated meets.served meets.there hd hkept
  | unchanged meets =>
    obtain rfl := Except.ok.inj (hkey.symm.trans meets.named)
    exact .unchanged meets.served meets.there

/-- Creating or updating an object touches nothing else. -/
theorem Upserts.frame {x : Except Error Upserted} {s' : Store} (h : Upserts r key shell change s x s') :
    Store.Frame s s' (· = r.storeKey key) := by
  cases h with
  | failed => exact .refl s _
  | created => exact s.frame_created _ _
  | updated => exact s.frame_updated _ _
  | unchanged => exact .refl s _

end

end Converge
