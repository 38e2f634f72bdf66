import Converge.Proofs.StoreEffects

/-!
# Local operations on a store

Operations on a state whose first part is a store, and how those on different keys leave each other alone.

* `Act.beside`, `Client.beside`: an operation, and access to a cluster, with something else beside the state.
* `Store.Agree` : two stores serve the same and hold the same under some keys. `Store.Echo` : from there on they were changed
  alike.
* `Local K m` : the operation looks at nothing but the keys `K`, touches nothing else, and what it does is the same wherever
  they hold the same. `Local.bind`, `Local.bindExcept`: so is what is made of such operations.
* `Local.still`, `Local.comm`: what follows for two operations on different keys.
* `Local.createOrUpdate`: creating or updating an object is local to its key.
-/

namespace Converge

set_option autoImplicit false

/-! ## Beside -/

section
variable {σ τ α β : Type}

/-- The operation with something beside the state. -/
def Act.beside (τ : Type) (a : Act σ α) : Act (σ × τ) α := ExceptT.mk fun p => ((a.run p.1).1, (a.run p.1).2, p.2)

theorem Act.run_beside (a : Act σ α) (s : σ) (x : τ) : (a.beside τ).run (s, x) = ((a.run s).1, (a.run s).2, x) := rfl

theorem Act.beside_bind (a : Act σ α) (f : α → Act σ β) : (a >>= f).beside τ = a.beside τ >>= fun v => (f v).beside τ := by
  refine ExceptT.ext (funext fun ⟨s, x⟩ => ?_)
  rcases h : a.run s with ⟨e | v, s'⟩
  · have hb : (a.beside τ).run (s, x) = (.error e, s', x) := by rw [run_beside, h]
    have hleft : ((a >>= f).beside τ).run (s, x) = (.error e, s', x) := by rw [run_beside, run_bind_error h]
    exact hleft.trans (run_bind_error hb _).symm
  · have hb : (a.beside τ).run (s, x) = (.ok v, s', x) := by rw [run_beside, h]
    have hleft : ((a >>= f).beside τ).run (s, x) = ((f v).beside τ).run (s', x) := by
      rw [run_beside, run_bind_ok h, run_beside]
    exact hleft.trans (run_bind_ok hb fun v => (f v).beside τ).symm

/-- The access with something beside the state. -/
def Client.beside (τ : Type) (c : Client σ) : Client (σ × τ) where
  get r k := (c.get r k).beside τ
  create r o := (c.create r o).beside τ
  update r o := (c.update r o).beside τ
  delete r k := (c.delete r k).beside τ
  list r options := (c.list r options).beside τ

theorem Client.createOrUpdate_beside (c : Client σ) (r : Resource) (shell : Object) (change : Object → Except Error Object) :
    (c.beside τ).createOrUpdate r shell change = (c.createOrUpdate r shell change).beside τ := by
  have carryOut : ∀ p, (c.beside τ).carryOut r p = (c.carryOut r p).beside τ := by
    intro p
    cases p with
    | create o => exact (Act.beside_bind (c.create r o) fun _ => pure Upserted.created).symm
    | update o => exact (Act.beside_bind (c.update r o) fun _ => pure Upserted.updated).symm
    | keep => rfl
  unfold createOrUpdate
  rw [Act.beside_bind]
  refine bind_congr fun key => ?_
  rw [Act.beside_bind]
  refine bind_congr fun found => ?_
  cases found with
  | none =>
    dsimp only
    rw [Act.beside_bind]
    exact bind_congr carryOut
  | some existing =>
    dsimp only
    rw [Act.beside_bind]
    exact bind_congr carryOut

end

/-! ## Stores that agree -/

namespace Store

/-- Two stores serve the same, and hold the same under the keys. -/
structure Agree (K : StoreKey → Prop) (s t : Store) : Prop where
  entry : ∀ k, K k → s.objects.get? k = t.objects.get? k
  unserved : s.unserved = t.unserved

/-- The stores `s` and `t` became `s'` and `t'` alike: they agree under the keys, and as much was written. -/
structure Echo (K : StoreKey → Prop) (s s' t t' : Store) : Prop where
  agree : Agree K s' t'
  creates : s'.creates + t.creates = t'.creates + s.creates
  updates : s'.updates + t.updates = t'.updates + s.updates
  deletes : s'.deletes + t.deletes = t'.deletes + s.deletes

variable {K L : StoreKey → Prop} {s s' t t' u u' : Store}

theorem Agree.refl (K : StoreKey → Prop) (s : Store) : Agree K s s := ⟨fun _ _ => rfl, rfl⟩

theorem Agree.symm (h : Agree K s t) : Agree K t s := ⟨fun k hk => (h.entry k hk).symm, h.unserved.symm⟩

theorem Agree.trans (h : Agree K s t) (h' : Agree K t u) : Agree K s u :=
  ⟨fun k hk => (h.entry k hk).trans (h'.entry k hk), h.unserved.trans h'.unserved⟩

theorem Agree.mono (h : Agree K s t) (hL : ∀ k, L k → K k) : Agree L s t := ⟨fun k hk => h.entry k (hL k hk), h.unserved⟩

theorem Agree.serves (h : Agree K s t) (r : Resource) : s.Serves r ↔ t.Serves r := by
  unfold Serves
  rw [h.unserved]

/-- What happens outside of the keys does not matter to them. -/
theorem Frame.agree (h : Frame s t L) (hL : ∀ k, K k → ¬ L k) : Agree K t s := ⟨fun k hk => h.entry k (hL k hk), h.unserved⟩

theorem Echo.trans (h : Echo K s s' t t') (h' : Echo K s' u t' u') : Echo K s u t u' := by
  obtain ⟨-, hc, hu, hd⟩ := h
  obtain ⟨hagree, hc', hu', hd'⟩ := h'
  exact ⟨hagree, by omega, by omega, by omega⟩

theorem Echo.refl (h : Agree K s t) : Echo K s s t t := ⟨h, Nat.add_comm .., Nat.add_comm .., Nat.add_comm ..⟩

section
variable (h : Agree K s t) (k : StoreKey) (o : Object)
include h

theorem Agree.insert : ∀ k', K k' → (s.objects.insert k o).get? k' = (t.objects.insert k o).get? k' := by
  intro k' hk'
  by_cases hk : k' = k
  · rw [hk, SortedMap.get?_insert_self, SortedMap.get?_insert_self]
  · rw [SortedMap.get?_insert_of_ne _ hk, SortedMap.get?_insert_of_ne _ hk, h.entry k' hk']

theorem Agree.created : Echo K s (s.created k o) t (t.created k o) := by
  refine ⟨⟨h.insert k o, h.unserved⟩, ?_, Nat.add_comm .., Nat.add_comm ..⟩
  show s.creates + 1 + t.creates = t.creates + 1 + s.creates
  omega

theorem Agree.updated : Echo K s (s.updated k o) t (t.updated k o) := by
  refine ⟨⟨h.insert k o, h.unserved⟩, Nat.add_comm .., ?_, Nat.add_comm ..⟩
  show s.updates + 1 + t.updates = t.updates + 1 + s.updates
  omega

omit o in
theorem Agree.deleted : Echo K s (s.deleted k) t (t.deleted k) := by
  refine ⟨⟨fun k' hk' => ?_, h.unserved⟩, Nat.add_comm .., Nat.add_comm .., ?_⟩
  · by_cases hk : k' = k
    · rw [hk, get?_deleted, get?_deleted]
    · rw [(s.frame_deleted k).entry k' hk, (t.frame_deleted k).entry k' hk, h.entry k' hk']
  · show s.deletes + 1 + t.deletes = t.deletes + 1 + s.deletes
    omega

end

/-- Stores that became what they are from one store, alike and only under the keys, are the same. -/
theorem Echo.eq (h : Echo K s s' s t') (hs : Frame s s' K) (ht : Frame s t' K) : s' = t' := by
  have hobjects : s'.objects = t'.objects := by
    refine SortedMap.ext_get? fun k => ?_
    by_cases hk : K k
    · exact h.agree.entry k hk
    · exact (hs.entry k hk).trans (ht.entry k hk).symm
  have hunserved := h.agree.unserved
  obtain ⟨-, hc, hu, hd⟩ := h
  cases s'
  cases t'
  simp only at hobjects hunserved hc hu hd
  simp only [Store.mk.injEq]
  exact ⟨hobjects, hunserved, by omega, by omega, by omega⟩

section
variable {r : Resource} {k : ObjectKey} {o : Object} (served : s.Serves r)
include served

theorem get_eq : get r k s = .ok (s.stored r k, s) := by
  unfold get
  rw [ensureServed_ok served]
  rfl

theorem create_eq (hkey : o.key = .ok k) : create r o s =
    if (s.stored r k).isSome then .error (.internal (r.kind ++ " " ++ k.text ++ " already exists") "memory-client")
    else .ok (o, s.created (r.storeKey k) o) := by
  unfold create
  rw [ensureServed_ok served, hkey]
  rfl

theorem update_eq (hkey : o.key = .ok k) : update r o s =
    if (s.stored r k).isNone then .error (.notFound r.kind k.text) else .ok (o, s.updated (r.storeKey k) o) := by
  unfold update
  rw [ensureServed_ok served, hkey]
  rfl

theorem delete_eq : delete r k s =
    if (s.stored r k).isNone then .error (.notFound r.kind k.text) else .ok ((), s.deleted (r.storeKey k)) := by
  unfold delete
  rw [ensureServed_ok served]
  rfl

end

end Store

open Store (Agree Echo Frame)

/-! ## Local operations -/

/-- The operation looks at nothing but the keys, touches nothing else, and does the same wherever they hold the same. -/
structure Local {τ α : Type} (K : StoreKey → Prop) (m : StateM (Store × τ) α) : Prop where
  frame : ∀ s x, Frame s (m.run (s, x)).2.1 K
  beside : ∀ s x, (m.run (s, x)).2.2 = x
  answer : ∀ {s t} x y, Agree K s t → (m.run (s, x)).1 = (m.run (t, y)).1
  echo : ∀ {s t} x y, Agree K s t → Echo K s (m.run (s, x)).2.1 t (m.run (t, y)).2.1

namespace Local

section
variable {τ α β ε ε' : Type} {K L : StoreKey → Prop} {m : StateM (Store × τ) α}

theorem pure (K : StoreKey → Prop) (v : α) : Local (τ := τ) K (Pure.pure v) :=
  ⟨fun s _ => .refl s K, fun _ _ => rfl, fun _ _ _ => rfl, fun _ _ h => .refl h⟩

theorem bind {f : α → StateM (Store × τ) β} (hm : Local K m) (hf : ∀ v, Local K (f v)) : Local K (m >>= f) := by
  have run : ∀ s x, (m >>= f).run (s, x) = (f (m.run (s, x)).1).run ((m.run (s, x)).2.1, x) := by
    intro s x
    show (f (m.run (s, x)).1).run (m.run (s, x)).2 = _
    rw [show (m.run (s, x)).2 = ((m.run (s, x)).2.1, x) from Prod.ext rfl (hm.beside s x)]
  refine ⟨fun s x => ?_, fun s x => ?_, fun {s t} x y h => ?_, fun {s t} x y h => ?_⟩
  · rw [run]
    exact (hm.frame s x).trans ((hf _).frame _ x)
  · rw [run]
    exact (hf _).beside _ x
  · rw [run, run, hm.answer x y h]
    exact (hf _).answer x y (hm.echo x y h).agree
  · rw [run, run, hm.answer x y h]
    exact (hm.echo x y h).trans ((hf _).echo x y (hm.echo x y h).agree)

/-- Only the answer is another. -/
theorem map {m' : StateM (Store × τ) β} (g : α → β) (hm : Local K m)
    (h : ∀ p, m'.run p = (g (m.run p).1, (m.run p).2)) : Local K m' := by
  refine ⟨fun s x => ?_, fun s x => ?_, fun x y hst => ?_, fun x y hst => ?_⟩
  · rw [h]
    exact hm.frame s x
  · rw [h]
    exact hm.beside s x
  · rw [h, h]
    exact congrArg g (hm.answer x y hst)
  · rw [h, h]
    exact hm.echo x y hst

/-- It may look at more than it does. -/
theorem mono (h : Local K m) (hL : ∀ k, K k → L k) : Local L m := by
  refine ⟨fun s x => (h.frame s x).mono hL, h.beside, fun x y hst => h.answer x y (hst.mono hL), fun {s t} x y hst => ?_⟩
  obtain ⟨hagree, hc, hu, hd⟩ := h.echo x y (hst.mono hL)
  refine ⟨⟨fun k hk => ?_, hagree.unserved⟩, hc, hu, hd⟩
  by_cases hkK : K k
  · exact hagree.entry k hkK
  · exact ((h.frame s x).entry k hkK).trans ((hst.entry k hk).trans ((h.frame t y).entry k hkK).symm)

/-- What is beside the store does not matter. -/
theorem store_eq (h : Local K m) (s : Store) (x y : τ) : (m.run (s, x)).2.1 = (m.run (s, y)).2.1 :=
  (h.echo x y (.refl K s)).eq (h.frame s x) (h.frame s y)

/-- What changes nothing in one store changes nothing in another that holds the same under the keys. -/
theorem still (h : Local K m) {s t : Store} {x y : τ} (hst : Agree K s t) (ht : (m.run (t, y)).2.1 = t) :
    (m.run (s, x)).2.1 = s := by
  have hecho := h.echo x y hst
  rw [ht] at hecho
  have hself : Echo K s (m.run (s, x)).2.1 s s := by
    obtain ⟨hagree, hc, hu, hd⟩ := hecho
    exact ⟨hagree.trans hst.symm, by omega, by omega, by omega⟩
  exact hself.eq (h.frame s x) (.refl s K)

/-- Operations on different keys may change places. -/
theorem comm {n : StateM (Store × τ) β} (hm : Local K m) (hn : Local L n) (apart : ∀ k, K k → ¬ L k) {p q p' q' : Store × τ}
    (hpq : p.1 = q.1) (hp : p'.1 = (m.run p).2.1) (hq : q'.1 = (n.run q).2.1) : (n.run p').2.1 = (m.run q').2.1 := by
  obtain ⟨s, x⟩ := p
  obtain ⟨t, y⟩ := q
  obtain ⟨sm, x'⟩ := p'
  obtain ⟨sn, y'⟩ := q'
  obtain rfl : s = t := hpq
  obtain rfl : sm = (m.run (s, x)).2.1 := hp
  obtain rfl : sn = (n.run (s, y)).2.1 := hq
  have hmn := hm.echo y' x ((hn.frame s y).agree fun k hk hl => apart k hk hl)
  have hnm := hn.echo x' y ((hm.frame s x).agree fun k hl hk => apart k hk hl)
  have hframe : Frame s (m.run (s, x)).2.1 fun k => K k ∨ L k := (hm.frame s x).mono fun _ => .inl
  have hframe' : Frame s (n.run (s, y)).2.1 fun k => K k ∨ L k := (hn.frame s y).mono fun _ => .inr
  refine Echo.eq (s := s) (K := fun k => K k ∨ L k) ⟨⟨fun k hk => ?_, ?_⟩, ?_, ?_, ?_⟩
    (hframe.trans ((hn.frame _ x').mono fun _ => .inr)) (hframe'.trans ((hm.frame _ y').mono fun _ => .inl))
  · rcases hk with hk | hl
    · exact ((hn.frame _ x').entry k (apart k hk)).trans (hmn.agree.entry k hk).symm
    · exact (hnm.agree.entry k hl).trans ((hm.frame _ y').entry k fun hk => apart k hk hl).symm
  · exact ((hn.frame _ x').unserved.trans (hm.frame s x).unserved).trans
      ((hm.frame _ y').unserved.trans (hn.frame s y).unserved).symm
  · have hcreates := hmn.creates
    have hcreates' := hnm.creates
    omega
  · have hupdates := hmn.updates
    have hupdates' := hnm.updates
    omega
  · have hdeletes := hmn.deletes
    have hdeletes' := hnm.deletes
    omega

/-! ## Operations that may fail -/

theorem bindExcept {a : ExceptT ε (StateM (Store × τ)) α} {f : α → ExceptT ε (StateM (Store × τ)) β} (ha : Local K a.run)
    (hf : ∀ v, Local K (f v).run) : Local K (a >>= f).run := by
  refine ha.bind (f := ExceptT.bindCont f) fun r => ?_
  cases r with
  | ok v => exact hf v
  | error e => exact pure K _

theorem adapt {a : ExceptT ε (StateM (Store × τ)) α} (g : ε → ε') (ha : Local K a.run) :
    Local K (ExceptT.adapt g a).run :=
  ha.map (Except.mapError g) fun _ => rfl

theorem attempt {a : Act (Store × τ) α} (ha : Local K a.run) : Local K a.attempt.run := ha.map .ok fun _ => rfl

theorem done (K : StoreKey → Prop) (v : α) : Local (τ := τ) K (Pure.pure v : ExceptT ε (StateM (Store × τ)) α).run :=
  pure K (Except.ok v)

theorem ofExcept (K : StoreKey → Prop) (v : Except Error α) : Local (τ := τ) K (Act.ofExcept v).run := pure K v

theorem bindOk {v : Except Error α} {f : α → Act (Store × τ) β} (hf : ∀ a, v = .ok a → Local K (f a).run) :
    Local K (Act.ofExcept v >>= f).run := by
  cases v with
  | error e => exact pure K (Except.error e)
  | ok a => exact hf a rfl

end

/-! ## The operations of the client -/

variable {τ : Type} {r : Resource} {k : ObjectKey} {K : StoreKey → Prop}

/-- An operation that fails alike, or succeeds alike, in stores that agree. -/
theorem ofStep {α : Type} {f : Store → Except Error (α × Store)}
    (h : ∀ s t, Agree K s t → (∃ e, f s = .error e ∧ f t = .error e) ∨
      ∃ v s' t', f s = .ok (v, s') ∧ f t = .ok (v, t') ∧ Frame s s' K ∧ Echo K s s' t t') :
    Local K ((Act.ofStep f).beside τ).run := by
  have run : ∀ s x, StateT.run ((Act.ofStep f).beside τ).run (s, x) =
      (((Act.ofStep f).run s).1, ((Act.ofStep f).run s).2, x) := fun _ _ => rfl
  refine ⟨fun s x => ?_, fun _ _ => rfl, fun {s t} x y hst => ?_, fun {s t} x y hst => ?_⟩
  · rw [run]
    rcases h s s (.refl K s) with ⟨e, hs, -⟩ | ⟨v, s', t', hs, -, hframe, -⟩
    · rw [Act.run_ofStep_error hs]
      exact .refl s K
    · rw [Act.run_ofStep_ok hs]
      exact hframe
  · rw [run, run]
    rcases h s t hst with ⟨e, hs, ht⟩ | ⟨v, s', t', hs, ht, -⟩
    · rw [Act.run_ofStep_error hs, Act.run_ofStep_error ht]
    · rw [Act.run_ofStep_ok hs, Act.run_ofStep_ok ht]
  · rw [run, run]
    rcases h s t hst with ⟨e, hs, ht⟩ | ⟨v, s', t', hs, ht, -, hecho⟩
    · rw [Act.run_ofStep_error hs, Act.run_ofStep_error ht]
      exact .refl hst
    · rw [Act.run_ofStep_ok hs, Act.run_ofStep_ok ht]
      exact hecho

/-- An operation that looks first whether the type is served. -/
theorem ofServed {α : Type} {f : Store → Except Error (α × Store)} {rest : Store → Unit → Except Error (α × Store)}
    (hf : ∀ s, f s = s.ensureServed r >>= rest s)
    (h : ∀ s t, s.Serves r → t.Serves r → Agree K s t → (∃ e, f s = .error e ∧ f t = .error e) ∨
      ∃ v s' t', f s = .ok (v, s') ∧ f t = .ok (v, t') ∧ Frame s s' K ∧ Echo K s s' t t') :
    Local K ((Act.ofStep f).beside τ).run := by
  refine ofStep fun s t hst => ?_
  by_cases served : s.Serves r
  · exact h s t served ((hst.serves r).1 served) hst
  · have unserved : ∀ u : Store, ¬ u.Serves r → f u = .error (.kindNotFound r.apiVersion r.kind) := by
      intro u hu
      rw [hf, Store.ensureServed_error hu]
      rfl
    exact .inl ⟨_, unserved s served, unserved t fun ht => served ((hst.serves r).2 ht)⟩

theorem get (r : Resource) (k : ObjectKey) : Local (· = r.storeKey k) ((Store.client.beside τ).get r k).run := by
  refine ofServed (r := r) (f := Store.get r k) (fun _ => rfl) fun s t hs ht h => ?_
  have hsame : s.stored r k = t.stored r k := h.entry _ rfl
  rw [Store.get_eq hs, Store.get_eq ht, ← hsame]
  exact .inr ⟨_, s, t, rfl, rfl, .refl s _, .refl h⟩

theorem create {o : Object} (named : ∀ k, o.key = .ok k → K (r.storeKey k)) :
    Local K ((Store.client.beside τ).create r o).run := by
  refine ofServed (r := r) (f := Store.create r o) (fun _ => rfl) fun s t hs ht h => ?_
  cases hkey : o.key with
  | error e =>
    have failed : ∀ u : Store, u.Serves r → Store.create r o u = .error e := by
      intro u hu
      unfold Store.create
      rw [Store.ensureServed_ok hu, hkey]
      rfl
    exact .inl ⟨e, failed s hs, failed t ht⟩
  | ok k =>
    have hsame : s.stored r k = t.stored r k := h.entry _ (named k hkey)
    rw [Store.create_eq hs hkey, Store.create_eq ht hkey, ← hsame]
    cases s.stored r k with
    | some o' => exact .inl ⟨_, rfl, rfl⟩
    | none =>
      have hframe := (s.frame_created (r.storeKey k) o).mono fun k' hk' => (hk' ▸ named k hkey : K k')
      exact .inr ⟨o, _, _, rfl, rfl, hframe, h.created _ o⟩

theorem update {o : Object} (named : ∀ k, o.key = .ok k → K (r.storeKey k)) :
    Local K ((Store.client.beside τ).update r o).run := by
  refine ofServed (r := r) (f := Store.update r o) (fun _ => rfl) fun s t hs ht h => ?_
  cases hkey : o.key with
  | error e =>
    have failed : ∀ u : Store, u.Serves r → Store.update r o u = .error e := by
      intro u hu
      unfold Store.update
      rw [Store.ensureServed_ok hu, hkey]
      rfl
    exact .inl ⟨e, failed s hs, failed t ht⟩
  | ok k =>
    have hsame : s.stored r k = t.stored r k := h.entry _ (named k hkey)
    rw [Store.update_eq hs hkey, Store.update_eq ht hkey, ← hsame]
    cases s.stored r k with
    | none => exact .inl ⟨_, rfl, rfl⟩
    | some o' =>
      have hframe := (s.frame_updated (r.storeKey k) o).mono fun k' hk' => (hk' ▸ named k hkey : K k')
      exact .inr ⟨o, _, _, rfl, rfl, hframe, h.updated _ o⟩

theorem delete (r : Resource) (k : ObjectKey) : Local (· = r.storeKey k) ((Store.client.beside τ).delete r k).run := by
  refine ofServed (r := r) (f := Store.delete r k) (fun _ => rfl) fun s t hs ht h => ?_
  have hsame : s.stored r k = t.stored r k := h.entry _ rfl
  rw [Store.delete_eq hs, Store.delete_eq ht, ← hsame]
  cases s.stored r k with
  | none => exact .inl ⟨_, rfl, rfl⟩
  | some o => exact .inr ⟨(), _, _, rfl, rfl, s.frame_deleted _, h.deleted _⟩

/-! ## Creating or updating -/

/-- Creating or updating an object is local to its key. -/
theorem createOrUpdate {shell : Object} {key : ObjectKey} (hkey : shell.key = .ok key)
    (change : Object → Except Error Object) :
    Local (· = r.storeKey key) ((Store.client.beside τ).createOrUpdate r shell change).run := by
  have named : ∀ {o : Object}, o.key = .ok key → ∀ k, o.key = .ok k → r.storeKey k = r.storeKey key := by
    intro o ho k hk
    rw [Except.ok.inj (hk.symm.trans ho)]
  unfold Client.createOrUpdate
  refine bindOk fun k hk => ?_
  obtain rfl : key = k := Except.ok.inj (hkey.symm.trans hk)
  refine bindExcept (get r key) fun found => ?_
  cases found with
  | none =>
    refine bindOk fun p hp => ?_
    obtain ⟨o, -, ho, rfl⟩ := Plan.ofAbsent_eq_ok.1 hp
    exact bindExcept (create (named ho)) fun _ => done _ _
  | some existing =>
    refine bindOk fun p hp => ?_
    obtain ⟨d, -, hd, rfl | rfl⟩ := Plan.ofExisting_eq_ok hp
    · exact done _ _
    · exact bindExcept (update (named ((d.key_withStatus _).trans hd))) fun _ => done _ _

end Local

end Converge
