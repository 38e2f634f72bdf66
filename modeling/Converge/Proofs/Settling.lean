import Converge.Proofs.FluxResults
import Converge.Proofs.LocalTurns

/-!
# Operations that settle

Operations that, done again, change nothing.

* `Object.Ordered` : the members of an object are in order, as they are in every object that was read.
* `Settles m` : done again, the operation leaves the store alone. `Settles.seq`: so do two in a row, if they are local to
  different keys and the first one changes nothing when it fails.
* `Plan.Rests` : an object that nothing is to be written to. `settles_createOrUpdate`: creating or updating settles if it leaves
  such objects.
* `ObjectView.Steady` : shaping an object twice is shaping it once. `Reconciler.Settles`, `ObjectReconciler.settles`,
  `FluxReconciler.settles`: installing, updating and uninstalling settle.
-/

namespace Converge

set_option autoImplicit false

/-! ## Objects in order -/

namespace Object

/-- The members of the object are in ascending order, each once. -/
def Ordered (o : Object) : Prop := ∀ es, o.data = .object es → Assoc.Ascending es

/-- An object in order that is given its own status stays as it is. -/
theorem withStatus_status {o : Object} (h : o.Ordered) : o.withStatus o.status = o := by
  obtain ⟨types, metadata, data⟩ := o
  cases data with
  | object es =>
    have hes : Assoc.Ascending es := h es rfl
    have hstatus : Object.status ⟨types, metadata, .object es⟩ = Assoc.get? "status" es := rfl
    rw [hstatus]
    cases hget : Assoc.get? "status" es with
    | none =>
      have herase : Assoc.erase "status" es = es := Assoc.erase_of_get? hget
      show Object.mk types metadata (.object (Assoc.erase "status" es)) = _
      rw [herase]
    | some v =>
      have hinsert : Assoc.insert "status" v es = es := by
        refine (hes.insert "status" v).ext hes fun k => ?_
        by_cases hk : k = "status"
        · rw [hk, Assoc.get?_insert_self, hget]
        · exact Assoc.get?_insert_of_ne hk ..
      show Object.mk types metadata (.object (Assoc.insert "status" v es)) = _
      rw [hinsert]
  | _ => rfl

theorem Ordered.nodup_keys {o : Object} (h : o.Ordered) : (o.data.entries.map (·.1)).Nodup := by
  unfold Json.entries
  split
  · rename_i es hes
    exact (h es hes).nodup_keys
  · exact List.nodup_nil

theorem ordered_filed (k : Flux.Kind) (m : Metadata) (spec : Json) (status : Option Json) :
    (Flux.Item.filed k m spec status).Ordered := by
  intro es hes
  obtain rfl := Json.object.inj hes
  have hlt : (compare "spec" "status").isLT = true := by decide
  cases status with
  | none => exact List.pairwise_singleton ..
  | some v => exact List.pairwise_cons.2 ⟨fun e he => by rw [List.mem_singleton.1 he]; exact hlt, List.pairwise_singleton ..⟩

theorem ordered_shell (r : Resource) (k : ObjectKey) : (Object.shell r k).Ordered := nofun

end Object

namespace Store

/-- Every object in the store is in order. -/
def Ordered (s : Store) : Prop := ∀ k o, s.objects.get? k = some o → o.Ordered

variable {s : Store}

theorem Ordered.created (h : s.Ordered) (k : StoreKey) {o : Object} (ho : o.Ordered) : (s.created k o).Ordered := by
  intro k' o' ho'
  by_cases hk : k' = k
  · rw [hk, get?_created] at ho'
    exact Option.some.inj ho' ▸ ho
  · rw [(s.frame_created k o).entry k' hk] at ho'
    exact h k' o' ho'

theorem Ordered.updated (h : s.Ordered) (k : StoreKey) {o : Object} (ho : o.Ordered) : (s.updated k o).Ordered :=
  h.created k ho

theorem Ordered.deleted (h : s.Ordered) (k : StoreKey) : (s.deleted k).Ordered := by
  intro k' o' ho'
  by_cases hk : k' = k
  · rw [hk, get?_deleted] at ho'
    cases ho'
  · rw [(s.frame_deleted k).entry k' hk] at ho'
    exact h k' o' ho'

end Store

/-! ## Settling -/

variable {τ α β : Type} {K L : StoreKey → Prop}

/-- Done again, the operation leaves the store alone. It keeps objects in order. -/
structure Settles (m : StateM (Store × τ) α) : Prop where
  ordered : ∀ {s} x, Store.Ordered s → (m.run (s, x)).2.1.Ordered
  again : ∀ {s} x y, Store.Ordered s → (m.run ((m.run (s, x)).2.1, y)).2.1 = (m.run (s, x)).2.1

/-- The operation changes nothing when it fails. -/
def Act.Clean (a : Act (Store × τ) α) : Prop := ∀ s x e, (a.run.run (s, x)).1 = .error e → (a.run.run (s, x)).2.1 = s

namespace Settles

theorem of_still {m : StateM (Store × τ) α} (h : ∀ s x, (m.run (s, x)).2.1 = s) : Settles m := by
  refine ⟨fun {s} x hs => ?_, fun x y _ => h _ y⟩
  rw [h s x]
  exact hs

/-- Only the answer is another. -/
theorem map {m : StateM (Store × τ) α} {m' : StateM (Store × τ) β} (g : α → β) (hm : Settles m)
    (h : ∀ p, m'.run p = (g (m.run p).1, (m.run p).2)) : Settles m' := by
  refine ⟨fun x hs => ?_, fun x y hs => ?_⟩
  · rw [h]
    exact hm.ordered x hs
  · rw [h, h]
    exact hm.again x y hs

theorem run_bind (a : Act (Store × τ) α) (f : α → Act (Store × τ) β) (p : Store × τ) : (a >>= f).run.run p =
    match (a.run.run p).1 with
    | .ok v => (f v).run.run (a.run.run p).2
    | .error e => (.error e, (a.run.run p).2) := by
  rcases hrun : a.run p with ⟨e | v, q⟩
  · rw [show a.run.run p = (.error e, q) from hrun]
    exact run_bind_error hrun f
  · rw [show a.run.run p = (.ok v, q) from hrun]
    exact run_bind_ok hrun f

/-- What happens with the answer of an operation is no operation. -/
theorem andThen {a : Act (Store × τ) α} (ha : Settles a.run) (f : α → Except Error β) :
    Settles (a >>= fun v => Act.ofExcept (f v)).run := by
  refine ha.map (fun x => x >>= f) fun p => ?_
  rw [run_bind]
  cases (a.run.run p).1 <;> rfl

theorem bindOk {v : Except Error α} {f : α → Act (Store × τ) β} (hf : ∀ a, v = .ok a → Settles (f a).run) :
    Settles (Act.ofExcept v >>= f).run := by
  cases v with
  | error e => exact of_still fun _ _ => rfl
  | ok a => exact hf a rfl

/-- An operation that does either nothing or what another one does, which settles. -/
theorem of_either {m : StateM (Store × τ) α} {a : StateM (Store × τ) β} (hm : Local K m) (ha : Settles a)
    (h : ∀ p, (m.run p).2.1 = p.1 ∨ (m.run p).2.1 = (a.run p).2.1) : Settles m := by
  refine ⟨fun {s} x hs => ?_, fun {s} x y hs => ?_⟩
  · rcases h (s, x) with hsame | hdone
    · rw [hsame]
      exact hs
    · rw [hdone]
      exact ha.ordered x hs
  · rcases h (s, x) with hsame | hdone
    · rw [hsame, hm.store_eq s y x, hsame]
    · rw [hdone]
      rcases h ((a.run (s, x)).2.1, y) with hsame' | hdone'
      · exact hsame'
      · exact hdone'.trans (ha.again x y hs)

/-- Two operations in a row, local to different keys, of which the first changes nothing when it fails. -/
theorem seq {a : Act (Store × τ) α} {b : Act (Store × τ) β} (hla : Local K a.run) (hlb : Local L b.run)
    (apart : ∀ k, K k → ¬ L k) (clean : a.Clean) (ha : Settles a.run) (hb : Settles b.run) :
    Settles (a >>= fun _ => b).run := by
  have run : ∀ s x, ((a >>= fun _ => b).run.run (s, x)).2.1 =
      match (a.run.run (s, x)).1 with
      | .ok _ => (b.run.run ((a.run.run (s, x)).2.1, x)).2.1
      | .error _ => s := by
    intro s x
    rw [run_bind]
    cases hanswer : (a.run.run (s, x)).1 with
    | error e => exact clean s x e hanswer
    | ok v =>
      have hbeside : (a.run.run (s, x)).2 = ((a.run.run (s, x)).2.1, x) := Prod.ext rfl (hla.beside s x)
      exact congrArg (fun p => (b.run.run p).2.1) hbeside
  refine ⟨fun {s} x hs => ?_, fun {s} x y hs => ?_⟩
  · rw [run]
    cases (a.run.run (s, x)).1 with
    | error e => exact hs
    | ok v => exact hb.ordered x (ha.ordered x hs)
  · cases hanswer : (a.run.run (s, x)).1 with
    | error e =>
      -- the first operation fails again
      have hsame : ((a >>= fun _ => b).run.run (s, x)).2.1 = s := by rw [run, hanswer]
      have hagain : (a.run.run (s, y)).1 = .error e := (hla.answer y x (.refl K s)).trans hanswer
      rw [hsame, run, hagain]
    | ok v =>
      obtain ⟨s₁, hs₁⟩ : ∃ s₁, s₁ = (a.run.run (s, x)).2.1 := ⟨_, rfl⟩
      obtain ⟨s₂, hs₂⟩ : ∃ s₂, s₂ = (b.run.run (s₁, x)).2.1 := ⟨_, rfl⟩
      have hdone : ((a >>= fun _ => b).run.run (s, x)).2.1 = s₂ := by rw [run, hanswer, hs₂, hs₁]
      -- the second operation left alone what the first one did, so that this one changes nothing
      have hagree : Store.Agree K s₂ s₁ := by
        rw [hs₂]
        exact (hlb.frame s₁ x).agree apart
      have hstill : (a.run.run (s₂, y)).2.1 = s₂ := by
        refine hla.still hagree (y := y) ?_
        rw [hs₁]
        exact ha.again x y hs
      have hordered : s₁.Ordered := hs₁ ▸ ha.ordered x hs
      rw [hdone, run]
      cases (a.run.run (s₂, y)).1 with
      | error e => rfl
      | ok v =>
        dsimp only
        rw [hstill, hs₂]
        exact hb.again x y hordered

end Settles

/-! ## Creating or updating -/

/-- Nothing is to be written to the object. -/
def Plan.Rests (key : ObjectKey) (change : Object → Except Error Object) (o : Object) : Prop :=
  ∀ p, ofExisting key o change = .ok p → p = .keep

/-- Nothing is to be written to an object that the change gives back. -/
theorem Plan.rests_of_change {key : ObjectKey} {change : Object → Except Error Object} {o : Object} (h : change o = .ok o) :
    Rests key change o := by
  intro p hp
  obtain ⟨before, d, after, hbefore, hd, -, hafter, rfl⟩ := ofExisting_eq_ok_iff.1 hp
  obtain rfl := Except.ok.inj (h.symm.trans hd)
  obtain rfl := Except.ok.inj ((Object.toJson_withStatus_self hbefore).symm.trans hafter)
  exact if_pos BEq.rfl

/-- What a change leaves of an object that was there, and of a shell, is in order, and nothing more is to be written to it. -/
structure Settling (key : ObjectKey) (shell : Object) (change : Object → Except Error Object) : Prop where
  shell : ∀ d, change shell = .ok d → d.Ordered ∧ Plan.Rests key change d
  object : ∀ o d, o.Ordered → change o = .ok d →
    (d.withStatus o.status).Ordered ∧ Plan.Rests key change (d.withStatus o.status)

section
variable {r : Resource} {key : ObjectKey} {shell : Object} {change : Object → Except Error Object} {s : Store}

theorem run_createOrUpdate_of_rests (hkey : shell.key = .ok key) (served : s.Serves r) {o : Object}
    (there : s.stored r key = some o) (rests : Plan.Rests key change o) :
    ((Store.client.createOrUpdate r shell change).run s).2 = s := by
  rw [run_createOrUpdate_present hkey served there]
  cases hp : Plan.ofExisting key o change with
  | error e => rfl
  | ok p =>
    obtain rfl := rests p hp
    rfl

/-- Creating or updating changes nothing, or leaves an object that nothing more is to be written to. -/
theorem Upserts.settled {x : Except Error Upserted} {s' : Store} (h : Upserts r key shell change s x s')
    (hs : s.Ordered) (hchange : Settling key shell change) :
    s' = s ∨ s'.Ordered ∧ s'.Serves r ∧ ∃ o, s'.stored r key = some o ∧ Plan.Rests key change o := by
  cases h with
  | failed => exact .inl rfl
  | created served absent made named =>
    obtain ⟨hordered, hrests⟩ := hchange.shell _ made
    exact .inr ⟨hs.created _ hordered, served, _, Store.get?_created .., hrests⟩
  | updated served there made named =>
    obtain ⟨hordered, hrests⟩ := hchange.object _ _ (hs _ _ there) made
    exact .inr ⟨hs.updated _ hordered, served, _, Store.get?_updated .., hrests⟩
  | unchanged => exact .inl rfl

theorem settles_createOrUpdate (hkey : shell.key = .ok key) (hchange : Settling key shell change) :
    Settles ((Store.client.beside τ).createOrUpdate r shell change).run := by
  have run : ∀ s x, (((Store.client.beside τ).createOrUpdate r shell change).run.run (s, x)).2.1 =
      ((Store.client.createOrUpdate r shell change).run s).2 := by
    intro s x
    rw [Client.createOrUpdate_beside]
    rfl
  refine ⟨fun {s} x hs => ?_, fun {s} x y hs => ?_⟩
  · rw [run]
    rcases (createOrUpdate_upserts hkey s).settled hs hchange with hsame | ⟨hordered, -⟩
    · rw [hsame]
      exact hs
    · exact hordered
  · rw [run, run]
    rcases (createOrUpdate_upserts hkey s).settled hs hchange with hsame | ⟨-, served, o, there, hrests⟩
    · rw [hsame, hsame]
    · exact run_createOrUpdate_of_rests hkey served there hrests

theorem clean_createOrUpdate (hkey : shell.key = .ok key) :
    Act.Clean ((Store.client.beside τ).createOrUpdate r shell change) := by
  intro s x e he
  have hupserts : Upserts r key shell change s _ _ := createOrUpdate_upserts hkey s
  rw [Client.createOrUpdate_beside] at he ⊢
  obtain ⟨s', hs'⟩ : ∃ s', ((Store.client.createOrUpdate r shell change).run s).2 = s' := ⟨_, rfl⟩
  have he' : ((Store.client.createOrUpdate r shell change).run s).1 = .error e := he
  show ((Store.client.createOrUpdate r shell change).run s).2 = s
  rw [he', hs'] at hupserts
  rw [hs']
  cases hupserts with
  | failed => rfl

end

/-! ## Deleting -/

/-- Neither a missing object nor a type that is not served counts as a failure. -/
theorem run_delete_absent {r : Resource} {k : ObjectKey} {s : Store} (absent : s.Serves r → s.stored r k = none) :
    ∃ e, (Store.client.delete r k).run s = (.error e, s) ∧ Error.ignoreMissing (.error e) = .ok () := by
  by_cases served : s.Serves r
  · have herror : Store.delete r k s = .error (.notFound r.kind k.text) := by
      rw [Store.delete_eq served, absent served]
      rfl
    exact ⟨_, Act.run_ofStep_error herror, rfl⟩
  · exact ⟨_, Store.run_unserved (f := Store.delete r k) served rfl, rfl⟩

theorem run_delete_cases (r : Resource) (k : ObjectKey) (s : Store) :
    (Store.client.delete r k).run s = (.ok (), s.deleted (r.storeKey k)) ∨
      ∃ e, (Store.client.delete r k).run s = (.error e, s) := by
  by_cases absent : s.Serves r → s.stored r k = none
  · obtain ⟨e, hfailed, -⟩ := run_delete_absent absent
    exact .inr ⟨e, hfailed⟩
  · rw [Classical.not_imp] at absent
    obtain ⟨o, ho⟩ := Option.ne_none_iff_exists'.1 absent.2
    exact .inl (Store.run_delete absent.1 ho)

theorem settles_delete (r : Resource) (k : ObjectKey) : Settles ((Store.client.beside τ).delete r k).run := by
  have run : ∀ s x, (((Store.client.beside τ).delete r k).run.run (s, x)).2.1 = ((Store.client.delete r k).run s).2 :=
    fun _ _ => rfl
  refine ⟨fun {s} x hs => ?_, fun {s} x y hs => ?_⟩
  · rw [run]
    rcases run_delete_cases r k s with hdone | ⟨e, hfailed⟩
    · rw [hdone]
      exact hs.deleted _
    · rw [hfailed]
      exact hs
  · rw [run, run]
    rcases run_delete_cases r k s with hdone | ⟨e, hfailed⟩
    · obtain ⟨e, hagain, -⟩ := run_delete_absent (r := r) (k := k) (s := s.deleted (r.storeKey k)) fun _ => Store.get?_deleted ..
      rw [hdone, hagain]
    · rw [hfailed, hfailed]

/-- Removing an object that may be missing. -/
theorem settles_discard (r : Resource) (k : ObjectKey) : Settles ((Store.client.beside τ).discard r k).run :=
  Settles.andThen ((settles_delete r k).map .ok fun _ => rfl) _

theorem clean_discard (r : Resource) (k : ObjectKey) : Act.Clean ((Store.client.beside τ).discard r k) := by
  intro s x e he
  have run : ((Store.client.beside τ).discard r k).run.run (s, x) =
      (Error.ignoreMissing ((Store.client.delete r k).run s).1, ((Store.client.delete r k).run s).2, x) := rfl
  rw [run] at he ⊢
  rcases run_delete_cases r k s with hdone | ⟨e', hfailed⟩
  · rw [hdone] at he
    cases he
  · rw [hfailed]

/-! ## Reconcilers of objects -/

/-- What the component makes of an object it makes of it once and for all, and the status is none of its business. -/
structure ObjectView.Steady {σ : Type} (config : Config) (c : Component σ) (v : ObjectView) : Prop where
  again : ∀ o d, o.Ordered → ObjectReconciler.shape config c v o = .ok d → ObjectReconciler.shape config c v d = .ok d
  status : ∀ o d, o.Ordered → ObjectReconciler.shape config c v o = .ok d → d.status = o.status
  ordered : ∀ o d, o.Ordered → ObjectReconciler.shape config c v o = .ok d → d.Ordered

theorem ObjectView.Steady.settling {σ : Type} {config : Config} {c : Component σ} {v : ObjectView} (h : v.Steady config c)
    (i : ObjectIdentity) : Settling i.key i.shell (ObjectReconciler.shape config c v) := by
  have hshell : i.shell.Ordered := Object.ordered_shell i.resource i.key
  refine ⟨fun d hd => ?_, fun o d ho hd => ?_⟩
  · exact ⟨h.ordered _ d hshell hd, Plan.rests_of_change (h.again _ d hshell hd)⟩
  · have hsame : d.withStatus o.status = d := by
      rw [← h.status o d ho hd]
      exact Object.withStatus_status (h.ordered o d ho hd)
    rw [hsame]
    exact ⟨h.ordered o d ho hd, Plan.rests_of_change (h.again o d ho hd)⟩

/-- What a reconciler does for a component settles, and looking at it changes nothing. -/
structure Reconciler.Settles (r : Reconciler (Store × τ)) (c : Component (Store × τ)) : Prop where
  observe : (r.observe c).Quiet
  preInstall : (r.preInstall c).Quiet
  preUpdate : (r.preUpdate c).Quiet
  preUninstall : (r.preUninstall c).Quiet
  update : r.update c = r.install c
  install : Converge.Settles (r.install c).run
  uninstall : Converge.Settles (r.uninstall c).run

theorem Component.Candid.quiet_hook {c : Component (Store × τ)} (h : c.Candid) (phase : HookPhase)
    (client : Client (Store × τ)) : (c.runHook phase client).Quiet :=
  fun p => congrArg Prod.snd (h.passive.run_hook phase client p)

theorem quiet_get (r : Resource) (k : ObjectKey) : ((Store.client.beside τ).get r k).Quiet := by
  rintro ⟨s, x⟩
  show ((((Store.client.get r k).run s).2, x) : Store × τ) = (s, x)
  by_cases served : s.Serves r
  · rw [Store.run_get served]
  · rw [Store.run_get_unserved served]

namespace ObjectReconciler

variable {r : ObjectReconciler (Store × τ)} (hr : r.client = Store.client.beside τ)
include hr

theorem quiet_observe (c : Component (Store × τ)) : (r.observe c).Quiet := by
  rw [observe_eq, hr]
  exact .bind (.ofExcept _) fun (_, i) => .bind (quiet_get i.resource i.key).attempt fun _ => .ofExcept _

theorem settles {c : Component (Store × τ)} (hc : c.Candid) (steady : ∀ v, c.object = some v → v.Steady r.config c) :
    r.toReconciler.Settles c where
  observe := quiet_observe hr c
  preInstall := hc.quiet_hook _ _
  preUpdate := hc.quiet_hook _ _
  preUninstall := hc.quiet_hook _ _
  update := rfl
  install := by
    show Settles (r.apply c).run
    unfold apply
    rw [hr]
    refine .bindOk fun (v, i) hview => ?_
    have hsteady := steady v (owns_of_view hview).object
    exact .andThen (settles_createOrUpdate (Object.key_shell i.resource i.key) (hsteady.settling i)) fun _ => .ok ()
  uninstall := by
    show Settles (r.uninstall c).run
    unfold uninstall
    rw [hr]
    refine .bindOk fun (v, i) _ => ?_
    exact settles_discard i.resource i.key

end ObjectReconciler

/-! ## Reconcilers of pairs of Flux objects -/

namespace FluxReconciler

open Flux

theorem settling (desired : Manifest) (labels : Labels) : Settling desired.key (shellOf desired) (change desired labels) := by
  refine ⟨fun d hd => ?_, fun o d ho hd => ?_⟩
  · obtain ⟨current, wanted, loaded, hwanted, ⟨-, rfl⟩ | ⟨m, hread, hwrite, -, rfl⟩⟩ := change_cases hd
    · exact ⟨Object.ordered_filed _ _ _ _, Plan.rests_of_change hd⟩
    · obtain rfl : desired.item.bare = current := Except.ok.inj ((ofObject_shellOf desired).symm.trans loaded)
      have hstatus : Item.ReadsStatus none desired.item.bare.status := rfl
      have hloads := loads_filed hwanted hread hwrite hstatus
      exact ⟨Object.ordered_filed _ _ _ _, Plan.rests_of_change
        (change_of_settled hloads hwanted (Item.Left.written hread hwrite).settled)⟩
  · obtain ⟨current, wanted, loaded, hwanted, ⟨-, rfl⟩ | ⟨m, hread, hwrite, -, rfl⟩⟩ := change_cases hd
    · rw [Object.withStatus_status ho]
      exact ⟨ho, Plan.rests_of_change hd⟩
    · have hloads := loads_filed hwanted hread hwrite (Item.readsStatus_of_ofObject loaded ho.nodup_keys)
      rw [Item.withStatus_filed]
      exact ⟨Object.ordered_filed _ _ _ _, Plan.rests_of_change
        (change_of_settled hloads hwanted (Item.Left.written hread hwrite).settled)⟩

theorem quiet_observeHalf (desired : Manifest) : (observeHalf (Store.client.beside τ) desired).Quiet := by
  rw [observeHalf_eq]
  exact .bind (quiet_get desired.resource desired.key).attempt fun _ => .ofExcept _

variable {r : FluxReconciler (Store × τ)} (hr : r.client = Store.client.beside τ)
include hr

theorem upsert_eq_andThen (c : Component (Store × τ)) (desired : Manifest) : r.upsert c desired =
    ((Store.client.beside τ).createOrUpdate desired.resource (shellOf desired) (change desired (r.labels c)) >>=
      fun _ => Act.ofExcept (.ok ())) := by
  unfold upsert
  rw [hr, bare_toObject]
  rfl

theorem settles_upsert (c : Component (Store × τ)) (desired : Manifest) : Settles (r.upsert c desired).run := by
  rw [upsert_eq_andThen hr]
  exact .andThen (settles_createOrUpdate (shellOf_key desired) (settling desired _)) _

theorem clean_upsert (c : Component (Store × τ)) (desired : Manifest) : (r.upsert c desired).Clean := by
  rw [upsert_eq_andThen hr]
  intro s x e he
  rw [Settles.run_bind] at he ⊢
  cases hanswer : (((Store.client.beside τ).createOrUpdate desired.resource (shellOf desired)
      (change desired (r.labels c))).run.run (s, x)).1 with
  | ok u =>
    rw [hanswer] at he
    cases he
  | error e' => exact clean_createOrUpdate (shellOf_key desired) s x e' hanswer

theorem quiet_observe (c : Component (Store × τ)) : (r.observe c).Quiet := by
  unfold observe
  rw [hr]
  refine .bind (.ofExcept _) fun (source, deployment) => ?_
  exact .bind (quiet_observeHalf source) fun _ => .bind (quiet_observeHalf deployment) fun _ => .done _

theorem settles {c : Component (Store × τ)} (hc : c.Candid)
    (halves : ∀ source deployment, pair c = .ok (source, deployment) → source.storeKey ≠ deployment.storeKey) :
    r.toReconciler.Settles c where
  observe := quiet_observe hr c
  preInstall := hc.quiet_hook _ _
  preUpdate := hc.quiet_hook _ _
  preUninstall := hc.quiet_hook _ _
  update := rfl
  install := by
    show Settles (r.apply c).run
    unfold apply
    refine .bindOk fun (source, deployment) hpair => ?_
    have apart : ∀ k, k = source.storeKey → ¬ k = deployment.storeKey := fun _ hk hk' =>
      halves source deployment hpair (hk.symm.trans hk')
    exact .seq (local_upsert hr c source) (local_upsert hr c deployment) apart (clean_upsert hr c source)
      (settles_upsert hr c source) (settles_upsert hr c deployment)
  uninstall := by
    show Settles (r.uninstall c).run
    unfold uninstall
    rw [hr]
    refine .bindOk fun (source, deployment) hpair => ?_
    have apart : ∀ k, k = deployment.storeKey → ¬ k = source.storeKey := fun _ hk hk' =>
      halves source deployment hpair (hk'.symm.trans hk)
    exact .seq (local_removeHalf deployment) (local_removeHalf source) apart (clean_discard _ _) (settles_discard _ _)
      (settles_discard _ _)

end FluxReconciler

end Converge
