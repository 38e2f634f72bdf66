import Converge.Proofs.StoreEffects
import Mathlib.Data.List.Basic

/-!
# What a store comes to

* `Store.Operation` is a call on a store, and `Store.exchanges` runs operations in a row and notes the answers.
* `Store.Lists` : objects are those that a list asks for; `lists_entries`, `Lists.unique`. `Store.Grants` : how an operation
  succeeds; `run_eq_ok_iff`: there is no other way, and `eq_of_run_error`: one that fails does nothing.
* `LastLeft` : what was left under a key by the last exchange that left anything there. `Accounts` : a store is what exchanges come
  to; `Accounts.push`: one more of them keeps it so, `Accounts.exchanges`: so do all in a row.
* `Faithful` : a store holds what was written, counts it and gives it back; `exchanges_faithful`: so it does after any operations.
-/

namespace Converge

set_option autoImplicit false

namespace Store

/-! ## Operations in a row -/

/-- A call on a store. Seeding is not counted, all others are those of its client. -/
inductive Operation where
  | seed (r : Resource) (o : Object)
  | get (r : Resource) (k : ObjectKey)
  | create (r : Resource) (o : Object)
  | update (r : Resource) (o : Object)
  | delete (r : Resource) (k : ObjectKey)
  | list (r : Resource) (options : ListOptions)

inductive Answer where
  | done
  | found (o : Option Object)
  | written (o : Object)
  | listed (os : List Object)

namespace Operation

/-- The type that an operation names. -/
def resource : Operation → Resource
  | seed r _ | get r _ | create r _ | update r _ | delete r _ | list r _ => r

/-- The operation as it is carried out. -/
def act : Operation → Act Store Answer
  | seed r o => do Act.ofStep fun s => (Store.seed r o s).map fun t => ((), t); return .done
  | get r k => do return .found (← client.get r k)
  | create r o => do return .written (← client.create r o)
  | update r o => do return .written (← client.update r o)
  | delete r k => do client.delete r k; return .done
  | list r options => do return .listed (← client.list r options)

def isCreate : Operation → Bool
  | create .. => true
  | _ => false

def isUpdate : Operation → Bool
  | update .. => true
  | _ => false

def isDelete : Operation → Bool
  | delete .. => true
  | _ => false

/-- The operation seeds an object under a key that the store does not have. -/
def plants (s : Store) : Operation → Bool
  | seed r o =>
    match o.key with
    | .ok k => (s.stored r k).isNone
    | .error _ => false
  | _ => false

theorem plants_seed {s : Store} {r : Resource} {o : Object} {k : ObjectKey} (named : o.key = .ok k) :
    (seed r o).plants s = (s.stored r k).isNone := by
  unfold plants
  dsimp only
  rw [named]

/-- What the operation leaves under a key if it succeeds: an object, or none. -/
inductive Leaves : Operation → StoreKey → Option Object → Prop
  | seed {r o k} (named : o.key = .ok k) : Leaves (.seed r o) (r.storeKey k) (some (o.typed r))
  | create {r o k} (named : o.key = .ok k) : Leaves (.create r o) (r.storeKey k) (some o)
  | update {r o k} (named : o.key = .ok k) : Leaves (.update r o) (r.storeKey k) (some o)
  | delete (r k) : Leaves (.delete r k) (r.storeKey k) none

/-- An operation leaves something under one key only, and one thing. -/
theorem Leaves.unique {op : Operation} {k k' : StoreKey} {p p' : Option Object} (h : op.Leaves k p) (h' : op.Leaves k' p') :
    k' = k ∧ p' = p := by
  cases h with
  | seed named | create named | update named =>
    cases h' with
    | _ named' =>
      obtain rfl := Except.ok.inj (named.symm.trans named')
      exact ⟨rfl, rfl⟩
  | delete =>
    cases h'
    exact ⟨rfl, rfl⟩

/-- An object is left under the names of the type and under its own key. -/
theorem Leaves.filed {op : Operation} {k : StoreKey} {o : Object} (h : op.Leaves k (some o)) :
    ∃ key, o.key = .ok key ∧ k = op.resource.storeKey key := by
  cases h with
  | seed named => exact ⟨_, named, rfl⟩
  | create named => exact ⟨_, named, rfl⟩
  | update named => exact ⟨_, named, rfl⟩

end Operation

/-- An operation and the answer to it, with the store that it met. -/
structure Exchange where
  before : Store
  operation : Operation
  answer : Except Error Answer

/-- Operations one after the other. -/
def exchanges : List Operation → StateM Store (List Exchange)
  | [] => pure []
  | op :: rest => do
    let before ← MonadState.get
    let answer ← op.act.run
    return ⟨before, op, answer⟩ :: (← exchanges rest)

theorem exchanges_cons_run (op : Operation) (rest : List Operation) (s : Store) :
    (exchanges (op :: rest)).run s = (⟨s, op, (op.act.run s).1⟩ :: ((exchanges rest).run (op.act.run s).2).1,
      ((exchanges rest).run (op.act.run s).2).2) :=
  rfl

/-! ## Lists -/

/-- An object under a key is among those that the options ask for. -/
structure Asked (options : ListOptions) (k : ObjectKey) (o : Object) : Prop where
  within : ∀ ns, options.ns? = some ns → k.ns? = some ns
  selected : ∀ selector, options.selector = some selector → Selector.selects selector o.metadata.labelMap = true

/-- The objects are those of the type that the options ask for, each once, in the order of their keys. -/
def Lists (s : Store) (r : Resource) (options : ListOptions) (os : List Object) : Prop :=
  ∃ keys : List ObjectKey, keys.Pairwise (fun a b => compare a b = .lt) ∧ os.map some = keys.map (s.stored r) ∧
    ∀ k, k ∈ keys ↔ ∃ o, s.stored r k = some o ∧ Asked options k o

section
variable {s : Store} {r : Resource} {options : ListOptions}

theorem matching_iff {e : StoreKey × Object} :
    matching r options e = true ↔ r.storeKey e.1.key = e.1 ∧ Asked options e.1.key e.2 := by
  obtain ⟨⟨apiVersion, kind, key⟩, o⟩ := e
  unfold matching
  simp only [Bool.and_eq_true, beq_iff_eq, Resource.storeKey, StoreKey.mk.injEq, and_true, and_assoc]
  constructor
  · rintro ⟨rfl, rfl, within, selected⟩
    refine ⟨rfl, rfl, fun ns hns => ?_, fun selector hs => ?_⟩
    · rwa [hns, beq_iff_eq] at within
    · rwa [hs] at selected
  · rintro ⟨rfl, rfl, within, selected⟩
    refine ⟨rfl, rfl, ?_, ?_⟩
    · cases hns : options.ns? with
      | none => rfl
      | some ns => exact beq_iff_eq.mpr (within ns hns)
    · cases hs : options.selector with
      | none => rfl
      | some selector => exact selected selector hs

/-- Keys of one type are in the order of their names and namespaces. -/
theorem compare_storeKey (r : Resource) (a b : ObjectKey) : compare (r.storeKey a) (r.storeKey b) = compare a b := by
  show (compare r.apiVersion r.apiVersion).then ((compare r.kind r.kind).then (compare a b)) = _
  rw [Std.ReflOrd.compare_self, Std.ReflOrd.compare_self]
  rfl

/-- What matches in the order of the entries is what is asked for. -/
theorem lists_entries (s : Store) (r : Resource) (options : ListOptions) :
    s.Lists r options ((s.objects.entries.filter (matching r options)).map (·.2)) := by
  have matched : ∀ e ∈ s.objects.entries.filter (matching r options),
      s.stored r e.1.key = some e.2 ∧ r.storeKey e.1.key = e.1 ∧ Asked options e.1.key e.2 := by
    intro e he
    obtain ⟨there, meets⟩ := List.mem_filter.mp he
    obtain ⟨filed, asked⟩ := matching_iff.mp meets
    refine ⟨?_, filed, asked⟩
    unfold stored
    rw [filed]
    exact (s.objects.mem_entries_iff e.1 e.2).mp there
  refine ⟨(s.objects.entries.filter (matching r options)).map (·.1.key), ?order, ?objects, fun k => ⟨?listed, ?asked⟩⟩
  case order =>
    rw [List.pairwise_map]
    refine (s.objects.ascending.filter _).imp_of_mem fun {a b} ha hb lt => ?_
    rw [← (matched a ha).2.1, ← (matched b hb).2.1, compare_storeKey, Ordering.isLT_iff_eq_lt] at lt
    exact lt
  case objects =>
    rw [List.map_map, List.map_map]
    exact List.map_congr_left fun e he => (matched e he).1.symm
  case listed =>
    intro hk
    obtain ⟨e, he, rfl⟩ := List.mem_map.mp hk
    exact ⟨e.2, (matched e he).1, (matched e he).2.2⟩
  case asked =>
    rintro ⟨o, ho, asked⟩
    have there : (r.storeKey k, o) ∈ s.objects.entries := (s.objects.mem_entries_iff _ _).mpr ho
    exact List.mem_map.mpr ⟨_, List.mem_filter.mpr ⟨there, matching_iff.mpr ⟨rfl, asked⟩⟩, rfl⟩

/-- There is one list only of what is asked for. -/
theorem Lists.unique {os os' : List Object} (h : s.Lists r options os) (h' : s.Lists r options os') : os = os' := by
  obtain ⟨keys, order, objects, listed⟩ := h
  obtain ⟨keys', order', objects', listed'⟩ := h'
  have nodup : ∀ {ks : List ObjectKey}, ks.Pairwise (fun a b => compare a b = .lt) → ks.Nodup := fun ho =>
    ho.imp fun {a b} lt same => by
      rw [same, Std.ReflOrd.compare_self] at lt
      cases lt
  have perm : keys.Perm keys' := (List.perm_ext_iff_of_nodup (nodup order) (nodup order')).mpr fun k =>
    (listed k).trans (listed' k).symm
  obtain rfl : keys = keys' := by
    refine perm.eq_of_pairwise ?_ order order'
    intro a b _ _ (lt : compare a b = .lt) (gt : compare b a = .lt)
    exact absurd gt (Std.OrientedCmp.not_lt_of_lt lt)
  exact List.map_injective_iff.mpr (fun _ _ => Option.some.inj) (objects.trans objects'.symm)

end

/-! ## How operations succeed -/

/-- How an operation succeeds: its answer, and the store after it. -/
inductive Grants (s : Store) : Operation → Answer → Store → Prop
  | seed {r o k} (named : o.key = .ok k) : Grants s (.seed r o) .done (s.seeded (r.storeKey k) (o.typed r))
  | get {r} (k) (served : s.Serves r) : Grants s (.get r k) (.found (s.stored r k)) s
  | create {r o k} (served : s.Serves r) (named : o.key = .ok k) (free : s.stored r k = none) :
    Grants s (.create r o) (.written o) (s.created (r.storeKey k) o)
  | update {r o k} (served : s.Serves r) (named : o.key = .ok k) (there : s.stored r k ≠ none) :
    Grants s (.update r o) (.written o) (s.updated (r.storeKey k) o)
  | delete {r k} (served : s.Serves r) (there : s.stored r k ≠ none) : Grants s (.delete r k) .done (s.deleted (r.storeKey k))
  | list {r options os} (served : s.Serves r) (lists : s.Lists r options os) : Grants s (.list r options) (.listed os) s

section
variable {s t : Store} {op : Operation}

/-- An operation succeeds so, and in no other way. -/
theorem run_eq_ok_iff {a : Answer} : op.act.run s = (.ok a, t) ↔ s.Grants op a t := by
  cases op with
  | seed r o =>
    refine (Act.run_ofStep_map_eq_ok (f := fun s => (Store.seed r o s).map fun t => ((), t))).trans ⟨?_, fun h => ?_⟩
    · rintro ⟨x, hx, rfl⟩
      obtain ⟨_, hs, same⟩ := map_eq_ok.mp hx
      cases same
      obtain ⟨k, named, rfl⟩ := seed_eq_ok.mp hs
      exact .seed named
    · cases h with
      | seed named => exact ⟨(), map_eq_ok.mpr ⟨_, seed_eq_ok.mpr ⟨_, named, rfl⟩, rfl⟩, rfl⟩
  | get r k =>
    refine (Act.run_ofStep_map_eq_ok (f := Store.get r k)).trans ⟨?_, fun h => ?_⟩
    · rintro ⟨x, hx, rfl⟩
      obtain ⟨served, rfl, rfl⟩ := get_eq_ok.mp hx
      exact .get k served
    · cases h with
      | get _ served => exact ⟨_, get_eq_ok.mpr ⟨served, rfl, rfl⟩, rfl⟩
  | create r o =>
    refine (Act.run_ofStep_map_eq_ok (f := Store.create r o)).trans ⟨?_, fun h => ?_⟩
    · rintro ⟨x, hx, rfl⟩
      obtain ⟨served, rfl, k, named, free, rfl⟩ := create_eq_ok.mp hx
      exact .create served named free
    · cases h with
      | create served named free => exact ⟨_, create_eq_ok.mpr ⟨served, rfl, _, named, free, rfl⟩, rfl⟩
  | update r o =>
    refine (Act.run_ofStep_map_eq_ok (f := Store.update r o)).trans ⟨?_, fun h => ?_⟩
    · rintro ⟨x, hx, rfl⟩
      obtain ⟨served, rfl, k, named, there, rfl⟩ := update_eq_ok.mp hx
      exact .update served named there
    · cases h with
      | update served named there => exact ⟨_, update_eq_ok.mpr ⟨served, rfl, _, named, there, rfl⟩, rfl⟩
  | delete r k =>
    refine (Act.run_ofStep_map_eq_ok (f := Store.delete r k)).trans ⟨?_, fun h => ?_⟩
    · rintro ⟨x, hx, rfl⟩
      obtain ⟨served, there, rfl⟩ := delete_eq_ok.mp hx
      exact .delete served there
    · cases h with
      | delete served there => exact ⟨(), delete_eq_ok.mpr ⟨served, there, rfl⟩, rfl⟩
  | list r options =>
    refine (Act.run_ofStep_map_eq_ok (f := Store.list r options)).trans ⟨?_, fun h => ?_⟩
    · rintro ⟨x, hx, rfl⟩
      obtain ⟨served, rfl, rfl⟩ := list_eq_ok.mp hx
      exact .list served (lists_entries _ r options)
    · cases h with
      | list served lists => exact ⟨_, list_eq_ok.mpr ⟨served, lists.unique (lists_entries _ r options), rfl⟩, rfl⟩

/-- An operation that fails leaves the store alone. -/
theorem eq_of_run_error {e : Error} (h : op.act.run s = (.error e, t)) : t = s := by
  cases op <;> exact Act.eq_of_run_ofStep_map_error h

namespace Grants
variable {a : Answer} (h : s.Grants op a t)
include h

theorem leaves {k : StoreKey} {p : Option Object} (left : op.Leaves k p) : t.objects.get? k = p := by
  cases h with
  | seed named =>
    obtain ⟨rfl, rfl⟩ := (Operation.Leaves.seed named).unique left
    exact s.get?_seeded _ _
  | create _ named =>
    obtain ⟨rfl, rfl⟩ := (Operation.Leaves.create named).unique left
    exact s.get?_created _ _
  | update _ named =>
    obtain ⟨rfl, rfl⟩ := (Operation.Leaves.update named).unique left
    exact s.get?_updated _ _
  | delete =>
    obtain ⟨rfl, rfl⟩ := (Operation.Leaves.delete _ _).unique left
    exact s.get?_deleted _
  | get | list => cases left

/-- No key is touched but the one under which something is left. -/
theorem frame : s.Frame t fun k => ∃ p, op.Leaves k p := by
  cases h with
  | seed named => exact (s.frame_seeded _ _).mono fun | _, rfl => ⟨_, .seed named⟩
  | get => exact .refl s _
  | create _ named => exact (s.frame_created _ _).mono fun | _, rfl => ⟨_, .create named⟩
  | update _ named => exact (s.frame_updated _ _).mono fun | _, rfl => ⟨_, .update named⟩
  | delete => exact (s.frame_deleted _).mono fun | _, rfl => ⟨_, .delete _ _⟩
  | list => exact .refl s _

theorem counts : t.creates = s.creates + (if op.isCreate then 1 else 0) ∧
    t.updates = s.updates + (if op.isUpdate then 1 else 0) ∧ t.deletes = s.deletes + (if op.isDelete then 1 else 0) := by
  cases h <;> exact ⟨rfl, rfl, rfl⟩

/-- What is planted or created makes one more entry, and what is deleted one less. -/
theorem size : t.objects.size + t.deletes + s.creates =
    s.objects.size + s.deletes + t.creates + (if op.plants s then 1 else 0) := by
  cases h with
  | seed named =>
    show (s.objects.insert _ _).size + s.deletes + s.creates = s.objects.size + s.deletes + s.creates + _
    rw [SortedMap.size_insert, Operation.plants_seed named]
    simp only [Option.isNone_iff_eq_none, stored]
    omega
  | get => rfl
  | create _ _ free =>
    have new : s.objects.get? _ = none := free
    unfold created
    rw [SortedMap.size_insert, if_pos new]
    simp only [Operation.plants, Bool.false_eq_true, if_false]
    omega
  | update _ _ there =>
    have old : s.objects.get? _ ≠ none := there
    unfold updated
    rw [SortedMap.size_insert, if_neg old]
    rfl
  | delete _ there =>
    have less := s.objects.size_erase there
    simp only [deleted, Operation.plants, Bool.false_eq_true, if_false]
    omega
  | list => rfl

end Grants

end

/-! ## What exchanges come to -/

namespace Exchange

def succeeded (x : Exchange) : Bool := x.answer.toBool

/-- The exchange left an object under a key, or none. -/
def Left (x : Exchange) (k : StoreKey) (p : Option Object) : Prop := x.succeeded = true ∧ x.operation.Leaves k p

end Exchange

/-- How many exchanges of a sort succeeded. -/
def successes (sort : Exchange → Bool) (log : List Exchange) : Nat := log.countP fun x => x.succeeded && sort x

/-- The last exchange that left anything under the key left this. -/
def LastLeft (log : List Exchange) (k : StoreKey) (p : Option Object) : Prop :=
  ∃ before x after, log = before ++ x :: after ∧ x.Left k p ∧ ∀ y ∈ after, ∀ q, ¬ y.Left k q

/-- A store that began without objects is what the exchanges come to. -/
structure Accounts (unserved : List String) (log : List Exchange) (s : Store) : Prop where
  unserved : s.unserved = unserved
  /-- What is under a key was left there by the last exchange that left anything there. -/
  entry : ∀ k o, s.objects.get? k = some o ↔ LastLeft log k (some o)
  creates : s.creates = successes (·.operation.isCreate) log
  updates : s.updates = successes (·.operation.isUpdate) log
  deletes : s.deletes = successes (·.operation.isDelete) log
  /-- All that was planted or created is there, but for what was deleted. -/
  size : s.objects.size + s.deletes = successes (fun x => x.operation.plants x.before) log + s.creates

section
variable {log : List Exchange} {x : Exchange} {k : StoreKey} {p : Option Object}

theorem lastLeft_snoc : LastLeft (log ++ [x]) k p ↔ x.Left k p ∨ (∀ q, ¬ x.Left k q) ∧ LastLeft log k p := by
  constructor
  · rintro ⟨before, y, after, split, left, rest⟩
    rcases List.eq_nil_or_concat' after with rfl | ⟨after, z, rfl⟩
    · obtain ⟨-, same⟩ := List.append_inj' split rfl
      cases same
      exact .inl left
    · rw [← List.cons_append, ← List.append_assoc] at split
      obtain ⟨rfl, same⟩ := List.append_inj' split rfl
      cases same
      exact .inr ⟨rest x (by simp), before, y, after, rfl, left, fun w hw => rest w (by simp [hw])⟩
  · rintro (left | ⟨kept, before, y, after, rfl, left, rest⟩)
    · exact ⟨log, x, [], rfl, left, fun y hy => absurd hy List.not_mem_nil⟩
    · refine ⟨before, y, after ++ [x], by simp, left, fun w hw => ?_⟩
      rcases List.mem_append.mp hw with hw | hw
      · exact rest w hw
      · exact List.mem_singleton.mp hw ▸ kept

theorem successes_snoc (sort : Exchange → Bool) :
    successes sort (log ++ [x]) = successes sort log + (if x.succeeded && sort x then 1 else 0) := by
  unfold successes
  rw [List.countP_append, List.countP_singleton]

end

namespace Accounts
variable {unserved : List String} {log : List Exchange} {s t : Store}

/-- Nothing was done to an empty store. -/
theorem empty (unserved : List String) : Accounts unserved [] { unserved } := by
  refine ⟨rfl, fun k o => ⟨nofun, ?_⟩, rfl, rfl, rfl, rfl⟩
  rintro ⟨before, x, after, split, -⟩
  cases before <;> cases split

section
variable (h : Accounts unserved log s)
include h

/-- A failure leaves nothing behind and does not count. -/
theorem failed (op : Operation) (e : Error) : Accounts unserved (log ++ [⟨s, op, .error e⟩]) s := by
  have nothing : ∀ k q, ¬ (⟨s, op, .error e⟩ : Exchange).Left k q := fun k q left => Bool.false_ne_true left.1
  have uncounted : ∀ sort, successes sort (log ++ [⟨s, op, .error e⟩]) = successes sort log := fun sort => by
    rw [successes_snoc]
    rfl
  refine ⟨h.unserved, fun k o => ?_, ?_, ?_, ?_, ?_⟩
  · rw [h.entry, lastLeft_snoc]
    exact ⟨fun last => .inr ⟨nothing k, last⟩, fun last => (last.resolve_left (nothing k _)).2⟩
  · rw [uncounted, h.creates]
  · rw [uncounted, h.updates]
  · rw [uncounted, h.deletes]
  · rw [uncounted, h.size]

/-- A success leaves what it says under its key, and counts. -/
theorem granted {op : Operation} {a : Answer} (grants : s.Grants op a t) : Accounts unserved (log ++ [⟨s, op, .ok a⟩]) t := by
  have counted : ∀ sort, successes sort (log ++ [⟨s, op, .ok a⟩]) =
      successes sort log + (if sort ⟨s, op, .ok a⟩ then 1 else 0) := fun sort => successes_snoc sort
  obtain ⟨creates, updates, deletes⟩ := grants.counts
  refine ⟨grants.frame.unserved.trans h.unserved, fun k o => ?entry, ?_, ?_, ?_, ?size⟩
  case entry =>
    rw [lastLeft_snoc]
    by_cases touched : ∃ p, op.Leaves k p
    · obtain ⟨p, left⟩ := touched
      rw [grants.leaves left]
      constructor
      · rintro rfl
        exact .inl ⟨rfl, left⟩
      · rintro (⟨-, left'⟩ | ⟨kept, -⟩)
        · exact (grants.leaves left).symm.trans (grants.leaves left')
        · exact absurd ⟨rfl, left⟩ (kept p)
    · rw [grants.frame.entry k touched, h.entry]
      exact ⟨fun last => .inr ⟨fun q left => touched ⟨q, left.2⟩, last⟩,
        fun last => (last.resolve_left fun left => touched ⟨_, left.2⟩).2⟩
  case size =>
    have before := h.size
    have after := grants.size
    rw [counted]
    dsimp only
    omega
  · rw [counted, creates, h.creates]
  · rw [counted, updates, h.updates]
  · rw [counted, deletes, h.deletes]

/-- One more exchange is accounted for, however it ends. -/
theorem push (op : Operation) : Accounts unserved (log ++ [⟨s, op, (op.act.run s).1⟩]) (op.act.run s).2 := by
  rcases hrun : op.act.run s with ⟨e | a, t⟩
  · obtain rfl := eq_of_run_error hrun
    exact h.failed op e
  · exact h.granted (run_eq_ok_iff.mp hrun)

end

/-- Exchanges in a row are accounted for. -/
theorem exchanges (ops : List Operation) (h : Accounts unserved log s) :
    Accounts unserved (log ++ ((Store.exchanges ops).run s).1) ((Store.exchanges ops).run s).2 := by
  induction ops generalizing log s with
  | nil => exact (List.append_nil log).symm ▸ h
  | cons op rest ih =>
    rw [exchanges_cons_run]
    have all := ih (h.push op)
    rwa [List.append_assoc] at all

end Accounts

/-! ## What a store is good for -/

/-- A store that began without objects holds what was written, counts it and gives it back. -/
structure Faithful (unserved : List String) (log : List Exchange) (s : Store) : Prop extends Accounts unserved log s where
  /-- An object is under the type that it was written with, and under its own name and namespace. -/
  filed : ∀ k o, s.objects.get? k = some o → o.key = .ok k.key ∧
    ∃ x ∈ log, x.Left k (some o) ∧ x.operation.resource.apiVersion = k.apiVersion ∧ x.operation.resource.kind = k.kind
  grants : ∀ (op : Operation) a t, op.act.run s = (.ok a, t) ↔ s.Grants op a t
  failed : ∀ (op : Operation) e t, op.act.run s = (.error e, t) → t = s
  /-- What is got is what the last exchange left there that left anything there. -/
  reads : ∀ r k, s.Serves r →
    ∃ x, (client.get r k).run s = (.ok x, s) ∧ ∀ o, x = some o ↔ LastLeft log (r.storeKey k) (some o)
  /-- What is created or updated is got at once, and all else is as it was. -/
  rereads : ∀ (op : Operation) o t, op.act.run s = (.ok (.written o), t) → ∃ k,
    op.Leaves (op.resource.storeKey k) (some o) ∧ (client.get op.resource k).run t = (.ok (some o), t) ∧
    ∀ k', k' ≠ op.resource.storeKey k → t.objects.get? k' = s.objects.get? k'
  lists : ∀ r options, s.Serves r → ∃ os, (client.list r options).run s = (.ok os, s) ∧ s.Lists r options os

namespace Grants
variable {s t : Store} {op : Operation} {o : Object}

/-- What is created or updated is left under its key, and got from there. -/
theorem rereads (h : s.Grants op (.written o) t) : ∃ k, op.Leaves (op.resource.storeKey k) (some o) ∧
    (client.get op.resource k).run t = (.ok (some o), t) := by
  have got : ∀ {k}, t.Serves op.resource → op.Leaves (op.resource.storeKey k) (some o) →
      (client.get op.resource k).run t = (.ok (some o), t) := fun {k} served left => by
    rw [run_get served, stored, h.leaves left]
  cases h with
  | create served named => exact ⟨_, .create named, got served (.create named)⟩
  | update served named => exact ⟨_, .update named, got served (.update named)⟩

/-- Nothing is left under a second key. -/
theorem entry_of_ne (h : s.Grants op (.written o) t) {k : ObjectKey} (left : op.Leaves (op.resource.storeKey k) (some o))
    {k' : StoreKey} (other : k' ≠ op.resource.storeKey k) : t.objects.get? k' = s.objects.get? k' :=
  h.frame.entry k' fun ⟨_, left'⟩ => other (left.unique left').1

end Grants

theorem Accounts.faithful {unserved : List String} {log : List Exchange} {s : Store} (h : Accounts unserved log s) :
    Faithful unserved log s := by
  refine ⟨h, ?filed, fun op a t => run_eq_ok_iff, fun op e t => eq_of_run_error, ?reads, ?rereads, ?lists⟩
  case filed =>
    intro k o ho
    obtain ⟨before, x, after, rfl, left, -⟩ := (h.entry k o).mp ho
    obtain ⟨key, named, rfl⟩ := left.2.filed
    exact ⟨named, x, by simp, left, rfl, rfl⟩
  case reads =>
    intro r k served
    exact ⟨s.stored r k, run_get served, fun o => h.entry (r.storeKey k) o⟩
  case rereads =>
    intro op o t run
    have grants := run_eq_ok_iff.mp run
    obtain ⟨k, left, got⟩ := grants.rereads
    exact ⟨k, left, got, fun k' other => grants.entry_of_ne left other⟩
  case lists =>
    intro r options served
    exact ⟨_, run_list served options, lists_entries s r options⟩

/-- **A store is faithful after any operations**, those that fail among them. -/
theorem exchanges_faithful (unserved : List String) (ops : List Operation) :
    Faithful unserved ((exchanges ops).run { unserved }).1 ((exchanges ops).run { unserved }).2 :=
  ((Accounts.empty unserved).exchanges ops).faithful

end Store

/-! ## A sample: operations with failures among them -/

namespace Sample
open Store

def maps : Resource := .ofGroup "" "v1" "ConfigMap" "configmaps"

def ticket (name : Option String) : Object := { metadata := { name, ns? := some "desk" } }

/-- A ticket is seeded twice, another one is created, but no third one, of a type that is not served, and none without a name. The
first one is updated and deleted, and then cannot be deleted again. -/
def visits : List Operation :=
  [.seed maps (ticket "a"), .seed maps (ticket "a"), .create maps (ticket "b"), .create { maps with kind := "Secret" } (ticket "c"),
    .create maps (ticket none), .update maps (ticket "a"), .delete maps ⟨some "desk", "a"⟩, .delete maps ⟨some "desk", "a"⟩]

def visited : List Exchange × Store := (exchanges visits).run { unserved := ["Secret"] }

theorem exchanges_faithful_visits : visited.2.Serves maps ∧ visited.2.objects.size + 1 = 1 + 1 ∧
    ∃ os, (client.list maps {}).run visited.2 = (.ok os, visited.2) ∧ visited.2.Lists maps {} os := by
  have served : visited.2.Serves maps := by decide +kernel
  have faithful : Faithful ["Secret"] visited.1 visited.2 := exchanges_faithful ["Secret"] visits
  have deleted : visited.2.deletes = 1 := by decide +kernel
  have created : visited.2.creates = 1 := by decide +kernel
  have planted : successes (fun x => x.operation.plants x.before) visited.1 = 1 := by decide +kernel
  have size := faithful.size
  rw [deleted, created, planted] at size
  exact ⟨served, size, faithful.lists maps {} served⟩

example : visited.1.map (·.succeeded) = [true, true, true, false, false, true, true, false] ∧
    visited.2.objects.keys.map (·.key.text) = ["desk/b"] := by decide +kernel

end Sample

end Converge
