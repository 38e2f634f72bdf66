import Converge.Assoc

/-!
# Resource types and object keys

* `Resource` is a type of object that a cluster serves; `Resource.ofGroup` forms its `apiVersion`.
* `ObjectKey` is a namespace, none for cluster-wide objects, and a name. Keys are ordered by namespace, none first, then by
  name, and `StoreKey` puts the type in front.
* `ListOptions` narrows a list.
-/

namespace Converge

set_option autoImplicit false

/-- A type of object that a cluster serves. -/
structure Resource where
  group : String
  version : String
  apiVersion : String
  kind : String
  /-- The name of its collection in request paths. -/
  plural : String
deriving DecidableEq, Inhabited

/-- The resource type of a group, the core group being empty. -/
def Resource.ofGroup (group version kind plural : String) : Resource :=
  ⟨group, version, if group.isEmpty then version else group ++ "/" ++ version, kind, plural⟩

structure ObjectKey where
  /-- None for a cluster-wide object. -/
  ns? : Option String
  name : String
deriving DecidableEq, Inhabited

namespace ObjectKey

instance : Ord ObjectKey where
  compare a b := (compare a.ns? b.ns?).then (compare a.name b.name)

/-- The text of a key: `namespace/name`, or the name alone. -/
def text (k : ObjectKey) : String :=
  match k.ns? with
  | some ns => ns ++ "/" ++ k.name
  | none => k.name

end ObjectKey

/-- What a store files an object under. -/
structure StoreKey where
  apiVersion : String
  kind : String
  key : ObjectKey
deriving DecidableEq, Inhabited

instance : Ord StoreKey where
  compare a b := (compare a.apiVersion b.apiVersion).then ((compare a.kind b.kind).then (compare a.key b.key))

def Resource.storeKey (r : Resource) (k : ObjectKey) : StoreKey := ⟨r.apiVersion, r.kind, k⟩

/-- What to list. -/
structure ListOptions where
  /-- None lists all namespaces. -/
  ns? : Option String := none
  selector : Option String := none
  /-- The page size to ask for; all pages are read in any case. -/
  limit : Option Nat := none
deriving DecidableEq, Inhabited

/-! ## The orders -/

instance : Std.TransOrd ObjectKey :=
  inferInstanceAs (Std.TransCmp (compareLex (compareOn ObjectKey.ns?) (compareOn ObjectKey.name)))

instance : Std.LawfulEqOrd ObjectKey where
  eq_of_compare {a b} h := by
    have h₁ := Ordering.then_eq_eq.1 h
    have e₁ := Std.LawfulEqOrd.eq_of_compare h₁.1
    have e₂ := Std.LawfulEqOrd.eq_of_compare h₁.2
    cases a; cases b; simp_all

instance : Std.TransOrd StoreKey :=
  inferInstanceAs (Std.TransCmp (compareLex (compareOn StoreKey.apiVersion)
    (compareLex (compareOn StoreKey.kind) (compareOn StoreKey.key))))

instance : Std.LawfulEqOrd StoreKey where
  eq_of_compare {a b} h := by
    have h₁ := Ordering.then_eq_eq.1 h
    have h₂ := Ordering.then_eq_eq.1 h₁.2
    have e₁ := Std.LawfulEqOrd.eq_of_compare h₁.1
    have e₂ := Std.LawfulEqOrd.eq_of_compare h₂.1
    have e₃ := Std.LawfulEqOrd.eq_of_compare h₂.2
    cases a; cases b; simp_all

end Converge
