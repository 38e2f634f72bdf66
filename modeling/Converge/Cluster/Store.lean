import Converge.Cluster.Client
import Converge.Cluster.Selector

/-!
# A cluster in memory

* `Store` holds objects under the type they are filed under and their key, the kinds that it does not serve, and counts of
  the writes that succeeded.
* `Store.get`, `create`, `update`, `delete` and `list` are its operations, and `Store.client` is the access to it. One that
  fails changes nothing.
* `Store.seed` puts an object in, and `Store.replace` swaps one, behind the clients' back.
-/

namespace Converge

set_option autoImplicit false

/-- A cluster in memory. -/
structure Store where
  objects : SortedMap StoreKey Object := .empty
  /-- The kinds that are not served. -/
  unserved : List String := []
  creates : Nat := 0
  updates : Nat := 0
  deletes : Nat := 0
deriving Inhabited

namespace Store

def stored (s : Store) (r : Resource) (k : ObjectKey) : Option Object := s.objects.get? (r.storeKey k)

def ensureServed (s : Store) (r : Resource) : Except Error Unit :=
  if s.unserved.contains r.kind then .error (.kindNotFound r.apiVersion r.kind) else .ok ()

def get (r : Resource) (k : ObjectKey) (s : Store) : Except Error (Option Object × Store) := do
  s.ensureServed r
  return (s.stored r k, s)

def create (r : Resource) (o : Object) (s : Store) : Except Error (Object × Store) := do
  s.ensureServed r
  let k ← o.key
  if (s.stored r k).isSome then throw (.internal (r.kind ++ " " ++ k.text ++ " already exists") "memory-client")
  return (o, { s with objects := s.objects.insert (r.storeKey k) o, creates := s.creates + 1 })

def update (r : Resource) (o : Object) (s : Store) : Except Error (Object × Store) := do
  s.ensureServed r
  let k ← o.key
  if (s.stored r k).isNone then throw (.notFound r.kind k.text)
  return (o, { s with objects := s.objects.insert (r.storeKey k) o, updates := s.updates + 1 })

def delete (r : Resource) (k : ObjectKey) (s : Store) : Except Error (Unit × Store) := do
  s.ensureServed r
  if (s.stored r k).isNone then throw (.notFound r.kind k.text)
  return ((), { s with objects := s.objects.erase (r.storeKey k), deletes := s.deletes + 1 })

/-- Whether an entry is of the type and within the options. -/
def matching (r : Resource) (options : ListOptions) (e : StoreKey × Object) : Bool :=
  e.1.apiVersion == r.apiVersion && e.1.kind == r.kind &&
    (match options.ns? with
      | some ns => e.1.key.ns? == some ns
      | none => true) &&
    (match options.selector with
      | some selector => Selector.selects selector e.2.metadata.labelMap
      | none => true)

/-- The objects of a type that the options ask for, in the order of their keys. -/
def list (r : Resource) (options : ListOptions) (s : Store) : Except Error (List Object × Store) := do
  s.ensureServed r
  return ((s.objects.entries.filter (matching r options)).map (·.2), s)

def client : Client Store where
  get r k := .ofStep (get r k)
  create r o := .ofStep (create r o)
  update r o := .ofStep (update r o)
  delete r k := .ofStep (delete r k)
  list r o := .ofStep (list r o)

/-- Files an object under the names of a type, which become its own, without counting it. -/
def seed (r : Resource) (o : Object) (s : Store) : Except Error Store :=
  let o := { o with types := some ⟨r.apiVersion, r.kind⟩ }
  o.key.map fun k => { s with objects := s.objects.insert (r.storeKey k) o }

/-- Puts an object in place of a stored one, under the same key, without counting it. -/
def replace (r : Resource) (k : ObjectKey) (o : Object) (s : Store) : Store :=
  { s with objects := s.objects.insert (r.storeKey k) o }

def count (s : Store) (r : Resource) : Nat :=
  (s.objects.entries.filter fun e => e.1.apiVersion == r.apiVersion && e.1.kind == r.kind).length

def writes (s : Store) : Nat := s.creates + s.updates + s.deletes

end Store

end Converge
