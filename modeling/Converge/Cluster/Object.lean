import Converge.Cluster.Metadata
import Converge.Cluster.Resource
import Converge.Error

/-!
# Objects

* `Object` is an object of any type: its type names, its metadata, and the rest of its members as `data`.
* `Object.read` takes the members apart. Both type names are needed; what the search for them took is not data either.
* `Object.write` puts them together, later members over earlier ones, and fails if the data is no object.
* `Object.key` is the key of a named object, `Object.shell` an object of which only type and key are known.
-/

namespace Converge

set_option autoImplicit false

structure TypeNames where
  apiVersion : String
  kind : String
deriving DecidableEq, Inhabited

structure Object where
  types : Option TypeNames := none
  metadata : Metadata := {}
  /-- All members but the type names and the metadata; `null` as long as nothing was put in. -/
  data : Json := .null
deriving Inhabited

namespace Object

/-! ## Reading -/

/-- Takes the type names out of the entries. The search ends at a name that is no text; what it took is gone. -/
def takeTypes : Option String → Option String → List (String × Json) → Option TypeNames × List (String × Json)
  | some apiVersion, some kind, [] => (some ⟨apiVersion, kind⟩, [])
  | _, _, [] => (none, [])
  | apiVersion, kind, (k, v) :: rest =>
    if k = "apiVersion" then
      match v with
      | .string s => takeTypes (some s) kind rest
      | _ => (none, rest)
    else if k = "kind" then
      match v with
      | .string s => takeTypes apiVersion (some s) rest
      | _ => (none, rest)
    else
      let (types, left) := takeTypes apiVersion kind rest
      (types, (k, v) :: left)

def read (v : Json) : Except Misread Object :=
  match v with
  | .object entries =>
    let (types, data) := takeTypes none none (entries.filter fun e => e.1 ≠ "metadata")
    match Assoc.get? "metadata" entries with
    | none => .ok ⟨types, {}, .object data⟩
    | some m =>
      match Metadata.codec.read m with
      | .ok metadata => .ok ⟨types, metadata, .object data⟩
      | .error e => .error (e.under (.key "metadata"))
  | v => Codec.wrongKind v "struct DynamicObject"

def canonical (o : Object) : Object := { o with metadata := o.metadata.canonical, data := o.data.canonical }

/-! ## Writing -/

/-- What data can be that has no members. -/
inductive Unwritable where
  | boolean
  | integer
  | float
  | string
  | sequence
deriving DecidableEq

def Unwritable.message (u : Unwritable) : String :=
  let got := match u with
    | boolean => "a boolean"
    | integer => "an integer"
    | float => "a float"
    | string => "a string"
    | sequence => "a sequence"
  "can only flatten structs and maps (got " ++ got ++ ")"

def dataEntries : Json → Except Unwritable (List (String × Json))
  | .null => .ok []
  | .object entries => .ok entries
  | .bool _ => .error .boolean
  | .int _ => .error .integer
  | .double _ => .error .float
  | .string _ => .error .string
  | .array _ => .error .sequence

def typeEntries (o : Object) : List (String × Json) :=
  match o.types with
  | some t => [("apiVersion", .string t.apiVersion), ("kind", .string t.kind)]
  | none => []

def write (o : Object) : Except Unwritable Json :=
  (dataEntries o.data).map fun entries =>
    .ofEntries (o.typeEntries ++ ("metadata", Metadata.codec.write o.metadata) :: entries)

def toJson (o : Object) : Except Error Json :=
  match o.write with
  | .ok v => .ok v
  | .error u => .error (.serialization u.message none)

/-! ## Identity -/

def key (o : Object) : Except Error ObjectKey :=
  match o.metadata.name with
  | some name => .ok ⟨o.metadata.ns?, name⟩
  | none => .error (.internal "object has no name" "object-key")

/-- An object of which only the type and the key are known. -/
def shell (r : Resource) (k : ObjectKey) : Object where
  types := some ⟨r.apiVersion, r.kind⟩
  metadata := { name := some k.name, ns? := k.ns? }

@[simp] theorem key_shell (r : Resource) (k : ObjectKey) : (shell r k).key = .ok k := rfl

def status (o : Object) : Option Json := o.data.get? "status"

/-- The object with another status, or without one; data without members stays as it is. -/
def withStatus (o : Object) (status : Option Json) : Object :=
  match o.data with
  | .object entries =>
    match status with
    | some s => { o with data := .object (Assoc.insert "status" s entries) }
    | none => { o with data := .object (Assoc.erase "status" entries) }
  | _ => o

def withLabel (o : Object) (key value : String) : Object := { o with metadata := o.metadata.withLabel key value }

def label? (o : Object) (key : String) : Option String := o.metadata.labelMap.get? key

end Object

end Converge
