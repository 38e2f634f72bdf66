import Converge.Cluster.Resource
import Converge.Error
import Converge.Json.Basic
import Converge.Text.FormEncoding

/-!
# Requests to an API server

* `Api.Request` has a method, a target and perhaps a body; `Api.collectionPath` is the path of a type's objects.
* `Api.Request.form` forms one, and refuses targets with characters that no target may hold.
* `Api.query` appends parameters to a target.
-/

namespace Converge.Api

set_option autoImplicit false

inductive Method where
  | get
  | post
  | put
  | patch
  | delete
deriving DecidableEq, Inhabited

def Method.text : Method → String
  | get => "GET"
  | post => "POST"
  | put => "PUT"
  | patch => "PATCH"
  | delete => "DELETE"

structure Request where
  method : Method
  target : String
  body : Option Json := none
deriving Inhabited

/-- The path of the objects of a type, within a namespace if one is given. -/
def collectionPath (r : Resource) (ns? : Option String) : String :=
  let root := if r.group.isEmpty then "/api/" ++ r.version else "/apis/" ++ r.group ++ "/" ++ r.version
  let scope := match ns? with
    | some ns => "/namespaces/" ++ ns
    | none => ""
  root ++ scope ++ "/" ++ r.plural

def query (target : String) (params : List (String × String)) : String :=
  params.foldl
    (fun t p => t ++ "&" ++ Text.FormEncoding.encode p.1 ++ "=" ++ Text.FormEncoding.encode p.2) (target ++ "?")

def isPathChar (c : Char) : Bool :=
  let n := c.toNat
  n == 0x21 || n == 0x22 || (0x24 ≤ n && n ≤ 0x3B) || n == 0x3D || (0x40 ≤ n && n ≤ 0x5F) || (0x61 ≤ n && n ≤ 0x7E) ||
    n ≥ 0x7F

def isQueryChar (c : Char) : Bool :=
  let n := c.toNat
  n == 0x21 || (0x24 ≤ n && n ≤ 0x3B) || n == 0x3D || (0x3F ≤ n && n ≤ 0x7E) || n ≥ 0x7F

/-- The target up to a fragment, or nothing if it holds a character that it may not. -/
def checkTarget (target : List Char) : Option (List Char) :=
  let target := target.takeWhile (· ≠ '#')
  let path := target.takeWhile (· ≠ '?')
  let queryPart := (target.dropWhile (· ≠ '?')).drop 1
  if path.all isPathChar && queryPart.all isQueryChar then some target else none

namespace Request

def form (method : Method) (target : String) (body : Option Json := none) : Except RequestFault Request :=
  match checkTarget target.toList with
  | some cs => .ok ⟨method, String.ofList cs, body⟩
  | none => .error (.malformed "failed to build request: invalid uri character")

def refuse {α : Type} (reason : String) : Except RequestFault α :=
  .error (.malformed ("failed to validate request: " ++ reason))

def ensureNamed (name : String) : Except RequestFault Unit :=
  if name.isEmpty then refuse "A non-empty name is required" else .ok ()

def maxFieldManager : Nat := 128

def ensureFieldManager (name : String) : Except RequestFault Unit :=
  if name.utf8ByteSize > maxFieldManager then refuse "Failed to validate PostParams::field_manager!" else .ok ()

end Request

end Converge.Api
