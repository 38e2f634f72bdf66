import Converge.Api.Reply
import Converge.Cluster.Client
import Converge.Config

/-!
# Access to an API server

* `Api.Requests` are the requests about single objects. `Api.Requests.client` is access to a cluster through them: faults are
  classified, and a reply of code 404 about an object means that it, or its type, does not exist.
* `Api.pageRequest` asks for a page of a list. `Api.listPages` reads a list page by page, each request with the token of the
  page before, until a page has none.
* `Api.client` is access to a cluster through a connection.
-/

namespace Converge.Api

set_option autoImplicit false

/-! ## Single objects -/

/-- The requests about single objects, on a state. -/
structure Requests (σ : Type) where
  get : Resource → ObjectKey → ExceptT RequestFault (StateM σ) Object
  create : Resource → ObjectKey → Object → ExceptT RequestFault (StateM σ) Object
  replace : Resource → ObjectKey → Object → ExceptT RequestFault (StateM σ) Object
  delete : Resource → ObjectKey → ExceptT RequestFault (StateM σ) Unit

/-- The request as an operation on the object `name` of a type, with its faults classified. -/
def classified {σ α : Type} (r : Resource) (name : String) (q : ExceptT RequestFault (StateM σ) α) : Act σ α :=
  ExceptT.adapt (fun fault => Error.classify fault r.apiVersion r.kind name) q

/-- Access by requests, which lists objects in a way of its own. An object that the server says is missing is no failure of a
look-up. -/
def Requests.client {σ : Type} (q : Requests σ) (list : Resource → ListOptions → Act σ (List Object)) : Client σ where
  get r k := do
    match ← (classified r k.text (q.get r k)).attempt with
    | .ok o => return some o
    | .error e => if e.isNotFound then return none else throw e
  create r o := do
    let k ← Act.ofExcept o.key
    classified r k.text (q.create r k o)
  update r o := do
    let k ← Act.ofExcept o.key
    classified r k.text (q.replace r k o)
  delete r k := classified r k.text (q.delete r k)
  list := list

def bodyOf (o : Object) : Except RequestFault Json :=
  match o.write with
  | .ok v => .ok v
  | .error u => .error (.unreadable u.message)

def getObject (r : Resource) (k : ObjectKey) : Call Object := do
  checked (Request.ensureNamed k.name)
  let q ← checked (Request.form .get (collectionPath r k.ns? ++ "/" ++ k.name))
  fetch readObject q

def createObject (fieldManager : String) (r : Resource) (k : ObjectKey) (o : Object) : Call Object := do
  let body ← checked (bodyOf o)
  checked (Request.ensureFieldManager fieldManager)
  let target := query (collectionPath r k.ns?) [("fieldManager", fieldManager)]
  fetch readObject (← checked (Request.form .post target (some body)))

def replaceObject (fieldManager : String) (r : Resource) (k : ObjectKey) (o : Object) : Call Object := do
  let body ← checked (bodyOf o)
  checked (Request.ensureNamed k.name)
  let target := query (collectionPath r k.ns? ++ "/" ++ k.name) [("fieldManager", fieldManager)]
  fetch readObject (← checked (Request.form .put target (some body)))

/-- Deletes an object; what it owns goes in the background. -/
def deleteObject (r : Resource) (k : ObjectKey) : Call Unit := do
  checked (Request.ensureNamed k.name)
  let target := query (collectionPath r k.ns? ++ "/" ++ k.name) []
  let body := Json.object [("propagationPolicy", .string "Background")]
  fetch readDeleted (← checked (Request.form .delete target (some body)))

/-- The requests over a connection. -/
def requests (config : Config) : Requests Wire where
  get := getObject
  create := createObject config.fieldManager
  replace := replaceObject config.fieldManager
  delete := deleteObject

/-! ## Lists -/

/-- What a list is asked for, by the token of the page before. -/
def pageParams (options : ListOptions) (token : Option String) : List (String × String) :=
  (options.selector.map fun s => ("labelSelector", s)).toList ++
  (options.limit.map fun n => ("limit", toString n)).toList ++
  (token.map fun t => ("continue", t)).toList

/-- The request for a page of a list. -/
def pageRequest (r : Resource) (options : ListOptions) (token : Option String) : Except RequestFault Request :=
  Request.form .get (query (collectionPath r options.ns?) (pageParams options token))

def fetchPage (r : Resource) (options : ListOptions) (token : Option String) : Call Page := do
  fetch readPage (← checked (pageRequest r options token))

/-- The pages of a list from a token on, joined; `fuel` bounds their number. -/
def collectPages (fetch : Option String → Act Wire Page) : Nat → Option String → Act Wire (List Object)
  | 0, _ => return []
  | fuel + 1, token => do
    let page ← fetch token
    match page.token with
    | none => return page.items
    | some next => return page.items ++ (← collectPages fetch fuel (some next))

/-- The whole list. There are no more pages than replies to come, and one more request finds that out. -/
def listPages (r : Resource) (options : ListOptions) : Act Wire (List Object) := do
  let w ← Act.ofState get
  collectPages (fun token => classified r "*" (fetchPage r options token)) (w.replies.length + 1) none

/-- Access to the cluster through a connection. -/
def client (config : Config) : Client Wire := (requests config).client listPages

end Converge.Api
