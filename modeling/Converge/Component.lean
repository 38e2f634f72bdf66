import Converge.Cluster.Client
import Converge.Flux.Item
import Converge.Policy
import Converge.Text.LowerCase

/-!
# Components

A component is one installable part of a platform, to be brought into the cluster or removed from it.

* `Component σ` says who it is, whether it is wanted, what it needs, and how it is driven: by a pair of Flux objects
  (`FluxView`) or by one object of its own (`ObjectView`). `σ` is the state that its hooks and checks work on.
* `Component.runHook` runs the hook of a phase; a component without one does nothing.
* `Component.conditionType` is the type of the condition that reports its state.
* `ObjectIdentity` is the type and the key of an object, `ObjectIdentity.same` tells whether two are of one object, and
  `Component.sameObject` whether two components own the same.
-/

namespace Converge

set_option autoImplicit false

/-- What components are grouped by: reconcilers claim kinds and dependencies name them. -/
abbrev ComponentKind : Type := String

/-- When a hook runs. -/
inductive HookPhase where
  | preInstall
  | preUpdate
  | preUninstall
deriving DecidableEq

namespace HookPhase

def text : HookPhase → String
  | preInstall => "PreInstall"
  | preUpdate => "PreUpdate"
  | preUninstall => "PreUninstall"

def all : List HookPhase := [preInstall, preUpdate, preUninstall]

end HookPhase

/-- What a component does before a phase, with the access to the cluster that its reconciler has. -/
abbrev Hook (σ : Type) : Type := Client σ → Act σ Unit

structure Hooks (σ : Type) where
  preInstall : Option (Hook σ) := none
  preUpdate : Option (Hook σ) := none
  preUninstall : Option (Hook σ) := none

def Hooks.get {σ : Type} (h : Hooks σ) : HookPhase → Option (Hook σ)
  | .preInstall => h.preInstall
  | .preUpdate => h.preUpdate
  | .preUninstall => h.preUninstall

/-- Whether the condition of a component is for everyone. -/
inductive Visibility where
  | external
  | internal
deriving DecidableEq, Inhabited

/-- The type and the key of an object. -/
structure ObjectIdentity where
  resource : Resource
  key : ObjectKey
deriving DecidableEq, Inhabited

namespace ObjectIdentity

def shell (i : ObjectIdentity) : Object := .shell i.resource i.key

/-- What a store files the object under. -/
def storeKey (i : ObjectIdentity) : StoreKey := i.resource.storeKey i.key

def same (a b : ObjectIdentity) : Bool := a.storeKey == b.storeKey

theorem same_iff (a b : ObjectIdentity) : a.same b = true ↔ a.storeKey = b.storeKey := by simp [same]

def outline (i : ObjectIdentity) : String :=
  Text.record "ObjectIdentity" [
    ("api_resource", Text.record "ApiResource" [
      ("group", Text.quoted i.resource.group), ("version", Text.quoted i.resource.version),
      ("api_version", Text.quoted i.resource.apiVersion), ("kind", Text.quoted i.resource.kind),
      ("plural", Text.quoted i.resource.plural)]),
    ("key", Text.record "ObjectKey" [
      ("namespace", Text.optional (i.key.ns?.map Text.quoted)), ("name", Text.quoted i.key.name)])]

end ObjectIdentity

/-- How a component owns one object. -/
structure ObjectView where
  identity : Except Error ObjectIdentity
  /-- Brings the object, or its shell, to the wanted content. -/
  shape : Object → Except Error Object
  health : Object → Health

/-- How a component owns a pair of Flux objects. -/
structure FluxView where
  source : Except Error Flux.Manifest
  deployment : Except Error Flux.Manifest

/-- One installable part of a platform. -/
structure Component (σ : Type) where
  /-- The mark by which whoever declared the component knows it again. -/
  handle : Option Nat := none
  name : String
  kind : ComponentKind
  enabled : Bool
  /-- The kinds that must be registered and wanted for it to be installed. -/
  dependencies : List ComponentKind := []
  hooks : Hooks σ := {}
  installable : Act σ Bool := pure true
  /-- Whether its resources stay when it is not wanted any more. -/
  keep : Bool := false
  visibility : Visibility := .external
  policyRules : List PolicyRule := []
  flux : Option FluxView := none
  object : Option ObjectView := none

namespace Component

variable {σ : Type}

/-- Runs the hook of a phase; its failure says that it came from a hook. -/
def runHook (c : Component σ) (phase : HookPhase) (client : Client σ) : Act σ Unit :=
  match c.hooks.get phase with
  | none => pure ()
  | some hook => ExceptT.adapt (Error.hook phase.text) (hook client)

/-- The type of the condition that reports the component's state. -/
def conditionType (c : Component σ) : String :=
  (match c.visibility with
    | .external => c.name
    | .internal => Text.lowerFirst c.name) ++ "Ready"

/-- The identity of the object that the component owns, if it owns one and can name it. -/
def identity? (c : Component σ) : Option ObjectIdentity :=
  match c.object with
  | some view => view.identity.toOption
  | none => none

/-- Whether both components own an object, can name it, and own the same. -/
def sameObject (a b : Component σ) : Bool :=
  match a.identity?, b.identity? with
  | some i, some j => i.same j
  | _, _ => false

/-! ## Outlines -/

def outlineBool (b : Bool) : String := if b then "true" else "false"

def outlineKind (k : ComponentKind) : String := "ComponentKind(" ++ Text.quoted k ++ ")"

def outline (c : Component σ) : String :=
  Text.record "Component" [
    ("name", Text.quoted c.name), ("kind", outlineKind c.kind), ("enabled", outlineBool c.enabled)]

def hooksOutline (c : Component σ) : String :=
  Text.record "ComponentHooks" [
    ("pre_install", outlineBool c.hooks.preInstall.isSome), ("pre_update", outlineBool c.hooks.preUpdate.isSome),
    ("pre_uninstall", outlineBool c.hooks.preUninstall.isSome)]

def visibilityOutline (c : Component σ) : String :=
  match c.visibility with
  | .external => "External"
  | .internal => "Internal"

end Component

end Converge
