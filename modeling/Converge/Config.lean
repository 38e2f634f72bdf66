import Converge.Error
import Converge.Text.Blank

/-!
# Configuration

* `Config` holds what the engine writes on objects and events, and whether components may keep their resources.
* `Config.validate` accepts what can be found again: the managed-by value, the label keys and the field manager are not
  empty and the three label keys differ.
* `Config.ofLookup` overlays the defaults with settings and validates the result.
* `Config.managedSelector` and `Config.kindSelector` select what is managed, of all kinds or of one.
-/

namespace Converge

set_option autoImplicit false

def managedByLabel : String := "app.kubernetes.io/managed-by"

inductive Setting where
  | managedBy
  | componentLabel
  | kindLabel
  | fieldManager
  | honorKeep
deriving DecidableEq

def Setting.variable : Setting → String
  | managedBy => "JUGGLER_MANAGED_BY"
  | componentLabel => "JUGGLER_COMPONENT_LABEL"
  | kindLabel => "JUGGLER_COMPONENT_KIND_LABEL"
  | fieldManager => "JUGGLER_FIELD_MANAGER"
  | honorKeep => "JUGGLER_HONOR_KEEP_ON_UNINSTALL"

def Setting.error (s : Setting) (message : String) : Error := .config message (some s.variable)

/-- What the engine writes on objects and events. -/
structure Config where
  managedBy : String := "juggler"
  componentLabel : String := "juggler.dev/component"
  kindLabel : String := "juggler.dev/component-kind"
  /-- The name under which objects are written. -/
  fieldManager : String := "juggler-controller"
  eventAction : String := "Reconcile"
  /-- Whether a disabled component may keep its resources. -/
  honorKeep : Bool := true
deriving DecidableEq, Inhabited

namespace Config

/-- Refuses values that could not be found again. -/
def validate (c : Config) : Except Error Unit := do
  if c.managedBy.isEmpty then throw (Setting.managedBy.error "must not be empty")
  if c.componentLabel.isEmpty then throw (Setting.componentLabel.error "must not be empty")
  if c.componentLabel = managedByLabel then
    throw (Setting.componentLabel.error ("must differ from " ++ managedByLabel))
  if c.kindLabel.isEmpty then throw (Setting.kindLabel.error "must not be empty")
  if c.kindLabel = managedByLabel ∨ c.kindLabel = c.componentLabel then
    throw (Setting.kindLabel.error ("must differ from " ++ managedByLabel ++ " and " ++ c.componentLabel))
  if c.fieldManager.isEmpty then throw (Setting.fieldManager.error "must not be empty")

/-- The value of a switch: `true` or `false` between blanks. -/
def readSwitch (s : Setting) (value : String) : Except Error Bool :=
  let word := Text.trim value.toList
  if word = "true".toList then .ok true
  else if word = "false".toList then .ok false
  else .error (s.error ("expected true or false, got " ++ Text.quoted value))

/-- The defaults with the settings over them. -/
def overlay (lookup : Setting → Option String) : Except Error Config := do
  let d : Config := {}
  let honorKeep ← match lookup .honorKeep with
    | some value => readSwitch .honorKeep value
    | none => .ok d.honorKeep
  return {
    managedBy := (lookup .managedBy).getD d.managedBy
    componentLabel := (lookup .componentLabel).getD d.componentLabel
    kindLabel := (lookup .kindLabel).getD d.kindLabel
    fieldManager := (lookup .fieldManager).getD d.fieldManager
    eventAction := d.eventAction
    honorKeep }

def ofLookup (lookup : String → Option String) : Except Error Config := do
  let c ← overlay fun s => lookup s.variable
  c.validate
  return c

/-- Selects every managed object that names a component. -/
def managedSelector (c : Config) : String := managedByLabel ++ "=" ++ c.managedBy ++ "," ++ c.componentLabel

/-- Selects the managed objects of components of a kind. -/
def kindSelector (c : Config) (kind : String) : String := c.managedSelector ++ "," ++ c.kindLabel ++ "=" ++ kind

end Config

end Converge
