/-!
# Health

* `Health` is a verdict with an explanation; `Health.and` joins two.
* `Observation` is what a look at the cluster found of a component.
-/

namespace Converge

set_option autoImplicit false

/-- Whether something is healthy, and if not, why. -/
structure Health where
  healthy : Bool := false
  message : String := ""
deriving DecidableEq, Inhabited

namespace Health

/-- Nothing to complain about. -/
def good : Health := ⟨true, ""⟩

def bad (reason : String) : Health := ⟨false, reason⟩

/-- Both verdicts; explanations go on lines of their own. -/
def and (a b : Health) : Health where
  healthy := a.healthy && b.healthy
  message :=
    if a.message.isEmpty then b.message
    else if b.message.isEmpty then a.message
    else a.message ++ "\n" ++ b.message

/-- All verdicts together, the default verdict for none. -/
def all : List Health → Health
  | [] => {}
  | h :: rest => rest.foldl and h

end Health

/-- What a look at the cluster found of a component. -/
structure Observation where
  /-- Whether any of its objects exists. -/
  present : Bool
  health : Health
deriving DecidableEq, Inhabited

def Observation.existing (h : Health) : Observation := ⟨true, h⟩

def Observation.absent : Observation := ⟨false, .bad "not found"⟩

end Converge
