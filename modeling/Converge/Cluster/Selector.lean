import Converge.Cluster.Metadata
import Converge.Text.Blank
import Converge.Text.Pieces

/-!
# Label selectors

A selector is a list of requirements with commas between them, all of which must hold.

* `Requirement` asks for a value of a label, for another than a value, for a label or for its absence.
* `Selector.requirements` reads a selector; blank parts ask for nothing.
* `Selector.selects` decides whether a map of labels meets the selector.
-/

namespace Converge

set_option autoImplicit false

/-- One thing that a selector asks of labels. -/
inductive Requirement where
  | equals (key value : String)
  | differs (key value : String)
  | present (key : String)
  | absent (key : String)
deriving DecidableEq

namespace Requirement

/-- Whether the labels meet the requirement. A label that is missing differs from every value. -/
def holds (labels : Labels) : Requirement → Bool
  | equals key value => labels.get? key == some value
  | differs key value => labels.get? key != some value
  | present key => labels.contains key
  | absent key => !labels.contains key

end Requirement

namespace Selector

/-- A text without blanks at its ends. -/
def plain (cs : List Char) : String := String.ofList (Text.trim cs)

/-- The requirement of a part without blanks at its ends. -/
def requirement (part : List Char) : Requirement :=
  match Text.cut ['!', '='] part with
  | some (key, value) => .differs (plain key) (plain value)
  | none =>
    match Text.cut ['='] part with
    | some (key, value) => .equals (plain key) (String.ofList ((Text.trim value).dropWhile (· = '=')))
    | none =>
      match part with
      | '!' :: key => .absent (plain key)
      | key => .present (String.ofList key)

/-- The requirements of a list of parts, the blank ones aside. -/
def ofParts (parts : List (List Char)) : List Requirement :=
  ((parts.map Text.trim).filter fun part => !part.isEmpty).map requirement

def requirements (selector : String) : List Requirement := ofParts (Text.pieces ',' selector.toList)

def selects (selector : String) (labels : Labels) : Bool := (requirements selector).all (·.holds labels)

end Selector

end Converge
