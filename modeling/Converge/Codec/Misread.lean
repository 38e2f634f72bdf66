import Converge.Json.Basic
import Converge.Time

/-!
# Misreadings

Why a JSON value does not read as a type, and where in the value that is.

* `Misread.Cause` and its wording `Misread.Cause.message`.
* `Misread` adds the way from the whole value to the part that was refused.
-/

namespace Converge

set_option autoImplicit false

/-- One step from a value to a part of it. -/
inductive Step where
  | key (name : String)
  | index (n : Nat)
deriving DecidableEq

/-- Why a value was refused. -/
inductive Misread.Cause where
  | kind (got : Json) (want : String)
  /-- A value of the right kind outside what the type holds. -/
  | value (got : Json) (want : String)
  | missing (key : String)
  | variant (name : String) (known : List String)
  /-- Too few items stand for a structure. -/
  | tooFew (length : Nat) (want : String)
  /-- More items than a structure has members. -/
  | tooMany (length : Nat)
  | time (fault : Instant.Fault)

def Misread.choice : List String → String
  | [a, b] => a ++ " or " ++ b
  | names => "one of " ++ ", ".intercalate names

def Misread.Cause.message : Misread.Cause → String
  | kind got want => "invalid type: " ++ got.describe ++ ", expected " ++ want
  | value got want => "invalid value: " ++ got.describe ++ ", expected " ++ want
  | missing key => "missing field `" ++ key ++ "`"
  | variant name known => "unknown variant `" ++ name ++ "`, expected " ++ choice (known.map fun k => "`" ++ k ++ "`")
  | tooFew length want => "invalid length " ++ toString length ++ ", expected " ++ want
  | tooMany length => "invalid length " ++ toString length ++ ", expected fewer elements in array"
  | time fault => fault.message

structure Misread where
  cause : Misread.Cause
  path : List Step

namespace Misread

def here (cause : Cause) : Misread := ⟨cause, []⟩

/-- The refusal seen from a value that holds the refused one. -/
def under (s : Step) (e : Misread) : Misread := ⟨e.cause, s :: e.path⟩

def message (e : Misread) : String := e.cause.message

end Misread

end Converge
