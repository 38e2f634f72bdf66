import Converge.Cluster.Object

/-!
# Edits of objects

* `Edit` is one change of an object, described as data; `Edit.applyAll` makes changes in turn until one fails.
-/

namespace Converge.Rehearsal

set_option autoImplicit false

inductive Edit where
  | set (path : List String) (value : Json)
  | remove (path : List String)
  | label (key value : String)
  /-- Removes a label; the labels are set afterwards, if only to none. -/
  | unlabel (key : String)
  | clearLabels
  | annotate (key value : String)
  | name (value : Option String)
  | ns? (value : Option String)
  | generation (value : Option Int)
  | types (value : Option TypeNames)
  | fail (e : Error)

namespace Edit

def onMetadata (f : Metadata → Metadata) (o : Object) : Object := { o with metadata := f o.metadata }

def apply (o : Object) : Edit → Except Error Object
  | set path value => .ok { o with data := Json.setAt value path o.data }
  | remove path => .ok { o with data := o.data.removeAt path }
  | label key value => .ok (o.withLabel key value)
  | unlabel key => .ok (o |> onMetadata fun m => { m with labels := some (m.labelMap.erase key) })
  | clearLabels => .ok (o |> onMetadata fun m => { m with labels := none })
  | annotate key value =>
    .ok (o |> onMetadata fun m => { m with annotations := some ((m.annotations.getD .empty).insert key value) })
  | name value => .ok (o |> onMetadata fun m => { m with name := value })
  | ns? value => .ok (o |> onMetadata fun m => { m with ns? := value })
  | generation value => .ok (o |> onMetadata fun m => { m with generation := value })
  | types value => .ok { o with types := value }
  | fail e => .error e

/-- Makes changes in turn. If one fails, the object has the changes before it. -/
def applyAll : List Edit → Object → Object × Except Error Unit
  | [], o => (o, .ok ())
  | e :: rest, o =>
    match e.apply o with
    | .ok o => applyAll rest o
    | .error error => (o, .error error)

/-- Makes changes in turn, all of them or none. -/
def change (edits : List Edit) (o : Object) : Except Error Object :=
  let (o, result) := applyAll edits o
  result.map fun () => o

end Edit

end Converge.Rehearsal
