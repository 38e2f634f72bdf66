import Converge.Component
import Converge.Config

/-!
# Ownership labels

* `Ownership.entries` are the labels that mark an object as a component's: its manager, the component's name and its kind.
* `Ownership.stamp` writes them on an object.
-/

namespace Converge.Ownership

set_option autoImplicit false

variable {σ : Type}

/-- The labels in the order in which they are written. -/
def entries (config : Config) (c : Component σ) : List (String × String) :=
  [(managedByLabel, config.managedBy), (config.componentLabel, c.name), (config.kindLabel, c.kind)]

def labels (config : Config) (c : Component σ) : Labels := .ofList (entries config c)

/-- The object with the labels over its own. -/
def stamp (config : Config) (c : Component σ) (o : Object) : Object :=
  { o with metadata := { o.metadata with labels := some (o.metadata.labelMap.insertAll (entries config c)) } }

end Converge.Ownership
