import Converge.Component

/-!
# Reconcilers

* `Reconciler σ` drives the components of some kinds: it looks at them, installs, updates and removes them, and runs their
  hooks before that. It may also find orphans: what is installed without being configured.
-/

namespace Converge

set_option autoImplicit false

structure Reconciler (σ : Type) where
  kinds : SortedSet ComponentKind
  observe : Component σ → Act σ Observation
  install : Component σ → Act σ Unit
  update : Component σ → Act σ Unit
  uninstall : Component σ → Act σ Unit
  preInstall : Component σ → Act σ Unit
  preUpdate : Component σ → Act σ Unit
  preUninstall : Component σ → Act σ Unit
  /-- The components that are installed with no counterpart among the configured ones. -/
  orphans : Option (List (Component σ) → Act σ (List (Component σ))) := none

def Reconciler.claims {σ : Type} (r : Reconciler σ) (kind : ComponentKind) : Bool := r.kinds.contains kind

end Converge
