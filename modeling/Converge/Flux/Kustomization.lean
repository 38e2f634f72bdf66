import Converge.Flux.Reference

/-!
# Kustomizations

* `Flux.Kustomization` is the wanted state of a set of manifests taken from a source.
-/

namespace Converge.Flux

set_option autoImplicit false

structure Kustomization where
  sourceRef : SourceReference := {}
  path : Option String := none
  interval : Option String := none
  /-- Whether objects that left the source are removed. -/
  prune : Bool := false
  targetNamespace : Option String := none
  wait : Option Bool := none
  suspend : Option Bool := none
deriving BEq, ReflBEq, LawfulBEq, DecidableEq, Inhabited

def Kustomization.record : Record Kustomization where
  name := "struct KustomizationSpec"
  blank := {}
  positional := true
  fields := [
    .defaulted "sourceRef" SourceReference.record.codec (·.sourceRef) fun v s => { s with sourceRef := v },
    .optional "path" .string (·.path) fun v s => { s with path := v },
    .optional "interval" .string (·.interval) fun v s => { s with interval := v },
    .defaulted "prune" .bool (·.prune) fun v s => { s with prune := v },
    .optional "targetNamespace" .string (·.targetNamespace) fun v s => { s with targetNamespace := v },
    .optional "wait" .bool (·.wait) fun v s => { s with wait := v },
    .optional "suspend" .bool (·.suspend) fun v s => { s with suspend := v }]

end Converge.Flux
