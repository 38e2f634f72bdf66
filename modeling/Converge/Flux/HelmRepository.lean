import Converge.Flux.Reference

/-!
# Helm repositories

* `Flux.HelmRepository` is the wanted state of a chart repository, an index on the web or a registry.
-/

namespace Converge.Flux

set_option autoImplicit false

structure HelmRepository where
  url : String := ""
  /-- The kind of repository, `default` or `oci`. -/
  type : Option String := none
  interval : Option String := none
  timeout : Option String := none
  secretRef : Option SecretReference := none
  provider : Option String := none
  insecure : Option Bool := none
  suspend : Option Bool := none
deriving BEq, ReflBEq, LawfulBEq, DecidableEq, Inhabited

def HelmRepository.record : Record HelmRepository where
  name := "struct HelmRepositorySpec"
  blank := {}
  positional := true
  fields := [
    .defaulted "url" .string (·.url) fun v s => { s with url := v },
    .optional "type" .string (·.type) fun v s => { s with type := v },
    .optional "interval" .string (·.interval) fun v s => { s with interval := v },
    .optional "timeout" .string (·.timeout) fun v s => { s with timeout := v },
    .optional "secretRef" SecretReference.record.codec (·.secretRef) fun v s => { s with secretRef := v },
    .optional "provider" .string (·.provider) fun v s => { s with provider := v },
    .optional "insecure" .bool (·.insecure) fun v s => { s with insecure := v },
    .optional "suspend" .bool (·.suspend) fun v s => { s with suspend := v }]

end Converge.Flux
