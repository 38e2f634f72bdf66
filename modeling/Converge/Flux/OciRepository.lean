import Converge.Flux.Reference

/-!
# OCI repositories

* `Flux.OciReference` says which artifact to pull, `Flux.OciRepository` is the wanted state of a repository.
-/

namespace Converge.Flux

set_option autoImplicit false

structure OciReference where
  tag : Option String := none
  /-- A range of versions over the tags. -/
  semver : Option String := none
  digest : Option String := none
deriving BEq, ReflBEq, LawfulBEq, DecidableEq, Inhabited

def OciReference.record : Record OciReference where
  name := "struct OciRepositoryRef"
  blank := {}
  positional := true
  fields := [
    .optional "tag" .string (·.tag) fun v r => { r with tag := v },
    .optional "semver" .string (·.semver) fun v r => { r with semver := v },
    .optional "digest" .string (·.digest) fun v r => { r with digest := v }]

structure OciRepository where
  url : String := ""
  ref : Option OciReference := none
  interval : Option String := none
  timeout : Option String := none
  secretRef : Option SecretReference := none
  provider : Option String := none
  insecure : Option Bool := none
  suspend : Option Bool := none
deriving BEq, ReflBEq, LawfulBEq, DecidableEq, Inhabited

def OciRepository.record : Record OciRepository where
  name := "struct OCIRepositorySpec"
  blank := {}
  positional := true
  fields := [
    .defaulted "url" .string (·.url) fun v s => { s with url := v },
    .optional "ref" OciReference.record.codec (·.ref) fun v s => { s with ref := v },
    .optional "interval" .string (·.interval) fun v s => { s with interval := v },
    .optional "timeout" .string (·.timeout) fun v s => { s with timeout := v },
    .optional "secretRef" SecretReference.record.codec (·.secretRef) fun v s => { s with secretRef := v },
    .optional "provider" .string (·.provider) fun v s => { s with provider := v },
    .optional "insecure" .bool (·.insecure) fun v s => { s with insecure := v },
    .optional "suspend" .bool (·.suspend) fun v s => { s with suspend := v }]

end Converge.Flux
