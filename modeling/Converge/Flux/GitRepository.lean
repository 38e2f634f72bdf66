import Converge.Flux.Reference

/-!
# Git repositories

* `Flux.GitReference` says what to check out, `Flux.GitRepository` is the wanted state of a repository.
-/

namespace Converge.Flux

set_option autoImplicit false

structure GitReference where
  branch : Option String := none
  tag : Option String := none
  /-- A range of versions over the tags. -/
  semver : Option String := none
  commit : Option String := none
deriving BEq, ReflBEq, LawfulBEq, DecidableEq, Inhabited

def GitReference.record : Record GitReference where
  name := "struct GitRepositoryRef"
  blank := {}
  positional := true
  fields := [
    .optional "branch" .string (·.branch) fun v r => { r with branch := v },
    .optional "tag" .string (·.tag) fun v r => { r with tag := v },
    .optional "semver" .string (·.semver) fun v r => { r with semver := v },
    .optional "commit" .string (·.commit) fun v r => { r with commit := v }]

/-- The wanted state of a Git repository. -/
structure GitRepository where
  url : String := ""
  ref : Option GitReference := none
  interval : Option String := none
  timeout : Option String := none
  secretRef : Option SecretReference := none
  /-- What the artifact leaves out. -/
  ignore : Option String := none
  suspend : Option Bool := none
deriving BEq, ReflBEq, LawfulBEq, DecidableEq, Inhabited

def GitRepository.record : Record GitRepository where
  name := "struct GitRepositorySpec"
  blank := {}
  positional := true
  fields := [
    .defaulted "url" .string (·.url) fun v s => { s with url := v },
    .optional "ref" GitReference.record.codec (·.ref) fun v s => { s with ref := v },
    .optional "interval" .string (·.interval) fun v s => { s with interval := v },
    .optional "timeout" .string (·.timeout) fun v s => { s with timeout := v },
    .optional "secretRef" SecretReference.record.codec (·.secretRef) fun v s => { s with secretRef := v },
    .optional "ignore" .string (·.ignore) fun v s => { s with ignore := v },
    .optional "suspend" .bool (·.suspend) fun v s => { s with suspend := v }]

end Converge.Flux
