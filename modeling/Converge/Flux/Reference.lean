import Converge.Codec.Record

/-!
# References between Flux objects

* `Flux.SourceReference` names an object, possibly in another namespace.
* `Flux.SecretReference` names a secret beside the object.
-/

namespace Converge.Flux

set_option autoImplicit false

/-- A reference to a source of artifacts. -/
structure SourceReference where
  apiVersion : Option String := none
  kind : String := ""
  name : String := ""
  /-- The namespace of the referring object unless set. -/
  ns? : Option String := none
deriving BEq, ReflBEq, LawfulBEq, DecidableEq, Inhabited

def SourceReference.record : Record SourceReference where
  name := "struct CrossNamespaceObjectReference"
  blank := {}
  positional := true
  fields := [
    .optional "apiVersion" .string (·.apiVersion) fun v r => { r with apiVersion := v },
    .defaulted "kind" .string (·.kind) fun v r => { r with kind := v },
    .defaulted "name" .string (·.name) fun v r => { r with name := v },
    .optional "namespace" .string (·.ns?) fun v r => { r with ns? := v }]

/-- A reference to a secret in the same namespace. -/
structure SecretReference where
  name : String := ""
deriving BEq, ReflBEq, LawfulBEq, DecidableEq, Inhabited

def SecretReference.record : Record SecretReference where
  name := "LocalObjectReference"
  blank := {}
  positional := false
  fields := [.lenient "name" .string (·.name) fun v r => { r with name := v }]

end Converge.Flux
