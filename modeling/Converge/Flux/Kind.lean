import Converge.Cluster.Resource
import Converge.Flux.GitRepository
import Converge.Flux.HelmRelease
import Converge.Flux.HelmRepository
import Converge.Flux.Kustomization
import Converge.Flux.OciRepository

/-!
# Kinds of Flux objects

* `Flux.Kind` lists the sources (Helm, Git and OCI repositories) and what is deployed from them (Helm releases,
  Kustomizations); `Flux.Kind.Spec` is the wanted state of a kind and `Flux.Kind.record` its members.
* `Flux.Kind.applyDefaults` writes what the engine decides for every object and fills in what the cluster would fill in,
  so that a settled object reads back as it was written.
* `Flux.Kind.suspend` and `withSuspend` look at the switch that stops the controllers.
-/

namespace Converge.Flux

set_option autoImplicit false

/-- A kind of Flux object. -/
inductive Kind where
  | helmRepository
  | gitRepository
  | ociRepository
  | helmRelease
  | kustomization
deriving DecidableEq, Inhabited

namespace Kind

def resource : Kind → Resource
  | helmRepository => .ofGroup "source.toolkit.fluxcd.io" "v1" "HelmRepository" "helmrepositories"
  | gitRepository => .ofGroup "source.toolkit.fluxcd.io" "v1" "GitRepository" "gitrepositories"
  | ociRepository => .ofGroup "source.toolkit.fluxcd.io" "v1beta2" "OCIRepository" "ocirepositories"
  | helmRelease => .ofGroup "helm.toolkit.fluxcd.io" "v2" "HelmRelease" "helmreleases"
  | kustomization => .ofGroup "kustomize.toolkit.fluxcd.io" "v1" "Kustomization" "kustomizations"

def name (k : Kind) : String := k.resource.kind

def all : List Kind := [helmRepository, gitRepository, ociRepository, helmRelease, kustomization]

def ofName? (name : String) : Option Kind := all.find? (·.name = name)

abbrev Spec : Kind → Type
  | helmRepository => HelmRepository
  | gitRepository => GitRepository
  | ociRepository => OciRepository
  | helmRelease => HelmRelease
  | kustomization => Kustomization

def record : (k : Kind) → Record k.Spec
  | helmRepository => HelmRepository.record
  | gitRepository => GitRepository.record
  | ociRepository => OciRepository.record
  | helmRelease => HelmRelease.record
  | kustomization => Kustomization.record

instance (k : Kind) : BEq k.Spec :=
  match k with
  | helmRepository => inferInstanceAs (BEq HelmRepository)
  | gitRepository => inferInstanceAs (BEq GitRepository)
  | ociRepository => inferInstanceAs (BEq OciRepository)
  | helmRelease => inferInstanceAs (BEq HelmRelease)
  | kustomization => inferInstanceAs (BEq Kustomization)

def blank (k : Kind) : k.Spec := k.record.blank

/-! ## Suspension -/

def suspend : (k : Kind) → k.Spec → Option Bool
  | helmRepository => HelmRepository.suspend
  | gitRepository => GitRepository.suspend
  | ociRepository => OciRepository.suspend
  | helmRelease => HelmRelease.suspend
  | kustomization => Kustomization.suspend

/-- The wanted state with the switch in a position. -/
def withSuspend : (k : Kind) → Option Bool → k.Spec → k.Spec
  | helmRepository => fun v s => { s with suspend := v }
  | gitRepository => fun v s => { s with suspend := v }
  | ociRepository => fun v s => { s with suspend := v }
  | helmRelease => fun v s => { s with suspend := v }
  | kustomization => fun v s => { s with suspend := v }

@[simp] theorem suspend_withSuspend (k : Kind) (v : Option Bool) (s : k.Spec) : k.suspend (k.withSuspend v s) = v := by
  cases k <;> rfl

/-! ## Defaults -/

def interval : String := "1m0s"

/-- The number of retries that never gives up. -/
def retryForever : Int := -1

/-- The provider of a source that names none. -/
def defaultProvider : String := "generic"

/-- The timeout of a source that names none. -/
def defaultTimeout : String := "60s"

/-- A remediation that never gives up, the rest of it as it was. -/
def remedyForever (r : Option Remediation) : Option Remediation := some { r.getD {} with retries := some retryForever }

/-- The wanted state with the engine's decisions in it and with what the cluster would fill in. -/
def applyDefaults : (k : Kind) → k.Spec → k.Spec
  | helmRepository => fun s =>
    { s with interval := some interval, provider := some (s.provider.getD defaultProvider) }
  | gitRepository => fun s =>
    { s with interval := some interval, timeout := some (s.timeout.getD defaultTimeout) }
  | ociRepository => fun s =>
    { s with
      interval := some interval
      provider := some (s.provider.getD defaultProvider)
      timeout := some (s.timeout.getD defaultTimeout) }
  | helmRelease => fun s =>
    let install := s.install.getD {}
    let upgrade := s.upgrade.getD {}
    { s with
      interval := some interval
      install := some { install with createNamespace := some true, remediation := remedyForever install.remediation }
      upgrade := some { upgrade with remediation := remedyForever upgrade.remediation } }
  | kustomization => fun s => { s with interval := some interval }

theorem suspend_applyDefaults (k : Kind) (s : k.Spec) : k.suspend (k.applyDefaults s) = k.suspend s := by
  cases k <;> rfl

end Kind

end Converge.Flux
