import Converge.Flux.Reference

/-!
# Helm releases

* `Flux.ChartTemplate` says where a chart is found, `Flux.HelmInstall` and `Flux.HelmUpgrade` how it is put in, and
  `Flux.HelmRelease` is the wanted state of a release.
-/

namespace Converge.Flux

set_option autoImplicit false

/-- Which chart, and where from. -/
structure ChartSpec where
  chart : String := ""
  version : Option String := none
  sourceRef : SourceReference := {}
  interval : Option String := none
deriving BEq, ReflBEq, LawfulBEq, DecidableEq, Inhabited

def ChartSpec.record : Record ChartSpec where
  name := "struct HelmChartTemplateSpec"
  blank := {}
  positional := true
  fields := [
    .defaulted "chart" .string (·.chart) fun v s => { s with chart := v },
    .optional "version" .string (·.version) fun v s => { s with version := v },
    .defaulted "sourceRef" SourceReference.record.codec (·.sourceRef) fun v s => { s with sourceRef := v },
    .optional "interval" .string (·.interval) fun v s => { s with interval := v }]

structure ChartTemplate where
  spec : ChartSpec := {}
deriving BEq, ReflBEq, LawfulBEq, DecidableEq, Inhabited

def ChartTemplate.record : Record ChartTemplate where
  name := "struct HelmChartTemplate"
  blank := {}
  positional := true
  fields := [.defaulted "spec" ChartSpec.record.codec (·.spec) fun v t => { t with spec := v }]

/-- What is done after a failure. -/
structure Remediation where
  /-- How often to try again; a negative number never gives up. -/
  retries : Option Int := none
deriving BEq, ReflBEq, LawfulBEq, DecidableEq, Inhabited

def Remediation.record : Record Remediation where
  name := "struct Remediation"
  blank := {}
  positional := true
  fields := [.optional "retries" .int64 (·.retries) fun v r => { r with retries := v }]

structure HelmInstall where
  createNamespace : Option Bool := none
  crds : Option String := none
  remediation : Option Remediation := none
deriving BEq, ReflBEq, LawfulBEq, DecidableEq, Inhabited

def HelmInstall.record : Record HelmInstall where
  name := "struct HelmInstall"
  blank := {}
  positional := true
  fields := [
    .optional "createNamespace" .bool (·.createNamespace) fun v i => { i with createNamespace := v },
    .optional "crds" .string (·.crds) fun v i => { i with crds := v },
    .optional "remediation" Remediation.record.codec (·.remediation) fun v i => { i with remediation := v }]

structure HelmUpgrade where
  crds : Option String := none
  remediation : Option Remediation := none
deriving BEq, ReflBEq, LawfulBEq, DecidableEq, Inhabited

def HelmUpgrade.record : Record HelmUpgrade where
  name := "struct HelmUpgrade"
  blank := {}
  positional := true
  fields := [
    .optional "crds" .string (·.crds) fun v u => { u with crds := v },
    .optional "remediation" Remediation.record.codec (·.remediation) fun v u => { u with remediation := v }]

structure HelmRelease where
  chart : Option ChartTemplate := none
  chartRef : Option SourceReference := none
  interval : Option String := none
  releaseName : Option String := none
  targetNamespace : Option String := none
  install : Option HelmInstall := none
  upgrade : Option HelmUpgrade := none
  values : Option Json := none
  suspend : Option Bool := none
deriving BEq, ReflBEq, Inhabited

def HelmRelease.record : Record HelmRelease where
  name := "struct HelmReleaseSpec"
  blank := {}
  positional := true
  fields := [
    .optional "chart" ChartTemplate.record.codec (·.chart) fun v s => { s with chart := v },
    .optional "chartRef" SourceReference.record.codec (·.chartRef) fun v s => { s with chartRef := v },
    .optional "interval" .string (·.interval) fun v s => { s with interval := v },
    .optional "releaseName" .string (·.releaseName) fun v s => { s with releaseName := v },
    .optional "targetNamespace" .string (·.targetNamespace) fun v s => { s with targetNamespace := v },
    .optional "install" HelmInstall.record.codec (·.install) fun v s => { s with install := v },
    .optional "upgrade" HelmUpgrade.record.codec (·.upgrade) fun v s => { s with upgrade := v },
    .optional "values" .json (·.values) fun v s => { s with values := v },
    .optional "suspend" .bool (·.suspend) fun v s => { s with suspend := v }]

end Converge.Flux
