import Converge.Cluster.Metadata
import Converge.Flux.Kind
import Converge.Flux.Status
import Converge.Proofs.Records

/-!
# Laws of metadata, of the wanted states, and of what is reported

* `Metadata.lawful`: metadata obeys the laws of codecs; only the parts of a second are lost when it is written.
  `Flux.Status.lawful`: so does what the controllers report.
* `Flux.Kind.lawful`: so does the wanted state of every kind. `Flux.Kind.kept_of_read`: nothing of it is lost in writing, and
  `Flux.Kind.beq_iff_write`: wanted states are equal iff their written forms are.
* `Flux.Kind.kept_withSuspend`, `kept_applyDefaults`: the changes that the engine makes to a wanted state can be written, too.
-/

namespace Converge

set_option autoImplicit false

open Codec

/-! ## Metadata -/

theorem OwnerReference.lawful : OwnerReference.record.codec.Lawful :=
  Record.lawful ⟨.lenient string_lawful (Kept.rereads rfl) nofun, .optional bool_lawful, .optional bool_lawful,
    .lenient string_lawful (Kept.rereads rfl) nofun, .lenient string_lawful (Kept.rereads rfl) nofun,
    .lenient string_lawful (Kept.rereads rfl) nofun⟩

theorem ManagedFields.lawful : ManagedFields.record.codec.Lawful :=
  Record.lawful ⟨.optional string_lawful, .optional string_lawful, .optional json_lawful, .optional string_lawful,
    .optional string_lawful, .optional string_lawful, .optional instant_lawful⟩

theorem OwnerReference.neat : OwnerReference.record.codec.Neat :=
  Record.neat rfl ⟨.lenient string_neat nofun, .optional bool_lawful bool_neat, .optional bool_lawful bool_neat,
    .lenient string_neat nofun, .lenient string_neat nofun, .lenient string_neat nofun⟩

theorem ManagedFields.neat : ManagedFields.record.codec.Neat :=
  Record.neat rfl ⟨.optional string_lawful string_neat, .optional string_lawful string_neat, .optional json_lawful json_neat,
    .optional string_lawful string_neat, .optional string_lawful string_neat, .optional string_lawful string_neat,
    .optional instant_lawful instant_neat⟩

theorem Metadata.members_lawful : Metadata.record.fields.Forall fun f => f.Lawful (f.get Metadata.record.blank) :=
  ⟨.optional stringMap_lawful, .optional instant_lawful, .optional int64_lawful, .optional instant_lawful,
    .optional (list_lawful string_lawful), .optional string_lawful, .optional int64_lawful, .optional stringMap_lawful,
    .optional (list_lawful ManagedFields.lawful), .optional string_lawful, .optional string_lawful,
    .optional (list_lawful OwnerReference.lawful), .optional string_lawful, .optional string_lawful,
    .optional string_lawful⟩

theorem Metadata.lawful : Metadata.codec.Lawful := Record.lawful Metadata.members_lawful

theorem Metadata.neat : Metadata.codec.Neat :=
  Record.neat rfl ⟨.optional stringMap_lawful stringMap_neat, .optional instant_lawful instant_neat,
    .optional int64_lawful int64_neat, .optional instant_lawful instant_neat,
    .optional (list_lawful string_lawful) (list_neat string_neat), .optional string_lawful string_neat,
    .optional int64_lawful int64_neat, .optional stringMap_lawful stringMap_neat,
    .optional (list_lawful ManagedFields.lawful) (list_neat ManagedFields.neat), .optional string_lawful string_neat,
    .optional string_lawful string_neat, .optional (list_lawful OwnerReference.lawful) (list_neat OwnerReference.neat),
    .optional string_lawful string_neat, .optional string_lawful string_neat, .optional string_lawful string_neat⟩

namespace Flux

/-! ## What is reported -/

theorem ReportedCondition.lawful : ReportedCondition.record.codec.Lawful :=
  Record.lawful ⟨.required instant_lawful (instant_rereads (by decide)), .lenient string_lawful (Kept.rereads rfl) nofun,
    .optional int64_lawful, .lenient string_lawful (Kept.rereads rfl) nofun, .lenient string_lawful (Kept.rereads rfl) nofun,
    .lenient string_lawful (Kept.rereads rfl) nofun⟩

theorem Status.lawful : Status.codec.Lawful :=
  Record.lawful ⟨.optional int64_lawful, .optional (list_lawful ReportedCondition.lawful)⟩

/-! ## Parts of wanted states -/

theorem SourceReference.lawful : SourceReference.record.codec.Lawful :=
  Record.lawful ⟨.optional string_lawful, .defaulted string_lawful (Kept.rereads rfl),
    .defaulted string_lawful (Kept.rereads rfl), .optional string_lawful⟩

theorem SourceReference.injective : SourceReference.record.codec.Injective :=
  Record.injective ⟨.optional string_injective, .defaulted string_injective, .defaulted string_injective,
    .optional string_injective⟩

theorem SecretReference.lawful : SecretReference.record.codec.Lawful :=
  Record.lawful (.lenient string_lawful (Kept.rereads rfl) nofun)

theorem SecretReference.injective : SecretReference.record.codec.Injective :=
  Record.injective (.lenient string_injective)

theorem GitReference.lawful : GitReference.record.codec.Lawful :=
  Record.lawful ⟨.optional string_lawful, .optional string_lawful, .optional string_lawful, .optional string_lawful⟩

theorem GitReference.injective : GitReference.record.codec.Injective :=
  Record.injective ⟨.optional string_injective, .optional string_injective, .optional string_injective,
    .optional string_injective⟩

theorem OciReference.lawful : OciReference.record.codec.Lawful :=
  Record.lawful ⟨.optional string_lawful, .optional string_lawful, .optional string_lawful⟩

theorem OciReference.injective : OciReference.record.codec.Injective :=
  Record.injective ⟨.optional string_injective, .optional string_injective, .optional string_injective⟩

theorem ChartSpec.lawful : ChartSpec.record.codec.Lawful :=
  Record.lawful ⟨.defaulted string_lawful (Kept.rereads rfl), .optional string_lawful,
    .defaulted SourceReference.lawful (Kept.rereads rfl), .optional string_lawful⟩

theorem ChartSpec.injective : ChartSpec.record.codec.Injective :=
  Record.injective ⟨.defaulted string_injective, .optional string_injective, .defaulted SourceReference.injective,
    .optional string_injective⟩

theorem ChartTemplate.lawful : ChartTemplate.record.codec.Lawful :=
  Record.lawful (.defaulted ChartSpec.lawful (Kept.rereads rfl))

theorem ChartTemplate.injective : ChartTemplate.record.codec.Injective :=
  Record.injective (.defaulted ChartSpec.injective)

theorem Remediation.lawful : Remediation.record.codec.Lawful :=
  Record.lawful (.optional int64_lawful)

theorem Remediation.injective : Remediation.record.codec.Injective :=
  Record.injective (.optional int64_injective)

theorem HelmInstall.lawful : HelmInstall.record.codec.Lawful :=
  Record.lawful ⟨.optional bool_lawful, .optional string_lawful, .optional Remediation.lawful⟩

theorem HelmInstall.injective : HelmInstall.record.codec.Injective :=
  Record.injective ⟨.optional bool_injective, .optional string_injective, .optional Remediation.injective⟩

theorem HelmUpgrade.lawful : HelmUpgrade.record.codec.Lawful :=
  Record.lawful ⟨.optional string_lawful, .optional Remediation.lawful⟩

theorem HelmUpgrade.injective : HelmUpgrade.record.codec.Injective :=
  Record.injective ⟨.optional string_injective, .optional Remediation.injective⟩

/-! ## Wanted states -/

theorem HelmRepository.lawful : HelmRepository.record.codec.Lawful :=
  Record.lawful ⟨.defaulted string_lawful (Kept.rereads rfl), .optional string_lawful, .optional string_lawful,
    .optional string_lawful, .optional SecretReference.lawful, .optional string_lawful, .optional bool_lawful,
    .optional bool_lawful⟩

theorem HelmRepository.injective : HelmRepository.record.codec.Injective :=
  Record.injective ⟨.defaulted string_injective, .optional string_injective, .optional string_injective,
    .optional string_injective, .optional SecretReference.injective, .optional string_injective,
    .optional bool_injective, .optional bool_injective⟩

theorem GitRepository.lawful : GitRepository.record.codec.Lawful :=
  Record.lawful ⟨.defaulted string_lawful (Kept.rereads rfl), .optional GitReference.lawful, .optional string_lawful,
    .optional string_lawful, .optional SecretReference.lawful, .optional string_lawful, .optional bool_lawful⟩

theorem GitRepository.injective : GitRepository.record.codec.Injective :=
  Record.injective ⟨.defaulted string_injective, .optional GitReference.injective, .optional string_injective,
    .optional string_injective, .optional SecretReference.injective, .optional string_injective,
    .optional bool_injective⟩

theorem OciRepository.lawful : OciRepository.record.codec.Lawful :=
  Record.lawful ⟨.defaulted string_lawful (Kept.rereads rfl), .optional OciReference.lawful, .optional string_lawful,
    .optional string_lawful, .optional SecretReference.lawful, .optional string_lawful, .optional bool_lawful,
    .optional bool_lawful⟩

theorem OciRepository.injective : OciRepository.record.codec.Injective :=
  Record.injective ⟨.defaulted string_injective, .optional OciReference.injective, .optional string_injective,
    .optional string_injective, .optional SecretReference.injective, .optional string_injective,
    .optional bool_injective, .optional bool_injective⟩

theorem HelmRelease.lawful : HelmRelease.record.codec.Lawful :=
  Record.lawful ⟨.optional ChartTemplate.lawful, .optional SourceReference.lawful, .optional string_lawful,
    .optional string_lawful, .optional string_lawful, .optional HelmInstall.lawful, .optional HelmUpgrade.lawful,
    .optional json_lawful, .optional bool_lawful⟩

theorem Kustomization.lawful : Kustomization.record.codec.Lawful :=
  Record.lawful ⟨.defaulted SourceReference.lawful (Kept.rereads rfl), .optional string_lawful, .optional string_lawful,
    .defaulted bool_lawful (Kept.rereads rfl), .optional string_lawful, .optional bool_lawful, .optional bool_lawful⟩

theorem Kustomization.injective : Kustomization.record.codec.Injective :=
  Record.injective ⟨.defaulted SourceReference.injective, .optional string_injective, .optional string_injective,
    .defaulted bool_injective, .optional string_injective, .optional bool_injective, .optional bool_injective⟩

theorem HelmRelease.faithful : HelmRelease.record.fields.Forall Field.Faithful :=
  ⟨(Field.Injective.optional ChartTemplate.injective).faithful, (Field.Injective.optional SourceReference.injective).faithful,
    (Field.Injective.optional string_injective).faithful, (Field.Injective.optional string_injective).faithful,
    (Field.Injective.optional string_injective).faithful, (Field.Injective.optional HelmInstall.injective).faithful,
    (Field.Injective.optional HelmUpgrade.injective).faithful, .optional fun _ _ h => h,
    (Field.Injective.optional bool_injective).faithful⟩

/-- Releases that are written alike are equal, but for the doubles that the values of a chart may hold. -/
theorem HelmRelease.beq_of_write {s t : HelmRelease} (h : (HelmRelease.record.write s == HelmRelease.record.write t) = true) :
    (s == t) = true := by
  obtain ⟨h₁, h₂, h₃, h₄, h₅, h₆, h₇, h₈, h₉⟩ := Record.members_beq_of_write h
  have hchart : s.chart = t.chart := Field.Injective.optional ChartTemplate.injective _ _ h₁
  have hchartRef : s.chartRef = t.chartRef := Field.Injective.optional SourceReference.injective _ _ h₂
  have hinterval : s.interval = t.interval := Field.Injective.optional string_injective _ _ h₃
  have hreleaseName : s.releaseName = t.releaseName := Field.Injective.optional string_injective _ _ h₄
  have htargetNamespace : s.targetNamespace = t.targetNamespace := Field.Injective.optional string_injective _ _ h₅
  have hinstall : s.install = t.install := Field.Injective.optional HelmInstall.injective _ _ h₆
  have hupgrade : s.upgrade = t.upgrade := Field.Injective.optional HelmUpgrade.injective _ _ h₇
  have hvalues : (s.values == t.values) = true := by
    have hwritten : (s.values.map id == t.values.map id) = true := h₈
    rwa [Option.map_id_fun, id, id] at hwritten
  have hsuspend : s.suspend = t.suspend := Field.Injective.optional bool_injective _ _ h₉
  show instBEqHelmRelease.beq s t = true
  simp only [instBEqHelmRelease.beq, hchart, hchartRef, hinterval, hreleaseName, htargetNamespace, hinstall, hupgrade, hvalues,
    hsuspend, BEq.rfl, Bool.and_true]

/-- Equal releases are written alike. -/
theorem HelmRelease.write_of_beq {s t : HelmRelease} (h : (s == t) = true) :
    (HelmRelease.record.write s == HelmRelease.record.write t) = true := by
  have hmembers : instBEqHelmRelease.beq s t = true := h
  simp only [instBEqHelmRelease.beq, Bool.and_eq_true, beq_iff_eq] at hmembers
  obtain ⟨hchart, hchartRef, hinterval, hreleaseName, htargetNamespace, hinstall, hupgrade, hvalues, hsuspend⟩ := hmembers
  have hwritten : (s.values.map id == t.values.map id) = true := by rwa [Option.map_id_fun, id, id]
  exact Record.write_beq (List.forall_iff_forall_mem.1 ⟨Field.write_beq_of_get hchart, Field.write_beq_of_get hchartRef,
    Field.write_beq_of_get hinterval, Field.write_beq_of_get hreleaseName, Field.write_beq_of_get htargetNamespace,
    Field.write_beq_of_get hinstall, Field.write_beq_of_get hupgrade, hwritten, Field.write_beq_of_get hsuspend⟩)

namespace Kind

theorem lawful (k : Kind) : k.record.codec.Lawful := by
  cases k with
  | helmRepository => exact HelmRepository.lawful
  | gitRepository => exact GitRepository.lawful
  | ociRepository => exact OciRepository.lawful
  | helmRelease => exact HelmRelease.lawful
  | kustomization => exact Kustomization.lawful

theorem kept_blank (k : Kind) : k.record.codec.Kept k.blank := by
  cases k <;> rfl

/-- Whatever was read as the wanted state of a kind is read again from its written form. -/
theorem kept_of_read {k : Kind} {v : Json} {s : k.Spec} (h : k.record.read v = .ok s) : k.record.codec.Kept s := by
  have hs : k.record.codec.Rereads s := k.lawful.rereads h
  cases k with
  | helmRepository => exact HelmRepository.injective.kept hs
  | gitRepository => exact GitRepository.injective.kept hs
  | ociRepository => exact OciRepository.injective.kept hs
  | helmRelease => exact Record.kept_of_rereads HelmRelease.faithful hs
  | kustomization => exact Kustomization.injective.kept hs

/-- Wanted states that are written alike are equal. -/
theorem beq_of_write {k : Kind} {s t : k.Spec} (h : (k.record.write s == k.record.write t) = true) : (s == t) = true := by
  cases k with
  | helmRepository => exact beq_iff_eq.2 (HelmRepository.injective s t h)
  | gitRepository => exact beq_iff_eq.2 (GitRepository.injective s t h)
  | ociRepository => exact beq_iff_eq.2 (OciRepository.injective s t h)
  | helmRelease => exact HelmRelease.beq_of_write h
  | kustomization => exact beq_iff_eq.2 (Kustomization.injective s t h)

theorem write_of_beq {k : Kind} {s t : k.Spec} (h : (s == t) = true) : (k.record.write s == k.record.write t) = true := by
  cases k with
  | helmRepository => exact eq_of_beq (α := HelmRepository) h ▸ BEq.rfl
  | gitRepository => exact eq_of_beq (α := GitRepository) h ▸ BEq.rfl
  | ociRepository => exact eq_of_beq (α := OciRepository) h ▸ BEq.rfl
  | helmRelease => exact HelmRelease.write_of_beq h
  | kustomization => exact eq_of_beq (α := Kustomization) h ▸ BEq.rfl

/-- **Comparing written forms tells a change**: wanted states are equal iff they are written alike. -/
theorem beq_iff_write {k : Kind} {s t : k.Spec} : (s == t) = true ↔ (k.record.write s == k.record.write t) = true :=
  ⟨write_of_beq, beq_of_write⟩

/-! ## The engine's changes -/

theorem kept_withSuspend {k : Kind} {s : k.Spec} (h : k.record.codec.Kept s) (v : Option Bool) :
    k.record.codec.Kept (k.withSuspend v s) := by
  cases k with
  | helmRepository =>
    obtain ⟨h₁, h₂, h₃, h₄, h₅, h₆, h₇, -⟩ := (Record.kept_iff rfl).1 h
    exact (Record.kept_iff rfl).2 ⟨h₁, h₂, h₃, h₄, h₅, h₆, h₇, Field.optional_kept bool_kept v⟩
  | gitRepository =>
    obtain ⟨h₁, h₂, h₃, h₄, h₅, h₆, -⟩ := (Record.kept_iff rfl).1 h
    exact (Record.kept_iff rfl).2 ⟨h₁, h₂, h₃, h₄, h₅, h₆, Field.optional_kept bool_kept v⟩
  | ociRepository =>
    obtain ⟨h₁, h₂, h₃, h₄, h₅, h₆, h₇, -⟩ := (Record.kept_iff rfl).1 h
    exact (Record.kept_iff rfl).2 ⟨h₁, h₂, h₃, h₄, h₅, h₆, h₇, Field.optional_kept bool_kept v⟩
  | helmRelease =>
    obtain ⟨h₁, h₂, h₃, h₄, h₅, h₆, h₇, h₈, -⟩ := (Record.kept_iff rfl).1 h
    exact (Record.kept_iff rfl).2 ⟨h₁, h₂, h₃, h₄, h₅, h₆, h₇, h₈, Field.optional_kept bool_kept v⟩
  | kustomization =>
    obtain ⟨h₁, h₂, h₃, h₄, h₅, h₆, -⟩ := (Record.kept_iff rfl).1 h
    exact (Record.kept_iff rfl).2 ⟨h₁, h₂, h₃, h₄, h₅, h₆, Field.optional_kept bool_kept v⟩

theorem remedyForever_kept (r : Option Remediation) :
    (Field.optional "remediation" Remediation.record.codec HelmUpgrade.remediation fun v u => { u with remediation := v }).Kept
      none (remedyForever r) :=
  Field.optional_kept_some rfl nofun

theorem kept_applyDefaults {k : Kind} {s : k.Spec} (h : k.record.codec.Kept s) : k.record.codec.Kept (k.applyDefaults s) := by
  cases k with
  | helmRepository =>
    obtain ⟨h₁, h₂, -, h₄, h₅, -, h₇, h₈⟩ := (Record.kept_iff rfl).1 h
    exact (Record.kept_iff rfl).2
      ⟨h₁, h₂, Field.optional_kept string_kept _, h₄, h₅, Field.optional_kept string_kept _, h₇, h₈⟩
  | gitRepository =>
    obtain ⟨h₁, h₂, -, -, h₅, h₆, h₇⟩ := (Record.kept_iff rfl).1 h
    exact (Record.kept_iff rfl).2
      ⟨h₁, h₂, Field.optional_kept string_kept _, Field.optional_kept string_kept _, h₅, h₆, h₇⟩
  | ociRepository =>
    obtain ⟨h₁, h₂, -, -, h₅, -, h₇, h₈⟩ := (Record.kept_iff rfl).1 h
    exact (Record.kept_iff rfl).2 ⟨h₁, h₂, Field.optional_kept string_kept _, Field.optional_kept string_kept _, h₅,
      Field.optional_kept string_kept _, h₇, h₈⟩
  | helmRelease =>
    obtain ⟨h₁, h₂, -, h₄, h₅, -, -, h₈, h₉⟩ := (Record.kept_iff rfl).1 h
    have hinstall (i : HelmInstall) : HelmInstall.record.codec.Kept
        { i with createNamespace := some true, remediation := remedyForever i.remediation } :=
      (Record.kept_iff rfl).2
        ⟨Field.optional_kept bool_kept _, Field.optional_kept string_kept _, remedyForever_kept i.remediation⟩
    have hupgrade (u : HelmUpgrade) : HelmUpgrade.record.codec.Kept { u with remediation := remedyForever u.remediation } :=
      (Record.kept_iff rfl).2 ⟨Field.optional_kept string_kept _, remedyForever_kept u.remediation⟩
    exact (Record.kept_iff rfl).2 ⟨h₁, h₂, Field.optional_kept string_kept _, h₄, h₅,
      Field.optional_kept_some (hinstall _) nofun, Field.optional_kept_some (hupgrade _) nofun, h₈, h₉⟩
  | kustomization =>
    obtain ⟨h₁, h₂, -, h₄, h₅, h₆, h₇⟩ := (Record.kept_iff rfl).1 h
    exact (Record.kept_iff rfl).2 ⟨h₁, h₂, Field.optional_kept string_kept _, h₄, h₅, h₆, h₇⟩

end Kind

end Flux

end Converge
