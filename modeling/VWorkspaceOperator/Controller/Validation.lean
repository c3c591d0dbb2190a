import VWorkspaceOperator.Engines.Validation

/-!
# Validation in the controllers

The checks the reconcilers make of a stored spec.  With the admission webhooks
off, which is the default, these are the only ones: an object that fails them
is stored all the same.
-/

namespace VWorkspace

open Kit

def validateOperationSpec (op : Operation) : Except GoError Unit :=
  if op.spec.targetRef.apiVersion ≠ appsGroupVersion then
    .error { msg := "spec.targetRef.apiVersion must be " ++ appsGroupVersion }
  else if op.spec.targetRef.kind ≠ "ApplicationInstance" then
    .error { msg := "spec.targetRef.kind must be ApplicationInstance" }
  else if trimSpace op.spec.targetRef.name = "" then
    .error { msg := "spec.targetRef.name is required" }
  else if trimSpace op.spec.type.text = "" then .error { msg := "spec.type is required" }
  else if trimSpace op.spec.engine.text = "" then .error { msg := "spec.engine is required" }
  else validateRuntimeParameters op

theorem validateRuntimeParameters_of_validateOperationSpec {op : Operation}
    (h : validateOperationSpec op = .ok ()) : validateRuntimeParameters op = .ok () := by
  unfold validateOperationSpec at h
  split_ifs at h
  exact h

def validateChart (chart : ChartSpec) : Except GoError Unit :=
  if chart.sourceType = .unset then .error { msg := "spec.chart.sourceType must be oci or helm" }
  else if trimSpace chart.url = "" then .error { msg := "spec.chart.url is required" }
  else if trimSpace chart.name = "" then .error { msg := "spec.chart.name is required" }
  else if trimSpace chart.version = "" then .error { msg := "spec.chart.version is required" }
  else .ok ()

def validateRelease (ns : String) (release : ReleaseSpec) : Except GoError Unit :=
  if trimSpace release.name = "" then .error { msg := "spec.release.name is required" }
  else if trimSpace release.ns = "" then .error { msg := "spec.release.namespace is required" }
  else if release.ns ≠ ns then
    .error { msg := "spec.release.namespace must match metadata.namespace" }
  else .ok ()

def refComplete : Option ObjectKeyRef → Bool
  | some ref => ref.name ≠ "" && ref.key ≠ ""
  | none => false

def validateValues (values : ValuesSpec) : Except GoError Unit :=
  match values.source with
  | .inline =>
      if values.inline.isNone then
        .error { msg := "spec.values.inline is required when source is inline" }
      else .ok ()
  | .secretRef =>
      if refComplete values.secretRef then .ok ()
      else .error
        { msg := "spec.values.secretRef name and key are required when source is secretRef" }
  | .configMapRef =>
      if refComplete values.configMapRef then .ok ()
      else .error
        { msg := "spec.values.configMapRef name and key are required when source is configMapRef" }
  | .unset => .error { msg := "spec.values.source must be inline, secretRef, or configMapRef" }

def validatePlaceholderSpec (ns : String) (spec : ApplicationInstanceSpec) : Except GoError Unit :=
  if spec.chart.isSome then .error { msg := "spec.chart must not be set in placeholder mode" }
  else if spec.values.isSome then
    .error { msg := "spec.values must not be set in placeholder mode" }
  else
    match spec.release with
    | some release =>
        if trimSpace release.ns ≠ "" ∧ release.ns ≠ ns then
          .error { msg := "spec.release.namespace must match metadata.namespace" }
        else .ok ()
    | none => .ok ()

/-- The checks of release and values that managed instances share. -/
def validateReleaseAndValues (ns : String) (spec : ApplicationInstanceSpec) : Except GoError Unit :=
  match spec.release with
  | none => .error { msg := "spec.release is required" }
  | some release => do
      validateRelease ns release
      match spec.values with
      | none => .error { msg := "spec.values is required" }
      | some values => validateValues values

def validateNativeSeaweedSpec (ns : String) (spec : ApplicationInstanceSpec) :
    Except GoError Unit :=
  if spec.chart.isSome then
    .error { msg := "spec.chart must not be set for native SeaweedFS workloads " ++
      "(remove spec.chart and redeploy; see docs/api/application-instance.md)" }
  else validateReleaseAndValues ns spec

def catalogIdSeaweedFS : String := "seaweedfs"

def validateApplicationInstanceSpec (app : ApplicationInstance) : Except GoError Unit :=
  if trimSpace app.spec.catalogId = "" then .error { msg := "spec.appRef.catalogId is required" }
  else if app.spec.mode = .placeholder then validatePlaceholderSpec app.metadata.ns app.spec
  else if app.spec.catalogId = catalogIdSeaweedFS then
    validateNativeSeaweedSpec app.metadata.ns app.spec
  else
    match app.spec.chart with
    | none => .error { msg := "spec.chart is required" }
    | some chart => do
        validateChart chart
        validateReleaseAndValues app.metadata.ns app.spec

theorem of_validateRelease {ns : String} {release : ReleaseSpec}
    (h : validateRelease ns release = .ok ()) : release.name ≠ "" ∧ release.ns = ns := by
  unfold validateRelease at h
  split_ifs at h with hname _ hns
  refine ⟨fun hempty => hname ?_, not_not.mp hns⟩
  rw [hempty]
  rfl

theorem of_validateReleaseAndValues {ns : String} {spec : ApplicationInstanceSpec}
    (h : validateReleaseAndValues ns spec = .ok ()) :
    ∃ release values, spec.release = some release ∧ spec.values = some values ∧
      validateRelease ns release = .ok () ∧ validateValues values = .ok () := by
  unfold validateReleaseAndValues at h
  split at h
  · exact absurd h (by simp)
  · next release hrelease =>
    obtain ⟨u, hvalid, h⟩ := exists_of_bind_ok h
    split at h
    · exact absurd h (by simp)
    · next values hvalues => exact ⟨release, values, hrelease, hvalues, hvalid, h⟩

theorem of_validateApplicationInstanceSpec {app : ApplicationInstance}
    (h : validateApplicationInstanceSpec app = .ok ()) (hmode : app.spec.mode ≠ .placeholder) :
    validateReleaseAndValues app.metadata.ns app.spec = .ok () ∧
      (app.spec.catalogId = catalogIdSeaweedFS ∧ app.spec.chart = none ∨
        app.spec.catalogId ≠ catalogIdSeaweedFS ∧ ∃ chart, app.spec.chart = some chart) := by
  unfold validateApplicationInstanceSpec at h
  split_ifs at h with _ hseaweed
  · unfold validateNativeSeaweedSpec at h
    split_ifs at h with hchart
    exact ⟨h, .inl ⟨hseaweed, by simpa using hchart⟩⟩
  · split at h
    · exact absurd h (by simp)
    · next chart hchart =>
      obtain ⟨u, -, h⟩ := exists_of_bind_ok h
      exact ⟨h, .inr ⟨hseaweed, chart, hchart⟩⟩

end VWorkspace
