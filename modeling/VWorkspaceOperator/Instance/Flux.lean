import VWorkspaceOperator.Engines.Workflow
import VWorkspaceOperator.Instance.Cluster

/-!
# The Flux engine

Keeps the Flux objects of an instance that is installed with Helm: the source of its
chart, and the `HelmRelease` that names the source, the version and the values.  Both are
written from the spec of the instance, in every reconcile, over whatever is there.

The decoder for YAML is a parameter; a value document is tried as JSON first.
-/

namespace VWorkspace

open Kit InstanceM

/-- Chart, release and values, which a valid managed instance has. -/
structure HelmSpec where
  chart : ChartSpec
  release : ReleaseSpec
  values : ValuesSpec

/-- The parts of the spec a release is made from, if they are all there. -/
def ApplicationInstanceSpec.helm (spec : ApplicationInstanceSpec) : Option HelmSpec :=
  match spec.chart, spec.release, spec.values with
  | some chart, some release, some values => some ⟨chart, release, values⟩
  | _, _, _ => none

theorem of_helm {spec : ApplicationInstanceSpec} {h : HelmSpec} (hspec : spec.helm = some h) :
    spec.chart = some h.chart ∧ spec.release = some h.release ∧ spec.values = some h.values := by
  unfold ApplicationInstanceSpec.helm at hspec
  split at hspec
  · next hchart hrelease hvalues =>
    obtain rfl := Option.some.inj hspec
    exact ⟨hchart, hrelease, hvalues⟩
  · exact absurd hspec (by simp)

/-- `FluxEngine`, with `yaml.Unmarshal` into an empty map. -/
structure FluxEngine where
  yamlUnmarshal : Bytes → Except String (Option Fields)

def chartSourceName (release : ReleaseSpec) : String := release.name ++ "-source"

def clusterIDKey : String := "app.vworkspace.io/cluster-id"

def applicationInstanceKey : String := "app.vworkspace.io/application-instance"

def labelOf (app : ApplicationInstance) (key : String) : String :=
  (app.metadata.labels.lookup key).getD ""

def ownerLabels (app : ApplicationInstance) : List (String × String) :=
  let labels := [(managedByKey, "vworkspace-operator"), (applicationInstanceKey, app.metadata.name)]
  let labels :=
    if labelOf app clusterIDKey ≠ "" then setField clusterIDKey (labelOf app clusterIDKey) labels
    else labels
  if labelOf app managedByKey ≠ "" then setField managedByKey (labelOf app managedByKey) labels
  else labels

def controllerReference (app : ApplicationInstance) : OwnerReference where
  apiVersion := appsGroupVersion
  kind := "ApplicationInstance"
  name := app.metadata.name
  uid := app.metadata.uid
  controller := true

/-- `controllerutil.SetControllerReference` with an instance as the owner. -/
def setControllerReference (app : ApplicationInstance) (m : ObjectMeta) :
    Except GoError ObjectMeta := setControllerReferenceTo (controllerReference app) m

theorem key_setControllerReference {app : ApplicationInstance} {m m' : ObjectMeta}
    (h : setControllerReference app m = .ok m') : m'.key = m.key := by
  rw [of_setControllerReferenceTo h]
  rfl

def mutateHelmRepository (app : ApplicationInstance) (chart : ChartSpec) (repo : Unstructured) :
    Except GoError Unstructured := do
  let body ← setBody (.str "1m0s") ["spec", "interval"] repo.body
  let body ← setBody (.str chart.url) ["spec", "url"] body
  pure { metadata := { repo.metadata with labels := ownerLabels app }, body }

/-- `strings.TrimPrefix` with the scheme of OCI registries. -/
def trimOCIScheme (url : String) : String :=
  let scheme := "oci://".toList
  if scheme.isPrefixOf url.toList then String.ofList (url.toList.drop scheme.length) else url

/-- What is written into an `OCIRepository`; the version is a tag of the source here. -/
def mutateOCIRepository (app : ApplicationInstance) (chart : ChartSpec) (repo : Unstructured) :
    Except GoError Unstructured := do
  let body ← setBody (.str "1m0s") ["spec", "interval"] repo.body
  let body ← setBody (.str (trimOCIScheme chart.url)) ["spec", "url"] body
  let body ← setBody (.str chart.version) ["spec", "ref", "tag"] body
  pure { metadata := { repo.metadata with labels := ownerLabels app }, body }

def ensureChartSource (app : ApplicationInstance) (spec : HelmSpec) : InstanceM Unit :=
  let k : ObjectKey := ⟨app.metadata.ns, chartSourceName spec.release⟩
  match spec.chart.sourceType with
  | .helm => createOrUpdate .helmRepository k fun repo =>
      Prog.ofExcept (mutateHelmRepository app spec.chart repo)
  | .oci => createOrUpdate .ociRepository k fun repo =>
      Prog.ofExcept (mutateOCIRepository app spec.chart repo)
  | .unset => Prog.throw { msg := "unsupported chart source type \"\"" }

namespace FluxEngine

def decodeValuesBytes (e : FluxEngine) (raw : Bytes) : Except GoError (Option Fields) :=
  match unmarshalAnyMap raw with
  | .ok values => .ok values
  | .error _ => (e.yamlUnmarshal raw).mapError fun msg =>
      { msg := "decode values as JSON or YAML: " ++ msg }

/-- The values in a Secret or a ConfigMap, always of the namespace of the instance. -/
def loadValues (e : FluxEngine) (s : InstanceSite) (what : String)
    (store : InstanceCluster → Store DataObject) (ns : String) (ref : ObjectKeyRef) :
    InstanceM (Option Fields) := do
  let place := what ++ " " ++ ns ++ "/" ++ ref.name
  match ← (read s fun c => (store c).get ⟨ns, ref.name⟩).mapError (·.wrap ("get " ++ place)) with
  | none => Prog.throw ((notFound (what ++ "s") ref.name).wrap ("get " ++ place))
  | some o =>
      match o.data.lookup ref.key with
      | none => Prog.throw { msg := place ++ " missing key " ++ goQuote ref.key }
      | some raw => Prog.ofExcept (e.decodeValuesBytes raw)

def loadValuesFromSecret (e : FluxEngine) (ns : String) (ref : ObjectKeyRef) :
    InstanceM (Option Fields) :=
  e.loadValues .getSecret "secret" InstanceCluster.secrets ns ref

def loadValuesFromConfigMap (e : FluxEngine) (ns : String) (ref : ObjectKeyRef) :
    InstanceM (Option Fields) :=
  e.loadValues .getConfigMap "configmap" InstanceCluster.configMaps ns ref

def buildValues (e : FluxEngine) (ns : String) (values : ValuesSpec) :
    InstanceM (Option Fields) :=
  match values.source with
  | .inline =>
      match values.inline with
      | none => pure none
      | some raw => Prog.ofExcept ((unmarshalAnyMap raw).mapError fun msg =>
          { msg := "decode inline values: " ++ msg })
  | .secretRef =>
      match values.secretRef with
      | none => Prog.throw { msg := "secretRef values source requires secretRef" }
      | some ref => e.loadValuesFromSecret ns ref
  | .configMapRef =>
      match values.configMapRef with
      | none => Prog.throw { msg := "configMapRef values source requires configMapRef" }
      | some ref => e.loadValuesFromConfigMap ns ref
  | .unset => Prog.throw { msg := "unsupported values source \"\"" }

end FluxEngine

def sourceKind (chart : ChartSpec) : String :=
  if chart.sourceType = .oci then "OCIRepository" else "HelmRepository"

/-- The part of a release that says which chart it installs. -/
def chartBody (spec : HelmSpec) (body : Fields) : Except GoError Fields := do
  let body ← setBody (.str "5m0s") ["spec", "interval"] body
  let body ← setBody (.str spec.chart.version) ["spec", "chart", "spec", "version"] body
  let body ← setBody (.str spec.chart.name) ["spec", "chart", "spec", "chart"] body
  setBody (.obj [("kind", .str (sourceKind spec.chart)), ("name", .str (chartSourceName spec.release))])
    ["spec", "chart", "spec", "sourceRef"] body

/-- The part of a release that holds the values: they are replaced as a whole. -/
def valuesBody (values : Option Fields) (body : Fields) : Except GoError Fields :=
  match values with
  | some values => setBody (.obj values) ["spec", "values"] body
  | none => .ok body

namespace FluxEngine

def mutateHelmRelease (e : FluxEngine) (app : ApplicationInstance) (spec : HelmSpec)
    (hr : Unstructured) : InstanceM Unstructured := do
  let owned ← Prog.ofExcept (setControllerReference app hr.metadata)
  let body ← Prog.ofExcept (chartBody spec hr.body)
  let values ← e.buildValues app.metadata.ns spec.values
  let body ← Prog.ofExcept (valuesBody values body)
  pure { metadata := { owned with labels := ownerLabels app }, body }

def ensureHelmRelease (e : FluxEngine) (app : ApplicationInstance) (spec : HelmSpec) :
    InstanceM Unit :=
  createOrUpdate .helmRelease ⟨app.metadata.ns, spec.release.name⟩ (e.mutateHelmRelease app spec)

def ensureRelease (e : FluxEngine) (app : ApplicationInstance) (spec : HelmSpec) :
    InstanceM Unit := do
  (ensureChartSource app spec).mapError (·.wrap "ensure chart source")
  e.ensureHelmRelease app spec

def deleteOne (ns : String) (kind : OwnedKind) (name : String) : InstanceM Unit :=
  (deleteObject kind ⟨ns, name⟩).mapError (·.wrap ("delete " ++ kind.text ++ "/" ++ name))

/-- `DeleteRelease`: the objects are found by their names, whoever controls them. -/
def deleteRelease (ns : String) (release : ReleaseSpec) : InstanceM Unit := do
  deleteOne ns .helmRelease release.name
  deleteOne ns .helmRepository (chartSourceName release)
  deleteOne ns .ociRepository (chartSourceName release)

end FluxEngine

structure ConditionSummary where
  reason : String := ""
  message : String := ""
  ready : Bool := false
  reconciling : Bool := false
  degraded : Bool := false
  deriving DecidableEq, Repr

structure StatusSnapshot extends ConditionSummary where
  releaseRef : HelmReleaseRef
  deriving DecidableEq, Repr

def mapHelmReleaseCondition (s : ConditionSummary) : Json → ConditionSummary
  | .obj cond =>
      let status := nestedString ["status"] cond
      let message := nestedString ["message"] cond
      if nestedString ["type"] cond = "Ready" then
        if status = "True" then { s with ready := true, reason := "HelmReleaseReady", message }
        else if status = "False" then { s with reason := "HelmReleaseFailed", message }
        else s
      else if nestedString ["type"] cond = "Released" then
        if status = "False" then
          if s.reason = "" then { s with degraded := true, reason := "HelmReleaseDegraded", message }
          else { s with degraded := true }
        else s
      else if nestedString ["type"] cond = "Reconciling" then
        if status = "True" then
          if s.reason = "" then
            { s with reconciling := true, reason := nestedString ["reason"] cond, message }
          else { s with reconciling := true }
        else s
      else s
  | _ => s

def mapHelmReleaseConditions (conditions : List Json) : ConditionSummary :=
  let s := conditions.foldl mapHelmReleaseCondition {}
  let s := if s.ready && s.degraded then { s with degraded := false } else s
  if s.reason = "" && s.reconciling then { s with reason := "HelmReleaseInstalling" } else s

/-- `SyncStatus`; there is no snapshot of a release that is not there. -/
def FluxEngine.syncStatus (app : ApplicationInstance) (release : ReleaseSpec) :
    InstanceM (Option StatusSnapshot) := do
  let k : ObjectKey := ⟨app.metadata.ns, release.name⟩
  match ← (read .syncStatus fun c => c.releases.get k).mapError (·.wrap "get helmrelease") with
  | none => pure none
  | some hr =>
      let releaseRef : HelmReleaseRef := ⟨release.name, app.metadata.ns⟩
      match nested ["status", "conditions"] hr.body with
      | some (.arr conditions) =>
          pure (some { toConditionSummary := mapHelmReleaseConditions conditions, releaseRef })
      | _ => pure (some
          { reason := "Reconciling", message := "HelmRelease status not yet available", releaseRef })

section release

variable {spec : HelmSpec} {values : Option Fields} {body body₁ body₂ : Fields}

theorem nested_of_releaseBody (hchart : chartBody spec body = .ok body₁)
    (hvalues : valuesBody values body₁ = .ok body₂) :
    nested ["spec", "chart", "spec", "version"] body₂ = some (.str spec.chart.version) ∧
      nested ["spec", "values"] body₂ = (values.map Json.obj).or (nested ["spec", "values"] body) := by
  obtain ⟨b₁, hinterval, h⟩ := exists_of_bind_ok hchart
  obtain ⟨b₂, hversion, h⟩ := exists_of_bind_ok h
  obtain ⟨b₃, hname, hsource⟩ := exists_of_bind_ok h
  have hread : nested ["spec", "chart", "spec", "version"] body₁ = some (.str spec.chart.version) :=
    calc nested ["spec", "chart", "spec", "version"] body₁
        = nested ["spec", "chart", "spec", "version"] b₃ :=
          nested_setNested_of_ne (by decide) ["spec", "chart", "spec"] [] []
            (setNested_of_setBody hsource)
      _ = nested ["spec", "chart", "spec", "version"] b₂ :=
          nested_setNested_of_ne (by decide) ["spec", "chart", "spec"] [] []
            (setNested_of_setBody hname)
      _ = some (.str spec.chart.version) := nested_setBody hversion
  have hkept : nested ["spec", "values"] body₁ = nested ["spec", "values"] body :=
    calc nested ["spec", "values"] body₁
        = nested ["spec", "values"] b₃ :=
          nested_setNested_of_ne (by decide) ["spec"] ["spec", "sourceRef"] []
            (setNested_of_setBody hsource)
      _ = nested ["spec", "values"] b₂ :=
          nested_setNested_of_ne (by decide) ["spec"] ["spec", "chart"] []
            (setNested_of_setBody hname)
      _ = nested ["spec", "values"] b₁ :=
          nested_setNested_of_ne (by decide) ["spec"] ["spec", "version"] []
            (setNested_of_setBody hversion)
      _ = nested ["spec", "values"] body :=
          nested_setNested_of_ne (by decide) ["spec"] [] [] (setNested_of_setBody hinterval)
  cases values with
  | none =>
    obtain rfl := Except.ok.inj hvalues
    exact ⟨hread, hkept⟩
  | some values =>
    refine ⟨?_, nested_setBody hvalues⟩
    rw [← hread]
    exact nested_setNested_of_ne (by decide) ["spec"] [] ["spec", "version"]
      (setNested_of_setBody hvalues)

end release

namespace FluxEngine

/-- The values a Secret or a ConfigMap holds under a key. -/
def storedValues (e : FluxEngine) (store : Store DataObject) (ns : String) (ref : ObjectKeyRef) :
    Option Fields := do
  let o ← store.get ⟨ns, ref.name⟩
  let raw ← o.data.lookup ref.key
  (e.decodeValuesBytes raw).toOption.join

def declaredValues (e : FluxEngine) (c : InstanceCluster) (ns : String) (values : ValuesSpec) :
    Option Fields :=
  match values.source with
  | .inline => values.inline.bind fun raw => (unmarshalAnyMap raw).toOption.join
  | .secretRef => values.secretRef.bind (e.storedValues c.secrets ns)
  | .configMapRef => values.configMapRef.bind (e.storedValues c.configMaps ns)
  | .unset => none

section values

open Prog

variable (e : FluxEngine) {env : InstanceEnv} {c : InstanceCluster} {values : ValuesSpec}
  {result : Option Fields}

theorem idle_loadValues (s : InstanceSite) (what : String)
    (store : InstanceCluster → Store DataObject) (ns : String) (ref : ObjectKeyRef) :
    Idle (e.loadValues s what store ns ref) := by
  refine .bind (.mapError (InstanceM.idle_read _ _)) fun found => ?_
  split
  · exact .throw _
  · split
    · exact .throw _
    · exact .ofExcept _

theorem idle_buildValues (ns : String) (values : ValuesSpec) : Idle (e.buildValues ns values) := by
  unfold buildValues
  split
  · split
    · exact .pure _
    · exact .ofExcept _
  · split
    · exact .throw _
    · exact e.idle_loadValues _ _ _ _ _
  · split
    · exact .throw _
    · exact e.idle_loadValues _ _ _ _ _
  · exact .throw _

theorem idle_mutateHelmRelease (app : ApplicationInstance) (spec : HelmSpec) (hr : Unstructured) :
    Idle (e.mutateHelmRelease app spec hr) :=
  .bind (.ofExcept _) fun _ => .bind (.ofExcept _) fun _ =>
    .bind (e.idle_buildValues _ _) fun _ => .bind (.ofExcept _) fun _ => .pure _

theorem idle_syncStatus (app : ApplicationInstance) (release : ReleaseSpec) :
    Idle (syncStatus app release) := by
  refine .bind (.mapError (InstanceM.idle_read _ _)) fun found => ?_
  split
  · exact .pure _
  · split
    · exact .pure _
    · exact .pure _

variable {e}

theorem eq_storedValues {s : InstanceSite} {what : String}
    {store : InstanceCluster → Store DataObject} {ns : String} {ref : ObjectKeyRef}
    (h : ((e.loadValues s what store ns ref).run env c).result = .ok result) :
    result = e.storedValues (store c) ns ref := by
  obtain ⟨found, hfound, h⟩ := exists_of_result_bind h
  obtain rfl := eq_of_read (result_of_mapError hfound)
  cases hget : (store c).get ⟨ns, ref.name⟩ with
  | none =>
    simp only [hget] at h
    exact absurd h (by simp)
  | some o =>
    cases hraw : o.data.lookup ref.key with
    | none =>
      simp only [hget, hraw] at h
      exact absurd h (by simp)
    | some raw =>
      simp only [hget, hraw, run_ofExcept] at h
      simp [storedValues, hget, hraw, h, Except.toOption]

theorem eq_declaredValues {ns : String}
    (h : ((e.buildValues ns values).run env c).result = .ok result) :
    result = e.declaredValues c ns values := by
  unfold buildValues at h
  unfold declaredValues
  split at h
  · cases hraw : values.inline with
    | none =>
      rw [hraw] at h
      exact (Except.ok.inj h).symm
    | some raw =>
      simp only [hraw, run_ofExcept] at h
      cases hvalues : unmarshalAnyMap raw with
      | error msg => rw [hvalues] at h; exact absurd h (by simp [Except.mapError])
      | ok found =>
        rw [hvalues] at h
        obtain rfl : found = result := Except.ok.inj h
        simp [hvalues, Except.toOption]
  · cases href : values.secretRef with
    | none => rw [href] at h; exact absurd h (by simp)
    | some ref => rw [href] at h; exact eq_storedValues h
  · cases href : values.configMapRef with
    | none => rw [href] at h; exact absurd h (by simp)
    | some ref => rw [href] at h; exact eq_storedValues h
  · exact absurd h (by simp)

theorem of_mutateHelmRelease {app : ApplicationInstance} {spec : HelmSpec} {hr hr' : Unstructured}
    (h : ((e.mutateHelmRelease app spec hr).run env c).result = .ok hr') :
    hr'.metadata.key = hr.metadata.key ∧
      nested ["spec", "chart", "spec", "version"] hr'.body = some (.str spec.chart.version) ∧
      nested ["spec", "values"] hr'.body =
        ((e.declaredValues c app.metadata.ns spec.values).map Json.obj).or
          (nested ["spec", "values"] hr.body) := by
  obtain ⟨owned, howned, h⟩ := exists_of_result_bind h
  obtain ⟨body₁, hchart, h⟩ := exists_of_result_bind h
  obtain ⟨values, hvalues, h⟩ := exists_of_result_bind h
  obtain ⟨body₂, hbody, h⟩ := exists_of_result_bind h
  obtain rfl := Except.ok.inj h
  obtain rfl := eq_declaredValues hvalues
  have hkey : owned.key = hr.metadata.key := key_setControllerReference howned
  exact ⟨hkey, nested_of_releaseBody hchart hbody⟩

end values

end FluxEngine

theorem keeps_ensureChartSource {env : InstanceEnv} {P : InstanceCluster → Prop}
    (hP : ∀ c kind s, kind ≠ .helmRelease → P c → P (c.setObjects kind s))
    (app : ApplicationInstance) (spec : HelmSpec) :
    Prog.Keeps env P (ensureChartSource app spec) := by
  unfold ensureChartSource
  simp only
  split
  · exact keeps_createOrUpdate (fun _ => .ofExcept _) fun _ _ _ _ c => hP c _ _ (by decide)
  · exact keeps_createOrUpdate (fun _ => .ofExcept _) fun _ _ _ _ c => hP c _ _ (by decide)
  · exact .of_idle (.throw _)

end VWorkspace
