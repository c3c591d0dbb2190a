import Mathlib.Data.List.Sort
import VWorkspaceOperator.Instance.Flux

/-!
# The Seaweed engine

Keeps the `Seaweed` of an instance that runs as a native SeaweedFS workload, and looks at
what the operator of SeaweedFS makes of it: the conditions of the `Seaweed`, the Service of
its S3 gateway, and the `S3Credentials` with the Secrets behind them.
-/

namespace VWorkspace

open Kit InstanceM

/-- `SeaweedEngine`, with `yaml.Unmarshal` into an empty map. -/
structure SeaweedEngine where
  yamlUnmarshal : Bytes → Except String (Option Fields)

def validateReleaseRef (app : ApplicationInstance) : Except GoError ReleaseSpec :=
  match app.spec.release with
  | none => .error { msg := "spec.release is required for Seaweed workload" }
  | some release =>
      if release.name = "" then
        .error { msg := "spec.release.name is required for Seaweed workload" }
      else .ok release

def releaseNamespace (app : ApplicationInstance) : String :=
  match app.spec.release with
  | none => app.metadata.ns
  | some release => if release.ns ≠ "" then release.ns else app.metadata.ns

def seaweedSpecKeys : List String := ["master", "volume", "filer", "s3", "admin", "worker", "sftp"]

def seaweedValueWrapperKeys : List String := ["seaweedfs", "seaweed"]

/-- One of the sections of a `Seaweed` is among the values. -/
def hasSpecKey (values : Fields) : Bool :=
  seaweedSpecKeys.any fun key => (values.lookup key).isSome

def wrappedSpec : Json → Option Fields
  | .obj nested => if hasSpecKey nested then some nested else none
  | _ => none

def normalizeSeaweedValues (values : Fields) : Except GoError Fields :=
  if hasSpecKey values then .ok values
  else
    match seaweedValueWrapperKeys.findSome? fun key => (values.lookup key).bind wrappedSpec with
    | some nested => .ok nested
    | none =>
        match values.filterMap fun v => wrappedSpec v.2 with
        | [] => .ok values
        | [nested] => .ok nested
        | _ => .error { msg := "ambiguous Seaweed values: multiple wrapper sections contain " ++
            "Seaweed spec keys" }

namespace SeaweedEngine

/-- The decoder of value documents, which is that of the Flux engine. -/
def decoder (e : SeaweedEngine) : FluxEngine := ⟨e.yamlUnmarshal⟩

def loadValues (e : SeaweedEngine) (app : ApplicationInstance) : InstanceM Fields :=
  match app.spec.values with
  | none => Prog.throw { msg := "spec.values is required for Seaweed workload" }
  | some values =>
      match values.source with
      | .inline =>
          match values.inline with
          | none => Prog.throw { msg := "inline values are required for Seaweed workload" }
          | some raw => do
              let decoded ← Prog.ofExcept ((unmarshalAnyMap raw).mapError fun msg =>
                { msg := "decode inline values: " ++ msg })
              Prog.ofExcept (normalizeSeaweedValues (decoded.getD []))
      | .secretRef =>
          match values.secretRef with
          | none => Prog.throw { msg := "secretRef values source requires secretRef" }
          | some ref => do
              let decoded ← e.decoder.loadValuesFromSecret app.metadata.ns ref
              Prog.ofExcept (normalizeSeaweedValues (decoded.getD []))
      | .configMapRef =>
          match values.configMapRef with
          | none => Prog.throw { msg := "configMapRef values source requires configMapRef" }
          | some ref => do
              let decoded ← e.decoder.loadValuesFromConfigMap app.metadata.ns ref
              Prog.ofExcept (normalizeSeaweedValues (decoded.getD []))
      | .unset => Prog.throw { msg := "unsupported values source \"\"" }

end SeaweedEngine

def mutateSeaweed (app : ApplicationInstance) (values : Fields) (sw : Unstructured) :
    Except GoError Unstructured := do
  let owned ← setControllerReference app sw.metadata
  let spec := seaweedSpecKeys.filterMap fun key => (values.lookup key).map fun v => (key, v)
  if spec = [] then
    .error { msg := "values must include at least one native Seaweed spec section (master, " ++
      "volume, filer, s3, …); Helm chart-wrapped values require conversion before reconciliation" }
  else
    let body ← setBody (.obj spec) ["spec"] sw.body
    pure { metadata := { owned with labels := ownerLabels app }, body }

namespace SeaweedEngine

def ensureSeaweed (e : SeaweedEngine) (app : ApplicationInstance) : InstanceM Unit := do
  let release ← Prog.ofExcept (validateReleaseRef app)
  let loaded ← (e.loadValues app).mapError (·.wrap "load values")
  let values ← Prog.ofExcept ((normalizeSeaweedValues loaded).mapError (·.wrap "normalize values"))
  let ns := releaseNamespace app
  let given := "spec.release.namespace " ++ goQuote ns
  let needed := "metadata.namespace " ++ goQuote app.metadata.ns
  if ns ≠ app.metadata.ns then
    Prog.throw { msg := given ++ " must match " ++ needed ++ " for Seaweed workloads" }
  else
    createOrUpdate .seaweed ⟨ns, release.name⟩ fun sw => Prog.ofExcept (mutateSeaweed app values sw)

def deleteSeaweed (app : ApplicationInstance) : InstanceM Unit := do
  let release ← Prog.ofExcept (validateReleaseRef app)
  (deleteObject .seaweed ⟨releaseNamespace app, release.name⟩).mapError
    (·.wrap ("delete Seaweed/" ++ release.name))

def seaweedExists (app : ApplicationInstance) : InstanceM Bool := do
  let release ← Prog.ofExcept (validateReleaseRef app)
  (read .seaweedExists fun c => (c.seaweeds.get ⟨releaseNamespace app, release.name⟩).isSome).mapError
    (·.wrap "get Seaweed")

end SeaweedEngine

/-- `ReleaseExists` of the Flux engine: a legacy release of the instance. -/
def FluxEngine.releaseExists (again : Bool) (app : ApplicationInstance) : InstanceM Bool :=
  match app.spec.release with
  | none => pure false
  | some release =>
      if release.name = "" then pure false
      else
        (read (.releaseExists again) fun c =>
          (c.releases.get ⟨app.metadata.ns, release.name⟩).isSome).mapError (·.wrap "get HelmRelease")

/-- The `int64` a number of an object is decoded to; other numbers are floats. -/
def int64OfLiteral (literal : String) : Option ℤ :=
  literal.toInt?.filter fun n => -9223372036854775808 ≤ n ∧ n ≤ 9223372036854775807

def s3EnabledInSpec (spec : Fields) : Bool :=
  match spec.lookup "s3" with
  | some (.obj s3) =>
      if s3.isEmpty then false
      else if s3.lookup "enabled" = some (.bool false) then false
      else
        match s3.lookup "replicas" with
        | none => true
        | some (.num literal) => (int64OfLiteral literal).any fun replicas => 0 < replicas
        | some _ => false
  | _ => false

def hasS3Spec (sw : Unstructured) : Bool := (nestedMap ["spec"] sw.body).any s3EnabledInSpec

def mapSeaweedCondition (s : ConditionSummary) : Json → ConditionSummary
  | .obj cond =>
      let status := nestedString ["status"] cond
      let reason := nestedString ["reason"] cond
      let message := nestedString ["message"] cond
      if nestedString ["type"] cond = "Ready" then
        if status = "True" then { s with ready := true, reason := "SeaweedReady", message }
        else if status = "False" then { s with reason := "SeaweedFailed", message }
        else s
      else if nestedString ["type"] cond = "Progressing" then
        if status = "True" then
          if s.reason = "" then { s with reconciling := true, reason, message }
          else { s with reconciling := true }
        else s
      else if nestedString ["type"] cond = "Degraded" then
        if status = "True" then
          if s.reason = "" then { s with degraded := true, reason, message }
          else { s with degraded := true }
        else s
      else s
  | _ => s

def mapSeaweedConditions (conditions : List Json) : ConditionSummary :=
  let s := conditions.foldl mapSeaweedCondition {}
  let s := if s.ready && s.degraded then { s with degraded := false } else s
  if s.reason = "" && s.reconciling then { s with reason := "SeaweedReconciling" } else s

structure SeaweedSnapshot extends ConditionSummary where
  s3Endpoint : String := ""
  hasS3 : Bool := false
  deriving DecidableEq, Repr

def s3ServiceName (releaseName : String) : String := releaseName ++ "-s3"

def s3Endpoint (releaseName ns : String) : String :=
  "http://" ++ s3ServiceName releaseName ++ "." ++ ns ++ ".svc:8333"

def s3ServiceExists (releaseName ns : String) : InstanceM Bool := do
  match ← (read .getService fun c =>
      decide ((⟨ns, s3ServiceName releaseName⟩ : ObjectKey) ∈ c.services)).attempt with
  | .ok found => pure found
  | .error _ => pure false

/-- `SyncStatus`; there is no snapshot of a `Seaweed` that is not there. -/
def SeaweedEngine.syncStatus (app : ApplicationInstance) : InstanceM (Option SeaweedSnapshot) := do
  let release ← Prog.ofExcept (validateReleaseRef app)
  let ns := releaseNamespace app
  match ← (read .syncSeaweed fun c => c.seaweeds.get ⟨ns, release.name⟩).mapError
      (·.wrap "get Seaweed") with
  | none => pure none
  | some sw =>
      match nested ["status", "conditions"] sw.body with
      | some (.arr conditions) =>
          let summary := mapSeaweedConditions conditions
          let hasS3 := hasS3Spec sw
          if summary.ready && hasS3 then
            let found ← s3ServiceExists release.name ns
            pure (some { toConditionSummary := summary, hasS3,
                         s3Endpoint := if found then s3Endpoint release.name ns else "" })
          else pure (some { toConditionSummary := summary, hasS3 })
      | _ => pure (some { reason := "Reconciling", message := "Seaweed status not yet available" })

structure ManagedStorageSnapshot where
  accessKeyID : String
  secretAccessKey : String
  bucketName : String
  deriving DecidableEq, Repr

inductive ManagedStorageState where
  | resolved (ms : ManagedStorageSnapshot)
  | pending
  | failed
  | absent
  deriving DecidableEq, Repr

def listMatchingS3Credentials (ns releaseName : String) : InstanceM (List Unstructured) :=
  (read .listCredentials fun c =>
    (c.s3Credentials.items.filter fun item => item.metadata.ns = ns ∧
      nestedString ["spec", "seaweedRef", "name"] item.body = releaseName).insertionSort
        fun a b => a.metadata.name ≤ b.metadata.name).mapError (·.wrap "list S3Credentials")

def credentialsPhase (item : Unstructured) : String := nestedString ["status", "phase"] item.body

/-- `splitS3CredentialsByPhase`: all phases but two may still come to `Ready`. -/
def splitS3CredentialsByPhase (candidates : List Unstructured) : List Unstructured × Bool :=
  (candidates.filter fun item => credentialsPhase item = "Ready",
    candidates.any fun item => credentialsPhase item ≠ "Ready" ∧ credentialsPhase item ≠ "Failed")

inductive CredentialSnapshot where
  | ok (ms : ManagedStorageSnapshot)
  | secretMissing
  | unusable

/-- A field of an `S3Credentials`, or what stands for it. -/
def credentialField (path : List String) (default : String) (item : Unstructured) : String :=
  if nestedString path item.body = "" then default else nestedString path item.body

def snapshotFromS3Credentials (i : ℕ) (ns releaseName : String) (item : Unstructured) :
    InstanceM CredentialSnapshot := do
  if credentialsPhase item ≠ "" ∧ credentialsPhase item ≠ "Ready" then pure .unusable
  else
    let secretName := credentialField ["status", "secretName"]
      (nestedString ["spec", "secretRef", "name"] item.body) item
    let accessKeyField := credentialField ["spec", "secretRef", "accessKeyField"] "accessKey" item
    let secretKeyField := credentialField ["spec", "secretRef", "secretKeyField"] "secretKey" item
    if secretName = "" then pure .unusable
    else
      match ← (read (.getCredentialSecret i) fun c => c.secrets.get ⟨ns, secretName⟩).mapError
          (·.wrap ("get S3Credentials secret " ++ ns ++ "/" ++ secretName)) with
      | none => pure .secretMissing
      | some secret =>
          let secretKey := textOf ((secret.data.lookup secretKeyField).getD [])
          let accessKey := credentialField ["status", "accessKey"]
            (textOf ((secret.data.lookup accessKeyField).getD [])) item
          if accessKey = "" ∨ secretKey = "" then pure .unusable
          else pure (.ok ⟨accessKey, secretKey, releaseName⟩)

/-- The loop of `ResolveManagedStorageState` over the candidates that are ready. -/
def firstSnapshot (ns releaseName : String) (stillPending : Bool) :
    ℕ → List Unstructured → (secretMissing unusable : Bool) → InstanceM ManagedStorageState
  | _, [], secretMissing, unusable =>
      pure (if stillPending || secretMissing then .pending else if unusable then .failed else .absent)
  | i, item :: rest, secretMissing, unusable => do
      match ← snapshotFromS3Credentials i ns releaseName item with
      | .ok ms => pure (.resolved ms)
      | .secretMissing => firstSnapshot ns releaseName stillPending (i + 1) rest true unusable
      | .unusable => firstSnapshot ns releaseName stillPending (i + 1) rest secretMissing true

def resolveManagedStorageState (app : ApplicationInstance) : InstanceM ManagedStorageState := do
  let release ← Prog.ofExcept (validateReleaseRef app)
  let ns := releaseNamespace app
  let candidates ← listMatchingS3Credentials ns release.name
  if candidates = [] then pure .absent
  else
    let (ready, stillPending) := splitS3CredentialsByPhase candidates
    if ready = [] then pure (if stillPending then .pending else .failed)
    else firstSnapshot ns release.name stillPending 0 ready false false

/-- The credentials a cluster holds for an instance, for a reader whose calls do not fail. -/
def credentialsOf (c : InstanceCluster) (app : ApplicationInstance) :
    Option ManagedStorageSnapshot :=
  match ((resolveManagedStorageState app).run { now := 0 } c).result with
  | .ok (.resolved ms) => some ms
  | _ => none

section apart

open Prog

theorem idle_releaseExists (again : Bool) (app : ApplicationInstance) :
    Idle (FluxEngine.releaseExists again app) := by
  unfold FluxEngine.releaseExists
  split
  · exact .pure _
  · split
    · exact .pure _
    · exact .mapError (InstanceM.idle_read _ _)

namespace SeaweedEngine

theorem idle_loadValues (e : SeaweedEngine) (app : ApplicationInstance) :
    Idle (e.loadValues app) := by
  unfold loadValues
  split
  · exact .throw _
  · split
    · split
      · exact .throw _
      · exact .bind (.ofExcept _) fun _ => .ofExcept _
    · split
      · exact .throw _
      · exact .bind (e.decoder.idle_loadValues _ _ _ _ _) fun _ => .ofExcept _
    · split
      · exact .throw _
      · exact .bind (e.decoder.idle_loadValues _ _ _ _ _) fun _ => .ofExcept _
    · exact .throw _

theorem apart_ensureSeaweed (e : SeaweedEngine) (app : ApplicationInstance) :
    Apart (e.ensureSeaweed app) := by
  refine .bind (.of_idle (.ofExcept _)) fun release => .bind (.of_idle (e.idle_loadValues app)) fun _ =>
    .bind (.of_idle (.ofExcept _)) fun values => ?_
  simp only
  split
  · exact .of_idle (.throw _)
  · exact apart_createOrUpdate fun _ => .ofExcept _

theorem apart_deleteSeaweed (app : ApplicationInstance) : Apart (deleteSeaweed app) :=
  .bind (.of_idle (.ofExcept _)) fun _ => apart_deleteObject _ _

theorem idle_seaweedExists (app : ApplicationInstance) : Idle (seaweedExists app) :=
  .bind (.ofExcept _) fun _ => .mapError (InstanceM.idle_read _ _)

end SeaweedEngine

theorem idle_s3ServiceExists (releaseName ns : String) : Idle (s3ServiceExists releaseName ns) := by
  refine .bind (.attempt (InstanceM.idle_read _ _)) fun res => ?_
  cases res with
  | ok found => exact .pure _
  | error err => exact .pure _

theorem SeaweedEngine.idle_syncStatus (app : ApplicationInstance) : Idle (syncStatus app) := by
  refine .bind (.ofExcept _) fun release => .bind (.mapError (InstanceM.idle_read _ _)) fun found => ?_
  split
  · exact .pure _
  · split
    · simp only
      split
      · exact .bind (idle_s3ServiceExists _ _) fun _ => .pure _
      · exact .pure _
    · exact .pure _

theorem FluxEngine.apart_ensureRelease (e : FluxEngine) (app : ApplicationInstance)
    (spec : HelmSpec) : Apart (e.ensureRelease app spec) := by
  have hsource : Apart (ensureChartSource app spec) := by
    unfold ensureChartSource
    simp only
    split
    · exact apart_createOrUpdate fun _ => .ofExcept _
    · exact apart_createOrUpdate fun _ => .ofExcept _
    · exact .of_idle (.throw _)
  exact .bind hsource.mapError fun _ => apart_createOrUpdate (e.idle_mutateHelmRelease app spec)

theorem FluxEngine.apart_deleteRelease (ns : String) (release : ReleaseSpec) :
    Apart (deleteRelease ns release) :=
  .bind (apart_deleteObject _ _) fun _ => .bind (apart_deleteObject _ _) fun _ =>
    apart_deleteObject _ _

end apart

section answers

open Prog

variable {app : ApplicationInstance} {env : InstanceEnv} {c : InstanceCluster}

theorem of_validateReleaseRef {release : ReleaseSpec} (h : validateReleaseRef app = .ok release) :
    app.spec.release = some release ∧ release.name ≠ "" := by
  unfold validateReleaseRef at h
  split at h
  · exact absurd h (by simp)
  · next release' hrelease =>
    split at h
    · exact absurd h (by simp)
    · next hname =>
      obtain rfl := Except.ok.inj h
      exact ⟨hrelease, hname⟩

theorem SeaweedEngine.of_syncStatus {snapshot : SeaweedSnapshot}
    (h : ((syncStatus app).run env c).result = .ok (some snapshot)) :
    ∃ release, app.spec.release = some release ∧ (snapshot.s3Endpoint = "" ∨
      snapshot.s3Endpoint = s3Endpoint release.name (releaseNamespace app)) := by
  obtain ⟨release, hrelease, h⟩ := exists_of_result_bind h
  refine ⟨release, (of_validateReleaseRef hrelease).1, ?_⟩
  obtain ⟨found, -, h⟩ := exists_of_result_bind h
  cases found with
  | none => exact absurd (Except.ok.inj h) (by simp)
  | some sw =>
    simp only at h
    split at h
    · split at h
      · obtain ⟨found, -, h⟩ := exists_of_result_bind h
        rw [run_pure, Except.ok.injEq, Option.some.injEq] at h
        rw [← h]
        cases found with
        | false => exact .inl rfl
        | true => exact .inr rfl
      · rw [run_pure, Except.ok.injEq, Option.some.injEq] at h
        exact .inl (by rw [← h])
    · rw [run_pure, Except.ok.injEq, Option.some.injEq] at h
      exact .inl (by rw [← h])

structure SameCredentials (c c' : InstanceCluster) : Prop where
  s3Credentials : c'.s3Credentials = c.s3Credentials
  secrets : c'.secrets = c.secrets

/-- The program only reads, and of the cluster nothing but the credentials.  What it answers it
answers where no call fails, too. -/
structure ReadsCredentials {α : Type} (x : InstanceM α) : Prop where
  idle : Idle x
  same : ∀ env c c', SameCredentials c c' → (x.run env c').result = (x.run env c).result
  certain : ∀ env c a, (x.run env c).result = .ok a → (x.run { now := 0 } c).result = .ok a
  clear : ∀ (env : InstanceEnv) c, (∀ s, env.fault s = none) →
    (x.run env c).result = (x.run { now := 0 } c).result

namespace ReadsCredentials

variable {α β : Type} {x : InstanceM α}

theorem pure (a : α) : ReadsCredentials (Pure.pure a : InstanceM α) :=
  ⟨.pure a, fun _ _ _ _ => rfl, fun _ _ _ h => h, fun _ _ _ => rfl⟩

theorem ofExcept (y : Except GoError α) : ReadsCredentials (Prog.ofExcept y : InstanceM α) :=
  ⟨.ofExcept y, fun _ _ _ _ => rfl, fun _ _ _ h => h, fun _ _ _ => rfl⟩

theorem read (s : InstanceSite) {f : InstanceCluster → α}
    (hf : ∀ c c', SameCredentials c c' → f c' = f c) : ReadsCredentials (InstanceM.read s f) := by
  refine ⟨InstanceM.idle_read s f, fun env c c' h => ?_, fun env c a h => ?_, fun env c h => ?_⟩
  · rw [InstanceM.run_read_eq, InstanceM.run_read_eq, hf c c' h]
  · rw [eq_of_read h]
    rfl
  · rw [InstanceM.run_read_eq, InstanceM.run_read_eq, h s]

theorem mapError {f : GoError → GoError} (hx : ReadsCredentials x) :
    ReadsCredentials (x.mapError f) := by
  refine ⟨hx.idle.mapError, fun env c c' h => ?_, fun env c a h => ?_, fun env c h => ?_⟩
  · rw [run_mapError, run_mapError, hx.same env c c' h]
  · rw [run_mapError, hx.certain env c a (result_of_mapError h)]
    rfl
  · rw [run_mapError, run_mapError, hx.clear env c h]

theorem bind {f : α → InstanceM β} (hx : ReadsCredentials x) (hf : ∀ a, ReadsCredentials (f a)) :
    ReadsCredentials (x >>= f) := by
  refine ⟨.bind hx.idle fun a => (hf a).idle, fun env c c' h => ?_, fun env c b h => ?_,
    fun env c h => ?_⟩
  · have hsame := hx.same env c c' h
    cases hresult : (x.run env c).result with
    | error e => rw [run_bind_of_error hresult, run_bind_of_error (hsame.trans hresult)]
    | ok a =>
      rw [run_bind_of_ok hresult, run_bind_of_ok (hsame.trans hresult), Outcome.result_after,
        Outcome.result_after, (hx.idle env c).1, (hx.idle env c').1]
      exact (hf a).same env c c' h
  · obtain ⟨a, ha, hb⟩ := exists_of_result_bind h
    rw [(hx.idle env c).1] at hb
    rw [run_bind_of_ok (hx.certain env c a ha), Outcome.result_after, (hx.idle _ c).1]
    exact (hf a).certain env c b hb
  · have hclear := hx.clear env c h
    cases hresult : (x.run env c).result with
    | error e => rw [run_bind_of_error hresult, run_bind_of_error (hclear.symm.trans hresult)]
    | ok a =>
      rw [run_bind_of_ok hresult, run_bind_of_ok (hclear.symm.trans hresult), Outcome.result_after,
        Outcome.result_after, (hx.idle env c).1, (hx.idle _ c).1]
      exact (hf a).clear env c h

end ReadsCredentials

theorem readsCredentials_snapshotFromS3Credentials (i : ℕ) (ns releaseName : String)
    (item : Unstructured) : ReadsCredentials (snapshotFromS3Credentials i ns releaseName item) := by
  unfold snapshotFromS3Credentials
  split
  · exact .pure _
  · simp only
    split
    · exact .pure _
    · refine .bind (.mapError (.read _ fun c c' h => by rw [h.secrets])) fun found => ?_
      split
      · exact .pure _
      · split
        · exact .pure _
        · exact .pure _

theorem readsCredentials_firstSnapshot (ns releaseName : String) (stillPending : Bool)
    (items : List Unstructured) : ∀ i secretMissing unusable,
      ReadsCredentials
        (firstSnapshot ns releaseName stillPending i items secretMissing unusable) := by
  induction items with
  | nil => exact fun _ _ _ => .pure _
  | cons item rest ih =>
    intro i secretMissing unusable
    refine .bind (readsCredentials_snapshotFromS3Credentials _ _ _ _) fun outcome => ?_
    cases outcome with
    | ok ms => exact .pure _
    | secretMissing => exact ih _ _ _
    | unusable => exact ih _ _ _

theorem readsCredentials_resolveManagedStorageState (app : ApplicationInstance) :
    ReadsCredentials (resolveManagedStorageState app) := by
  refine .bind (.ofExcept _) fun release => ?_
  refine .bind (.mapError (.read _ fun c c' h => by rw [h.s3Credentials])) fun found => ?_
  split
  · exact .pure _
  · simp only
    split
    · exact .pure _
    · exact readsCredentials_firstSnapshot _ _ _ _ _ _ _

theorem idle_resolveManagedStorageState (app : ApplicationInstance) :
    Idle (resolveManagedStorageState app) := (readsCredentials_resolveManagedStorageState app).idle

theorem credentialsOf_of_resolved {ms : ManagedStorageSnapshot}
    (h : ((resolveManagedStorageState app).run env c).result = .ok (.resolved ms)) :
    credentialsOf c app = some ms := by
  rw [credentialsOf, (readsCredentials_resolveManagedStorageState app).certain env c _ h]

theorem resolved_of_credentialsOf {ms : ManagedStorageSnapshot} (henv : ∀ s, env.fault s = none)
    (h : credentialsOf c app = some ms) :
    ((resolveManagedStorageState app).run env c).result = .ok (.resolved ms) := by
  rw [(readsCredentials_resolveManagedStorageState app).clear env c henv]
  rw [credentialsOf] at h
  split at h
  · next hresult => rw [hresult, Option.some.inj h]
  · exact absurd h (by simp)

theorem credentialsOf_congr {c' : InstanceCluster} (h : SameCredentials c c') :
    credentialsOf c' app = credentialsOf c app := by
  rw [credentialsOf, credentialsOf,
    (readsCredentials_resolveManagedStorageState app).same _ c c' h]

end answers

end VWorkspace
