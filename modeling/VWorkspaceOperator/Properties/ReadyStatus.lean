import VWorkspaceOperator.Instance.Persisted
import VWorkspaceOperator.Properties.ConditionOrder
import VWorkspaceOperator.Properties.Deletion

/-!
# What the status of an instance says about its workload

The conditions of an instance are edited on top of those it had, in three versions of the same
code.  `Ready` is never claimed falsely: every path decides it anew.  The two others differ.
`Blocked` is reset by placeholders and native workloads at once, but with Helm only when the
release is ready, so that an instance that was blocked goes on being reported as blocked while
it is reconciled.  And a `Seaweed` that is not ready makes `Ready` false, while a release that
is not ready makes it unknown.
-/

namespace VWorkspace

open Kit Prog InstanceM

variable {release : ReleaseSpec} {now : ℕ} {snapshot : Option SeaweedSnapshot} {cs : List Condition}

section summaries

variable {conditions : List Json}

theorem isReady_helmSignal_iff {j : Json} :
    (helmSignal j).isReady = true ↔ conditionShows "Ready" "True" j := by
  unfold helmSignal
  split_ifs <;> simp_all [Signal.isReady]

theorem isReady_seaweedSignal_iff {j : Json} :
    (seaweedSignal j).isReady = true ↔ conditionShows "Ready" "True" j := by
  unfold seaweedSignal
  split_ifs <;> simp_all [Signal.isReady]

theorem ready_summary {α : Type} {signal : α → Signal} {fallback : String} {l : List α} :
    (summary signal fallback l).ready = l.any fun a => (signal a).isReady := by
  have hgather := (marks_gather signal {} l).1
  rw [Bool.false_or] at hgather
  rw [← hgather, summary, ConditionSummary.settle]
  split_ifs <;> rfl

theorem ready_mapHelmReleaseConditions_iff : (mapHelmReleaseConditions conditions).ready = true ↔
    ∃ j ∈ conditions, conditionShows "Ready" "True" j := by
  rw [mapHelmReleaseConditions_eq, ready_summary, List.any_eq_true]
  simp only [isReady_helmSignal_iff]

theorem ready_mapSeaweedConditions_iff : (mapSeaweedConditions conditions).ready = true ↔
    ∃ j ∈ conditions, conditionShows "Ready" "True" j := by
  rw [mapSeaweedConditions_eq, ready_summary, List.any_eq_true]
  simp only [isReady_seaweedSignal_iff]

end summaries

def ReadyObject (o : Unstructured) : Prop :=
  ∃ conditions, nested ["status", "conditions"] o.body = some (.arr conditions) ∧
    ∃ j ∈ conditions, conditionShows "Ready" "True" j

/-- The release a reconcile read after ensuring it is ready. -/
def HelmReady (r : InstanceController) (env : InstanceEnv) (c : InstanceCluster)
    (app : ManagedInstance) : Prop :=
  ∃ engine spec hr, r.engine = some engine ∧ app.spec.helm = some spec ∧
    (engine.ensured app spec env c).releases.get ⟨app.metadata.ns, spec.release.name⟩ = some hr ∧
    ReadyObject hr

/-- The `Seaweed` a reconcile read after ensuring it is ready, and with an S3 gateway so is the
Service, and its address is among the endpoints. -/
def SeaweedReady (r : InstanceController) (env : InstanceEnv) (c : InstanceCluster)
    (app : ManagedInstance) (endpoints : List EndpointStatus) : Prop :=
  ∃ engine release sw, r.seaweedEngine = some engine ∧ app.spec.release = some release ∧
    (engine.ensured app env c).seaweeds.get
      ⟨releaseNamespace app.toApplicationInstance, release.name⟩ = some sw ∧
    ReadyObject sw ∧
    (hasS3Spec sw = true →
      (⟨releaseNamespace app.toApplicationInstance, s3ServiceName release.name⟩ : ObjectKey) ∈
          (engine.ensured app env c).services ∧
        ∃ endpoint ∈ endpoints,
          endpoint.url = s3Endpoint release.name (releaseNamespace app.toApplicationInstance))

section sync

variable {app : ManagedInstance} {env : InstanceEnv} {c : InstanceCluster}

theorem readyObject_of_helm_syncStatus {snapshot : StatusSnapshot}
    (h : ((FluxEngine.syncStatus app.toApplicationInstance release).run env c).result =
      .ok (some snapshot)) (hready : snapshot.ready = true) :
    ∃ hr, c.releases.get ⟨app.metadata.ns, release.name⟩ = some hr ∧ ReadyObject hr := by
  obtain ⟨found, hfound, h⟩ := exists_of_result_bind h
  obtain rfl := eq_of_read (result_of_mapError hfound)
  dsimp only at h
  split at h
  · exact absurd (Except.ok.inj h) (by simp)
  · next hr hget =>
    refine ⟨hr, hget, ?_⟩
    split at h
    · next conditions hconditions =>
      obtain rfl := Option.some.inj (Except.ok.inj h)
      exact ⟨conditions, hconditions, ready_mapHelmReleaseConditions_iff.mp hready⟩
    · obtain rfl := Option.some.inj (Except.ok.inj h)
      exact absurd hready (by simp)

theorem mem_services_of_s3ServiceExists {releaseName ns : String}
    (h : ((s3ServiceExists releaseName ns).run env c).result = .ok true) :
    (⟨ns, s3ServiceName releaseName⟩ : ObjectKey) ∈ c.services := by
  obtain ⟨res, hres, h⟩ := exists_of_result_bind h
  rw [run_attempt, Except.ok.injEq] at hres
  cases res with
  | error e => exact absurd (Except.ok.inj h) (by simp)
  | ok found =>
    have hfound := eq_of_read hres
    rw [Except.ok.inj h] at hfound
    exact of_decide_eq_true hfound.symm

theorem readyObject_of_seaweed_syncStatus {snapshot : SeaweedSnapshot}
    (h : ((SeaweedEngine.syncStatus app.toApplicationInstance).run env c).result =
      .ok (some snapshot)) (hready : snapshot.ready = true)
    (hendpoint : ¬(snapshot.hasS3 = true ∧ snapshot.s3Endpoint = "")) :
    ∃ release sw, app.spec.release = some release ∧
      c.seaweeds.get ⟨releaseNamespace app.toApplicationInstance, release.name⟩ = some sw ∧
      ReadyObject sw ∧
      (hasS3Spec sw = true →
        (⟨releaseNamespace app.toApplicationInstance, s3ServiceName release.name⟩ : ObjectKey) ∈
            c.services ∧
          snapshot.s3Endpoint =
            s3Endpoint release.name (releaseNamespace app.toApplicationInstance)) := by
  obtain ⟨release, hrelease, h⟩ := exists_of_result_bind h
  obtain ⟨found, hfound, h⟩ := exists_of_result_bind h
  obtain rfl := eq_of_read (result_of_mapError hfound)
  dsimp only at h
  split at h
  · exact absurd (Except.ok.inj h) (by simp)
  · next sw hget =>
    refine ⟨release, sw, (of_validateReleaseRef hrelease).1, hget, ?_⟩
    split at h
    · next conditions hconditions =>
      split at h
      · next hs3 =>
        obtain ⟨found, hfound, h⟩ := exists_of_result_bind h
        obtain rfl := Option.some.inj (Except.ok.inj h)
        refine ⟨⟨conditions, hconditions, ready_mapSeaweedConditions_iff.mp hready⟩,
          fun hspec => ?_⟩
        have hfound' : found = true := by
          by_contra hno
          exact hendpoint ⟨hspec, by simp [hno]⟩
        subst hfound'
        rw [run_mapError, (InstanceM.idle_read _ _ _ _).1] at hfound
        exact ⟨mem_services_of_s3ServiceExists hfound, rfl⟩
      · next hs3 =>
        obtain rfl := Option.some.inj (Except.ok.inj h)
        refine ⟨⟨conditions, hconditions, ready_mapSeaweedConditions_iff.mp hready⟩,
          fun hspec => ?_⟩
        exact absurd (by rw [Bool.and_eq_true]; exact ⟨hready, hspec⟩) hs3
    · obtain rfl := Option.some.inj (Except.ok.inj h)
      exact absurd hready (by simp)

end sync

section ready

variable {r : InstanceController} {env : InstanceEnv} {c : InstanceCluster} {app : ManagedInstance}
  {st : ApplicationInstanceStatus}

theorem isConditionTrue_applyHelmStatusSnapshot {snapshot : Option StatusSnapshot}
    (h : isConditionTrue (applyHelmStatusSnapshot now snapshot cs) "Ready" = true) :
    isConditionTrue (applyHelmStatusSnapshot now snapshot cs) "Blocked" = false ∧
      ∃ s, snapshot = some s ∧ s.ready = true := by
  unfold applyHelmStatusSnapshot at h ⊢
  cases snapshot with
  | none => simp at h
  | some s =>
    by_cases hready : s.ready = true
    · simp [hready]
    · simp [hready] at h

theorem isConditionTrue_seaweedConditions
    (h : isConditionTrue (seaweedConditions now snapshot cs) "Ready" = true) :
    isConditionTrue (seaweedConditions now snapshot cs) "Blocked" = false ∧
      ∃ s, snapshot = some s ∧ s.ready = true ∧ ¬(s.hasS3 = true ∧ s.s3Endpoint = "") := by
  unfold seaweedConditions at h ⊢
  cases snapshot with
  | none => simp at h
  | some s =>
    by_cases hready : s.ready = true
    · by_cases hendpoint : s.hasS3 = true ∧ s.s3Endpoint = ""
      · simp [hready, hendpoint] at h
      · refine ⟨?_, s, rfl, hready, hendpoint⟩
        simp [hready, hendpoint]
    · -- a `Seaweed` that is not ready makes `Ready` false or unknown
      dsimp only at h
      rw [if_neg hready, isConditionTrue_setCondition_of_ne (by decide),
        isConditionTrue_setCondition, decide_eq_true_eq] at h
      split_ifs at h

theorem s3Endpoint_ne_empty (releaseName ns : String) : s3Endpoint releaseName ns ≠ "" := by
  simp [s3Endpoint]

structure ReadyClaim (r : InstanceController) (env : InstanceEnv) (c : InstanceCluster)
    (app : ManagedInstance) (st : ApplicationInstanceStatus) : Prop where
  unblocked : isConditionTrue st.conditions "Blocked" = false
  observed : st.observedGeneration = app.generation
  valid : app.Valid
  backed : app.spec.isPlaceholder = true ∨ HelmReady r env c app ∨
    SeaweedReady r env c app st.endpoints

theorem readyClaim_of_persists (h : Persists r env c app st)
    (hready : isConditionTrue st.conditions "Ready" = true) : ReadyClaim r env c app st := by
  cases h with
  | blocked reason message hpath =>
    simp [blockedInstanceStatus] at hready
  | placeholder hpath =>
    obtain ⟨hvalid, hmode⟩ := path_eq_placeholder_iff.mp hpath
    exact ⟨by simp [placeholderStatus], rfl, hvalid, .inl hmode⟩
  | helmFailed hpath hengine hspec hensure =>
    simp [ensureFailedStatus, isConditionTrue_setCondition_of_ne] at hready
  | helm hpath hengine hspec hsync =>
    obtain ⟨hblocked, s, rfl, hs⟩ := isConditionTrue_applyHelmStatusSnapshot hready
    obtain ⟨hr, hget, hobject⟩ := readyObject_of_helm_syncStatus hsync hs
    exact ⟨hblocked, rfl, (path_eq_helm_iff.mp hpath).1,
      .inr (.inl ⟨_, _, hr, hengine, hspec, hget, hobject⟩)⟩
  | seaweedFailed hpath hengine hensure =>
    simp [seaweedFailedStatus, isConditionTrue_setCondition_of_ne] at hready
  | seaweed hpath hengine hsync =>
    obtain ⟨hblocked, s, rfl, hs, hendpoint⟩ := isConditionTrue_seaweedConditions hready
    obtain ⟨release, sw, hrelease, hget, hobject, hs3⟩ :=
      readyObject_of_seaweed_syncStatus hsync hs hendpoint
    refine ⟨hblocked, rfl, (path_eq_seaweed_iff.mp hpath).1,
      .inr (.inr ⟨_, release, sw, hengine, hrelease, hget, hobject, fun hspec => ?_⟩)⟩
    obtain ⟨hservice, hurl⟩ := hs3 hspec
    have hne : s.s3Endpoint ≠ "" := by
      rw [hurl]
      exact s3Endpoint_ne_empty _ _
    have hendpoints : seaweedEndpoints (some s) =
        [{ name := "s3", url := s.s3Endpoint, type := "s3"
           notes := "In-cluster SeaweedFS S3 gateway (port 8333)" }] := if_pos hne
    refine ⟨hservice, { name := "s3", url := s.s3Endpoint, type := "s3"
                        notes := "In-cluster SeaweedFS S3 gateway (port 8333)" }, ?_, hurl⟩
    rw [seaweedReconciledStatus, applySeaweedStatusSnapshot, hendpoints]
    exact List.mem_singleton_self _

def HonestStep (r : InstanceController) (c : InstanceCluster) : InstanceStep → Prop
  | .reconcile env k => ∀ app written, c.instances.get k = some app →
      app.metadata.deletionTimestamp = none →
      .statusWritten written ∈ ((r.reconcile k).run env c).trace →
      isConditionTrue written.status.conditions "Ready" = true →
      ReadyClaim r env c app written.status
  | .outside _ => True

theorem ready_honest (r : InstanceController) (c : InstanceCluster) (steps : List InstanceStep) :
    Along (instanceStep r.reconciler) (HonestStep r) c steps := by
  refine along_of_forall fun c step => ?_
  cases step with
  | outside c' => trivial
  | reconcile env k =>
    intro app written happ hdeletion hwritten hready
    exact readyClaim_of_persists (persists_of_reconcile happ hdeletion hwritten).2 hready

end ready

section blocked

variable {r : InstanceController} {env : InstanceEnv} {c : InstanceCluster} {app : ManagedInstance}
  {st : ApplicationInstanceStatus}

/-- The instance is persisted as unblocked by every reconcile that does not block it, whatever
the downstream objects and the calls. -/
def BlockedCleared (r : InstanceController) (app : ManagedInstance) : Prop :=
  ∀ env c written, c.instances.get app.metadata.key = some app → r.path env c app ≠ .blocked →
    .statusWritten written ∈ ((r.reconcile app.metadata.key).run env c).trace →
    isConditionTrue written.status.conditions "Blocked" = false

theorem isConditionTrue_blocked_applyHelmStatusSnapshot {snapshot : Option StatusSnapshot}
    (h : isConditionTrue cs "Blocked" = false) :
    isConditionTrue (applyHelmStatusSnapshot now snapshot cs) "Blocked" = false := by
  unfold applyHelmStatusSnapshot
  cases snapshot with
  | none => simpa [isConditionTrue_setCondition_of_ne] using h
  | some s =>
    dsimp only
    split_ifs <;> simp [isConditionTrue_setCondition_of_ne, h]

theorem isConditionTrue_blocked_seaweedConditions (h : isConditionTrue cs "Blocked" = false) :
    isConditionTrue (seaweedConditions now snapshot cs) "Blocked" = false := by
  unfold seaweedConditions
  cases snapshot with
  | none => simpa [isConditionTrue_setCondition_of_ne] using h
  | some s =>
    dsimp only
    split_ifs <;> simp [isConditionTrue_setCondition_of_ne, h]

theorem unblocked_of_persists (h : Persists r env c app st) (hpath : r.path env c app ≠ .blocked)
    (hunblocked : isConditionTrue app.status.conditions "Blocked" = false ∨
      r.path env c app ≠ .helm) : isConditionTrue st.conditions "Blocked" = false := by
  cases h with
  | blocked reason message hblocked => exact absurd hblocked hpath
  | placeholder => simp [placeholderStatus]
  | helmFailed hhelm =>
    have hbefore := hunblocked.resolve_right (not_not.mpr hhelm)
    simp [ensureFailedStatus, installingStatus, isConditionTrue_setCondition_of_ne, hbefore]
  | helm hhelm =>
    have hbefore := hunblocked.resolve_right (not_not.mpr hhelm)
    refine isConditionTrue_blocked_applyHelmStatusSnapshot ?_
    simp [installingStatus, isConditionTrue_setCondition_of_ne, hbefore]
  | seaweedFailed => simp [seaweedFailedStatus]
  | seaweed =>
    refine isConditionTrue_blocked_seaweedConditions ?_
    simp [ensuringSeaweedStatus, isConditionTrue_setCondition_of_ne]

def sourceOutage : InstanceEnv where
  now := 0
  fault
    | .get .helmRepository | .get .ociRepository =>
        some "the server is currently unable to handle the request"
    | _ => none

theorem ensureRelease_sourceOutage (engine : FluxEngine) (app : ApplicationInstance)
    (spec : HelmSpec) (c : InstanceCluster) :
    ∃ err, ((engine.ensureRelease app spec).run sourceOutage c).result = .error err := by
  have hsource : ∃ err, ((ensureChartSource app spec).run sourceOutage c).result = .error err := by
    unfold ensureChartSource
    cases spec.chart.sourceType with
    | helm => exact ⟨_, rfl⟩
    | oci => exact ⟨_, rfl⟩
    | unset => exact ⟨_, rfl⟩
  obtain ⟨err, herr⟩ := hsource
  refine ⟨err.wrap "ensure chart source", ?_⟩
  have hwrapped : (((ensureChartSource app spec).mapError (·.wrap "ensure chart source")).run
      sourceOutage c).result = .error (err.wrap "ensure chart source") := by
    rw [run_mapError, herr]
    rfl
  exact congrArg Outcome.result (run_bind_of_error hwrapped)

theorem run_reconcile_of_get (hfault : env.fault .getInstance = none) {k : ObjectKey}
    (hget : c.instances.get k = some app)
    (hfinalizer : applicationInstanceFinalizer ∈ app.metadata.finalizers) :
    (r.reconcile k).run env c = (r.reconciler.proceed app).run env c := by
  have hread : ((getInstance k).run env c) = ⟨.ok (some app), c, []⟩ := by
    unfold getInstance InstanceM.read InstanceM.call
    simp only [run_bind, hfault, hget, run_get, run_pure, Outcome.after, List.append_nil]
  unfold InstanceController.reconcile ApplicationInstanceReconciler.reconcile
  rw [run_bind, hread]
  simp only [hfinalizer, not_true_eq_false, if_false, Outcome.after, List.nil_append]

theorem run_updateStatus_of_get {s : InstanceSite} (app : ManagedInstance) {stored : ManagedInstance}
    (hfault : env.fault s = none) (hget : c.instances.get app.metadata.key = some stored) :
    (updateStatus s app).run env c =
      ⟨.ok (), { c with instances := c.instances.put { stored with status := app.status } },
        [.statusWritten { stored with status := app.status }]⟩ := by
  unfold updateStatus InstanceM.call
  simp only [run_bind, hfault, run_get, hget, run_write, Outcome.after, List.nil_append]

theorem statusWritten_sourceOutage {engine : FluxEngine} (hengine : r.engine = some engine)
    (hdeletion : app.metadata.deletionTimestamp = none)
    (hfinalizer : applicationInstanceFinalizer ∈ app.metadata.finalizers)
    (hvalid : app.Valid) (hmode : app.spec.isPlaceholder = false)
    (hseaweed : isSeaweedWorkload app.toApplicationInstance = false) :
    ∃ err, .statusWritten { app with
        status := ensureFailedStatus 0 err (installingStatus 0 app) } ∈
      ((r.reconcile app.metadata.key).run sourceOutage (alone app)).trace := by
  have hget := get_alone app
  obtain ⟨spec, hspec⟩ := exists_helm_of_valid hvalid hmode hseaweed
  obtain ⟨err, herr⟩ :=
    ensureRelease_sourceOutage engine app.toApplicationInstance spec (alone app)
  have hstored : ((engine.ensureRelease app.toApplicationInstance spec).run sourceOutage
      (alone app)).state.instances.get app.metadata.key = some app := by
    rw [instances_of_withoutObjects (engine.apart_ensureRelease _ spec sourceOutage _).1]
    exact hget
  refine ⟨err, ?_⟩
  rw [run_reconcile_of_get rfl hget hfinalizer, ApplicationInstanceReconciler.proceed,
    hdeletion, Option.isSome_none, if_neg (by simp),
    show validateApplicationInstanceSpec _ = _ from hvalid]
  dsimp only
  rw [hmode, if_neg (by simp), hseaweed, if_neg (by simp)]
  have hreconciler : r.reconciler.engine = some engine := hengine
  rw [hreconciler]
  unfold reconcileHelm
  rw [hspec]
  refine mem_trace_bind.mpr (.inr ⟨0, rfl, mem_trace_bind.mpr (.inr ⟨.error err, ?_, ?_⟩)⟩)
  · rw [run_attempt]
    exact congrArg _ herr
  · have hfault : sourceOutage.fault .updateEnsureFailed = none := rfl
    have hrun := run_updateStatus_of_get
      { app with status := ensureFailedStatus 0 err (installingStatus 0 app) } hfault hstored
    exact mem_trace_bind.mpr
      (.inl ((congrArg Outcome.trace hrun).symm ▸ List.mem_singleton_self _))

theorem blockedCleared_iff (hdeletion : app.metadata.deletionTimestamp = none) :
    BlockedCleared r app ↔ isConditionTrue app.status.conditions "Blocked" = false ∨
      app.spec.isPlaceholder = true ∨ isSeaweedWorkload app.toApplicationInstance = true ∨
      applicationInstanceFinalizer ∉ app.metadata.finalizers ∨ ¬app.Valid ∨ r.engine = none := by
  constructor
  · intro h
    by_contra hnone
    simp only [not_or, not_not, Bool.not_eq_false, Bool.not_eq_true] at hnone
    obtain ⟨hblocked, hmode, hseaweed, hfinalizer, hvalid, hengine⟩ := hnone
    obtain ⟨engine, hengine⟩ := Option.ne_none_iff_exists'.mp hengine
    obtain ⟨err, hwritten⟩ :=
      statusWritten_sourceOutage hengine hdeletion hfinalizer hvalid hmode hseaweed
    have hpath : r.path sourceOutage (alone app) app = .helm :=
      path_eq_helm_iff.mpr ⟨hvalid, hmode, hseaweed, by simp [hengine]⟩
    have hcleared := h sourceOutage (alone app) _ (get_alone app)
      (by simp [hpath]) hwritten
    simp [ensureFailedStatus, installingStatus, isConditionTrue_setCondition_of_ne, hblocked]
      at hcleared
  · intro h env c written hget hpath hwritten
    obtain ⟨hfinalizer, hpersists⟩ := persists_of_reconcile hget hdeletion hwritten
    refine unblocked_of_persists hpersists hpath ?_
    by_cases hhelm : r.path env c app = .helm
    · left
      obtain ⟨hvalid, hmode, hseaweed, hengine⟩ := path_eq_helm_iff.mp hhelm
      rcases h with h | h | h | h | h | h
      · exact h
      · exact absurd (hmode.symm.trans h) (by simp)
      · exact absurd (hseaweed.symm.trans h) (by simp)
      · exact absurd hfinalizer h
      · exact absurd hvalid h
      · rw [h] at hengine
        exact absurd hengine (by simp)
    · exact .inr hhelm

end blocked

/-- An instance that is installed with Helm, with these conditions. -/
def shopInstance (conditions : List Condition) : ManagedInstance where
  metadata :=
    { ns := "team-a", name := "shop", uid := "u1", finalizers := [applicationInstanceFinalizer] }
  spec :=
    { catalogId := "shop", mode := .managed
      chart := some ⟨.helm, "https://charts.example.com", "shop", "1.0.0"⟩
      release := some ⟨"shop", "team-a"⟩
      values := some { source := .inline, inline := some (bytesOf "\x7b\x7d") } }
  status := { conditions }

/-- An instance that was ready. -/
def readyShop : ManagedInstance :=
  shopInstance [⟨"Ready", .true, "HelmReleaseReady", "", 3⟩, ⟨"Blocked", .false, "Unblocked", "", 3⟩]

/-- An instance that was blocked. -/
def unblockedShop : ManagedInstance :=
  shopInstance [⟨"Blocked", .true, "ValidationFailed", "spec.values is required", 3⟩]

/-- A placeholder that was blocked. -/
def blockedPlaceholder : ManagedInstance :=
  { unblockedShop with spec := { catalogId := "shop", mode := .placeholder } }

theorem ready_shop_blockedCleared : BlockedCleared plainController readyShop ∧
    isConditionTrue blockedPlaceholder.status.conditions "Blocked" = true ∧
    BlockedCleared plainController blockedPlaceholder :=
  ⟨(blockedCleared_iff rfl).mpr (.inl (by decide)), by decide,
    (blockedCleared_iff rfl).mpr (.inr (.inl rfl))⟩

theorem unblocked_shop_stays_blocked :
    plainController.path sourceOutage (alone unblockedShop) unblockedShop = .helm ∧
      ∃ written, .statusWritten written ∈ ((plainController.reconcile ⟨"team-a", "shop"⟩).run
          sourceOutage (alone unblockedShop)).trace ∧
        isConditionTrue written.status.conditions "Blocked" = true := by
  have hvalid : unblockedShop.Valid := by
    unfold ManagedInstance.Valid
    decide +kernel
  have hengine : plainController.engine = some ⟨fun _ => .error ""⟩ := rfl
  have hdeletion : unblockedShop.metadata.deletionTimestamp = none := rfl
  obtain ⟨err, hwritten⟩ :=
    statusWritten_sourceOutage hengine hdeletion (by decide) hvalid rfl rfl
  refine ⟨path_eq_helm_iff.mpr ⟨hvalid, rfl, rfl, rfl⟩, _, hwritten, ?_⟩
  simp only [ensureFailedStatus, installingStatus]
  have hready : "Blocked" ≠ "Ready" := by decide
  have hreconciling : "Blocked" ≠ "Reconciling" := by decide
  simp only [isConditionTrue_setCondition_of_ne hready,
    isConditionTrue_setCondition_of_ne hreconciling]
  decide

/-- The downstream object a reconcile reads has these conditions: its release, after it was
ensured, or its `Seaweed`. -/
inductive Reads (r : InstanceController) (env : InstanceEnv) (c : InstanceCluster)
    (app : ManagedInstance) : List Json → Prop
  | helm {engine : FluxEngine} {spec : HelmSpec} {hr : Unstructured} {conditions : List Json}
      (hpath : r.path env c app = .helm) (hengine : r.engine = some engine)
      (hspec : app.spec.helm = some spec)
      (hensure : ((engine.ensureRelease app.toApplicationInstance spec).run env c).result = .ok ())
      (hget : (engine.ensured app spec env c).releases.get
        ⟨app.metadata.ns, spec.release.name⟩ = some hr)
      (hconditions : nested ["status", "conditions"] hr.body = some (.arr conditions)) :
      Reads r env c app conditions
  | seaweed {engine : SeaweedEngine} {release : ReleaseSpec} {sw : Unstructured}
      {conditions : List Json} (hpath : r.path env c app = .seaweed)
      (hengine : r.seaweedEngine = some engine) (hrelease : app.spec.release = some release)
      (hensure : ((engine.ensureSeaweed app.toApplicationInstance).run env c).result = .ok ())
      (hget : (engine.ensured app env c).seaweeds.get
        ⟨releaseNamespace app.toApplicationInstance, release.name⟩ = some sw)
      (hconditions : nested ["status", "conditions"] sw.body = some (.arr conditions)) :
      Reads r env c app conditions

/-- The reason that goes with a failed downstream object. -/
def failedReason (app : ManagedInstance) : String :=
  if isSeaweedWorkload app.toApplicationInstance then "SeaweedFailed" else "HelmReleaseFailed"

section failure

variable {conditions : List Json} {j : Json}

theorem summary_of_failed {α : Type} {signal : α → Signal} (fallback : String)
    {reason message : String} {l : List α} {a : α} (hl : Unrepeated signal l) (ha : a ∈ l)
    (hsignal : signal a = .verdict false reason message) (hreason : reason ≠ "") :
    (summary signal fallback l).ready = false ∧ (summary signal fallback l).reason = reason ∧
      (summary signal fallback l).message = message := by
  obtain ⟨hr, hm⟩ := reason_gather_of_verdict (s := {}) hl ha hsignal hreason
  refine ⟨?_, ?_, ?_⟩
  · rw [ready_summary, List.any_eq_false]
    intro b hb hready
    cases hsb : signal b with
    | verdict ready reason' message' =>
      have hslot : (signal a).slot = some .ready := by rw [hsignal]; rfl
      obtain rfl : a = b := hl.eq_of_slot ha hb hslot (by rw [hsb]; rfl)
      rw [hsignal] at hready
      exact absurd hready (by simp [Signal.isReady])
    | nothing | reconciling | degraded =>
      rw [hsb] at hready
      exact absurd hready (by simp [Signal.isReady])
  · unfold summary ConditionSummary.settle
    split_ifs <;> simp_all
  · unfold summary ConditionSummary.settle
    split_ifs <;> simp_all

theorem helmSignal_of_failed (h : conditionShows "Ready" "False" j) :
    helmSignal j = .verdict false "HelmReleaseFailed" (conditionText "message" j) := by
  rw [helmSignal, if_neg (not_shows_of_status_ne h (by decide)), if_pos h]

theorem seaweedSignal_of_failed (h : conditionShows "Ready" "False" j) :
    seaweedSignal j = .verdict false "SeaweedFailed" (conditionText "message" j) := by
  rw [seaweedSignal, if_neg (not_shows_of_status_ne h (by decide)), if_pos h]

variable {r : InstanceController} {env : InstanceEnv} {c : InstanceCluster} {app : ManagedInstance}
  {k : ObjectKey} {written : ManagedInstance}

theorem status_eq_of_conditionIs {type reason message reason' message' : String}
    {status status' : ConditionStatus} (h : conditionIs type status reason message cs = true)
    (h' : conditionIs type status' reason' message' cs = true) : status = status' := by
  unfold conditionIs at h h'
  cases hfind : cs.find? fun c => c.type = type with
  | none => rw [hfind] at h; exact absurd h (by simp)
  | some c =>
    rw [hfind] at h h'
    simp only [Option.any_some, Bool.and_eq_true, decide_eq_true_eq] at h h'
    exact h.1.1.symm.trans h'.1.1

theorem snapshot_of_helm_syncStatus {hr : Unstructured} {snapshot : Option StatusSnapshot}
    (h : ((FluxEngine.syncStatus app.toApplicationInstance release).run env c).result =
      .ok snapshot) (hget : c.releases.get ⟨app.metadata.ns, release.name⟩ = some hr)
    (hconditions : nested ["status", "conditions"] hr.body = some (.arr conditions)) :
    ∃ s, snapshot = some s ∧ s.toConditionSummary = mapHelmReleaseConditions conditions := by
  obtain ⟨found, hfound, h⟩ := exists_of_result_bind h
  obtain rfl := eq_of_read (result_of_mapError hfound)
  have hget' : (c.objects .helmRelease).get
      ⟨app.toApplicationInstance.metadata.ns, release.name⟩ = some hr := hget
  simp only [hget', hconditions] at h
  exact ⟨_, (Except.ok.inj h).symm, rfl⟩

theorem snapshot_of_seaweed_syncStatus {sw : Unstructured}
    (h : ((SeaweedEngine.syncStatus app.toApplicationInstance).run env c).result = .ok snapshot)
    (hrelease : app.spec.release = some release)
    (hget : c.seaweeds.get ⟨releaseNamespace app.toApplicationInstance, release.name⟩ = some sw)
    (hconditions : nested ["status", "conditions"] sw.body = some (.arr conditions))
    (hready : (mapSeaweedConditions conditions).ready = false) :
    ∃ s, snapshot = some s ∧ s.toConditionSummary = mapSeaweedConditions conditions := by
  obtain ⟨release', hrelease', h⟩ := exists_of_result_bind h
  obtain rfl : release' = release :=
    Option.some.inj ((of_validateReleaseRef hrelease').1.symm.trans hrelease)
  obtain ⟨found, hfound, h⟩ := exists_of_result_bind h
  obtain rfl := eq_of_read (result_of_mapError hfound)
  simp only [run_ofExcept, hget, hconditions, hready, Bool.false_and, Bool.false_eq_true,
    if_false] at h
  exact ⟨_, (Except.ok.inj h).symm, rfl⟩

theorem not_reported_of_helm {spec : HelmSpec} {engine : FluxEngine} {hr : Unstructured}
    {st : ApplicationInstanceStatus} (reason message : String)
    (hpersists : Persists r env c app st)
    (hpath : r.path env c app = .helm) (hengine : r.engine = some engine)
    (hspec : app.spec.helm = some spec)
    (hensure : ((engine.ensureRelease app.toApplicationInstance spec).run env c).result = .ok ())
    (hget : (engine.ensured app spec env c).releases.get
      ⟨app.metadata.ns, spec.release.name⟩ = some hr)
    (hconditions : nested ["status", "conditions"] hr.body = some (.arr conditions))
    (hready : (mapHelmReleaseConditions conditions).ready = false) :
    conditionIs "Ready" .false reason message st.conditions ≠ true := by
  cases hpersists with
  | blocked _ _ hpath' | placeholder hpath' | seaweedFailed hpath' | seaweed hpath' =>
    exact absurd (hpath.symm.trans hpath') (by simp)
  | helmFailed hpath' hengine' hspec' hfailed =>
    obtain rfl := Option.some.inj (hengine.symm.trans hengine')
    obtain rfl := Option.some.inj (hspec.symm.trans hspec')
    exact absurd (hensure.symm.trans hfailed) (by simp)
  | helm hpath' hengine' hspec' hsync =>
    obtain rfl := Option.some.inj (hengine.symm.trans hengine')
    obtain rfl := Option.some.inj (hspec.symm.trans hspec')
    obtain ⟨s, rfl, hsummary⟩ := snapshot_of_helm_syncStatus hsync hget hconditions
    have hnot : s.ready = false := by rw [← hready, ← hsummary]
    intro h
    have hunknown : ∃ reason message, conditionIs "Ready" .unknown reason message
        (applyHelmStatusSnapshot env.now (some s) (installingStatus env.now app).conditions) =
          true := by
      refine ⟨if s.reason = "" then "Reconciling" else s.reason, s.message, ?_⟩
      simp only [applyHelmStatusSnapshot, hnot, Bool.false_eq_true, if_false]
      exact conditionIs_setCondition
    obtain ⟨reason', message', hunknown⟩ := hunknown
    exact absurd (status_eq_of_conditionIs h hunknown) (by simp)

theorem reported_of_seaweed {engine : SeaweedEngine} {sw : Unstructured}
    {st : ApplicationInstanceStatus} (hpersists : Persists r env c app st)
    (hpath : r.path env c app = .seaweed) (hengine : r.seaweedEngine = some engine)
    (hrelease : app.spec.release = some release)
    (hensure : ((engine.ensureSeaweed app.toApplicationInstance).run env c).result = .ok ())
    (hget : (engine.ensured app env c).seaweeds.get
      ⟨releaseNamespace app.toApplicationInstance, release.name⟩ = some sw)
    (hconditions : nested ["status", "conditions"] sw.body = some (.arr conditions))
    (hready : (mapSeaweedConditions conditions).ready = false)
    (hreason : (mapSeaweedConditions conditions).reason = "SeaweedFailed") :
    conditionIs "Ready" .false "SeaweedFailed" (mapSeaweedConditions conditions).message
      st.conditions = true := by
  cases hpersists with
  | blocked _ _ hpath' | placeholder hpath' | helmFailed hpath' | helm hpath' =>
    exact absurd (hpath.symm.trans hpath') (by simp)
  | seaweedFailed hpath' hengine' hfailed =>
    obtain rfl := Option.some.inj (hengine.symm.trans hengine')
    exact absurd (hensure.symm.trans hfailed) (by simp)
  | seaweed hpath' hengine' hsync =>
    obtain rfl := Option.some.inj (hengine.symm.trans hengine')
    obtain ⟨s, rfl, hsummary⟩ :=
      snapshot_of_seaweed_syncStatus hsync hrelease hget hconditions hready
    have hnot : s.ready = false := by rw [← hready, ← hsummary]
    have hs : s.reason = "SeaweedFailed" := by rw [← hreason, ← hsummary]
    rw [← hsummary]
    simp only [seaweedReconciledStatus, applySeaweedStatusSnapshot, seaweedConditions, hnot, hs,
      Bool.false_eq_true, if_false, String.reduceEq, decide_true, Bool.or_true, if_true]
    rw [conditionIs_setCondition_of_ne (by decide)]
    exact conditionIs_setCondition

theorem failure_reported_iff (happ : c.instances.get k = some app)
    (hdeletion : app.metadata.deletionTimestamp = none) (hreads : Reads r env c app conditions)
    (hdistinct : UniqueTypes conditions) (hj : j ∈ conditions)
    (hfailed : conditionShows "Ready" "False" j)
    (hwritten : .statusWritten written ∈ ((r.reconcile k).run env c).trace) :
    conditionIs "Ready" .false (failedReason app) (conditionText "message" j)
        written.status.conditions = true ↔
      isSeaweedWorkload app.toApplicationInstance = true := by
  obtain ⟨-, hpersists⟩ := persists_of_reconcile happ hdeletion hwritten
  cases hreads with
  | helm hpath hengine hspec hensure hget hconditions =>
    obtain ⟨hready, -, -⟩ := summary_of_failed "HelmReleaseInstalling"
      (unrepeated_helmSignal hdistinct) hj (helmSignal_of_failed hfailed) (by decide)
    rw [← mapHelmReleaseConditions_eq] at hready
    have hnot := not_reported_of_helm (failedReason app) (conditionText "message" j) hpersists
      hpath hengine hspec hensure hget hconditions hready
    simp [hnot, (path_eq_helm_iff.mp hpath).2.2.1]
  | seaweed hpath hengine hrelease hensure hget hconditions =>
    obtain ⟨hready, hreason, hmessage⟩ := summary_of_failed "SeaweedReconciling"
      (unrepeated_seaweedSignal hdistinct) hj (seaweedSignal_of_failed hfailed) (by decide)
    rw [← mapSeaweedConditions_eq] at hready hreason hmessage
    have hseaweed := (path_eq_seaweed_iff.mp hpath).2.2.1
    have hreported := reported_of_seaweed hpersists hpath hengine hrelease hensure hget hconditions
      hready hreason
    rw [hmessage] at hreported
    simp [failedReason, hseaweed, hreported]

end failure

def nativeStore : ManagedInstance where
  metadata :=
    { ns := "team-a", name := "store", uid := "u1", finalizers := [applicationInstanceFinalizer] }
  spec :=
    { catalogId := catalogIdSeaweedFS, mode := .managed
      release := some ⟨"store", "team-a"⟩
      values := some { source := .inline, inline := some (bytesOf "\x7b\"filer\":\x7b\x7d\x7d") } }

def failedConditions : List Json :=
  [downstreamCondition "Ready" "False" "Failed" "retries exhausted"]

/-- A cluster with a workload whose `Seaweed` is not ready. -/
def failedStore : InstanceCluster :=
  { alone nativeStore with
    seaweeds := Store.empty.put
      { metadata := { ns := "team-a", name := "store", uid := "d1" }
        body := [("status", .obj [("conditions", .arr failedConditions)])] } }

def ensuredStore : Unstructured where
  metadata :=
    { ns := "team-a", name := "store", uid := "d1"
      labels := ownerLabels nativeStore.toApplicationInstance
      ownerReferences := [controllerReference nativeStore.toApplicationInstance] }
  body := [("status", .obj [("conditions", .arr failedConditions)]),
    ("spec", .obj [("filer", .obj [])])]

theorem reads_failedStore :
    Reads plainController { now := 5 } failedStore nativeStore failedConditions := by
  have hget : (SeaweedEngine.ensured ⟨fun _ => .error ""⟩ nativeStore { now := 5 }
      failedStore).seaweeds.get ⟨"team-a", "store"⟩ = some ensuredStore := by decide +kernel
  exact .seaweed (by decide +kernel) rfl rfl (by decide +kernel) hget rfl

/-- The condition `Ready` in each status a reconcile persisted. -/
def readyPersisted (trace : List InstanceEvent) :
    List (Option (ConditionStatus × String × String)) :=
  trace.filterMap fun
    | .statusWritten app => some ((getCondition app.status.conditions "Ready").map Condition.values)
    | _ => none

theorem failed_store_reported :
    (readyPersisted ((plainController.reconcile ⟨"team-a", "store"⟩).run { now := 5 }
        failedStore).trace).length = 1 ∧
      ∀ written, .statusWritten written ∈ ((plainController.reconcile ⟨"team-a", "store"⟩).run
          { now := 5 } failedStore).trace →
        conditionIs "Ready" .false "SeaweedFailed" "retries exhausted" written.status.conditions =
          true := by
  have hget : failedStore.instances.get ⟨"team-a", "store"⟩ = some nativeStore :=
    get_alone nativeStore
  have hdistinct : UniqueTypes failedConditions := by decide
  refine ⟨by decide +kernel, fun written hwritten => ?_⟩
  exact (failure_reported_iff hget rfl reads_failedStore hdistinct (List.mem_singleton_self _)
    ⟨rfl, rfl⟩ hwritten).mpr rfl

/-- A cluster with an instance whose release is not ready. -/
def failedShop : InstanceCluster :=
  { alone (shopInstance []) with
    workloads := Workloads.empty.setObjects .helmRelease (Store.empty.put
      { metadata := { ns := "team-a", name := "shop", uid := "d1" }
        body := [("status", .obj [("conditions", .arr failedConditions)])] }) }

theorem failed_shop_unknown :
    readyPersisted ((plainController.reconcile ⟨"team-a", "shop"⟩).run { now := 5 }
      failedShop).trace = [some (.unknown, "HelmReleaseFailed", "retries exhausted")] := by
  decide +kernel

end VWorkspace
