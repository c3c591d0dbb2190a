import VWorkspaceOperator.Controller.Runs

/-!
# Whether finished work finishes the operation

The downstream controllers bring their objects to an end: a job completes or
fails, a workflow or a Velero object reaches a final phase, a Helm release
becomes ready at its version.  The next reconcile without API errors finishes
the operation, with two exceptions: the Helm engine never looks at its release,
and the Velero engine takes a backup or restore that failed validation for one
that still runs.
-/

namespace VWorkspace

open Kit Prog

/-- Where the engine of an operation looks for its workload: the recorded place,
or the one the target gives. -/
def workloadKey (op : Operation) (target : ApplicationInstance) : ObjectKey :=
  match op.status.engineRef.filter fun ref => ref.ns ≠ "" && ref.name ≠ "" with
  | some ref => ⟨ref.ns, ref.name⟩
  | none => ⟨targetNamespace target, materializedName op⟩

def jobAtEnd (job : Job) : Bool :=
  job.conditions.any fun c => (c.type = .complete || c.type = .failed) && c.status = .true

def workflowEnds : List String := ["Succeeded", "Failed", "Error", "Skipped"]

def veleroEnds : List String := ["Completed", "PartiallyFailed", "Failed", "FailedValidation"]

/-- A condition of an unstructured object that says it is ready. -/
def isReadyCondition : Json → Bool
  | .obj fs => fs.lookup "type" = some (.str "Ready") && fs.lookup "status" = some (.str "True")
  | _ => false

def helmReleaseReady (hr : Unstructured) : Bool :=
  match nested ["status", "conditions"] hr.body with
  | some (.arr cs) => cs.any isReadyCondition
  | _ => false

/-- A Helm release that is ready at the version the operation asks for. -/
def helmReleaseAtEnd (op : Operation) (hr : Unstructured) : Bool :=
  match parseHelmParameters op with
  | .ok params => helmReleaseReady hr && (params.targetVersion = "" ||
      nestedString ["spec", "chart", "spec", "version"] hr.body = params.targetVersion)
  | .error _ => false

def veleroPhase (veleroNs : String) (w : Workloads) (op : Operation) : Option String :=
  ((w.objects (veleroKind op)).get (veleroKey veleroNs op)).map fun o =>
    nestedString ["status", "phase"] o.body

/-- The object the engine of an operation drives is in a state its own controller
never leaves. -/
def workAtEnd (veleroNs : String) (w : Workloads) (op : Operation) (target : ApplicationInstance) :
    Bool :=
  match op.spec.engine with
  | .job | .helmHookJob => (w.jobs.get (workloadKey op target)).any jobAtEnd
  | .workflow => ((w.objects .workflow).get (workloadKey op target)).any fun wf =>
      nestedString ["status", "phase"] wf.body ∈ workflowEnds
  | .velero => (veleroPhase veleroNs w op).any fun phase => phase ∈ veleroEnds
  | .helm => (target.spec.release.bind fun release =>
      (w.objects .helmRelease).get ⟨target.metadata.ns, release.name⟩).any (helmReleaseAtEnd op)
  | _ => false

/-- The persisted phase of the operation under a key is `Succeeded` or `Failed`. -/
def finishedAt (c : Cluster) (k : ObjectKey) : Bool :=
  (phaseAt c k).any fun phase => phase = .succeeded || phase = .failed

section persisted

variable {r : OperationReconciler} {env : Env} {c : Cluster} {k : ObjectKey} {op : Operation}
  {engine : Engine} {target : ApplicationInstance}

/-- The status after the backfill of an operation that runs. -/
def backfilledStatus (now : ℕ) (op : Operation) (target : ApplicationInstance) : OperationStatus :=
  let ref := newEngineResourceRef op target (engineResourceKind op.spec.engine)
  { op.status with
    startedAt := some (op.status.startedAt.getD now)
    engineRef := if lacksEngineRef op then some ref else op.status.engineRef }

theorem backfilledStatus_of_complete (now : ℕ) (target : ApplicationInstance)
    (hcomplete : (op.status.startedAt.isSome && !lacksEngineRef op) = true) :
    backfilledStatus now op target = op.status := by
  simp only [Bool.and_eq_true, Bool.not_eq_true'] at hcomplete
  obtain ⟨t, ht⟩ := Option.isSome_iff_exists.mp hcomplete.1
  simp only [backfilledStatus, hcomplete.2, ht, Option.getD_some, Bool.false_eq_true, if_false]
  rw [← ht]

theorem run_backfill_of_running (target : ApplicationInstance) (hfault : ∀ s, env.fault s = none)
    (hget : c.operations.get op.key = some op) (hrunning : op.status.phase = .running) :
    ∃ c', ((backfillEngineRefIfNeeded op target).run env c).result =
        .ok (op.withStatus (backfilledStatus env.now op target)) ∧
      ((backfillEngineRefIfNeeded op target).run env c).state = c' ∧
      c'.operations.get op.key = some (op.withStatus (backfilledStatus env.now op target)) ∧
      c'.instances = c.instances ∧ c'.workloads = c.workloads := by
  unfold backfillEngineRefIfNeeded
  rw [if_neg (not_not.mpr hrunning)]
  split
  · next hcomplete =>
    rw [backfilledStatus_of_complete env.now target hcomplete]
    exact ⟨c, rfl, rfl, hget, rfl, rfl⟩
  · rw [run_now_bind, run_mapError]
    simp only
    rw [run_updateStatus hget, hfault]
    exact ⟨_, rfl, rfl, Store.get_put_self _ _, rfl, rfl⟩

theorem run_proceed_of_running (engine : Engine) (target : ApplicationInstance)
    (hfault : ∀ s, env.fault s = none) (hget : c.operations.get op.key = some op)
    (hrunning : op.status.phase = .running) :
    ∃ c', c'.operations.get op.key = some (op.withStatus (backfilledStatus env.now op target)) ∧
      c'.instances = c.instances ∧ c'.workloads = c.workloads ∧
      ((proceed engine op target).run env c).state =
        ((observe engine (op.withStatus (backfilledStatus env.now op target))).run env
          c').state := by
  have hstart : start engine op target = pure (.ok op) := by
    rw [start, unstarted, hrunning]; rfl
  obtain ⟨c', hres, hstate, hget', hinst, hwork⟩ :=
    run_backfill_of_running target hfault hget hrunning
  refine ⟨c', hget', hinst, hwork, ?_⟩
  rw [proceed, hstart, run_bind, run_pure]
  simp only [Outcome.state_after]
  rw [run_bind_of_ok hres, Outcome.state_after, hstate]

theorem phaseAt_storeStatus {c' : Cluster} (hfault : ∀ s, env.fault s = none) (s : Site)
    (st : OperationStatus) {ops : Store Operation}
    (h : c'.operations = storeStatus env s op st ops) : phaseAt c' op.key = some st.phase := by
  rw [storeStatus, if_pos (hfault s)] at h
  rw [phaseAt, statusAt, h, show op.key = (op.withStatus st).key from rfl]
  rw [show (op.withStatus st).key = Keyed.key (op.withStatus st) from rfl, Store.get_put_self]
  rfl

/-- The engine brings the operation to an end: it reports a final phase, or that
the workload is another operation's. -/
def Concludes (x : EngineM EngineStatus) (env : EngineEnv) (w : Workloads) : Prop :=
  (∃ es, (x.run env w).result = .ok es ∧ (es.phase = .succeeded ∨ es.phase = .failed)) ∨
    ∃ e, (x.run env w).result = .error e ∧ e.sentinel = some .workloadOwnership

/-- An operation that runs, with nothing that blocks it, in a reconcile without
faults. -/
structure Observable (r : OperationReconciler) (env : Env) (c : Cluster) (k : ObjectKey)
    (op : Operation) (target : ApplicationInstance) (engine : Engine) : Prop where
  faultless : ∀ s, env.fault s = none
  stored : c.operations.get k = some op
  running : op.status.phase = .running
  unblocked : admission r env c op = .ok (.proceed target engine)

/-- The operation has its finalizer and is not being deleted; otherwise a reconcile
looks after the finalizer only. -/
def settled (op : Operation) : Bool :=
  operationFinalizer ∈ op.metadata.finalizers && op.metadata.deletionTimestamp = none

theorem Observable.atGate (h : Observable r env c k op target engine)
    (hsettled : settled op = true) : AtGate env c k op := by
  simp only [settled, Bool.and_eq_true, decide_eq_true_eq] at hsettled
  exact ⟨h.faultless _, h.stored, hsettled.1, hsettled.2⟩

theorem not_finishedAt_of_not_settled (h : Observable r env c k op target engine)
    (hsettled : settled op = false) : ¬ finishedAt (step r c (.reconcile env k)) k = true := by
  have hgate : ¬ AtGate env c k op := fun hgate => by
    simp [settled, hgate.finalizer, hgate.live] at hsettled
  rw [finishedAt, phaseAt, statusAt, operations_step_reconcile]
  cases hget : (storedAfter ((reconcile r k).run env c).trace c.operations).get k with
  | none => simp
  | some op' =>
    obtain ⟨op₀, hop₀, -, -, hstatus | hwritten⟩ := get_storedAfter_self (List.prefix_refl _) hget
    · obtain rfl : op₀ = op := Option.some.inj (hop₀.symm.trans h.stored)
      simp [hstatus.1, h.running]
    · obtain ⟨op₁, -, hgate₁, -⟩ := statusWritten_reconcile hwritten
      exact absurd (Option.some.inj (hgate₁.stored.symm.trans h.stored) ▸ hgate₁) hgate

theorem phaseAt_step_of_status (h : Observable r env c k op target engine)
    (hgate : AtGate env c k op) {es : EngineStatus}
    (hes : ((engine.status (op.withStatus (backfilledStatus env.now op target))).run
      ⟨env.fault, c.instances⟩ c.workloads).result = .ok es) :
    phaseAt (step r c (.reconcile env k)) k = some es.phase := by
  have hget : c.operations.get op.key = some op := hgate.key_eq ▸ hgate.stored
  obtain ⟨c', hget', hinst, hwork, hstate⟩ :=
    run_proceed_of_running engine target h.faultless hget h.running
  rw [← hinst, ← hwork] at hes
  rw [step, run_reconcile_of_atGate hgate, h.unblocked, Outcome.state_after]
  simp only [carryOut]
  rw [hstate, ← hgate.key_eq]
  have hobs := operations_observe_of_ok hget' hes
  cases hdone : es.done with
  | true =>
    rw [hdone, if_pos rfl] at hobs
    exact phaseAt_storeStatus h.faultless _ _ hobs
  | false =>
    rw [hdone, if_neg (by simp)] at hobs
    exact phaseAt_storeStatus h.faultless _ _ hobs

theorem operations_step_of_statusError (h : Observable r env c k op target engine)
    (hgate : AtGate env c k op) {e : GoError}
    (he : ((engine.status (op.withStatus (backfilledStatus env.now op target))).run
      ⟨env.fault, c.instances⟩ c.workloads).result = .error e) :
    ∃ c', c'.operations.get op.key = some (op.withStatus (backfilledStatus env.now op target)) ∧
      (step r c (.reconcile env k)).operations =
        ((handleEngineStatusError (op.withStatus (backfilledStatus env.now op target)) e).run env
          c').state.operations := by
  have hget : c.operations.get op.key = some op := hgate.key_eq ▸ hgate.stored
  obtain ⟨c', hget', hinst, hwork, hstate⟩ :=
    run_proceed_of_running engine target h.faultless hget h.running
  rw [← hinst, ← hwork] at he
  refine ⟨afterStatus env c' engine (op.withStatus (backfilledStatus env.now op target)), hget', ?_⟩
  rw [step, run_reconcile_of_atGate hgate, h.unblocked, Outcome.state_after]
  simp only [carryOut]
  rw [hstate]
  exact operations_observe_of_error he

theorem phaseAt_step_of_ownership (h : Observable r env c k op target engine)
    (hgate : AtGate env c k op) {e : GoError}
    (he : ((engine.status (op.withStatus (backfilledStatus env.now op target))).run
      ⟨env.fault, c.instances⟩ c.workloads).result = .error e)
    (howner : e.sentinel = some .workloadOwnership) :
    phaseAt (step r c (.reconcile env k)) k = some .failed := by
  obtain ⟨c', hget', hobs⟩ := operations_step_of_statusError h hgate he
  simp only [handleEngineStatusError, howner] at hobs
  rw [operations_failOperation hget'] at hobs
  have hphase : phaseAt (step r c (.reconcile env k)) op.key = some .failed :=
    phaseAt_storeStatus h.faultless _ _ hobs
  rwa [hgate.key_eq] at hphase

theorem finishedAt_of_concludes (h : Observable r env c k op target engine)
    (hgate : AtGate env c k op)
    (hc : Concludes (engine.status (op.withStatus (backfilledStatus env.now op target)))
      ⟨env.fault, c.instances⟩ c.workloads) :
    finishedAt (step r c (.reconcile env k)) k = true := by
  rcases hc with ⟨es, hes, hphase⟩ | ⟨e, he, howner⟩
  · rw [finishedAt, phaseAt_step_of_status h hgate hes]
    simpa using hphase
  · rw [finishedAt, phaseAt_step_of_ownership h hgate he howner]
    rfl

end persisted

section engines

variable {env : EngineEnv} {w : Workloads} {op : Operation} {target : ApplicationInstance}

theorem run_resolveEngineLocation (hfault : ∀ s, env.fault s = none)
    (htarget : env.instances.get ⟨op.metadata.ns, op.spec.targetRef.name⟩ = some target) :
    (resolveEngineLocation op).run env w = ⟨.ok (some (workloadKey op target)), w, []⟩ := by
  unfold resolveEngineLocation workloadKey
  cases op.status.engineRef.filter fun ref => ref.ns ≠ "" && ref.name ≠ "" with
  | some ref => rfl
  | none =>
    simp only [EngineM.getInstance, run_bind, run_mapError, run_engine_call hfault, run_ask,
      run_pure, htarget]
    rfl

theorem sentinel_of_verifyOperationOwnership {labels : List (String × String)} {e : GoError}
    (h : verifyOperationOwnership labels op = .error e) :
    e.sentinel = some .workloadOwnership := by
  unfold verifyOperationOwnership at h
  split at h
  · rw [← Except.error.inj h]; rfl
  · exact absurd h (by simp)

theorem result_observedJob (hfault : ∀ s, env.fault s = none)
    (htarget : env.instances.get ⟨op.metadata.ns, op.spec.targetRef.name⟩ = some target)
    (what : String) {job : Job} (hjob : w.jobs.get (workloadKey op target) = some job) :
    ((observedJob what op).run env w).result = .ok job ∨
      ∃ e, ((observedJob what op).run env w).result = .error e ∧
        e.sentinel = some .workloadOwnership := by
  have hread : (EngineM.getJob .statusGet (workloadKey op target)).run env w =
      ⟨.ok (some job), w, []⟩ := by
    rw [← hjob]; exact run_engine_read hfault _ _
  have hresolve : (resolveEngineLocationForStatus op findJobLocationByOperationLabel).run env w =
      ⟨.ok (workloadKey op target), w, []⟩ := by
    rw [resolveEngineLocationForStatus, run_bind, run_resolveEngineLocation hfault htarget]
    rfl
  simp only [observedJob, run_bind, hresolve, run_mapError, hread, Except.mapError,
    Outcome.result_after, run_ofExcept]
  cases hv : verifyOperationOwnership job.metadata.labels op with
  | ok u => exact .inl rfl
  | error e => exact .inr ⟨e, rfl, sentinel_of_verifyOperationOwnership hv⟩

theorem phase_statusFromConditions (jobName : String) {cs : List JobCondition}
    (h : cs.any (fun c => (c.type = .complete || c.type = .failed) && c.status = .true) = true) :
    (statusFromConditions jobName cs).phase = .succeeded ∨
      (statusFromConditions jobName cs).phase = .failed := by
  induction cs with
  | nil => exact absurd h (by simp)
  | cons c cs ih =>
    unfold statusFromConditions
    split
    · exact .inl rfl
    · exact .inr rfl
    · next hcomplete hfailed =>
      refine ih ?_
      rw [List.any_cons, Bool.or_eq_true] at h
      refine h.resolve_left fun hc => ?_
      simp only [Bool.and_eq_true, Bool.or_eq_true, decide_eq_true_eq] at hc
      rcases hc with ⟨hc | hc, ht⟩
      · exact hcomplete hc ht
      · exact hfailed hc ht

theorem concludes_jobStatus (hfault : ∀ s, env.fault s = none)
    (htarget : env.instances.get ⟨op.metadata.ns, op.spec.targetRef.name⟩ = some target)
    {job : Job} (hjob : w.jobs.get (workloadKey op target) = some job)
    (hend : jobAtEnd job = true) : Concludes (jobStatus op) env w := by
  rcases result_observedJob hfault htarget "job" hjob with hok | ⟨e, herr, howner⟩
  · refine .inl ⟨statusFromJob job, ?_, phase_statusFromConditions _ hend⟩
    rw [jobStatus, run_bind_of_ok hok]; rfl
  · refine .inr ⟨e, ?_, howner⟩
    rw [jobStatus, run_bind_of_error herr]

theorem concludes_helmHookJobStatus (hfault : ∀ s, env.fault s = none)
    (htarget : env.instances.get ⟨op.metadata.ns, op.spec.targetRef.name⟩ = some target)
    {job : Job} (hjob : w.jobs.get (workloadKey op target) = some job)
    (hend : jobAtEnd job = true) : Concludes (helmHookJobStatus op) env w := by
  rcases result_observedJob hfault htarget "hook job" hjob with hok | ⟨e, herr, howner⟩
  · rw [Concludes, helmHookJobStatus, run_bind_of_ok hok]
    exact .inl ⟨_, rfl, phase_statusFromConditions job.metadata.name hend⟩
  · refine .inr ⟨e, ?_, howner⟩
    rw [helmHookJobStatus, run_bind_of_error herr]

theorem concludes_workflowStatus (hfault : ∀ s, env.fault s = none)
    (htarget : env.instances.get ⟨op.metadata.ns, op.spec.targetRef.name⟩ = some target)
    {wf : Unstructured} (hwf : (w.objects .workflow).get (workloadKey op target) = some wf)
    (hend : nestedString ["status", "phase"] wf.body ∈ workflowEnds) :
    Concludes (workflowStatus op) env w := by
  have hread : (EngineM.getObject .statusGet .workflow (workloadKey op target)).run env w =
      ⟨.ok (some wf), w, []⟩ := by
    rw [← hwf]; exact run_engine_read hfault _ _
  have hresolve : (resolveEngineLocationForStatus op findWorkflowLocationByOperationLabel).run
      env w = ⟨.ok (workloadKey op target), w, []⟩ := by
    rw [resolveEngineLocationForStatus, run_bind, run_resolveEngineLocation hfault htarget]
    rfl
  have hphase : (statusFromWorkflow wf).phase = .succeeded ∨
      (statusFromWorkflow wf).phase = .failed := by
    simp only [workflowEnds, List.mem_cons, List.not_mem_nil, or_false] at hend
    rcases hend with hend | hend | hend | hend <;> simp [statusFromWorkflow, hend]
  unfold Concludes
  simp only [workflowStatus, run_bind, hresolve, run_mapError, hread, Except.mapError,
    Outcome.result_after, run_ofExcept]
  cases hv : verifyOperationOwnership wf.metadata.labels op with
  | ok u => exact .inl ⟨_, rfl, hphase⟩
  | error e => exact .inr ⟨e, rfl, sentinel_of_verifyOperationOwnership hv⟩

theorem phase_statusFromVelero (op : Operation) {o : Unstructured}
    (hend : nestedString ["status", "phase"] o.body ∈ veleroEnds) :
    ((statusFromVelero op o).phase = .succeeded ∨ (statusFromVelero op o).phase = .failed) ↔
      nestedString ["status", "phase"] o.body ≠ "FailedValidation" := by
  simp only [veleroEnds, List.mem_cons, List.not_mem_nil, or_false] at hend
  rcases hend with hend | hend | hend | hend <;> simp [statusFromVelero, hend]

end engines

section finished

variable {hmac : String → String → String} {secret veleroNs : String} {env : Env} {c : Cluster}
  {k : ObjectKey} {op : Operation} {target : ApplicationInstance} {engine : Engine}

theorem workloadKey_backfilled (now : ℕ) (op : Operation) (target : ApplicationInstance) :
    workloadKey (op.withStatus (backfilledStatus now op target)) target =
      workloadKey op target := by
  simp only [workloadKey, Operation.status_withStatus, backfilledStatus]
  cases hlacks : lacksEngineRef op with
  | false => rfl
  | true =>
    have hnone : op.status.engineRef = none := by
      simp only [lacksEngineRef, Bool.and_eq_true, Option.isNone_iff_eq_none] at hlacks
      exact hlacks.1
    rw [hnone, if_pos rfl, Option.filter_some]
    split_ifs <;> rfl

theorem engine_of_observable
    (h : Observable (operatorReconciler hmac secret veleroNs) env c k op target engine) :
    (builtinRegistry veleroNs).get op.spec.engine = some engine :=
  (openGate_of_admission h.unblocked).engine

theorem not_finishedAt_of_running {r : OperationReconciler}
    (h : Observable r env c k op target engine) (hgate : AtGate env c k op) {es : EngineStatus}
    (hes : ((engine.status (op.withStatus (backfilledStatus env.now op target))).run
      ⟨env.fault, c.instances⟩ c.workloads).result = .ok es)
    (hphase : ¬ (es.phase = .succeeded ∨ es.phase = .failed)) :
    ¬ finishedAt (step r c (.reconcile env k)) k = true := by
  rw [finishedAt, phaseAt_step_of_status h hgate hes]
  simpa using hphase

theorem finishedAt_velero
    (h : Observable (operatorReconciler hmac secret veleroNs) env c k op target
      (veleroEngine veleroNs)) (hgate : AtGate env c k op) {phase : String}
    (hphase : veleroPhase veleroNs c.workloads op = some phase) (hend : phase ∈ veleroEnds) :
    finishedAt (step (operatorReconciler hmac secret veleroNs) c (.reconcile env k)) k = true ↔
      phase ≠ "FailedValidation" := by
  obtain ⟨o, ho, rfl⟩ := Option.map_eq_some_iff.mp hphase
  have hes : (((veleroEngine veleroNs).status
      (op.withStatus (backfilledStatus env.now op target))).run ⟨env.fault, c.instances⟩
        c.workloads).result = .ok (statusFromVelero (op.withStatus _) o) :=
    result_veleroStatus h.faultless veleroNs ho
  rw [← phase_statusFromVelero (op.withStatus (backfilledStatus env.now op target)) hend]
  constructor
  · intro hfinished
    by_contra hrunning
    exact not_finishedAt_of_running h hgate hes hrunning hfinished
  · exact fun hdone => finishedAt_of_concludes h hgate (.inl ⟨_, hes, hdone⟩)

theorem finishedAt_iff_of_atGate
    (h : Observable (operatorReconciler hmac secret veleroNs) env c k op target engine)
    (hgate : AtGate env c k op) (hend : workAtEnd veleroNs c.workloads op target = true) :
    finishedAt (step (operatorReconciler hmac secret veleroNs) c (.reconcile env k)) k = true ↔
      op.spec.engine ≠ .helm ∧ ¬ (op.spec.engine = .velero ∧
        veleroPhase veleroNs c.workloads op = some "FailedValidation") := by
  have hengine := engine_of_observable h
  have htarget := (openGate_of_admission h.unblocked).target
  rw [get_builtinRegistry] at hengine
  unfold workAtEnd at hend
  rw [← workloadKey_backfilled env.now op target] at hend
  cases hname : op.spec.engine with
  | unset => rw [hname] at hengine; exact absurd hengine (by simp)
  | volsync => rw [hname] at hengine; exact absurd hengine (by simp)
  | helm =>
    rw [hname, Option.some.injEq] at hengine
    subst hengine
    have hes : ((helmEngine.status (op.withStatus (backfilledStatus env.now op target))).run
        ⟨env.fault, c.instances⟩ c.workloads).result =
          .ok { phase := .running, reason := "EngineStarted" } := rfl
    have hnot := not_finishedAt_of_running h hgate hes (by simp)
    exact iff_of_false hnot fun hcond => hcond.1 rfl
  | velero =>
    rw [hname, Option.some.injEq] at hengine
    subst hengine
    rw [hname] at hend
    obtain ⟨phase, hphase, hmem⟩ := (Option.any_eq_true _ _).mp hend
    rw [finishedAt_velero h hgate hphase (of_decide_eq_true hmem), hphase]
    simp
  | job =>
    rw [hname, Option.some.injEq] at hengine
    subst hengine
    rw [hname] at hend
    obtain ⟨job, hjob, hdone⟩ := (Option.any_eq_true _ _).mp hend
    have hconcl := finishedAt_of_concludes h hgate
      (concludes_jobStatus h.faultless htarget hjob hdone)
    exact iff_of_true hconcl (by simp)
  | workflow =>
    rw [hname, Option.some.injEq] at hengine
    subst hengine
    rw [hname] at hend
    obtain ⟨wf, hwf, hdone⟩ := (Option.any_eq_true _ _).mp hend
    have hconcl := finishedAt_of_concludes h hgate
      (concludes_workflowStatus h.faultless htarget hwf (of_decide_eq_true hdone))
    exact iff_of_true hconcl (by simp)
  | helmHookJob =>
    rw [hname, Option.some.injEq] at hengine
    subst hengine
    rw [hname] at hend
    obtain ⟨job, hjob, hdone⟩ := (Option.any_eq_true _ _).mp hend
    have hconcl := finishedAt_of_concludes h hgate
      (concludes_helmHookJobStatus h.faultless htarget hjob hdone)
    exact iff_of_true hconcl (by simp)

theorem finishedAt_iff (as : List Action)
    (h : Observable (operatorReconciler hmac secret veleroNs) env
      (exec (step (operatorReconciler hmac secret veleroNs)) c as) k op target engine)
    (hend : workAtEnd veleroNs
      (exec (step (operatorReconciler hmac secret veleroNs)) c as).workloads op target = true) :
    finishedAt (exec (step (operatorReconciler hmac secret veleroNs)) c
        (as ++ [.reconcile env k])) k = true ↔
      settled op = true ∧ op.spec.engine ≠ .helm ∧ ¬ (op.spec.engine = .velero ∧
        veleroPhase veleroNs (exec (step (operatorReconciler hmac secret veleroNs)) c as).workloads
          op = some "FailedValidation") := by
  rw [exec_append, exec_cons, exec_nil]
  cases hsettled : settled op with
  | false =>
    exact iff_of_false (not_finishedAt_of_not_settled h hsettled) fun hcond =>
      absurd hcond.1 (by simp)
  | true =>
    rw [finishedAt_iff_of_atGate h (h.atGate hsettled) hend]
    exact (and_iff_right rfl).symm

end finished

/-- The cluster a backup of the instance `app` is submitted to. -/
def beforeBackup : Cluster :=
  clusterOf [submitted ⟨"team-a", "nightly"⟩ "uid-1" "app" .backup .velero]
    [placeholderInstance ⟨"team-a", "app"⟩]

def startBackup : List Action :=
  [.reconcile { now := 100 } ⟨"team-a", "nightly"⟩, .reconcile { now := 101 } ⟨"team-a", "nightly"⟩]

/-- The backup is started, and Velero brings it to a phase. -/
def backupRun (phase : String) : List Action :=
  startBackup ++ [.environment (setBackupPhase phase ⟨"velero", "nightly"⟩)]

def runningBackup : Operation :=
  ((exec (step plainOperator) beforeBackup startBackup).operations.get ⟨"team-a", "nightly"⟩).get
    (by decide +kernel)

theorem operations_setBackupPhase (phase : String) (k : ObjectKey) (c : Cluster) :
    (setBackupPhase phase k c).operations = c.operations ∧
      (setBackupPhase phase k c).instances = c.instances := by
  unfold setBackupPhase
  split <;> exact ⟨rfl, rfl⟩

theorem observable_backupRun (phase : String) :
    Observable plainOperator { now := 110 }
      (exec (step plainOperator) beforeBackup (backupRun phase)) ⟨"team-a", "nightly"⟩
      runningBackup (placeholderInstance ⟨"team-a", "app"⟩) (veleroEngine "velero") := by
  rw [backupRun, exec_append, exec_cons, exec_nil]
  obtain ⟨hops, hinst⟩ := operations_setBackupPhase phase ⟨"velero", "nightly"⟩
    (exec (step plainOperator) beforeBackup startBackup)
  refine ⟨fun _ => rfl, ?_, by decide +kernel, ?_⟩
  · rw [step, hops]
    decide +kernel
  · refine OpenGate.admission_eq ⟨by decide +kernel, rfl, ?_, by decide +kernel, rfl, ?_,
      get_builtinRegistry "velero" .velero⟩
    · rw [step, hinst]
      decide +kernel
    · rw [step, operationsIn, hops]
      decide +kernel

theorem completed_backup_finishes :
    finishedAt (exec (step plainOperator) beforeBackup
      (backupRun "Completed" ++ [.reconcile { now := 110 } ⟨"team-a", "nightly"⟩]))
      ⟨"team-a", "nightly"⟩ = true :=
  (finishedAt_iff _ (observable_backupRun "Completed") (by decide +kernel)).mpr
    (by decide +kernel)

theorem failed_validation_goes_unnoticed :
    let c := exec (step plainOperator) beforeBackup (backupRun "FailedValidation")
    Observable plainOperator { now := 110 } c ⟨"team-a", "nightly"⟩ runningBackup
        (placeholderInstance ⟨"team-a", "app"⟩) (veleroEngine "velero") ∧
      settled runningBackup = true ∧
      workAtEnd "velero" c.workloads runningBackup (placeholderInstance ⟨"team-a", "app"⟩) = true ∧
      phaseAt (step plainOperator c (.reconcile { now := 110 } ⟨"team-a", "nightly"⟩))
        ⟨"team-a", "nightly"⟩ = some .running :=
  ⟨observable_backupRun "FailedValidation", by decide +kernel, by decide +kernel,
    by decide +kernel⟩

end VWorkspace
