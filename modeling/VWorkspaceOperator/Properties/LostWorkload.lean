import VWorkspaceOperator.Engines.Workload
import VWorkspaceOperator.Properties.Completion

/-!
# Whether a lost workload fails the operation

The object an engine has created may be deleted behind its back.  Three engines tell of a missing
workload with an error of its own, and the reconciler gives the operation up once the start is a
minute ago.  The Velero engine passes the error of the API server on; the reconciler takes it for
a failed call and tries again, for ever.
-/

namespace VWorkspace

open Kit Prog

/-- The object of an operation is nowhere: neither at the place its engine looks at nor, with the
label of the operation, at another. -/
def lacksWorkload (veleroNs : String) (w : Workloads) (op : Operation)
    (target : ApplicationInstance) : Bool :=
  match op.spec.engine with
  | .job | .helmHookJob => (w.jobs.get (workloadKey op target)).isNone &&
      w.jobs.items.all fun job => !labelled op job.metadata
  | .workflow => ((w.objects .workflow).get (workloadKey op target)).isNone &&
      (w.objects .workflow).items.all fun wf => !labelled op wf.metadata
  | .velero => ((w.objects (veleroKind op)).get (veleroKey veleroNs op)).isNone &&
      (w.objects (veleroKind op)).items.all fun o => !labelled op o.metadata
  | _ => false

section engines

variable {env : EngineEnv} {w : Workloads} {op : Operation} {target : ApplicationInstance}

theorem run_resolveEngineLocationForStatus (hfault : ∀ s, env.fault s = none)
    (htarget : env.instances.get ⟨op.metadata.ns, op.spec.targetRef.name⟩ = some target)
    (fallback : Operation → EngineM ObjectKey) :
    (resolveEngineLocationForStatus op fallback).run env w =
      ⟨.ok (workloadKey op target), w, []⟩ := by
  rw [resolveEngineLocationForStatus, run_bind, run_resolveEngineLocation hfault htarget]
  rfl

theorem result_observedJob_of_absent (hfault : ∀ s, env.fault s = none)
    (htarget : env.instances.get ⟨op.metadata.ns, op.spec.targetRef.name⟩ = some target)
    (what : String) (hjob : w.jobs.get (workloadKey op target) = none) :
    ∃ e, ((observedJob what op).run env w).result = .error e ∧
      e.sentinel = some .workloadMissing := by
  have hread : (EngineM.getJob .statusGet (workloadKey op target)).run env w =
      ⟨.ok none, w, []⟩ := by
    rw [← hjob]; exact run_engine_read hfault _ _
  simp only [observedJob, run_bind, run_resolveEngineLocationForStatus hfault htarget,
    run_mapError, hread, Except.mapError, Outcome.result_after]
  exact ⟨_, rfl, rfl⟩

theorem result_workflowStatus_of_absent (hfault : ∀ s, env.fault s = none)
    (htarget : env.instances.get ⟨op.metadata.ns, op.spec.targetRef.name⟩ = some target)
    (hwf : (w.objects .workflow).get (workloadKey op target) = none) :
    ∃ e, ((workflowStatus op).run env w).result = .error e ∧
      e.sentinel = some .workloadMissing := by
  have hread : (EngineM.getObject .statusGet .workflow (workloadKey op target)).run env w =
      ⟨.ok none, w, []⟩ := by
    rw [← hwf]; exact run_engine_read hfault _ _
  simp only [workflowStatus, run_bind, run_resolveEngineLocationForStatus hfault htarget,
    run_mapError, hread, Except.mapError, Outcome.result_after]
  exact ⟨_, rfl, rfl⟩

theorem result_veleroStatus_of_absent (hfault : ∀ s, env.fault s = none) (veleroNs : String)
    (ho : (w.objects (veleroKind op)).get (veleroKey veleroNs op) = none) :
    ∃ e, ((veleroStatus veleroNs op).run env w).result = .error e ∧ e.sentinel = none := by
  have hread : (EngineM.getObject .statusGet (veleroKind op) (veleroKey veleroNs op)).run env w =
      ⟨.ok none, w, []⟩ := by
    rw [← ho]; exact run_engine_read hfault _ _
  simp only [veleroStatus, run_bind, run_mapError, hread, Except.mapError]
  exact ⟨_, rfl, rfl⟩

theorem statusError_of_lacksWorkload (hfault : ∀ s, env.fault s = none)
    (htarget : env.instances.get ⟨op.metadata.ns, op.spec.targetRef.name⟩ = some target)
    {veleroNs : String} {engine : Engine}
    (hengine : (builtinRegistry veleroNs).get op.spec.engine = some engine)
    (hlost : lacksWorkload veleroNs w op target = true) :
    ∃ e, ((engine.status op).run env w).result = .error e ∧
      e.sentinel = if op.spec.engine = .velero then none else some .workloadMissing := by
  rw [get_builtinRegistry] at hengine
  unfold lacksWorkload at hlost
  cases hname : op.spec.engine with
  | unset => rw [hname] at hlost; exact absurd hlost (by simp)
  | volsync => rw [hname] at hlost; exact absurd hlost (by simp)
  | helm => rw [hname] at hlost; exact absurd hlost (by simp)
  | velero =>
    rw [hname] at hengine hlost
    obtain rfl := Option.some.inj hengine
    simp only [Bool.and_eq_true, Option.isNone_iff_eq_none] at hlost
    exact result_veleroStatus_of_absent hfault veleroNs hlost.1
  | job =>
    rw [hname] at hengine hlost
    obtain rfl := Option.some.inj hengine
    simp only [Bool.and_eq_true, Option.isNone_iff_eq_none] at hlost
    obtain ⟨e, he, hmissing⟩ := result_observedJob_of_absent hfault htarget "job" hlost.1
    exact ⟨e, by simp only [jobEngine, jobStatus, run_bind_of_error he], hmissing⟩
  | workflow =>
    rw [hname] at hengine hlost
    obtain rfl := Option.some.inj hengine
    simp only [Bool.and_eq_true, Option.isNone_iff_eq_none] at hlost
    exact result_workflowStatus_of_absent hfault htarget hlost.1
  | helmHookJob =>
    rw [hname] at hengine hlost
    obtain rfl := Option.some.inj hengine
    simp only [Bool.and_eq_true, Option.isNone_iff_eq_none] at hlost
    obtain ⟨e, he, hmissing⟩ := result_observedJob_of_absent hfault htarget "hook job" hlost.1
    exact ⟨e, by simp only [helmHookJobEngine, helmHookJobStatus, run_bind_of_error he], hmissing⟩

end engines

section reconcile

variable {r : OperationReconciler} {env : Env} {c : Cluster} {k : ObjectKey} {op : Operation}
  {engine : Engine} {target : ApplicationInstance} {e : GoError}

theorem phaseAt_of_backfilled {c' : Cluster} (hrunning : op.status.phase = .running)
    (hgate : AtGate env c k op) (hget : c'.operations.get op.key =
      some (op.withStatus (backfilledStatus env.now op target))) :
    phaseAt c' k = some .running := by
  rw [phaseAt, statusAt, ← hgate.key_eq, hget]
  exact congrArg some hrunning

theorem phaseAt_step_of_missing (h : Observable r env c k op target engine)
    (hgate : AtGate env c k op) {t : ℕ} (hstarted : op.status.startedAt = some t)
    (he : ((engine.status (op.withStatus (backfilledStatus env.now op target))).run
      ⟨env.fault, c.instances⟩ c.workloads).result = .error e)
    (hmissing : e.sentinel = some .workloadMissing) :
    phaseAt (step r c (.reconcile env k)) k =
      some (if env.now < t + workloadMissingGrace then .running else .failed) := by
  obtain ⟨c', hget', hobs⟩ := operations_step_of_statusError h hgate he
  have hphase : (op.withStatus (backfilledStatus env.now op target)).status.phase = .running :=
    h.running
  have hstarted' : (op.withStatus (backfilledStatus env.now op target)).status.startedAt =
      some t := by
    simp [backfilledStatus, hstarted]
  simp only [handleEngineStatusError, hmissing, if_pos hphase, hstarted', run_now_bind] at hobs
  split
  · next hgrace =>
    rw [if_pos hgrace] at hobs
    exact phaseAt_of_backfilled h.running hgate (hobs ▸ hget')
  · next hgrace =>
    rw [if_neg hgrace, operations_failOperation hget'] at hobs
    have hphase : phaseAt (step r c (.reconcile env k)) op.key = some .failed :=
      phaseAt_storeStatus h.faultless _ _ hobs
    rwa [hgate.key_eq] at hphase

theorem phaseAt_step_of_plainError (h : Observable r env c k op target engine)
    (hgate : AtGate env c k op)
    (he : ((engine.status (op.withStatus (backfilledStatus env.now op target))).run
      ⟨env.fault, c.instances⟩ c.workloads).result = .error e) (hplain : e.sentinel = none) :
    phaseAt (step r c (.reconcile env k)) k = some .running := by
  obtain ⟨c', hget', hobs⟩ := operations_step_of_statusError h hgate he
  simp only [handleEngineStatusError, hplain] at hobs
  exact phaseAt_of_backfilled h.running hgate (hobs ▸ hget')

theorem lost_workload_fails_iff {hmac : String → String → String} {secret veleroNs : String}
    (h : Observable (operatorReconciler hmac secret veleroNs) env c k op target engine) {t : ℕ}
    (hstarted : op.status.startedAt = some t)
    (hlost : lacksWorkload veleroNs c.workloads op target = true) :
    ((t + 60 < env.now →
        phaseAt (step (operatorReconciler hmac secret veleroNs) c (.reconcile env k)) k =
          some .failed) ∧
      (env.now < t + 60 →
        phaseAt (step (operatorReconciler hmac secret veleroNs) c (.reconcile env k)) k ≠
          some .failed)) ↔
      (t + 60 < env.now → settled op = true ∧ op.spec.engine ≠ .velero) := by
  have hengine := engine_of_observable h
  have htarget := (openGate_of_admission h.unblocked).target
  cases hsettled : settled op with
  | false =>
    have hnot : phaseAt (step (operatorReconciler hmac secret veleroNs) c (.reconcile env k)) k ≠
        some .failed := fun hfailed => by
      refine not_finishedAt_of_not_settled h hsettled ?_
      simp [finishedAt, hfailed]
    simp [hnot]
  | true =>
    have hgate := h.atGate hsettled
    have hlost' : lacksWorkload veleroNs c.workloads
        (op.withStatus (backfilledStatus env.now op target)) target = true := by
      rw [← hlost]
      simp only [lacksWorkload, workloadKey_backfilled]
      rfl
    obtain ⟨e, he, hsentinel⟩ : ∃ e, ((engine.status
        (op.withStatus (backfilledStatus env.now op target))).run ⟨env.fault, c.instances⟩
          c.workloads).result = .error e ∧
        e.sentinel = if op.spec.engine = .velero then none else some .workloadMissing :=
      statusError_of_lacksWorkload h.faultless htarget hengine hlost'
    by_cases hvelero : op.spec.engine = .velero
    · have hphase := phaseAt_step_of_plainError h hgate he
        (hsentinel.trans (if_pos hvelero))
      simp [hphase, hvelero]
    · have hphase := phaseAt_step_of_missing h hgate hstarted he
        (hsentinel.trans (if_neg hvelero))
      have hgrace : workloadMissingGrace = 60 := rfl
      rw [hphase]
      refine iff_of_true ⟨fun hlate => ?_, fun hearly => ?_⟩ fun _ => ⟨rfl, hvelero⟩
      · rw [if_neg (by omega)]
      · rw [if_pos (by omega)]; simp

end reconcile

/-- An operation that was started at 100 and has its finalizer. -/
def startedAt100 (type : OperationType) (engine : OperationEngine) (params : Option Bytes) :
    Operation where
  metadata := { ns := "team-a", name := "run", uid := "uid-1", finalizers := [operationFinalizer] }
  spec := ⟨⟨appsGroupVersion, "ApplicationInstance", "app"⟩, type, engine, params, none⟩
  status := { phase := .running, startedAt := some 100 }

def withoutWorkloads (op : Operation) : Cluster :=
  clusterOf [op] [placeholderInstance ⟨"team-a", "app"⟩]

def lostJob : Operation :=
  startedAt100 .runCommand .job (some (bytesOf "\x7b\"image\":\"busybox\"\x7d"))

def lostBackup : Operation := startedAt100 .backup .velero none

theorem lost_job_fails :
    phaseAt (step plainOperator (withoutWorkloads lostJob)
      (.reconcile { now := 161 } ⟨"team-a", "run"⟩)) ⟨"team-a", "run"⟩ = some .failed := by
  have hobservable : Observable plainOperator { now := 161 } (withoutWorkloads lostJob)
      ⟨"team-a", "run"⟩ lostJob (placeholderInstance ⟨"team-a", "app"⟩) jobEngine :=
    ⟨fun _ => rfl, by decide +kernel, rfl, OpenGate.admission_eq ⟨by decide +kernel, rfl,
      by decide +kernel, by decide +kernel, rfl, by decide +kernel,
      get_builtinRegistry "velero" .job⟩⟩
  exact ((lost_workload_fails_iff hobservable rfl (by decide +kernel)).mpr
    fun _ => ⟨by decide +kernel, by decide⟩).1 (by decide)

theorem lost_backup_keeps_running :
    Observable plainOperator { now := 86500 } (withoutWorkloads lostBackup) ⟨"team-a", "run"⟩
        lostBackup (placeholderInstance ⟨"team-a", "app"⟩) (veleroEngine "velero") ∧
      settled lostBackup = true ∧ lostBackup.status.startedAt = some 100 ∧
      lacksWorkload "velero" (withoutWorkloads lostBackup).workloads lostBackup
        (placeholderInstance ⟨"team-a", "app"⟩) = true ∧
      phaseAt (step plainOperator (withoutWorkloads lostBackup)
        (.reconcile { now := 86500 } ⟨"team-a", "run"⟩)) ⟨"team-a", "run"⟩ = some .running := by
  refine ⟨⟨fun _ => rfl, by decide +kernel, rfl, ?_⟩, by decide +kernel, rfl, by decide +kernel,
    by decide +kernel⟩
  exact OpenGate.admission_eq ⟨by decide +kernel, rfl, by decide +kernel, rfl, rfl,
    by decide +kernel, get_builtinRegistry "velero" .velero⟩

end VWorkspace
