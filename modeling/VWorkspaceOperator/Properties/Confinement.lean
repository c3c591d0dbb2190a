import VWorkspaceOperator.Controller.Runs

/-!
# Where the work of an operation runs, and as whom

The engines put the work of an operation where the release of its target says,
and read the target as it is stored: that the release is in the namespace of the
target is a rule of the validator of instances only.  So the work stays in the
namespace of the operation exactly when the stored target keeps that rule.

Under which service account the work runs is settled before: the check of the
runtime parameters and the decoders of the engines read the same account from
the same document, and the check lets only one account pass.
-/

namespace VWorkspace

open Kit Prog

variable {e : WorkloadEvent}

/-- A job or workflow is in the namespace, a backup takes in exactly the
namespace. -/
def boundTo (ns : String) : WorkloadEvent → Bool
  | .jobCreated job => job.metadata.ns = ns
  | .created .workflow wf => wf.metadata.ns = ns
  | .created .backup o => nested ["spec", "includedNamespaces"] o.body = some (stringArray [ns])
  | _ => true

/-- Whatever a reconcile creates for an operation on the stored target is bound to
the namespace of the operation. -/
def TargetBound (r : OperationReconciler) (target : ApplicationInstance) : Prop :=
  ∀ env c k op, c.operations.get k = some op →
    c.instances.get ⟨op.metadata.ns, op.spec.targetRef.name⟩ = some target →
    ∀ e, .workload e ∈ ((reconcile r k).run env c).trace → boundTo op.metadata.ns e = true

theorem boundTo_of_materialized {veleroNs : String} {op : Operation} {target : ApplicationInstance}
    (h : Materialized veleroNs op target e) : boundTo (targetNamespace target) e = true := by
  unfold Materialized at h
  split at h
  · obtain ⟨params, -, rfl⟩ := h
    simp [boundTo, materializedJob, commandJob]
  · obtain ⟨params, -, rfl⟩ := h
    simp [boundTo, materializedJob, hookJob]
  · obtain ⟨params, body, -, -, rfl⟩ := h
    simp [boundTo, materializedWorkflow]
  · obtain ⟨_, _, _, ⟨_, _, rfl⟩ | ⟨_, _, _, _, rfl⟩⟩ := h <;> rfl
  · obtain ⟨params, -, ⟨-, ⟨o, hmut, rfl⟩ | ⟨_, _, _, _, rfl⟩⟩ |
      ⟨-, -, ⟨_, _, rfl⟩ | ⟨_, _, _, _, rfl⟩⟩⟩ := h
    · simpa [boundTo] using (of_mutateBackup hmut).2
    · rfl
    · rfl
    · rfl
  · exact h.elim

theorem boundTo_of_isDeletion {ns : String} (h : e.isDeletion = true) : boundTo ns e = true := by
  cases e <;> first | rfl | exact absurd h (by simp [WorkloadEvent.isDeletion])

section targetBound

variable {hmac : String → String → String} {secret veleroNs : String}
  {target : ApplicationInstance}

theorem targetBound_of_eq (h : targetNamespace target = target.metadata.ns) :
    TargetBound (operatorReconciler hmac secret veleroNs) target := by
  intro env c k op hop htarget e he
  cases hdel : e.isDeletion with
  | true => exact boundTo_of_isDeletion hdel
  | false =>
    obtain ⟨op', target', engine, hgate, hopen, -, hmat⟩ := materialized_reconcile hdel he
    obtain rfl : op' = op := Option.some.inj (hgate.stored.symm.trans hop)
    obtain rfl : target' = target :=
      Option.some.inj ((openGate_of_admission hopen).target.symm.trans htarget)
    have hns : target'.metadata.ns = op'.metadata.ns :=
      congrArg ObjectKey.ns (Store.key_of_get htarget)
    rw [← hns, ← h]
    exact boundTo_of_materialized hmat

def backupOf (target : ApplicationInstance) : Operation :=
  let base := submitted ⟨target.metadata.ns, "nightly"⟩ "uid-1" target.metadata.name .backup .velero
  { base with metadata := { base.metadata with finalizers := [operationFinalizer] } }

theorem admission_backupOf (hname : trimSpace target.metadata.name ≠ "") :
    admission (operatorReconciler hmac secret veleroNs) { now := 0 }
      (clusterOf [backupOf target] [target]) (backupOf target) =
        .ok (.proceed target (veleroEngine veleroNs)) := by
  refine OpenGate.admission_eq ⟨?_, rfl, Store.get_put_self _ target, rfl, rfl, ?_,
    get_builtinRegistry veleroNs .velero⟩
  · have htype : trimSpace OperationType.backup.text ≠ "" := by decide +kernel
    have hengine : trimSpace OperationEngine.velero.text ≠ "" := by decide +kernel
    simp [validateOperationSpec, backupOf, submitted, hname, htype, hengine,
      validateRuntimeParameters, isRuntimeEngine]
  · refine findConflict_eq_none_iff.mpr fun item hitem => ?_
    have hmem : item ∈ [backupOf target] := (List.mem_filter.mp hitem).1
    rw [List.mem_singleton.mp hmem]
    simp [blocks]

theorem exists_created_backupOf (hname : trimSpace target.metadata.name ≠ "") :
    ∃ o, nested ["spec", "includedNamespaces"] o.body =
        some (stringArray [targetNamespace target]) ∧
      .workload (.created .backup o) ∈
        ((reconcile (operatorReconciler hmac secret veleroNs) (backupOf target).key).run
          { now := 0 } (clusterOf [backupOf target] [target])).trace := by
  obtain ⟨o, ho⟩ := exists_mutateBackup (backupOf target) (targetNamespace target) {}
    { ns := veleroNamespace veleroNs, name := "nightly" }
  obtain ⟨hmeta, hincluded⟩ := of_mutateBackup ho
  have hgate : AtGate { now := 0 } (clusterOf [backupOf target] [target]) (backupOf target).key
      (backupOf target) :=
    ⟨rfl, Store.get_put_self _ _, List.mem_singleton_self _, rfl⟩
  refine ⟨o, hincluded, mem_trace_of_materialize hgate (admission_backupOf hname) rfl ?_⟩
  have hkey : o.metadata.key = veleroKey veleroNs (backupOf target) := by
    rw [hmeta, key_veleroMeta]; rfl
  show _ ∈ ((EngineM.createOrUpdate .backup (veleroKey veleroNs (backupOf target))
    (mutateBackup (backupOf target) (targetNamespace target) {})).run _ Workloads.empty).trace
  rw [trace_createOrUpdate_of_absent (fun _ => rfl) ho hkey rfl]
  exact List.mem_singleton_self _

theorem targetBound_iff (hname : trimSpace target.metadata.name ≠ "") :
    TargetBound (operatorReconciler hmac secret veleroNs) target ↔
      targetNamespace target = target.metadata.ns := by
  refine ⟨fun h => ?_, targetBound_of_eq⟩
  obtain ⟨o, hincluded, hmem⟩ := exists_created_backupOf hname
  have hbound := h _ _ _ (backupOf target) (Store.get_put_self _ _) (Store.get_put_self _ target) _
    hmem
  have hns : (backupOf target).metadata.ns = target.metadata.ns := rfl
  simp only [boundTo, decide_eq_true_eq, hns] at hbound
  simpa [stringArray] using hincluded.symm.trans hbound

end targetBound

theorem placeholder_targetBound :
    TargetBound plainOperator (placeholderInstance ⟨"team-a", "app"⟩) :=
  (targetBound_iff (by decide +kernel)).mpr rfl

/-- An instance of `team-a` whose release is in `team-b`. -/
def strayInstance : ApplicationInstance where
  metadata := { ns := "team-a", name := "app" }
  spec := { catalogId := "app", release := some ⟨"app", "team-b"⟩ }

def strayCommand : Operation :=
  let base := submitted ⟨"team-a", "report"⟩ "uid-2" "app" .runCommand .job
  { base with
    metadata := { base.metadata with finalizers := [operationFinalizer] }
    spec := { base.spec with parameters := some (bytesOf "\x7b\"image\":\"busybox\"\x7d") } }

theorem stray_release_moves_work :
    let c := clusterOf [backupOf strayInstance, strayCommand] [strayInstance]
    let unbound : Event → Bool := fun
      | .workload e => !boundTo "team-a" e
      | _ => false
    ((reconcile plainOperator ⟨"team-a", "nightly"⟩).run { now := 100 } c).trace.any unbound ∧
      ((reconcile plainOperator ⟨"team-a", "report"⟩).run { now := 100 } c).trace.any unbound := by
  decide +kernel

def runsAsRunner : WorkloadEvent → Bool
  | .jobCreated job => job.spec.template.serviceAccountName = defaultJobServiceAccount
  | .created .workflow wf =>
      nestedString ["spec", "serviceAccountName"] wf.body = defaultJobServiceAccount
  | _ => true

/-- The check of the parameters and the decoders of the engines read the same
account from a document both accept. -/
def DecodersAgree (raw : Bytes) : Prop :=
  ∀ params, unmarshal "runtimeParameters" RuntimeParameters.fields raw {} = .ok params →
    (∀ p, unmarshal "jobParameters" JobParameters.fields raw {} = .ok p →
      p.serviceAccountName = params.serviceAccountName) ∧
    (∀ p, unmarshal "helmHookJobParameters" HelmHookJobParameters.fields raw {} = .ok p →
      p.serviceAccountName = params.serviceAccountName) ∧
    ∀ p, unmarshal "workflowParameters" WorkflowParameters.fields raw {} = .ok p →
      p.serviceAccountName = params.serviceAccountName

theorem decodersAgree (raw : Bytes) : DecodersAgree raw := by
  intro params hparams
  have hruntime := RuntimeParameters.reads_serviceAccountName
  refine ⟨fun p hp => ?_, fun p hp => ?_, fun p hp => ?_⟩
  · exact unmarshal_agree JobParameters.reads_serviceAccountName hruntime rfl hp hparams
  · exact unmarshal_agree HelmHookJobParameters.reads_serviceAccountName hruntime rfl hp hparams
  · exact unmarshal_agree WorkflowParameters.reads_serviceAccountName hruntime rfl hp hparams

theorem runsAsRunner_of_materialized {veleroNs : String} {op : Operation}
    {target : ApplicationInstance} (hvalid : validateRuntimeParameters op = .ok ())
    (h : Materialized veleroNs op target e) : runsAsRunner e = true := by
  unfold Materialized at h
  split at h
  · next hname =>
    obtain ⟨params, hparams, rfl⟩ := h
    have haccount := serviceAccountName_of_validate JobParameters.reads_serviceAccountName rfl
      (by rw [hname]; rfl) hvalid hparams
    exact decide_eq_true haccount
  · next hname =>
    obtain ⟨params, hparams, rfl⟩ := h
    have haccount := serviceAccountName_of_validate HelmHookJobParameters.reads_serviceAccountName
      rfl (by rw [hname]; rfl) hvalid hparams
    exact decide_eq_true haccount
  · next hname =>
    obtain ⟨params, body, hparams, hbody, rfl⟩ := h
    have haccount := serviceAccountName_of_validate WorkflowParameters.reads_serviceAccountName
      rfl (by rw [hname]; rfl) hvalid hparams
    exact decide_eq_true ((nestedString_workflowBody hbody).trans haccount)
  · obtain ⟨_, _, _, ⟨_, _, rfl⟩ | ⟨_, _, _, _, rfl⟩⟩ := h <;> rfl
  · obtain ⟨_, _, ⟨-, ⟨_, _, rfl⟩ | ⟨_, _, _, _, rfl⟩⟩ |
      ⟨-, -, ⟨_, _, rfl⟩ | ⟨_, _, _, _, rfl⟩⟩⟩ := h <;> rfl
  · exact h.elim

theorem runsAsRunner_of_isDeletion (h : e.isDeletion = true) : runsAsRunner e = true := by
  cases e <;> first | rfl | exact absurd h (by simp [WorkloadEvent.isDeletion])

theorem created_runs_as_runner (hmac : String → String → String) (secret veleroNs : String)
    (c : Cluster) (as : List Action) :
    (∀ raw, DecodersAgree raw) ∧
      Along (step (operatorReconciler hmac secret veleroNs))
        (fun c a => ∀ e, .workload e ∈ a.trace (operatorReconciler hmac secret veleroNs) c →
          runsAsRunner e = true) c as := by
  refine ⟨decodersAgree, along_of_forall fun c a e he => ?_⟩
  cases a with
  | environment change => exact absurd he (by simp [Action.trace])
  | reconcile env k =>
    cases hdel : e.isDeletion with
    | true => exact runsAsRunner_of_isDeletion hdel
    | false =>
      obtain ⟨op, target, engine, -, hopen, -, hmat⟩ := materialized_reconcile hdel he
      have hvalid := validateRuntimeParameters_of_validateOperationSpec (openGate_of_admission hopen).valid
      exact runsAsRunner_of_materialized hvalid hmat

end VWorkspace
