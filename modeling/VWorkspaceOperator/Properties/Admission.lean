import VWorkspaceOperator.Controller.Runs
import VWorkspaceOperator.Webhook.Operation

/-!
# The webhook and the finalizer

An operation that is being deleted stays until the controller has taken its
finalizer off, which is an update and goes through the admission webhook.  The
webhook does not look at what changes: it asks again whether the operation could
be created now.  So an operation can be deleted exactly as long as its namespace
allows its type, its target exists and offers the capability, its claim verifies
and no conflicting operation is in flight.
-/

namespace VWorkspace

open Kit Ctl Prog

structure WellSpecified (op : Operation) : Prop where
  spec : validateOperationSpec op = .ok ()
  type : validateKnownOperationType op = .ok ()
  template : (lookupTemplate op.spec.type op.spec.engine).isSome = true

/-- The target offers what the template of the operation asks for. -/
def Offers (target : ApplicationInstance) (op : Operation) : Prop :=
  ∃ tpl, lookupTemplate op.spec.type op.spec.engine = some tpl ∧
    trimSpace ((target.metadata.annotations.lookup
      (capabilityAnnotationKey tpl.capabilityVerb)).getD "") = op.spec.engine.text

/-- What the webhook asks of the cluster and of the clock. -/
structure Admissible (hook : OperationWebhook) (v : AdmissionView) (op : Operation) : Prop where
  /-- The reads succeed. -/
  readable : ∀ s, v.fault s = none
  /-- The namespace allows the type. -/
  allowed : ∀ annotations, v.namespaces op.metadata.ns = some annotations →
    allowsType annotations op.spec.type = true
  /-- The target is there and offers the capability. -/
  target : ∃ target, v.instances.get ⟨op.metadata.ns, op.spec.targetRef.name⟩ = some target ∧
    Offers target op
  /-- A claim, if there is one, verifies. -/
  claim : approvalClaim op ≠ "" → verify hook.hmacSHA256Hex v.now hook.approvalClaimSecret
    (approvalClaim op) op.metadata.name = .ok ()
  /-- No operation of the namespace is in the way. -/
  free : ∀ item ∈ v.operations.items, item.metadata.ns = op.metadata.ns → blocks op item = false

section checks

variable {hook : OperationWebhook} {v : AdmissionView} {op : Operation}

theorem read_eq_ok_iff {α : Type} {s : AdmissionSite} {a b : α} {f : GoError → GoError} :
    (v.read s a).mapError f = .ok b ↔ v.fault s = none ∧ a = b := by
  unfold AdmissionView.read
  cases v.fault s with
  | none => simp [Except.mapError]
  | some msg => simp [Except.mapError]

theorem validateNamespaceAllowedTypes_eq_ok_iff :
    validateNamespaceAllowedTypes v op = .ok () ↔ v.fault .getNamespace = none ∧
      ∀ annotations, v.namespaces op.metadata.ns = some annotations →
        allowsType annotations op.spec.type = true := by
  simp only [validateNamespaceAllowedTypes, bind_eq_ok_iff, read_eq_ok_iff]
  constructor
  · rintro ⟨found, ⟨hread, rfl⟩, h⟩
    refine ⟨hread, fun annotations hann => ?_⟩
    rw [hann] at h
    by_contra hnot
    simp [hnot] at h
  · rintro ⟨hread, hall⟩
    refine ⟨_, ⟨hread, rfl⟩, ?_⟩
    cases hann : v.namespaces op.metadata.ns with
    | none => rfl
    | some annotations => simp only [hall annotations hann, if_true]; rfl

theorem trimSpace_engine_text {tpl : Template}
    (h : lookupTemplate op.spec.type op.spec.engine = some tpl) : op.spec.engine.text ≠ "" := by
  have hmem := List.mem_of_find?_eq_some h
  have htpl : tpl.type = op.spec.type ∧ tpl.engine = op.spec.engine := by
    simpa using List.find?_some h
  rw [← htpl.2]
  simp only [builtin, List.mem_cons, List.not_mem_nil, or_false] at hmem
  rcases hmem with rfl | rfl | rfl | rfl | rfl | rfl <;> decide

theorem validateOperationCapability_eq_ok_iff {target : ApplicationInstance}
    (htpl : (lookupTemplate op.spec.type op.spec.engine).isSome = true) :
    validateOperationCapability target op = .ok () ↔ Offers target op := by
  obtain ⟨tpl, htpl⟩ := Option.isSome_iff_exists.mp htpl
  have hne := trimSpace_engine_text htpl
  simp only [validateOperationCapability, Offers, htpl, Option.some.injEq, exists_eq_left']
  split
  · next hblank => simp [hblank, Ne.symm hne]
  · split
    · next hdiff => simpa using hdiff
    · next hsame => simpa using hsame

theorem validateOperationTargetExists_eq_ok_iff {target : ApplicationInstance} :
    validateOperationTargetExists v op = .ok target ↔ v.fault .getTarget = none ∧
      v.instances.get ⟨op.metadata.ns, op.spec.targetRef.name⟩ = some target := by
  simp only [validateOperationTargetExists, bind_eq_ok_iff, read_eq_ok_iff]
  constructor
  · rintro ⟨found, ⟨hread, rfl⟩, h⟩
    refine ⟨hread, ?_⟩
    split at h
    · next hfound => rw [hfound, Except.ok.inj h]
    · exact absurd h (by simp)
  · rintro ⟨hread, hget⟩
    exact ⟨_, ⟨hread, rfl⟩, by rw [hget]; rfl⟩

theorem validateOperationApprovalClaim_eq_ok_iff {now : ℕ} :
    hook.validateOperationApprovalClaim now op = .ok () ↔
      (approvalClaim op ≠ "" → verify hook.hmacSHA256Hex now hook.approvalClaimSecret
        (approvalClaim op) op.metadata.name = .ok ()) := by
  unfold OperationWebhook.validateOperationApprovalClaim
  split
  · next hnone => simp [hnone]
  · next hsome =>
    split
    · next hok => simp [hsome, hok]
    · next e herror => simp [hsome, herror]

theorem validateOperationConcurrency_eq_ok_iff :
    validateOperationConcurrency v op = .ok () ↔ v.fault .listOperations = none ∧
      ∀ item ∈ v.operations.items, item.metadata.ns = op.metadata.ns →
        blocks op item = false := by
  have hfree : findConflict (v.operations.items.filter
      fun item => item.metadata.ns = op.metadata.ns) op = none ↔
      ∀ item ∈ v.operations.items, item.metadata.ns = op.metadata.ns →
        blocks op item = false := by
    rw [findConflict_eq_none_iff]
    simp [List.mem_filter]
  rw [← hfree]
  simp only [validateOperationConcurrency, bind_eq_ok_iff, read_eq_ok_iff]
  constructor
  · rintro ⟨list, ⟨hread, rfl⟩, h⟩
    refine ⟨hread, ?_⟩
    split at h
    · next hnone => exact hnone
    · exact absurd h (by simp)
  · rintro ⟨hread, hnone⟩
    exact ⟨_, ⟨hread, rfl⟩, by rw [hnone]; rfl⟩

theorem validateOperation_eq_ok_iff {isNew : Bool} :
    hook.validateOperation v op isNew = .ok () ↔
      WellSpecified op ∧ validateNewParameters isNew op = .ok () ∧ Admissible hook v op := by
  have htemplate : validateOperationBuiltinTemplate op = .ok () ↔
      (lookupTemplate op.spec.type op.spec.engine).isSome = true := by
    unfold validateOperationBuiltinTemplate
    split
    · next h => simp [h]
    · next h => simp [h]
  rw [OperationWebhook.validateOperation, check_bind_eq_ok_iff, check_bind_eq_ok_iff,
    check_bind_eq_ok_iff, check_bind_eq_ok_iff, bind_eq_ok_iff, htemplate,
    validateNamespaceAllowedTypes_eq_ok_iff]
  simp only [check_bind_eq_ok_iff, validateOperationTargetExists_eq_ok_iff,
    validateOperationApprovalClaim_eq_ok_iff, validateOperationConcurrency_eq_ok_iff]
  constructor
  · rintro ⟨hspec, htype, ⟨hns, hallowed⟩, htpl, target, ⟨htarget, hget⟩, hcap, hnew, hclaim,
      hlist, hfree⟩
    rw [validateOperationCapability_eq_ok_iff htpl] at hcap
    refine ⟨⟨hspec, htype, htpl⟩, hnew, ⟨fun s => ?_, hallowed, ⟨target, hget, hcap⟩, hclaim, hfree⟩⟩
    cases s <;> assumption
  · rintro ⟨⟨hspec, htype, htpl⟩, hnew, ⟨hread, hallowed, ⟨target, hget, hcap⟩, hclaim, hfree⟩⟩
    exact ⟨hspec, htype, ⟨hread _, hallowed⟩, htpl, target, ⟨hread _, hget⟩,
      (validateOperationCapability_eq_ok_iff htpl).mpr hcap, hnew, hclaim, hread _, hfree⟩

end checks

/-- The operations that come about while the webhook is on: one is created with
its consent, and changed with its consent; its status is written, and it is marked
for deletion, without asking it. -/
inductive Admitted (hook : OperationWebhook) : Operation → Prop
  | created (v : AdmissionView) (op : Operation) (h : hook.validateCreate v op = .ok ()) :
      Admitted hook op
  | updated (v : AdmissionView) {old : Operation} (op : Operation) (hold : Admitted hook old)
      (h : hook.validateUpdate v old op = .ok ()) : Admitted hook op
  | statusWritten {op : Operation} (st : OperationStatus) (hold : Admitted hook op) :
      Admitted hook (op.withStatus st)
  | deleted {op : Operation} (t : ℕ) (hold : Admitted hook op) :
      Admitted hook { op with metadata := { op.metadata with deletionTimestamp := some t } }

theorem wellSpecified_of_admitted {hook : OperationWebhook} {op : Operation}
    (h : Admitted hook op) : WellSpecified op := by
  induction h with
  | created v op h => exact (validateOperation_eq_ok_iff.mp h).1
  | updated v op hold h _ =>
    obtain ⟨-, -, h⟩ := exists_of_bind_ok h
    obtain ⟨-, -, h⟩ := exists_of_bind_ok h
    exact (validateOperation_eq_ok_iff.mp h).1
  | statusWritten st hold ih => exact ⟨ih.spec, ih.type, ih.template⟩
  | deleted t hold ih => exact ⟨ih.spec, ih.type, ih.template⟩

/-- The operation `finalizeOperation` sends: without the finalizer of the operator. -/
def withoutFinalizer (op : Operation) : Operation :=
  { op with metadata := { op.metadata with
      finalizers := op.metadata.finalizers.filter fun f => f ≠ operationFinalizer } }

/-- What the API server answers to an update, given what the webhook says. -/
def denial : Except GoError Unit → Option String
  | .ok _ => none
  | .error e => some ("admission webhook \"voperation.kb.io\" denied the request: " ++ e.msg)

theorem denial_eq_none_iff {x : Except GoError Unit} : denial x = none ↔ x = .ok () := by
  cases x with
  | error e => simp [denial]
  | ok u => simp [denial]

def viewOf (c : Cluster) (now : ℕ) (namespaces : String → Option (List (String × String)))
    (fault : AdmissionSite → Option String) : AdmissionView where
  now := now
  namespaces := namespaces
  instances := c.instances
  operations := c.operations
  fault := fault

section finalize

variable {hook : OperationWebhook} {r : OperationReconciler} {env : Env} {c : Cluster}
  {op : Operation}

theorem validateUpdate_withoutFinalizer_eq_ok_iff {v : AdmissionView} :
    hook.validateUpdate v op (withoutFinalizer op) = .ok () ↔
      WellSpecified op ∧ Admissible hook v op := by
  have hspec : validateOperationSpecImmutability op (withoutFinalizer op) = .ok () := by
    simp [validateOperationSpecImmutability, withoutFinalizer]
  have hchanged : operationParametersChanged op (withoutFinalizer op) = false := by
    simp [operationParametersChanged, rawParameters, withoutFinalizer]
  have hparams : validateOperationParametersImmutability op (withoutFinalizer op) = .ok () := by
    simp [validateOperationParametersImmutability, hchanged]
  rw [OperationWebhook.validateUpdate, check_bind_eq_ok_iff, check_bind_eq_ok_iff, hchanged,
    validateOperation_eq_ok_iff]
  constructor
  · rintro ⟨-, -, hwell, -, hadm⟩
    exact ⟨⟨hwell.spec, hwell.type, hwell.template⟩,
      ⟨hadm.readable, hadm.allowed, hadm.target, hadm.claim, hadm.free⟩⟩
  · rintro ⟨hwell, hadm⟩
    exact ⟨hspec, hparams, ⟨hwell.spec, hwell.type, hwell.template⟩, rfl,
      ⟨hadm.readable, hadm.allowed, hadm.target, hadm.claim, hadm.free⟩⟩

theorem operations_cancelEngine :
    ((cancelEngine r op).run env c).state.operations = c.operations := by
  unfold cancelEngine
  split <;> rfl

variable (env) in
theorem result_updateMetadata_withoutFinalizer (s : Site)
    (hget : c.operations.get op.key = some op) :
    ((updateMetadata s (withoutFinalizer op)).run env c).result =
      match env.fault s with
      | none => .ok ()
      | some msg => .error { msg } := by
  have hkey : (withoutFinalizer op).key = op.key := rfl
  cases hf : env.fault s with
  | some msg => simp only [updateMetadata, run_bind, run_call_of_some hf]
  | none =>
    simp only [updateMetadata, run_bind, run_call_of_none hf, run_ask, run_get, hkey, hget,
      Outcome.result_after]
    split
    · next err hrefused =>
      exact absurd hrefused (answerUpdate_ne_refused (fun f hf => List.mem_of_mem_filter hf) err)
    · rfl
    · rfl

theorem result_finalizeOperation (hget : c.operations.get op.key = some op)
    (hcancel : ((cancelEngine r op).run env c).result = .ok ()) :
    ((finalizeOperation r op).run env c).result = .ok {} ↔ env.fault .removeFinalizer = none := by
  have hget' : ((cancelEngine r op).run env c).state.operations.get op.key = some op := by
    rw [operations_cancelEngine, hget]
  have hupdate := result_updateMetadata_withoutFinalizer env .removeFinalizer hget'
  have hrun : ((finalizeOperation r op).run env c).result =
      (((updateMetadata .removeFinalizer (withoutFinalizer op)).mapError
        (·.wrap "remove finalizer") >>= fun _ => pure {}).run env
          ((cancelEngine r op).run env c).state).result := by
    rw [finalizeOperation, run_bind_of_ok hcancel, Outcome.result_after]
    rfl
  rw [hrun]
  cases hf : env.fault .removeFinalizer with
  | none =>
    rw [hf] at hupdate
    have hok := congrArg (Except.mapError (GoError.wrap "remove finalizer")) hupdate
    rw [run_bind_of_ok hok]
    simp
  | some msg =>
    rw [hf] at hupdate
    have herror := congrArg (Except.mapError (GoError.wrap "remove finalizer")) hupdate
    rw [run_bind_of_error herror]
    simp

end finalize

theorem finalizer_removed_iff (hook : OperationWebhook) (r : OperationReconciler) (env : Env)
    (c : Cluster) (now : ℕ) (namespaces : String → Option (List (String × String)))
    (fault : AdmissionSite → Option String) (op : Operation) (hadmitted : Admitted hook op)
    (hstored : c.operations.get op.key = some op)
    (_hdeleted : op.metadata.deletionTimestamp.isSome = true)
    (hcancel : ((cancelEngine r op).run env c).result = .ok ())
    (hwebhook : env.fault .removeFinalizer =
      denial (hook.validateUpdate (viewOf c now namespaces fault) op (withoutFinalizer op))) :
    (hook.validateUpdate (viewOf c now namespaces fault) op (withoutFinalizer op) = .ok () ↔
        Admissible hook (viewOf c now namespaces fault) op) ∧
      (((finalizeOperation r op).run env c).result = .ok {} ↔
        Admissible hook (viewOf c now namespaces fault) op) := by
  have haccepted : hook.validateUpdate (viewOf c now namespaces fault) op (withoutFinalizer op) =
      .ok () ↔ Admissible hook (viewOf c now namespaces fault) op := by
    rw [validateUpdate_withoutFinalizer_eq_ok_iff,
      and_iff_right (wellSpecified_of_admitted hadmitted)]
  refine ⟨haccepted, ?_⟩
  rw [result_finalizeOperation hstored hcancel, hwebhook, denial_eq_none_iff, haccepted]

/-- The instance a backup is made of: it offers backups by Velero. -/
def backedUpInstance : ApplicationInstance where
  metadata := { ns := "team-a", name := "app", annotations := [("ops.vworkspace.io/backup", "velero")] }
  spec := { catalogId := "cluster-ops", mode := .placeholder }

def requestedBackup : Operation := submitted ⟨"team-a", "nightly"⟩ "uid-1" "app" .backup .velero

/-- The backup, with its finalizer, after its deletion was requested. -/
def deletedBackup : Operation :=
  { requestedBackup with metadata := { requestedBackup.metadata with
      finalizers := [operationFinalizer]
      deletionTimestamp := some 200 } }

/-- The webhook of an operator without an approval secret. -/
def plainWebhook : OperationWebhook := ⟨"", fun _ _ => ""⟩

/-- The webhook's view of a cluster, where every namespace allows everything. -/
def plainView (c : Cluster) : AdmissionView := viewOf c 300 (fun _ => none) fun _ => none

/-- A reconcile whose last update is put before the webhook. -/
def webhookEnv (c : Cluster) (op : Operation) : Env where
  now := 300
  fault s :=
    if s = .removeFinalizer then
      denial (plainWebhook.validateUpdate (plainView c) op (withoutFinalizer op))
    else none

theorem admitted_deletedBackup : Admitted plainWebhook deletedBackup := by
  have hcreated : Admitted plainWebhook requestedBackup :=
    .created (plainView (clusterOf [] [backedUpInstance])) _ (by decide +kernel)
  have hfinalizer : Admitted plainWebhook
      { requestedBackup with metadata := { requestedBackup.metadata with
          finalizers := [operationFinalizer] } } :=
    .updated (plainView (clusterOf [requestedBackup] [backedUpInstance])) _ hcreated
      (by decide +kernel)
  exact .deleted 200 hfinalizer

theorem finalizer_removed_with_target :
    let c := clusterOf [deletedBackup] [backedUpInstance]
    ((finalizeOperation plainOperator deletedBackup).run (webhookEnv c deletedBackup) c).result =
        .ok {} ∧
      Admissible plainWebhook (plainView c) deletedBackup := by
  have hresult : ((finalizeOperation plainOperator deletedBackup).run
      (webhookEnv (clusterOf [deletedBackup] [backedUpInstance]) deletedBackup)
      (clusterOf [deletedBackup] [backedUpInstance])).result = .ok {} := by decide +kernel
  exact ⟨hresult, (finalizer_removed_iff plainWebhook plainOperator _ _ 300 (fun _ => none)
    (fun _ => none) deletedBackup admitted_deletedBackup (by decide +kernel) rfl
    (by decide +kernel) rfl).2.mp hresult⟩

theorem finalizer_denied_without_target :
    let c := clusterOf [deletedBackup] []
    Admitted plainWebhook deletedBackup ∧
      ((cancelEngine plainOperator deletedBackup).run (webhookEnv c deletedBackup) c).result =
        .ok () ∧
      plainWebhook.validateUpdate (plainView c) deletedBackup (withoutFinalizer deletedBackup) ≠
        .ok () ∧
      ((finalizeOperation plainOperator deletedBackup).run (webhookEnv c deletedBackup) c).result ≠
        .ok {} :=
  ⟨admitted_deletedBackup, by decide +kernel, by decide +kernel, by decide +kernel⟩

end VWorkspace
