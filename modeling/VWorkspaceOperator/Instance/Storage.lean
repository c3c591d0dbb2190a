import VWorkspaceOperator.Controller.Reconcile
import VWorkspaceOperator.Instance.Seaweed

/-!
# Reporting managed storage

The credentials and the endpoints of a native SeaweedFS workload are reported to the control
plane in events of their own, and what has been delivered is recorded in annotations of the
instance.  Credentials go through several stages: the instance is annotated with a claim, an
event is enqueued, a flush takes it out of the buffer and posts it, and when it has been
accepted the instance is annotated as posted and then as reported.  Three hooks of the
batcher and the reconciler share the bookkeeping.
-/

namespace VWorkspace

open Kit InstanceM

/-- `ApplicationInstanceReconciler`, with the hash function and the text of a time. -/
structure InstanceController where
  engine : Option FluxEngine
  seaweedEngine : Option SeaweedEngine
  sha256 : Bytes → Vector UInt8 32
  rfc3339 : ℕ → String

def reportedManagedStorageAccessKeyAnnotation : String := "vworkspace.io/reported-managed-storage-key"

def managedStorageAckRetryAnnotation : String := "vworkspace.io/managed-storage-ack-retry"

def seaweedEndpointsAckRetryAnnotation : String := "vworkspace.io/seaweed-endpoints-ack-retry"

def managedStorageFailedAckRetryAnnotation : String := "vworkspace.io/managed-storage-failed-ack-retry"

def managedStorageClaimAnnotation : String := "vworkspace.io/managed-storage-claim"

def managedStoragePostedAnnotation : String := "vworkspace.io/managed-storage-posted"

def managedStorageFailedPostedAnnotation : String := "vworkspace.io/managed-storage-failed-posted"

def reportedManagedStorageFailedAnnotation : String := "vworkspace.io/reported-managed-storage-failed"

def reportedSeaweedEndpointsAnnotation : String := "vworkspace.io/reported-seaweed-endpoints"

def managedStorageFailedAnnotationValue : String := "true"

/-- The value of an annotation, empty if it is not there. -/
def ManagedInstance.annotation (app : ManagedInstance) (key : String) : String :=
  (app.metadata.annotations.lookup key).getD ""

def ManagedInstance.annotate (app : ManagedInstance)
    (f : List (String × String) → List (String × String)) : ManagedInstance :=
  { app with metadata := { app.metadata with annotations := f app.metadata.annotations } }

namespace InstanceM

/-- `Get` of an instance whose annotations are to be patched. -/
def getForPatch (event : ℕ) (s : PatchSite) (k : ObjectKey) : InstanceM ManagedInstance := do
  match ← (read (.readForPatch event s) fun c => c.instances.get k).mapError
      (·.wrap "get ApplicationInstance") with
  | none => Prog.throw ((VWorkspace.notFound "applicationinstances.apps.vworkspace.io" k.name).wrap
      "get ApplicationInstance")
  | some app => pure app

/-- `Patch` with the difference two versions of the annotations make; the answer is the
instance as it is stored then. -/
def patchAnnotations (event : ℕ) (s : PatchSite) (k : ObjectKey)
    (f : List (String × String) → List (String × String)) : InstanceM ManagedInstance := do
  call (.patch event s)
  let c ← Prog.get
  match c.instances.get k with
  | none => Prog.throw (VWorkspace.notFound "applicationinstances.apps.vworkspace.io" k.name)
  | some stored =>
      Prog.write (fun c => { c with instances := c.instances.put (stored.annotate f) })
        (.patched (stored.annotate f))
      pure (stored.annotate f)

theorem run_patchAnnotations (event : ℕ) (s : PatchSite) (k : ObjectKey)
    (f : List (String × String) → List (String × String)) (env : InstanceEnv)
    (c : InstanceCluster) :
    (patchAnnotations event s k f).run env c =
      match env.fault (.patch event s), c.instances.get k with
      | some msg, _ => ⟨.error { msg }, c, []⟩
      | none, none =>
          ⟨.error (VWorkspace.notFound "applicationinstances.apps.vworkspace.io" k.name), c, []⟩
      | none, some stored => ⟨.ok (stored.annotate f),
          { c with instances := c.instances.put (stored.annotate f) },
          [.patched (stored.annotate f)]⟩ := by
  unfold patchAnnotations call
  simp only [Prog.run_bind]
  cases env.fault (.patch event s) with
  | some msg => rfl
  | none =>
    simp only [Prog.run_get, Outcome.after]
    cases c.instances.get k with
    | none => rfl
    | some stored => rfl

def isConflict (event : ℕ) (s : PatchSite) : InstanceM Bool := do
  let env ← Prog.ask
  pure ((env.fault (.patch event s)).isSome && env.conflict (.patch event s))

def remembered : InstanceM OperatorMemory := do
  let c ← Prog.get
  pure c.memory

theorem idle_getForPatch (event : ℕ) (s : PatchSite) (k : ObjectKey) :
    Prog.Idle (getForPatch event s k) := by
  refine .bind (.mapError (idle_read _ _)) fun found => ?_
  split
  · exact .throw _
  · exact .pure _

theorem idle_isConflict (event : ℕ) (s : PatchSite) : Prog.Idle (isConflict event s) :=
  .bind .ask fun _ => .pure _

theorem idle_remembered : Prog.Idle remembered := .bind .get fun _ => .pure _

def onDelivery (f : StorageDelivery → StorageDelivery) : InstanceM Unit :=
  Prog.modify fun c => c.withMemory fun m => { m with delivery := f m.delivery }

/-- Read an instance, and annotate it unless it has the annotation already. -/
def ensureAnnotation (event : ℕ) (s : PatchSite) (k : ObjectKey) (key value : String) :
    InstanceM Unit := do
  let app ← getForPatch event s k
  if app.annotation key = value then pure ()
  else
    let _ ← (patchAnnotations event s k (setField key value)).mapError
      (·.wrap "patch ApplicationInstance")
    pure ()

def patchSeaweedEndpointsAck (event : ℕ) (k : ObjectKey) (reportKey : String) : InstanceM Unit :=
  ensureAnnotation event .endpointsAck k reportedSeaweedEndpointsAnnotation reportKey

def patchManagedStorageFailedAck (event : ℕ) (k : ObjectKey) : InstanceM Unit :=
  ensureAnnotation event .failedAck k reportedManagedStorageFailedAnnotation
    managedStorageFailedAnnotationValue

def patchManagedStorageFailedPosted (event : ℕ) (k : ObjectKey) : InstanceM Unit :=
  ensureAnnotation event .failedPosted k managedStorageFailedPostedAnnotation
    managedStorageFailedAnnotationValue

def patchManagedStoragePosted (event : ℕ) (k : ObjectKey) (reportKey : String) : InstanceM Unit :=
  ensureAnnotation event .posted k managedStoragePostedAnnotation reportKey

def clearAnnotation (event : ℕ) (k : ObjectKey) (key : String) : InstanceM Unit := do
  match ← (getForPatch event (.clear key) k).attempt with
  | .error _ => pure ()
  | .ok app =>
      if app.annotation key = "" then pure ()
      else
        let _ ← (patchAnnotations event (.clear key) k (unsetField key)).attempt
        pure ()

/-- The annotations of an instance whose storage is acknowledged. -/
def acknowledgedAs (reportKey : String) (annotations : List (String × String)) :
    List (String × String) :=
  unsetField managedStoragePostedAnnotation
    (unsetField managedStorageClaimAnnotation
      (setField reportedManagedStorageAccessKeyAnnotation reportKey annotations))

/-- The attempts of `patchManagedStorageAck`; only a conflict is tried again. -/
def patchManagedStorageAckFrom (event : ℕ) (k : ObjectKey) (reportKey : String) :
    (attempts attempt : ℕ) → GoError → InstanceM Unit
  | 0, _, patchErr => Prog.throw (patchErr.wrap "patch ApplicationInstance")
  | attempts + 1, attempt, _ => do
      let app ← getForPatch event (.ack attempt) k
      if app.annotation reportedManagedStorageAccessKeyAnnotation = reportKey then
        onDelivery fun d => d.clearStorageDeliveryState k.ns k.name
      else
        match ← (patchAnnotations event (.ack attempt) k (acknowledgedAs reportKey)).attempt with
        | .ok _ => onDelivery fun d => d.clearStorageDeliveryState k.ns k.name
        | .error err =>
            if ← isConflict event (.ack attempt) then
              patchManagedStorageAckFrom event k reportKey attempts (attempt + 1) err
            else Prog.throw (err.wrap "patch ApplicationInstance")

def patchManagedStorageAck (event : ℕ) (k : ObjectKey) (reportKey : String) : InstanceM Unit :=
  patchManagedStorageAckFrom event k reportKey 3 0 { msg := "" }

def retryManagedStorageAck (k : ObjectKey) (reportKey : String) : InstanceM Unit := do
  onDelivery fun d => d.markStorageAckPending k.ns k.name reportKey
  patchManagedStorageAck 0 k reportKey

/-- `clearManagedStorageClaim`; the answer is the instance as it is held then. -/
def clearManagedStorageClaim (s : PatchSite) (app : ManagedInstance) : InstanceM ManagedInstance :=
  if app.annotation managedStorageClaimAnnotation = "" then pure app
  else patchAnnotations 0 s app.metadata.key (unsetField managedStorageClaimAnnotation)

inductive StorageClaim where
  | claimed (app : ManagedInstance)
  | requeue
  | unclaimed

def claimManagedStorageDelivery (app : ManagedInstance) (reportKey : String) :
    InstanceM StorageClaim := do
  if app.annotation reportedManagedStorageAccessKeyAnnotation = reportKey then pure .unclaimed
  else if app.annotation managedStorageClaimAnnotation = reportKey then
    if app.annotation managedStoragePostedAnnotation ≠ reportKey then pure (.claimed app)
    else pure .unclaimed
  else
    match ← (patchAnnotations 0 .claim app.metadata.key
        (setField managedStorageClaimAnnotation reportKey)).attempt with
    | .ok app' => pure (.claimed app')
    | .error err => if ← isConflict 0 .claim then pure .requeue else Prog.throw err

end InstanceM

def InstanceController.digestKey (r : InstanceController) (input : Bytes) : String :=
  hexEncode ((r.sha256 input).toList.take 8)

def InstanceController.payloadReportKey (r : InstanceController)
    (ms : Agent.ManagedStoragePayload) : String :=
  r.digestKey (bytesOf ms.accessKeyID ++ [0] ++ bytesOf ms.secretAccessKey)

def ManagedStorageSnapshot.payload (ms : ManagedStorageSnapshot) : Agent.ManagedStoragePayload :=
  ⟨ms.accessKeyID, ms.secretAccessKey, ms.bucketName⟩

def InstanceController.managedStorageReportKey (r : InstanceController)
    (ms : ManagedStorageSnapshot) : String := r.payloadReportKey ms.payload

def InstanceController.seaweedEndpointsReportKey (r : InstanceController)
    (endpoints : List Agent.EndpointPayload) : String :=
  r.digestKey (endpoints.flatMap fun ep => bytesOf ep.name ++ [0] ++ bytesOf ep.url ++ [0])

def agentEndpointsFromStatus (endpoints : List EndpointStatus) : List Agent.EndpointPayload :=
  (endpoints.filter fun ep => ep.url ≠ "").map fun ep => ⟨ep.name, ep.url⟩

def getCondition (cs : List Condition) (type : String) : Option Condition :=
  cs.find? fun c => c.type = type

def isConditionTrue (cs : List Condition) (type : String) : Bool :=
  (getCondition cs type).any fun c => c.status = .true

section conditions

variable {now : ℕ} {type type' reason message : String} {status : ConditionStatus}
  {cs : List Condition}

theorem isConditionTrue_iff :
    isConditionTrue cs type = true ↔
      ∃ reason message, conditionIs type .true reason message cs = true := by
  simp only [isConditionTrue, getCondition, conditionIs]
  cases cs.find? fun c => c.type = type with
  | none => simp
  | some c => simp [and_assoc]

@[simp] theorem isConditionTrue_setCondition :
    isConditionTrue (setCondition now type status reason message cs) type =
      decide (status = .true) := by
  have hset : conditionIs type status reason message
      (setCondition now type status reason message cs) = true := conditionIs_setCondition
  simp only [isConditionTrue, getCondition, conditionIs] at hset ⊢
  cases hfind : (setCondition now type status reason message cs).find? fun c => c.type = type with
  | none => rw [hfind] at hset; exact absurd hset (by simp)
  | some c =>
    rw [hfind] at hset
    simp only [Option.any_some, Bool.and_eq_true, decide_eq_true_eq] at hset ⊢
    rw [hset.1.1]

theorem isConditionTrue_setCondition_of_ne (hne : type' ≠ type) :
    isConditionTrue (setCondition now type status reason message cs) type' =
      isConditionTrue cs type' := by
  rw [Bool.eq_iff_iff, isConditionTrue_iff, isConditionTrue_iff]
  simp only [conditionIs_setCondition_of_ne hne]

end conditions

namespace InstanceController

variable (r : InstanceController)

def reportSeaweedEndpointsIfNeeded (app : ManagedInstance) : InstanceM Unit := do
  let t ← now
  let endpoints := agentEndpointsFromStatus app.status.endpoints
  let reportKey := r.seaweedEndpointsReportKey endpoints
  if endpoints = [] then pure ()
  else if app.annotation reportedSeaweedEndpointsAnnotation = reportKey then pure ()
  else if app.annotation seaweedEndpointsAckRetryAnnotation ≠ "" then
    match ← (patchSeaweedEndpointsAck 0 app.metadata.key reportKey).attempt with
    | .error _ => pure ()
    | .ok () => clearAnnotation 0 app.metadata.key seaweedEndpointsAckRetryAnnotation
  else
    match getCondition app.status.conditions "Ready" with
    | none => pure ()
    | some ready =>
        if ready.status ≠ .true then pure ()
        else
          let m ← remembered
          if m.hasPendingEvent (Agent.endpointsEventKey (instanceRef app) reportKey) then pure ()
          else
            Prog.modify fun c => c.withMemory fun m =>
              m.reportSeaweedEndpoints t (instanceRef app) ready endpoints reportKey

/-- The two patches that follow a failed audit that was delivered. -/
def acknowledgeFailed (app : ManagedInstance) : InstanceM Result := do
  match ← (patchManagedStorageFailedAck 0 app.metadata.key).attempt with
  | .error _ => pure { requeueAfter := 30 }
  | .ok () =>
      clearAnnotation 0 app.metadata.key managedStorageFailedPostedAnnotation
      clearAnnotation 0 app.metadata.key managedStorageFailedAckRetryAnnotation
      pure {}

def failedAuditKey (app : ManagedInstance) : String :=
  "ManagedStorageFailed/" ++ app.metadata.uid ++ "/Ready"

def reportManagedStorageFailed (app : ManagedInstance) : InstanceM Result := do
  let t ← now
  if app.annotation reportedManagedStorageFailedAnnotation = managedStorageFailedAnnotationValue then
    pure {}
  else if app.annotation managedStorageFailedPostedAnnotation =
      managedStorageFailedAnnotationValue then acknowledgeFailed app
  else if app.annotation managedStorageFailedAckRetryAnnotation ≠ "" then acknowledgeFailed app
  else
    let m ← remembered
    if m.hasPendingEvent (failedAuditKey app) then pure {}
    else
      let failed : Condition :=
        { type := "Ready", status := .true, reason := "ManagedStorageFailed"
          message := "Matching S3Credentials CRs are unavailable for managed storage reporting"
          lastTransitionTime := 0 }
      Prog.modify fun c => c.withMemory fun m =>
        m.reportAudit t (instanceRef app) "ManagedStorageFailed" [failed] (failedAuditKey app)
      pure {}

def managedStorageReady (now : ℕ) (ready : Condition) : Condition :=
  { ready with
    lastTransitionTime := now
    reason := "ManagedStorageReady"
    message := "Inline S3 credentials available for control-plane registry sync" }

/-- What follows when nothing is known to be on its way: the claim, and the event. -/
def sendManagedStorage (app : ManagedInstance) (ready : Condition) (ms : ManagedStorageSnapshot)
    (reportKey : String) : InstanceM Result := do
  let t ← now
  match ← (claimManagedStorageDelivery app reportKey).attempt with
  | .error _ => pure { requeueAfter := 30 }
  | .ok .requeue => pure { requeueAfter := 1 }
  | .ok .unclaimed => pure {}
  | .ok (.claimed app') =>
      let m ← remembered
      if m.reporting then
        Prog.modify fun c => c.withMemory fun m =>
          m.reportManagedStorageReady t (instanceRef app) ready
            (agentEndpointsFromStatus app'.status.endpoints) ms.payload reportKey
        onDelivery fun d => d.markStorageInFlight app.metadata.ns app.metadata.name reportKey
        pure {}
      else
        match ← (clearManagedStorageClaim .unsentClaim app').attempt with
        | .error _ => pure { requeueAfter := 30 }
        | .ok _ => pure {}

/-- Nothing is in flight: an event may be pending all the same, or have been posted. -/
def deliverManagedStorage (app : ManagedInstance) (ready : Condition) (ms : ManagedStorageSnapshot)
    (reportKey : String) : InstanceM Result := do
  let m ← remembered
  if m.hasPendingEvent (Agent.managedStorageEventKey (instanceRef app) ready reportKey) then pure {}
  else if app.annotation managedStoragePostedAnnotation = reportKey then
    match ← (retryManagedStorageAck app.metadata.key reportKey).attempt with
    | .error _ => pure { requeueAfter := 30 }
    | .ok () => pure {}
  else sendManagedStorage app ready ms reportKey

def resumeManagedStorage (app : ManagedInstance) (ready : Condition) (ms : ManagedStorageSnapshot)
    (reportKey : String) : InstanceM Result := do
  let ns := app.metadata.ns
  let name := app.metadata.name
  let m ← remembered
  match m.delivery.inFlightStorageReportKey ns name with
  | none => deliverManagedStorage app ready ms reportKey
  | some inFlightKey =>
      if inFlightKey ≠ reportKey then
        onDelivery fun d => d.clearStorageInFlight ns name
        deliverManagedStorage app ready ms reportKey
      else if m.hasPendingEvent (Agent.managedStorageEventKey (instanceRef app) ready reportKey) then
        pure {}
      else if m.delivery.postingStorageReportKey ns name = some reportKey then pure {}
      else
        onDelivery fun d => d.clearStorageInFlight ns name
        deliverManagedStorage app ready ms reportKey

def settleManagedStorage (app : ManagedInstance) (ready : Condition) (ms : ManagedStorageSnapshot)
    (reportKey : String) : InstanceM Result := do
  let ns := app.metadata.ns
  let name := app.metadata.name
  let m ← remembered
  match m.delivery.pendingStorageAckReportKey ns name with
  | none => resumeManagedStorage app ready ms reportKey
  | some pendingKey =>
      if pendingKey ≠ reportKey then
        onDelivery fun d => d.clearStorageAckPending ns name
        resumeManagedStorage app ready ms reportKey
      else
        match ← (patchManagedStorageAck 0 app.metadata.key reportKey).attempt with
        | .error _ => pure { requeueAfter := 30 }
        | .ok () => pure {}

def reportManagedStorage (app : ManagedInstance) (ms : ManagedStorageSnapshot) :
    InstanceM Result := do
  let t ← now
  match getCondition app.status.conditions "Ready" with
  | none => pure {}
  | some ready =>
      let ready := managedStorageReady t ready
      let reportKey := r.managedStorageReportKey ms
      let claim := app.annotation managedStorageClaimAnnotation
      if app.annotation reportedManagedStorageAccessKeyAnnotation = reportKey then
        onDelivery fun d => d.clearStorageDeliveryState app.metadata.ns app.metadata.name
        pure {}
      else if claim ≠ "" ∧ claim ≠ reportKey then
        match ← (clearManagedStorageClaim .staleClaim app).attempt with
        | .error _ => pure { requeueAfter := 30 }
        | .ok app' => settleManagedStorage app' ready ms reportKey
      else settleManagedStorage app ready ms reportKey

def reconcileSeaweedManagedStorage (app : ManagedInstance) : InstanceM Result := do
  if isConditionTrue app.status.conditions "Ready" then
    r.reportSeaweedEndpointsIfNeeded app
    match ← (resolveManagedStorageState app.toApplicationInstance).attempt with
    | .error _ => pure { requeueAfter := 30 }
    | .ok .pending => pure { requeueAfter := 30 }
    | .ok .failed => reportManagedStorageFailed app
    | .ok .absent => pure {}
    | .ok (.resolved ms) => r.reportManagedStorage app ms
  else pure {}

def eventPlace (e : Agent.Event) : ObjectKey := ⟨e.resourceRef.ns, e.resourceRef.name⟩

def prepareManagedStoragePost (events : List Agent.Event) (d : StorageDelivery) : StorageDelivery :=
  events.foldl (fun d e =>
    match Agent.managedStorageReportKeyFromEventKey e.eventKey with
    | none => d
    | some reportKey => d.markStoragePosting e.resourceRef.ns e.resourceRef.name reportKey) d

def abortManagedStoragePost (events : List Agent.Event) (d : StorageDelivery) : StorageDelivery :=
  events.foldl (fun d e =>
    match Agent.managedStorageReportKeyFromEventKey e.eventKey with
    | none => d
    | some reportKey => d.clearStoragePosting e.resourceRef.ns e.resourceRef.name reportKey) d

def triggerAckRetry (event : ℕ) (k : ObjectKey) (name : String) : InstanceM Unit := do
  let t ← now
  match ← (getForPatch event .retry k).attempt with
  | .error _ => pure ()
  | .ok _ =>
      let _ ← (patchAnnotations event .retry k (setField name (r.rfc3339 t))).attempt
      pure ()

def ackFailedAudit (i : ℕ) (k : ObjectKey) : InstanceM Unit := do
  match ← (patchManagedStorageFailedPosted i k).attempt with
  | .error _ => r.triggerAckRetry i k managedStorageFailedAckRetryAnnotation
  | .ok () =>
      match ← (patchManagedStorageFailedAck i k).attempt with
      | .error _ => r.triggerAckRetry i k managedStorageFailedAckRetryAnnotation
      | .ok () => pure ()

def ackEndpoints (i : ℕ) (k : ObjectKey) (reportKey : String) : InstanceM Unit := do
  match ← (patchSeaweedEndpointsAck i k reportKey).attempt with
  | .error _ => r.triggerAckRetry i k seaweedEndpointsAckRetryAnnotation
  | .ok () => pure ()

def ackManagedStorage (i : ℕ) (k : ObjectKey) (reportKey : String) : InstanceM Unit := do
  onDelivery fun d => ((d.markStorageAckPending k.ns k.name reportKey).clearStorageInFlight
    k.ns k.name).clearStoragePosting k.ns k.name reportKey
  match ← (patchManagedStoragePosted i k reportKey).attempt with
  | .error _ => r.triggerAckRetry i k managedStorageAckRetryAnnotation
  | .ok () =>
      match ← (patchManagedStorageAck i k reportKey).attempt with
      | .error _ => r.triggerAckRetry i k managedStorageAckRetryAnnotation
      | .ok () => pure ()

def ackEvent (i : ℕ) (e : Agent.Event) : InstanceM Unit :=
  if e.kind = "ManagedStorageFailed" then r.ackFailedAudit i (eventPlace e)
  else
    match Agent.endpointsReportKeyFromEventKey e.eventKey with
    | some reportKey => r.ackEndpoints i (eventPlace e) reportKey
    | none =>
        match Agent.managedStorageReportKeyFromEventKey e.eventKey with
        | some reportKey => r.ackManagedStorage i (eventPlace e) reportKey
        | none => pure ()

def ackManagedStorageDelivered : ℕ → List Agent.Event → InstanceM Unit
  | _, [] => pure ()
  | i, e :: events => do
      r.ackEvent i e
      ackManagedStorageDelivered (i + 1) events

end InstanceController

end VWorkspace
