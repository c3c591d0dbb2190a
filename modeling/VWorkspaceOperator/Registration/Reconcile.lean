import VWorkspaceOperator.Registration.Cluster

/-!
# The cluster controller

One reconcile of a `Cluster`: it exchanges a registration token for credentials unless there are
some already, rotates the credentials if that is asked for, and sends a heartbeat.
-/

namespace VWorkspace.Registration

open Kit ClusterM

/-- `ClusterReconciler`, with the hash function and the variable `POD_NAMESPACE`. -/
structure ClusterReconciler where
  agentClient : Option Agent.HTTPClient := none
  credentialsSecret : String := ""
  operatorNamespace : String := ""
  podNamespace : String := ""
  /-- An event batcher is given. -/
  eventBatcher : Bool := true
  /-- A recorder is given. -/
  recorder : Bool := true
  sha256 : Bytes → Vector UInt8 32

def clusterFinalizer : String := "ops.vworkspace.io/cluster-cleanup"

def defaultRegistrationTokenKey : String := "registrationToken"

def clusterReRegisterAnnotation : String := "ops.vworkspace.io/reregister"

inductive TokenSource where
  | secret
  | inline
  deriving DecidableEq, Repr

def controlPlaneEndpoint (cluster : ClusterResource) : String :=
  if trimSpace cluster.spec.controlPlaneEndpoint ≠ "" then
    trimSpace cluster.spec.controlPlaneEndpoint
  else trimSpace cluster.spec.controlPlaneBaseURL

def reRegisterRequested (cluster : ClusterResource) : Bool :=
  let v := trimSpace ((cluster.metadata.annotations.lookup clusterReRegisterAnnotation).getD "")
  v ≠ "" && toLower v ≠ "false"

def SecretKeyRef.dataKey (ref : SecretKeyRef) : String :=
  if trimSpace ref.key = "" then defaultRegistrationTokenKey else trimSpace ref.key

def clusterRef (cluster : ClusterResource) : Agent.AppliedRef :=
  Agent.resourceRefFromMeta opsGroupVersion "Cluster" cluster.metadata cluster.generation

def controllerReference (cluster : ClusterResource) : OwnerReference where
  apiVersion := opsGroupVersion
  kind := "Cluster"
  name := cluster.metadata.name
  uid := cluster.metadata.uid
  controller := true

def ClusterStatus.condition (st : ClusterStatus) (now : ℕ) (type : String)
    (status : ConditionStatus) (reason message : String) : ClusterStatus :=
  { st with conditions := setCondition now type status reason message st.conditions }

/-- The status while the registration token cannot be resolved. -/
def tokenPendingStatus (now : ℕ) (err : GoError) (st : ClusterStatus) : ClusterStatus :=
  let st := { st with phase := .pending }
  let st := st.condition now "Authenticated" .false "TokenSecretMissing" err.msg
  st.condition now "Connected" .false "RegistrationPending" "registration token is not yet resolvable"

def registrationFailedStatus (now : ℕ) (err : GoError) (st : ClusterStatus) : ClusterStatus :=
  let st := { st with phase := .error }
  let st := st.condition now "Authenticated" .false "RegistrationFailed" err.msg
  st.condition now "Connected" .false "RegistrationPending" "registration token exchange failed"

def rotationFailedStatus (now : ℕ) (err : GoError) (st : ClusterStatus) : ClusterStatus :=
  { st with phase := .error }.condition now "Authenticated" .false "RotationFailed" err.msg

def credentialMissingStatus (now : ℕ) (st : ClusterStatus) : ClusterStatus :=
  let st := { st with phase := .pending }
  let st := st.condition now "Connected" .false "CredentialMissing"
    "bootstrap credential is not available"
  st.condition now "Authenticated" .false "CredentialMissing" "bootstrap credential is not available"

def heartbeatStatus (now : ℕ) (answer : Except GoError Unit) (st : ClusterStatus) : ClusterStatus :=
  match answer with
  | .error err =>
      let st := { st with phase := .disconnected }
      let st := st.condition now "Connected" .false "ControlPlaneUnreachable" err.msg
      let st := st.condition now "Disconnected" .true "NoRecentRoundTrip" err.msg
      st.condition now "Authenticated" .false "ControlPlaneAuthenticationFailed" err.msg
  | .ok () =>
      let st := { st with lastHeartbeat := some now, phase := .connected }
      let st := st.condition now "Connected" .true "RoundTripOK"
        "Recent round-trip to the control plane succeeded"
      let st := st.condition now "Disconnected" .false "Connected" "Connection is alive"
      st.condition now "Authenticated" .true "CredentialAccepted" "Bearer token accepted"

def registeredStatus (now : ℕ) (fingerprint ns secretName : String) (st : ClusterStatus) :
    ClusterStatus :=
  let st := { st with
    phase := .registering
    observedToken := fingerprint
    credentialsSecretRef := some ⟨secretName, ns⟩
    credentialStatus := some ⟨secretName, ns, some now, true⟩ }
  let st := st.condition now "Authenticated" .true "RegistrationComplete"
    "registration token exchanged for bootstrap credential"
  st.condition now "Connected" .true "ControlPlaneReachable" "registration exchange succeeded"

/-- The status of a `Cluster` whose credentials are there already. -/
def adoptedStatus (now : ℕ) (fingerprint ns secretName : String) (st : ClusterStatus) :
    ClusterStatus :=
  { st with
    observedToken := fingerprint
    credentialsSecretRef := some (st.credentialsSecretRef.getD ⟨secretName, ns⟩)
    credentialStatus :=
      match st.credentialStatus with
      | none => some ⟨secretName, ns, some now, true⟩
      | some credentialStatus => some { credentialStatus with registrationTokenConsumed := true } }

def bufferOverflowMessage (dropped : ℕ) : String :=
  "Dropped " ++ toString dropped ++ " outbound event(s) because the buffer is full; verify " ++
    "control plane connectivity and that events are being accepted"

def bufferOverflowStatus (now : ℕ) (b : Agent.EventBatcher) (st : ClusterStatus) : ClusterStatus :=
  if b.overflowActive && 0 < b.overflowDropped then
    st.condition now "BufferOverflow" .true "EventBufferFull" (bufferOverflowMessage b.overflowDropped)
  else
    st.condition now "BufferOverflow" .false "BufferDrained"
      "Outbound event buffer has drained successfully"

def mutateCredentials (creds : Agent.Credentials) (owner : ClusterResource) (secret : Secret) :
    Except GoError Secret := do
  let data := setField "control-plane-base-url" (trimSpace creds.baseURL) secret.data
  let data := setField "cluster-id" (trimSpace creds.clusterID) data
  let data := setField "token" (trimSpace creds.token) data
  let owned ← (setControllerReferenceTo (controllerReference owner) secret.metadata).mapError
    (·.wrap "set owner reference")
  pure { metadata := owned, type := "Opaque", data }

def persistCredentials (s : PersistSite) (ns secretName : String) (creds : Agent.Credentials)
    (owner : ClusterResource) : ClusterM Unit := do
  let ns := trimSpace ns
  let secretName := trimSpace secretName
  if ns = "" then Prog.throw { msg := "credentials secret namespace is required" }
  else
    let secretName := if secretName = "" then Agent.defaultCredentialsSecret else secretName
    if trimSpace creds.baseURL = "" ∨ trimSpace creds.clusterID = "" ∨ trimSpace creds.token = "" then
      Prog.throw { msg := "incomplete credentials for persistence" }
    else
      (createOrUpdateSecret s ⟨ns, secretName⟩ (mutateCredentials creds owner)).mapError
        (·.wrap ("persist credentials secret " ++ ns ++ "/" ++ secretName))
      Prog.emit (.persisted creds)

/-- What is written into the spec and the annotations after an exchange. -/
def afterExchange (source : Option TokenSource) (clusterID : String) (cluster : ClusterResource) :
    ClusterResource :=
  let spec := cluster.spec
  let spec := if trimSpace spec.clusterID = "" then { spec with clusterID } else spec
  let spec := if source = some .inline then { spec with registrationToken := "" } else spec
  let annotations :=
    if reRegisterRequested cluster then
      unsetField clusterReRegisterAnnotation cluster.metadata.annotations
    else cluster.metadata.annotations
  { cluster with spec, metadata := { cluster.metadata with annotations } }

section afterExchange

variable (source : Option TokenSource) (clusterID : String) (cluster : ClusterResource)

@[simp] theorem name_afterExchange :
    (afterExchange source clusterID cluster).metadata.name = cluster.metadata.name := by
  rw [afterExchange]

@[simp] theorem uid_afterExchange :
    (afterExchange source clusterID cluster).metadata.uid = cluster.metadata.uid := by
  rw [afterExchange]

@[simp] theorem finalizers_afterExchange :
    (afterExchange source clusterID cluster).metadata.finalizers = cluster.metadata.finalizers := by
  rw [afterExchange]

@[simp] theorem registrationTokenSecretRef_afterExchange :
    (afterExchange source clusterID cluster).spec.registrationTokenSecretRef =
      cluster.spec.registrationTokenSecretRef := by
  rw [afterExchange]
  simp only
  split <;> split <;> rfl

@[simp] theorem rotateCredentials_afterExchange :
    (afterExchange source clusterID cluster).spec.rotateCredentials =
      cluster.spec.rotateCredentials := by
  rw [afterExchange]
  simp only
  split <;> split <;> rfl

@[simp] theorem registrationToken_afterExchange :
    (afterExchange (some .inline) clusterID cluster).spec.registrationToken = "" := by
  simp [afterExchange]

end afterExchange

def specChanged (source : Option TokenSource) (cluster : ClusterResource) : Bool :=
  trimSpace cluster.spec.clusterID = "" ||
    (source = some .inline && cluster.spec.registrationToken ≠ "") || reRegisterRequested cluster

namespace ClusterReconciler

variable (r : ClusterReconciler)

def credentialsSecretName : String :=
  if trimSpace r.credentialsSecret ≠ "" then r.credentialsSecret else Agent.defaultCredentialsSecret

def namespaceOf : String :=
  if trimSpace r.operatorNamespace ≠ "" then r.operatorNamespace
  else if r.podNamespace ≠ "" then r.podNamespace
  else "vworkspace-system"

def credentialsPlace : ObjectKey := ⟨r.namespaceOf, r.credentialsSecretName⟩

def tokenFingerprint (token : String) : String := hexEncode ((r.sha256 (bytesOf token)).toList.take 8)

def loadStoredCredentials (s : LoadSite) : ClusterM Agent.Credentials := do
  let failed := "get credentials secret " ++ r.namespaceOf ++ "/" ++ r.credentialsSecretName
  match ← (read (.loadCredentials s) fun w => w.secrets.get r.credentialsPlace).mapError
      (·.wrap failed) with
  | none => Prog.throw { msg := "credentials secret not found" }
  | some secret =>
      Prog.ofExcept ((Agent.credentialsFromSecret secret.credentials).mapError fun msg => { msg })

/-- `resolveRegistrationToken`; without a source there is nothing to register. -/
def resolveRegistrationToken (cluster : ClusterResource) :
    ClusterM (String × Option TokenSource) :=
  match cluster.spec.registrationTokenSecretRef with
  | some ref =>
      if trimSpace ref.name = "" then
        Prog.throw { msg := "registrationTokenSecretRef.name must not be empty" }
      else do
        let place := r.namespaceOf ++ "/" ++ ref.name
        match ← (read .getTokenSecret fun w =>
            w.secrets.get ⟨r.namespaceOf, trimSpace ref.name⟩).mapError
            (·.wrap ("get registration token secret " ++ place)) with
        | none => Prog.throw { msg := "registration token secret " ++ place ++ " not found" }
        | some secret =>
            let token := trimSpace ((secret.data.lookup ref.dataKey).getD "")
            if token = "" then
              Prog.throw { msg := ("registration token secret " ++ place ++
                " has no value for key " ++ goQuote ref.dataKey) }
            else pure (token, some .secret)
  | none =>
      if trimSpace cluster.spec.registrationToken ≠ "" then
        pure (trimSpace cluster.spec.registrationToken, some .inline)
      else pure ("", none)

def syncBufferOverflowCondition (st : ClusterStatus) : ClusterM ClusterStatus := do
  let t ← now
  let w ← Prog.get
  if r.eventBatcher then pure (bufferOverflowStatus t w.memory.batcher st) else pure st

def reportConditions (cluster : ClusterResource) (prev : List Condition) : ClusterM Unit := do
  let t ← now
  let next := cluster.status.conditions
  Prog.modify fun w => { w with
    memory := w.memory.reportConditionTransitions t (clusterRef cluster) prev next }

/-- A status is written, with the state of the buffer, and its conditions are reported. -/
def writeStatus (s : ClusterSite) (failed : String) (cluster : ClusterResource)
    (prev : List Condition) (st : ClusterStatus) : ClusterM Unit := do
  let st ← r.syncBufferOverflowCondition st
  let cluster := { cluster with status := st }
  (updateStatus s cluster).mapError (·.wrap failed)
  reportConditions cluster prev

/-- `registerCluster`; the `Cluster` it was given is changed on the way, and an error is part of the
answer. -/
def registerCluster (cluster : ClusterResource) (token : String) (source : Option TokenSource) :
    ClusterM (ClusterResource × Option GoError) := do
  let baseURL := controlPlaneEndpoint cluster
  if baseURL = "" then
    pure (cluster, some { msg := "spec.controlPlaneEndpoint (or the deprecated " ++
      "spec.controlPlaneBaseUrl) is required for registration" })
  else
    match ← (register baseURL token cluster.spec.clusterID).attempt with
    | .error err => pure (cluster, some err)
    | .ok resp =>
        match ← (persistCredentials .registration r.namespaceOf r.credentialsSecretName
            ⟨baseURL, resp.clusterID, resp.token⟩ cluster).attempt with
        | .error err => pure (cluster, some err)
        | .ok () =>
            let t ← now
            let changed := afterExchange source resp.clusterID cluster
            match ← (if specChanged source cluster then updateCluster .updateSpec changed
                else pure cluster).attempt with
            | .error err => pure (changed, some (err.wrap "persist post-registration spec"))
            | .ok written =>
                match ← (retryStatus .registered "reload cluster after registration"
                    cluster.metadata.name (registeredStatus t (r.tokenFingerprint token)
                      r.namespaceOf r.credentialsSecretName)).attempt with
                | .error err => pure (written, some err)
                | .ok () => pure (written, none)

def adoptExistingRegistration (s : RetrySite) (cluster : ClusterResource) (fingerprint : String) :
    ClusterM Unit := do
  let t ← now
  retryStatus s "reload cluster for adoption" cluster.metadata.name
    (adoptedStatus t fingerprint r.namespaceOf r.credentialsSecretName)

/-- What a part of a reconcile comes to: the reconcile is over, or goes on with a `Cluster`. -/
inductive Progress where
  | stop (res : Result)
  | goOn (cluster : ClusterResource)

/-- The credentials are there: the token is recorded as exchanged. -/
def adopt (s : RetrySite) (again : ReloadSite) (cluster : ClusterResource) (token : String) :
    ClusterM Progress := do
  r.adoptExistingRegistration s cluster (r.tokenFingerprint token)
  let cluster ← (getExisting (.reload again) cluster.metadata.name).mapError
    (·.wrap "reload cluster after adoption")
  pure (.goOn cluster)

/-- What `reconcileRegistration` does after an exchange that failed. -/
def registrationFailed (cluster : ClusterResource) (prev : List Condition) (err : GoError) :
    ClusterM Progress := do
  let t ← now
  r.writeStatus .updateRegistrationFailed "update registration failure status" cluster prev
    (registrationFailedStatus t err cluster.status)
  pure (.stop { requeueAfter := 30 })

def exchange (cluster : ClusterResource) (token : String) (source : Option TokenSource) :
    ClusterM Progress := do
  let prev := cluster.status.conditions
  match ← r.registerCluster cluster token source with
  | (changed, some err) =>
      if reRegisterRequested cluster then r.registrationFailed changed prev err
      else
        match ← (r.loadStoredCredentials .afterFailure).attempt with
        | .ok _ => r.adopt .adoptedAfterFailure .adoptionAfterFailure changed token
        | .error _ => r.registrationFailed changed prev err
  | (changed, none) =>
      if source = some .inline && r.recorder then
        Prog.emit (.warned changed.metadata.name "DeprecatedField"
          ("spec.registrationToken is deprecated; store the token in a Secret and use " ++
            "spec.registrationTokenSecretRef"))
      let cluster ← (getExisting (.reload .registration) changed.metadata.name).mapError
        (·.wrap "reload cluster after registration")
      pure (.goOn cluster)

/-- The token is used, unless it was used before or the credentials are there. -/
def useToken (cluster : ClusterResource) (token : String) (source : Option TokenSource) :
    ClusterM Progress := do
  let forceReRegister := reRegisterRequested cluster
  if token = "" ∨ (r.tokenFingerprint token = cluster.status.observedToken ∧ forceReRegister = false) then
    pure (.goOn cluster)
  else if forceReRegister then r.exchange cluster token source
  else
    match ← (r.loadStoredCredentials .guard).attempt with
    | .ok _ => r.adopt .adopted .adoption cluster token
    | .error _ => r.exchange cluster token source

def reconcileRegistration (cluster : ClusterResource) : ClusterM Progress := do
  match ← (r.resolveRegistrationToken cluster).attempt with
  | .ok (token, source) => r.useToken cluster token source
  | .error err =>
      match ← (r.loadStoredCredentials .fallThrough).attempt with
      | .ok _ => r.useToken cluster "" none
      | .error _ =>
          let t ← now
          r.writeStatus .updatePending "update pending status" cluster cluster.status.conditions
            (tokenPendingStatus t err cluster.status)
          pure (.stop { requeueAfter := 30 })

/-- The condition that the audit event about a rotation carries. -/
def rotatedCondition : Condition :=
  ⟨"Authenticated", .true, "CredentialRotated", "Bootstrap credential rotated successfully", 0⟩

def rotateClient (creds : Agent.Credentials) : Except GoError Agent.HTTPClient :=
  match r.agentClient with
  | some client => .ok client
  | none => (Agent.newHTTPClient creds).mapError fun msg =>
      { msg := "configure rotate client: " ++ msg }

def afterRotation (cluster : ClusterResource) : ClusterResource :=
  { cluster with spec := { cluster.spec with rotateCredentials := false } }

/-- `rotateCredentials`; the `Cluster` it was given is changed on the way. -/
def rotateCredentials (cluster : ClusterResource) : ClusterM (ClusterResource × Option GoError) := do
  match ← (r.loadStoredCredentials .rotation).attempt with
  | .error err => pure (cluster, some (err.wrap "load stored credentials"))
  | .ok creds =>
      match r.rotateClient creds with
      | .error err => pure (cluster, some err)
      | .ok client =>
          match ← (rotate client).attempt with
          | .error err => pure (cluster, some err)
          | .ok token =>
              match ← (persistCredentials .rotation r.namespaceOf r.credentialsSecretName
                  ⟨creds.baseURL, creds.clusterID, token⟩ cluster).attempt with
              | .error err => pure (cluster, some err)
              | .ok () =>
                  match ← (updateCluster .clearRotateFlag (afterRotation cluster)).attempt with
                  | .error err => pure (afterRotation cluster, some (err.wrap "clear rotate credentials flag"))
                  | .ok written =>
                      let t ← now
                      Prog.modify fun w => { w with memory := (w.memory.reportAudit t
                        (clusterRef written) "CredentialRotated" [rotatedCondition] "") }
                      pure (written, none)

def reconcileRotation (cluster : ClusterResource) : ClusterM Progress := do
  if cluster.spec.rotateCredentials then
    match ← r.rotateCredentials cluster with
    | (changed, some err) =>
        let t ← now
        r.writeStatus .updateRotationFailed "update rotation failure status" changed
          cluster.status.conditions (rotationFailedStatus t err changed.status)
        pure (.stop { requeueAfter := 60 })
    | (changed, none) =>
        let cluster ← (getExisting (.reload .rotation) changed.metadata.name).mapError
          (·.wrap "reload cluster after rotation")
        pure (.goOn cluster)
  else pure (.goOn cluster)

def heartbeatClient : ClusterM (Option Agent.HTTPClient) :=
  match r.agentClient with
  | some client => pure (some client)
  | none => do
      match ← (r.loadStoredCredentials .heartbeat).attempt with
      | .error _ => pure none
      | .ok creds => pure (Agent.newHTTPClient creds).toOption

def reconcileHeartbeat (cluster : ClusterResource) : ClusterM Result := do
  let t ← now
  let prev := cluster.status.conditions
  match ← r.heartbeatClient with
  | none =>
      r.writeStatus .updateDisconnected "update disconnected status" cluster prev
        (credentialMissingStatus t cluster.status)
      pure { requeueAfter := 60 }
  | some client =>
      let answer ← (heartbeat client).attempt
      r.writeStatus .updateHeartbeat "update cluster status" cluster prev
        (heartbeatStatus t answer cluster.status)
      pure { requeueAfter := 60 }

def finalizeCluster (cluster : ClusterResource) : ClusterM Result := do
  if clusterFinalizer ∉ cluster.metadata.finalizers then pure {}
  else
    let terminating := { cluster with status := { cluster.status with phase := .terminating } }
    if cluster.status.phase ≠ .terminating then
      (updateStatus .updateTerminating terminating).mapError (·.wrap "update terminating status")
    let _ ← (updateCluster .removeFinalizer
      { terminating with metadata := { cluster.metadata with
          finalizers := cluster.metadata.finalizers.filter (· ≠ clusterFinalizer) } }).mapError
      (·.wrap "remove finalizer")
    pure {}

def ensureFinalizer (cluster : ClusterResource) : ClusterM ClusterResource :=
  if clusterFinalizer ∈ cluster.metadata.finalizers then pure cluster
  else
    (updateCluster .addFinalizer { cluster with metadata := { cluster.metadata with
      finalizers := cluster.metadata.finalizers ++ [clusterFinalizer] } }).mapError
      (·.wrap "add finalizer")

def reconcile (name : String) : ClusterM Result := do
  match ← read .getCluster fun w => w.clusters.get name with
  | none => pure {}
  | some cluster =>
      if cluster.metadata.deletionTimestamp.isSome then finalizeCluster cluster
      else
        let cluster ← ensureFinalizer cluster
        match ← r.reconcileRegistration cluster with
        | .stop res => pure res
        | .goOn cluster =>
            match ← r.reconcileRotation cluster with
            | .stop res => pure res
            | .goOn cluster => r.reconcileHeartbeat cluster

end ClusterReconciler

end VWorkspace.Registration
