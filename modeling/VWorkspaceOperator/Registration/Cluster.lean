import VWorkspaceOperator.Agent.Runtime
import VWorkspaceOperator.Controller.Reconcile
import VWorkspaceOperator.Engines.Base
import VWorkspaceOperator.Instance.Memory

/-!
# The cluster resource and the credentials of the operator

A `Cluster` resource says where the control plane is and how the operator registers with it: with
a one-time token, in a Secret or in the spec, that is exchanged for credentials.  The credentials
are kept in a Secret of the operator; they may be rotated, and a heartbeat shows that they work.

The state of a program is the resources and Secrets, what the operator has in memory, and what the
control plane knows: the registration tokens that were exchanged, and the token it accepts.  What
the control plane answers is up to the environment.
-/

namespace VWorkspace.Registration

open Kit

structure SecretKeyRef where
  name : String
  key : String := ""
  deriving DecidableEq, Repr

structure ClusterSpec where
  clusterID : String := ""
  controlPlaneEndpoint : String := ""
  controlPlaneBaseURL : String := ""
  registrationTokenSecretRef : Option SecretKeyRef := none
  registrationToken : String := ""
  rotateCredentials : Bool := false
  deriving DecidableEq, Repr

/-- The phases of a `Cluster`; `unset` is Go's empty string. -/
inductive ClusterPhase where
  | unset
  | pending
  | registering
  | connected
  | disconnected
  | error
  | terminating
  deriving DecidableEq, Repr

structure ClusterCredentialStatus where
  secretName : String
  secretNamespace : String
  registeredAt : Option ℕ := none
  registrationTokenConsumed : Bool := false
  deriving DecidableEq, Repr

structure ClusterStatus where
  phase : ClusterPhase := .unset
  conditions : List Condition := []
  lastHeartbeat : Option ℕ := none
  credentialStatus : Option ClusterCredentialStatus := none
  credentialsSecretRef : Option Agent.SecretReference := none
  observedToken : String := ""
  deriving DecidableEq, Repr

structure ClusterResource where
  metadata : ObjectMeta
  spec : ClusterSpec := {}
  generation : ℕ := 1
  status : ClusterStatus := {}
  deriving DecidableEq, Repr

instance : Keyed ClusterResource String := ⟨fun cluster => cluster.metadata.name⟩

structure Secret where
  metadata : ObjectMeta
  type : String := ""
  data : List (String × String) := []
  deriving DecidableEq, Repr

instance : Keyed Secret ObjectKey := ⟨fun secret => secret.metadata.key⟩

def Secret.credentials (s : Secret) : Agent.CredentialsSecret := ⟨s.metadata.ns, s.metadata.name, s.data⟩

structure ControlPlane where
  /-- The token of the credentials that it gave out last. -/
  accepted : String := ""
  /-- The registration tokens that were exchanged. -/
  spent : List String := []
  deriving DecidableEq, Repr

structure ClusterWorld where
  clusters : Store ClusterResource := Store.empty
  secrets : Store Secret := Store.empty
  controlPlane : ControlPlane := {}
  memory : OperatorMemory := {}

/-- The control plane has taken a registration token, and given out a token. -/
def ClusterWorld.exchanged (token given : String) (w : ClusterWorld) : ClusterWorld :=
  { w with controlPlane :=
      { accepted := trimSpace given, spent := token :: w.controlPlane.spent } }

def ClusterWorld.rotated (given : String) (w : ClusterWorld) : ClusterWorld :=
  { w with controlPlane := { w.controlPlane with accepted := trimSpace given } }

inductive LoadSite where
  /-- The registration token cannot be resolved. -/
  | fallThrough
  /-- The credentials may be there already. -/
  | guard
  /-- The exchange has failed. -/
  | afterFailure
  | rotation
  | heartbeat
  deriving DecidableEq, Repr

inductive PersistSite where
  | registration
  | rotation
  deriving DecidableEq, Repr

/-- The status updates that are tried again on a conflict. -/
inductive RetrySite where
  | registered
  | adopted
  | adoptedAfterFailure
  deriving DecidableEq, Repr

inductive ReloadSite where
  | adoption
  | adoptionAfterFailure
  | registration
  | rotation
  deriving DecidableEq, Repr

/-- The API call sites of the cluster controller.  In one reconcile each of them is reached at most
once. -/
inductive ClusterSite where
  | getCluster
  | addFinalizer
  | removeFinalizer
  | getTokenSecret
  | loadCredentials (s : LoadSite)
  | getSecret (s : PersistSite)
  | createSecret (s : PersistSite)
  | updateSecret (s : PersistSite)
  /-- The spec is written after a registration. -/
  | updateSpec
  | clearRotateFlag
  | reloadForStatus (s : RetrySite) (attempt : ℕ)
  | retriedStatus (s : RetrySite) (attempt : ℕ)
  | reload (s : ReloadSite)
  | updatePending
  | updateRegistrationFailed
  | updateRotationFailed
  | updateDisconnected
  | updateHeartbeat
  | updateTerminating
  deriving DecidableEq, Repr

structure RegisterResponse where
  clusterID : String
  token : String
  deriving DecidableEq, Repr

/-- What a reconcile of a `Cluster` depends on besides the cluster and the process. -/
structure ClusterEnv where
  /-- The clock, in seconds. -/
  now : ℕ
  /-- The error a call site gets, if it fails. -/
  fault : ClusterSite → Option String := fun _ => none
  /-- Whether that error is a conflict. -/
  conflict : ClusterSite → Bool := fun _ => false
  /-- Whether the API server takes new finalizers for an object that is being deleted. -/
  takesFinalizers : Bool := false
  /-- The answer to a registration, with the endpoint, the token and the cluster id. -/
  register : String → String → String → Except GoError RegisterResponse :=
    fun _ _ _ => .error { msg := "register API error (503): : 503 Service Unavailable" }
  /-- The token in the answer to a rotation with the credentials of a client. -/
  rotate : Agent.HTTPClient → Except GoError String :=
    fun _ => .error { msg := "agent API error (503): : 503 Service Unavailable" }
  /-- The answer to a heartbeat. -/
  heartbeat : Agent.HTTPClient → Except GoError Unit := fun _ => .ok ()

inductive ClusterEvent where
  /-- A registration token was presented. -/
  | registerCalled (token : String)
  /-- Credentials were presented to be rotated. -/
  | rotateCalled (client : Agent.HTTPClient)
  | heartbeatSent (client : Agent.HTTPClient)
  /-- Credentials were written to the Secret. -/
  | persisted (creds : Agent.Credentials)
  /-- An event of the recorder about a `Cluster`. -/
  | warned (name reason message : String)
  deriving DecidableEq, Repr

abbrev ClusterM := Prog ClusterEnv ClusterWorld ClusterEvent GoError

namespace ClusterM

/-- An API call that does nothing yet: it fails if its site does. -/
def call (s : ClusterSite) : ClusterM Unit where
  run env w :=
    match env.fault s with
    | none => ⟨.ok (), w, []⟩
    | some msg => ⟨.error { msg }, w, []⟩

def now : ClusterM ℕ := do
  let env ← Prog.ask
  pure env.now

def read {α : Type} (s : ClusterSite) (f : ClusterWorld → α) : ClusterM α := do
  call s
  let w ← Prog.get
  pure (f w)

def clusterNotFound (name : String) : GoError := VWorkspace.notFound "clusters.ops.vworkspace.io" name

def getExisting (s : ClusterSite) (name : String) : ClusterM ClusterResource := do
  match ← read s fun w => w.clusters.get name with
  | none => Prog.throw (clusterNotFound name)
  | some cluster => pure cluster

def put (cluster : ClusterResource) : ClusterM Unit :=
  Prog.modify fun w => { w with clusters := w.clusters.put cluster }

/-- `Status().Update`: write the status and nothing else. -/
def updateStatus (s : ClusterSite) (cluster : ClusterResource) : ClusterM Unit := do
  call s
  let w ← Prog.get
  match w.clusters.get cluster.metadata.name with
  | none => Prog.throw (clusterNotFound cluster.metadata.name)
  | some stored => put { stored with status := cluster.status }

/-- What an update of the metadata and the spec makes of what is stored: the status is a
subresource and stays, and a change of the spec is a new generation. -/
def updated (cluster stored : ClusterResource) : ClusterResource where
  metadata := cluster.metadata
  spec := cluster.spec
  generation := if cluster.spec = stored.spec then stored.generation else stored.generation + 1
  status := stored.status

@[simp] theorem metadata_updated (cluster stored : ClusterResource) :
    (updated cluster stored).metadata = cluster.metadata := rfl

@[simp] theorem spec_updated (cluster stored : ClusterResource) :
    (updated cluster stored).spec = cluster.spec := rfl

/-- `Update`; the answer is the `Cluster` as it is stored then. -/
def updateCluster (s : ClusterSite) (cluster : ClusterResource) : ClusterM ClusterResource := do
  call s
  let env ← Prog.ask
  let w ← Prog.get
  match w.clusters.get cluster.metadata.name with
  | none => Prog.throw (clusterNotFound cluster.metadata.name)
  | some stored =>
      match answerUpdate env.takesFinalizers stored.metadata cluster.metadata with
      | .refused err => Prog.throw err
      | .removed =>
          Prog.modify fun w => { w with clusters := w.clusters.erase cluster.metadata.name }
          pure (updated cluster stored)
      | .stored =>
          put (updated cluster stored)
          pure (updated cluster stored)

def createOrUpdateSecret (s : PersistSite) (k : ObjectKey)
    (mutate : Secret → Except GoError Secret) : ClusterM Unit := do
  let write (secret : Secret) : ClusterM Unit :=
    Prog.modify fun w => { w with secrets := w.secrets.put secret }
  match ← read (.getSecret s) fun w => w.secrets.get k with
  | none =>
      let secret ← Prog.ofExcept (mutate { metadata := { ns := k.ns, name := k.name } })
      call (.createSecret s)
      write secret
  | some stored =>
      let secret ← Prog.ofExcept (mutate stored)
      if secret = stored then pure ()
      else
        call (.updateSecret s)
        write secret

/-- `retry.RetryOnConflict`: an attempt answers the conflict it has met, or fails for good. -/
def retryOnConflict (attempt : ℕ → ClusterM (Option GoError)) :
    (steps i : ℕ) → GoError → ClusterM Unit
  | 0, _, err => Prog.throw err
  | steps + 1, i, _ => do
      match ← attempt i with
      | none => pure ()
      | some err => retryOnConflict attempt steps (i + 1) err

/-- One attempt to change the status of a `Cluster` as it is stored. -/
def attemptStatus (s : RetrySite) (failed name : String)
    (f : ClusterStatus → ClusterStatus) (i : ℕ) : ClusterM (Option GoError) := do
  let fresh ← (getExisting (.reloadForStatus s i) name).mapError (·.wrap failed)
  match ← (updateStatus (.retriedStatus s i) { fresh with status := f fresh.status }).attempt with
  | .ok () => pure none
  | .error err =>
      let env ← Prog.ask
      if (env.fault (.retriedStatus s i)).isSome && env.conflict (.retriedStatus s i) then
        pure (some err)
      else Prog.throw err

/-- Change the status of a `Cluster`, five times at most. -/
def retryStatus (s : RetrySite) (failed name : String) (f : ClusterStatus → ClusterStatus) :
    ClusterM Unit := retryOnConflict (attemptStatus s failed name f) 5 0 { msg := "" }

def checkRegistration (answer : RegisterResponse) : Except GoError RegisterResponse :=
  let resp : RegisterResponse := ⟨trimSpace answer.clusterID, trimSpace answer.token⟩
  if resp.clusterID = "" ∨ resp.token = "" then
    .error { msg := "register response missing clusterId or token" }
  else .ok resp

def checkRotation (answer : String) : Except GoError String :=
  if trimSpace answer = "" then .error { msg := "rotate response missing token" }
  else .ok (trimSpace answer)

def register (baseURL token clusterID : String) : ClusterM RegisterResponse := do
  let env ← Prog.ask
  Prog.emit (.registerCalled token)
  let baseURL := trimRight '/' (trimSpace baseURL)
  if baseURL = "" then Prog.throw { msg := "control plane base URL is required" }
  else
    match env.register baseURL token (trimSpace clusterID) with
    | .error err => Prog.throw err
    | .ok answer =>
        Prog.modify (·.exchanged token answer.token)
        Prog.ofExcept (checkRegistration answer)

def rotate (client : Agent.HTTPClient) : ClusterM String := do
  let env ← Prog.ask
  Prog.emit (.rotateCalled client)
  match env.rotate client with
  | .error err => Prog.throw err
  | .ok answer =>
      Prog.modify (·.rotated answer)
      Prog.ofExcept (checkRotation answer)

def heartbeat (client : Agent.HTTPClient) : ClusterM Unit := do
  let env ← Prog.ask
  Prog.emit (.heartbeatSent client)
  Prog.ofExcept (env.heartbeat client)

end ClusterM

end VWorkspace.Registration
