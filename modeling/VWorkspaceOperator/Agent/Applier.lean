import VWorkspaceOperator.Agent.Idempotency

/-!
# Applying jobs

`Applier.ApplyJob` turns a job into changes of the cluster: a manifest is applied
with server-side apply, an object is deleted, or an intent is carried out.  A job
that is expired or whose idempotency key is known is answered without doing
anything; the key of a job that was carried out is recorded.

The typed resources of an intent are read and written by generated code; the
`Scheme` of the applier stands for it.
-/

namespace VWorkspace.Agent

open Kit Prog AgentM

/-- `schema.ParseGroupVersion`: the group and the version. -/
def parseGroupVersion (gv : String) : Except String (String × String) :=
  match splitOn '/' gv with
  | [version] => .ok ("", version)
  | [group, version] => .ok (group, version)
  | _ => .error ("unexpected GroupVersion string: " ++ gv)

def groupVersion (group version : String) : String :=
  if group = "" then version else group ++ "/" ++ version

def namespaceOf (doc : Fields) : String := nestedString ["metadata", "namespace"] doc

def nameOf (doc : Fields) : String := nestedString ["metadata", "name"] doc

/-- `GroupVersionKind` of a document; what does not parse has no kind, either. -/
def groupVersionKind (doc : Fields) : String × String × String :=
  match parseGroupVersion (nestedString ["apiVersion"] doc) with
  | .ok (group, version) => (group, version, nestedString ["kind"] doc)
  | .error _ => ("", "", "")

def idOf (doc : Fields) : ResourceId where
  group := (groupVersionKind doc).1
  kind := (groupVersionKind doc).2.2
  ns := namespaceOf doc
  name := nameOf doc

/-- `json.Unmarshal` into an `unstructured.Unstructured`, which must have a kind. -/
def decodeUnstructured (raw : Bytes) : Except String Fields :=
  let checked (doc : Fields) : Except String Fields :=
    if (groupVersionKind doc).2.2 = "" then
      .error ("Object 'Kind' is missing in '" ++ textOf raw ++ "'")
    else .ok doc
  match parseJson raw with
  | none => .error "invalid JSON input"
  | some (.obj fs) => checked (toAnyFields fs [])
  | some .null => checked []
  | some v =>
      .error ("json: cannot unmarshal " ++ v.kindName ++
        " into Go value of type map[string]interface \x7b\x7d")

/-- `GetLabels` of a document: none if one of them is no string. -/
def labelsOf (doc : Fields) : List (String × String) :=
  match nested ["metadata", "labels"] doc with
  | some (.obj fs) =>
      if fs.all fun f => match f.2 with | .str _ => true | _ => false then
        fs.map fun f => match f.2 with | .str v => (f.1, v) | _ => (f.1, "")
      else []
  | _ => []

/-- `SetLabels` of a document, which does nothing if its metadata are no map. -/
def setLabels (labels : List (String × String)) (doc : Fields) : Fields :=
  match setNested (.obj (labels.map fun l => (l.1, .str l.2))) [] ["metadata", "labels"] doc with
  | .ok doc' => doc'
  | .error _ => doc

/-- How the typed resources are decoded and written out again: the document of the
resource, given the one decoded before. -/
structure Scheme where
  applicationInstance : Json → Option Fields → Except Mismatch Fields
  operation : Json → Option Fields → Except Mismatch Fields

structure Applier where
  scheme : Scheme
  clusterID : String
  idempotency : Option IdempotencyStore

def fieldManager : String := "vworkspace-agent"

def managedByKey : String := "app.vworkspace.io/managed-by"

def clusterIDKey : String := "app.vworkspace.io/cluster-id"

def appsGroup : String := "apps.vworkspace.io"

def opsGroup : String := "ops.vworkspace.io"

def resourceVersion : String := "v1alpha1"

/-- `objectRef`, and `typedRef` with the version of the scheme. -/
def objectRef (version : String) (o : ApiObject) : AppliedRef where
  apiVersion := groupVersion o.id.group version
  kind := o.id.kind
  ns := o.id.ns
  name := o.id.name
  uid := o.uid
  generation := o.generation

/-- `ensureManagedLabels` and `ensureManagedLabelsOnTyped`. -/
def Applier.ensureManagedLabels (a : Applier) (doc : Fields) : Fields :=
  let labels := setField managedByKey "control-plane" (labelsOf doc)
  setLabels (if a.clusterID = "" then labels else setField clusterIDKey a.clusterID labels) doc

def namespaceId (name : String) : ResourceId := ⟨"", "Namespace", "", name⟩

/-- `ensureTargetNamespace`: create the namespace if there is none. -/
def ensureTargetNamespace (ns : String) : AgentM Unit := do
  let name := trimSpace ns
  if name = "" then pure ()
  else
    match ← (getObject (.getNamespace name) (namespaceId name)).mapError
        (·.wrap ("get namespace " ++ goQuote name ++ ": ")) with
    | some _ => pure ()
    | none =>
        match ← (createObject (.createNamespace name) (namespaceId name)
            [(["metadata", "labels", "managed-by"], .str "vworkspace")]).attempt with
        | .ok () => pure ()
        | .error e =>
            if e.reason = .alreadyExists then pure ()
            else if e.reason = .forbidden then
              Prog.throw (e.wrap ("namespace " ++ goQuote name ++
                " does not exist and cannot be created (check RBAC): "))
            else Prog.throw (e.wrap ("create namespace " ++ goQuote name ++ ": "))

/-- `patchApply` and `patchApplyTyped`: server-side apply that takes fields over. -/
def patchApply (id : ResourceId) (doc : Fields) : AgentM Unit :=
  (applyObject .patch id true fieldManager (configOf doc)).mapError fun e =>
    if e.reason = .conflict then e.wrap "apply conflict: " else e.wrap "server-side apply: "

def getPresent (s : Site) (what : String) (id : ResourceId) : AgentM ApiObject :=
  (do
    match ← getObject s id with
    | some o => pure o
    | none => Prog.throw (AgentM.notFound id)).mapError (·.wrap (what ++ ": "))

def bslAvailableTimeout : ℕ := 90 * 1000000000

/-- The loop of `waitForBSLAvailable`, over the looks at the object.  After the last
of them the context ends. -/
def waitLoop (place : String) (deadline : ℕ) (boundByExpiry : Bool) :
    List Poll → Except AgentError ApiObject
  | [] => .error { msg := "context canceled" }
  | poll :: polls =>
      match poll.answer with
      | .error f => .error (f.error.wrap ("get BackupStorageLocation " ++ place ++ ": "))
      | .ok latest =>
          let phase := latest.text ["status", "phase"]
          let message := latest.text ["status", "message"]
          if toLower (trimSpace phase) = "available" then .ok latest
          else if toLower (trimSpace phase) = "unavailable" then
            let message := if trimSpace message = "" then "BackupStorageLocation is Unavailable"
              else message
            .error { msg := "BackupStorageLocation " ++ place ++ " Unavailable: " ++ message }
          else if deadline < poll.now then
            if boundByExpiry then
              .error { msg := "BackupStorageLocation " ++ place ++
                ": job expired while waiting for Available" }
            else if phase = "" then
              .error { msg := "timed out waiting for BackupStorageLocation " ++ place ++
                " Available (no status.phase yet)" }
            else
              .error { msg := "timed out waiting for BackupStorageLocation " ++ place ++
                " Available (phase=" ++ phase ++ " message=" ++ message ++ ")" }
          else if poll.cancelled then .error { msg := "context canceled" }
          else waitLoop place deadline boundByExpiry polls

/-- When waiting ends, and whether it is the expiry of the job that ends it. -/
def waitBound (waitFrom : ℕ) : Option ℕ → ℕ × Bool
  | some t =>
      if t < waitFrom + bslAvailableTimeout then (t, true)
      else (waitFrom + bslAvailableTimeout, false)
  | none => (waitFrom + bslAvailableTimeout, false)

/-- How the wait for a storage location ends. -/
def waitResult (env : AgentEnv) (id : ResourceId) (expiresAt : Option ℕ) :
    Except AgentError ApiObject :=
  let (deadline, boundByExpiry) := waitBound env.waitFrom expiresAt
  waitLoop (id.ns ++ "/" ++ id.name) deadline boundByExpiry env.polls

def waitForBSLAvailable (id : ResourceId) (expiresAt : Option ℕ) : AgentM ApiObject := do
  let env ← Prog.ask
  Prog.ofExcept (waitResult env id expiresAt)

namespace Applier

/-- The document an `apply` job applies: the payload with the labels of the agent. -/
def manifest (a : Applier) (payload : Bytes) : Except AgentError Fields :=
  match decodeUnstructured payload with
  | .ok doc => .ok (a.ensureManagedLabels doc)
  | .error msg => .error { msg := "decode apply payload: " ++ msg }

def applyManifest (a : Applier) (job : Job) : AgentM AppliedRef := do
  let obj ← Prog.ofExcept (a.manifest job.payload)
  let version := (groupVersionKind obj).2.1
  ensureTargetNamespace (namespaceOf obj)
  patchApply (idOf obj) obj
  let latest ← getPresent .getApplied "get applied object" (idOf obj)
  if latest.id.group = "velero.io" ∧ latest.id.kind = "BackupStorageLocation" then
    let ready ← waitForBSLAvailable latest.id job.expiresAt
    pure (objectRef version ready)
  else pure (objectRef version latest)

structure ObjectReference where
  apiVersion : String := ""
  kind : String := ""
  name : String := ""
  ns : String := ""
  deriving DecidableEq, Repr

def objectReferenceFields : List (StructField ObjectReference) :=
  [.of "apiVersion" decodeString ObjectReference.apiVersion fun v r => { r with apiVersion := v },
    .of "kind" decodeString ObjectReference.kind fun v r => { r with kind := v },
    .of "name" decodeString ObjectReference.name fun v r => { r with name := v },
    .of "namespace" decodeString ObjectReference.ns fun v r => { r with ns := v }]

/-- What a `delete` job names: the reference and the object. -/
def deleteTarget (payload : Bytes) : Except AgentError (ObjectReference × ResourceId) :=
  match unmarshal "objectReference" objectReferenceFields payload {} with
  | .error msg => .error { msg := "decode delete payload: " ++ msg }
  | .ok ref =>
      if ref.apiVersion = "" ∨ ref.kind = "" ∨ ref.name = "" then
        .error { msg := "delete payload requires apiVersion, kind, and name" }
      else
        match parseGroupVersion ref.apiVersion with
        | .error msg => .error { msg := "parse apiVersion: " ++ msg }
        | .ok (group, _) => .ok (ref, ⟨group, ref.kind, ref.ns, ref.name⟩)

def deleteRef (payload : Bytes) : AgentM AppliedRef := do
  let (ref, id) ← Prog.ofExcept (deleteTarget payload)
  let applied : AppliedRef := ⟨ref.apiVersion, ref.kind, ref.ns, ref.name, "", 0⟩
  match ← (AgentM.deleteObject .delete id).attempt with
  | .ok () => pure applied
  | .error e =>
      if e.reason = .notFound then pure applied
      else Prog.throw (e.wrap ("delete " ++ ref.kind ++ "/" ++ ref.name ++ ": "))

structure IntentPayload where
  intent : String := ""
  applicationInstance : Option Fields := none
  operation : Option Fields := none
  name : String := ""
  ns : String := ""

def decodeTyped (decode : Json → Option Fields → Except Mismatch Fields) :
    Json → Option Fields → Except Mismatch (Option Fields)
  | .null, _ => .ok none
  | v, cur => (decode v cur).map some

def intentFields (scheme : Scheme) : List (StructField IntentPayload) :=
  [.of "intent" decodeString IntentPayload.intent fun v p => { p with intent := v },
    .of "applicationInstance" (decodeTyped scheme.applicationInstance)
      IntentPayload.applicationInstance fun v p => { p with applicationInstance := v },
    .of "operation" (decodeTyped scheme.operation) IntentPayload.operation
      fun v p => { p with operation := v },
    .of "name" decodeString IntentPayload.name fun v p => { p with name := v },
    .of "namespace" decodeString IntentPayload.ns fun v p => { p with ns := v }]

inductive Intent where
  /-- `ensure-application-instance`, with the document to apply. -/
  | ensureInstance (doc : Fields)
  /-- `request-operation`, with the document to apply. -/
  | requestOperation (doc : Fields)
  /-- `delete-application-instance`. -/
  | deleteInstance (ns name : String)

/-- Read an intent: the documents carry the labels of the agent. -/
def decodeIntent (a : Applier) (payload : Bytes) : Except AgentError Intent :=
  match unmarshal "intentPayload" (intentFields a.scheme) payload {} with
  | .error msg => .error { msg := "decode intent payload: " ++ msg }
  | .ok p =>
      if p.intent = "ensure-application-instance" then
        match p.applicationInstance with
        | none => .error { msg := "ensure-application-instance requires applicationInstance" }
        | some app => .ok (.ensureInstance (a.ensureManagedLabels app))
      else if p.intent = "request-operation" then
        match p.operation with
        | none => .error { msg := "request-operation requires operation" }
        | some op => .ok (.requestOperation (a.ensureManagedLabels op))
      else if p.intent = "delete-application-instance" then
        if p.name = "" then .error { msg := "delete-application-instance requires name" }
        else .ok (.deleteInstance p.ns p.name)
      else .error { msg := "unsupported intent " ++ goQuote p.intent }

/-- The instance a document of an `ApplicationInstance` is about. -/
def instanceId (ns name : String) : ResourceId := ⟨appsGroup, "ApplicationInstance", ns, name⟩

def operationId (ns name : String) : ResourceId := ⟨opsGroup, "Operation", ns, name⟩

def ensureNamespacesForInstance (doc : Fields) : AgentM Unit := do
  ensureTargetNamespace (namespaceOf doc)
  let releaseNS := trimSpace (nestedString ["spec", "release", "namespace"] doc)
  if releaseNS ≠ "" ∧ releaseNS ≠ namespaceOf doc then ensureTargetNamespace releaseNS
  else pure ()

/-- The rest of `applyIntent`, once the payload is decoded. -/
def realize : Intent → AgentM AppliedRef
  | .ensureInstance app => do
      ensureNamespacesForInstance app
      let id := instanceId (namespaceOf app) (nameOf app)
      patchApply id app
      let latest ← getPresent .getApplied "get application instance" id
      pure (objectRef resourceVersion latest)
  | .requestOperation op => do
      ensureTargetNamespace (namespaceOf op)
      let id := operationId (namespaceOf op) (nameOf op)
      patchApply id op
      let latest ← getPresent .getApplied "get operation" id
      pure (objectRef resourceVersion latest)
  | .deleteInstance ns name => do
      let id := instanceId ns name
      match ← (getObject .getInstance id).mapError (·.wrap "get application instance: ") with
      | none => pure ⟨groupVersion appsGroup resourceVersion, "ApplicationInstance", ns, name, "", 0⟩
      | some app =>
          match ← (AgentM.deleteObject .delete id).attempt with
          | .ok () => pure (objectRef resourceVersion app)
          | .error e =>
              if e.reason = .notFound then pure (objectRef resourceVersion app)
              else Prog.throw (e.wrap "delete application instance: ")

def applyIntent (a : Applier) (payload : Bytes) : AgentM AppliedRef := do
  let intent ← Prog.ofExcept (a.decodeIntent payload)
  realize intent

def isExpired (job : Job) (now : ℕ) : Bool :=
  match job.expiresAt with
  | some t => decide (t < now)
  | none => false

def expiredOutcome (now : ℕ) : ApplyOutcome where
  result := { outcome := .noop, error := "expired", timestamp := now }

def replayOutcome (now : ℕ) : ApplyOutcome where
  result := { outcome := .noop, timestamp := now }
  idempotent := true

/-- The first part of `ApplyJob`: an expired job and one whose key is known are
answered at once. -/
def precheck (a : Applier) (job : Job) : AgentM (Option ApplyOutcome) := do
  let env ← Prog.ask
  if isExpired job env.now then
    pure (some (expiredOutcome env.now))
  else if job.idempotencyKey = "" then pure none
  else
    match a.idempotency with
    | none => pure none
    | some store =>
        let seen ← (store.contains job.idempotencyKey).mapError (·.wrap "check idempotency key: ")
        if seen then pure (some (replayOutcome env.now)) else pure none

/-- The second part of `ApplyJob`: do what the job asks for. -/
def carryOut (a : Applier) (job : Job) : AgentM AppliedRef :=
  match job.kind with
  | .apply => a.applyManifest job
  | .delete => deleteRef job.payload
  | .intent => a.applyIntent job.payload
  | .other text => Prog.throw { msg := "unsupported job kind " ++ goQuote text }

def remember (a : Applier) (job : Job) : AgentM Unit :=
  if job.idempotencyKey = "" then pure ()
  else
    match a.idempotency with
    | none => pure ()
    | some store =>
        (store.record job.idempotencyKey).mapError (·.wrap "record idempotency key: ")

def applyJob (a : Applier) (job : Job) : AgentM ApplyOutcome := do
  match ← a.precheck job with
  | some outcome => pure outcome
  | none =>
      let ref ← a.carryOut job
      a.remember job
      let env ← Prog.ask
      pure { result := { outcome := .succeeded, appliedRef := some ref, timestamp := env.now } }

def Intent.target : Intent → ResourceId
  | .ensureInstance app => instanceId (namespaceOf app) (nameOf app)
  | .requestOperation op => operationId (namespaceOf op) (nameOf op)
  | .deleteInstance ns name => instanceId ns name

/-- The object a job is about, if its payload can be read. -/
def targetId (a : Applier) (job : Job) : Option ResourceId :=
  match job.kind with
  | .apply => (a.manifest job.payload).toOption.map idOf
  | .delete => (deleteTarget job.payload).toOption.map Prod.snd
  | .intent => (a.decodeIntent job.payload).toOption.map Intent.target
  | .other _ => none

/-- The document a job applies and the object it describes, if the job is one that
applies a document. -/
def document (a : Applier) (job : Job) : Option (Except AgentError (ResourceId × Fields)) :=
  match job.kind with
  | .apply => some ((a.manifest job.payload).map fun doc => (idOf doc, doc))
  | .intent =>
      match a.decodeIntent job.payload with
      | .ok (.ensureInstance app) => some (.ok (instanceId (namespaceOf app) (nameOf app), app))
      | .ok (.requestOperation op) => some (.ok (operationId (namespaceOf op) (nameOf op), op))
      | .ok (.deleteInstance _ _) => none
      | .error e => some (.error e)
  | _ => none

inductive Applying (a : Applier) (job : Job) : Except AgentError (ResourceId × Fields) → Prop
  | manifest (hkind : job.kind = .apply) (doc : Fields) (hdoc : a.manifest job.payload = .ok doc) :
      Applying a job (.ok (idOf doc, doc))
  | ensureInstance (hkind : job.kind = .intent) (app : Fields)
      (happ : a.decodeIntent job.payload = .ok (.ensureInstance app)) :
      Applying a job (.ok (instanceId (namespaceOf app) (nameOf app), app))
  | requestOperation (hkind : job.kind = .intent) (op : Fields)
      (hop : a.decodeIntent job.payload = .ok (.requestOperation op)) :
      Applying a job (.ok (operationId (namespaceOf op) (nameOf op), op))
  | badManifest (hkind : job.kind = .apply) (e : AgentError)
      (he : a.manifest job.payload = .error e) : Applying a job (.error e)
  | badIntent (hkind : job.kind = .intent) (e : AgentError)
      (he : a.decodeIntent job.payload = .error e) : Applying a job (.error e)

theorem applying_of_document {a : Applier} {job : Job}
    {d : Except AgentError (ResourceId × Fields)} (h : a.document job = some d) :
    Applying a job d := by
  unfold document at h
  cases hkind : job.kind with
  | apply =>
    rw [hkind] at h
    obtain rfl := Option.some.inj h
    cases hdoc : a.manifest job.payload with
    | error e => exact .badManifest hkind e hdoc
    | ok doc => exact .manifest hkind doc hdoc
  | intent =>
    rw [hkind] at h
    dsimp only at h
    cases hintent : a.decodeIntent job.payload with
    | error e =>
      rw [hintent] at h
      obtain rfl := Option.some.inj h
      exact .badIntent hkind e hintent
    | ok intent =>
      rw [hintent] at h
      cases intent with
      | ensureInstance app =>
        obtain rfl := Option.some.inj h
        exact .ensureInstance hkind app hintent
      | requestOperation op =>
        obtain rfl := Option.some.inj h
        exact .requestOperation hkind op hintent
      | deleteInstance ns name => exact absurd h (by simp)
  | delete =>
    rw [hkind] at h
    exact absurd h (by simp)
  | other text =>
    rw [hkind] at h
    exact absurd h (by simp)

def IsNamespace (id : ResourceId) : Prop := id.kind = "Namespace"

def Near (target id : ResourceId) : Prop := id = target ∨ IsNamespace id

section actsOn

variable {target : ResourceId}

theorem actsOn_ensureTargetNamespace (ns : String) :
    ActsOn (Near target) (ensureTargetNamespace ns) := by
  unfold ensureTargetNamespace
  dsimp only
  split
  · exact .of_idle (Idle.pure _)
  · refine .bind (actsOn_getObject _).mapError fun found => ?_
    cases found with
    | some o => exact .of_idle (Idle.pure _)
    | none =>
      refine .bind ((actsOn_createObject _ _).mono ?_).attempt fun created => ?_
      · rintro id rfl
        exact .inr rfl
      · cases created with
        | ok u => exact .of_idle (Idle.pure _)
        | error e =>
          dsimp only
          split
          · exact .of_idle (Idle.pure _)
          · split
            · exact .of_idle (Idle.throw _)
            · exact .of_idle (Idle.throw _)

theorem actsOn_patchApply (doc : Fields) : ActsOn (Near target) (patchApply target doc) :=
  ((actsOn_applyObject target true fieldManager _).mono fun _ h => .inl h).mapError

theorem idle_getPresent (s : Site) (what : String) (id : ResourceId) :
    Idle (getPresent s what id) := by
  refine Idle.mapError (.bind (AgentM.idle_getObject id) fun found => ?_)
  cases found with
  | some o => exact Idle.pure _
  | none => exact Idle.throw _

theorem idle_waitForBSLAvailable (id : ResourceId) (expiresAt : Option ℕ) :
    Idle (waitForBSLAvailable id expiresAt) :=
  Idle.ask.bind fun _ => Idle.ofExcept _

theorem actsOn_delete {β : Type} (id : ResourceId) {f : Except AgentError Unit → AgentM β}
    (hf : ∀ r, Idle (f r)) :
    ActsOn (Near id) ((AgentM.deleteObject .delete id).attempt >>= f) :=
  .bind ((actsOn_deleteObject id).mono fun _ h => .inl h).attempt fun r => .of_idle (hf r)

theorem actsOn_realize (intent : Intent) : ActsOn (Near intent.target) (realize intent) := by
  cases intent with
  | ensureInstance app =>
    refine .bind (.bind (actsOn_ensureTargetNamespace _) fun _ => ?_) fun _ =>
      .bind (actsOn_patchApply app) fun _ =>
        .bind (.of_idle (idle_getPresent _ _ _)) fun _ => .of_idle (Idle.pure _)
    dsimp only
    split
    · exact actsOn_ensureTargetNamespace _
    · exact .of_idle (Idle.pure _)
  | requestOperation op =>
    exact .bind (actsOn_ensureTargetNamespace _) fun _ => .bind (actsOn_patchApply op) fun _ =>
      .bind (.of_idle (idle_getPresent _ _ _)) fun _ => .of_idle (Idle.pure _)
  | deleteInstance ns name =>
    refine .bind (actsOn_getObject _).mapError fun found => ?_
    cases found with
    | none => exact .of_idle (Idle.pure _)
    | some app =>
      refine actsOn_delete _ fun r => ?_
      cases r with
      | ok u => exact Idle.pure _
      | error e =>
        dsimp only
        split
        · exact Idle.pure _
        · exact Idle.throw _

theorem actsOn_carryOut (a : Applier) (job : Job) :
    ActsOn (fun id => a.targetId job = some id ∨ IsNamespace id) (a.carryOut job) := by
  have hnear : ∀ target, a.targetId job = some target → ∀ id, Near target id →
      a.targetId job = some id ∨ IsNamespace id := by
    rintro target htarget id (rfl | hns)
    · exact .inl htarget
    · exact .inr hns
  unfold carryOut
  cases hkind : job.kind with
  | apply =>
    refine .ofExcept_bind fun doc hdoc => ActsOn.mono ?_ (hnear (idOf doc) ?_)
    · refine .bind (actsOn_ensureTargetNamespace _) fun _ => .bind (actsOn_patchApply doc) fun _ =>
        .bind (.of_idle (idle_getPresent _ _ _)) fun latest => ?_
      split
      · exact .bind (.of_idle (idle_waitForBSLAvailable _ _)) fun _ => .of_idle (Idle.pure _)
      · exact .of_idle (Idle.pure _)
    · simp [targetId, hkind, hdoc, Except.toOption]
  | delete =>
    refine .ofExcept_bind fun (ref, id) href => ActsOn.mono ?_ (hnear id ?_)
    · refine actsOn_delete id fun r => ?_
      cases r with
      | ok u => exact Idle.pure _
      | error e =>
        dsimp only
        split
        · exact Idle.pure _
        · exact Idle.throw _
    · simp [targetId, hkind, href, Except.toOption]
  | intent =>
    refine .ofExcept_bind fun intent hintent => ActsOn.mono (actsOn_realize intent) (hnear _ ?_)
    simp [targetId, hkind, hintent, Except.toOption]
  | other text => exact .of_idle (Idle.throw _)

theorem not_actsOn_configMap {a : Applier} {job : Job} {store : IdempotencyStore}
    (htarget : a.targetId job ≠ some store.configMap) :
    ¬(a.targetId job = some store.configMap ∨ IsNamespace store.configMap) := by
  rintro (h | h)
  · exact htarget h
  · exact absurd h (by simp [IsNamespace, IdempotencyStore.configMap])

end actsOn

theorem result_carryOut_of_unreadable {a : Applier} {job : Job} {e : AgentError} {env : AgentEnv}
    {st : AgentState} (h : a.document job = some (.error e)) :
    ((a.carryOut job).run env st).result = .error e := by
  cases applying_of_document h with
  | badManifest hkind _ he =>
    simp only [carryOut, hkind, applyManifest, he]
    rfl
  | badIntent hkind _ he =>
    simp only [carryOut, hkind, applyIntent, he]
    rfl

section applyJob

variable {a : Applier} {job : Job} {env : AgentEnv} {st : AgentState} {store : IdempotencyStore}

theorem run_precheck_of_expired (hexp : isExpired job env.now = true) :
    (a.precheck job).run env st = ⟨.ok (some (expiredOutcome env.now)), st, []⟩ := by
  simp only [precheck, run_bind, run_ask, hexp, if_true]
  rfl

theorem run_precheck_of_blank (hexp : isExpired job env.now = false)
    (hkey : trimSpace job.idempotencyKey = "") :
    (a.precheck job).run env st = ⟨.ok none, st, []⟩ := by
  simp only [precheck, run_bind, run_ask, hexp, Bool.false_eq_true, if_false]
  split
  · rfl
  · cases a.idempotency with
    | none => rfl
    | some store =>
      simp only [run_bind, run_mapError, IdempotencyStore.run_contains_of_blank hkey]
      rfl

theorem run_precheck_of_key (hexp : isExpired job env.now = false)
    (hstore : a.idempotency = some store) (hkey : trimSpace job.idempotencyKey ≠ "") :
    (a.precheck job).run env st =
      match store.loaded env st with
      | .error e => ⟨.error (e.wrap "check idempotency key: "), st, []⟩
      | .ok keys =>
          ⟨.ok (if trimSpace job.idempotencyKey ∈ keys then some (replayOutcome env.now) else none),
            { st with cache := some keys }, []⟩ := by
  have hraw : job.idempotencyKey ≠ "" := fun h => hkey (by rw [h]; decide)
  simp only [precheck, run_bind, run_ask, hexp, Bool.false_eq_true, if_false, if_neg hraw, hstore,
    run_mapError]
  cases hloaded : store.loaded env st with
  | error e =>
    simp only [IdempotencyStore.run_contains_of_error hkey hloaded]
    rfl
  | ok keys =>
    simp only [IdempotencyStore.run_contains_of_ok hkey hloaded, Except.mapError]
    by_cases hmem : trimSpace job.idempotencyKey ∈ keys
    · simp only [hmem, decide_true, if_true]
      rfl
    · simp only [hmem, decide_false, Bool.false_eq_true, if_false]
      rfl

theorem precheck_frame (env : AgentEnv) (st : AgentState) (job : Job)
    (hstore : a.idempotency = some store) :
    ((a.precheck job).run env st).state.objects = st.objects ∧
      ((a.precheck job).run env st).trace = [] := by
  by_cases hexp : isExpired job env.now = true
  · rw [run_precheck_of_expired hexp]
    exact ⟨rfl, rfl⟩
  · rw [Bool.not_eq_true] at hexp
    by_cases hkey : trimSpace job.idempotencyKey = ""
    · rw [run_precheck_of_blank hexp hkey]
      exact ⟨rfl, rfl⟩
    · rw [run_precheck_of_key hexp hstore hkey]
      split <;> exact ⟨rfl, rfl⟩

theorem precheck_eq_some (hstore : a.idempotency = some store) {early : ApplyOutcome}
    (h : ((a.precheck job).run env st).result = .ok (some early)) :
    early = expiredOutcome env.now ∨
      early = replayOutcome env.now ∧
        ∃ keys, store.loaded env st = .ok keys ∧ trimSpace job.idempotencyKey ∈ keys := by
  by_cases hexp : isExpired job env.now = true
  · rw [run_precheck_of_expired hexp] at h
    exact .inl (Option.some.inj (Except.ok.inj h)).symm
  · rw [Bool.not_eq_true] at hexp
    by_cases hkey : trimSpace job.idempotencyKey = ""
    · rw [run_precheck_of_blank hexp hkey] at h
      exact absurd h (by simp)
    · rw [run_precheck_of_key hexp hstore hkey] at h
      cases hloaded : store.loaded env st with
      | error e =>
        rw [hloaded] at h
        exact absurd h (by simp)
      | ok keys =>
        rw [hloaded] at h
        dsimp only at h
        by_cases hmem : trimSpace job.idempotencyKey ∈ keys
        · rw [if_pos hmem, Except.ok.injEq, Option.some.injEq] at h
          exact .inr ⟨h.symm, keys, rfl, hmem⟩
        · rw [if_neg hmem, Except.ok.injEq] at h
          exact absurd h (by simp)

theorem precheck_eq_error (hstore : a.idempotency = some store) {e : AgentError}
    (h : ((a.precheck job).run env st).result = .error e) :
    ∃ e', store.loaded env st = .error e' ∧ e = e'.wrap "check idempotency key: " := by
  by_cases hexp : isExpired job env.now = true
  · rw [run_precheck_of_expired hexp] at h
    exact absurd h (by simp)
  · rw [Bool.not_eq_true] at hexp
    by_cases hkey : trimSpace job.idempotencyKey = ""
    · rw [run_precheck_of_blank hexp hkey] at h
      exact absurd h (by simp)
    · rw [run_precheck_of_key hexp hstore hkey] at h
      cases hloaded : store.loaded env st with
      | error e' =>
        rw [hloaded] at h
        exact ⟨e', rfl, (Except.error.inj h).symm⟩
      | ok keys =>
        rw [hloaded] at h
        exact absurd h (by simp)

/-- A job is taken up: it is not expired, and its key is blank or not among those that are
loaded. -/
def TakenUp (store : IdempotencyStore) (job : Job) (env : AgentEnv) (st : AgentState) : Prop :=
  isExpired job env.now = false ∧ (trimSpace job.idempotencyKey ≠ "" →
    ∃ keys, store.loaded env st = .ok keys ∧ trimSpace job.idempotencyKey ∉ keys)

theorem precheck_eq_none_iff (hstore : a.idempotency = some store) :
    ((a.precheck job).run env st).result = .ok none ↔ TakenUp store job env st := by
  unfold TakenUp
  by_cases hexp : isExpired job env.now = true
  · simp [run_precheck_of_expired hexp, hexp]
  · rw [Bool.not_eq_true] at hexp
    by_cases hkey : trimSpace job.idempotencyKey = ""
    · simp [run_precheck_of_blank hexp hkey, hexp, hkey]
    · rw [run_precheck_of_key hexp hstore hkey]
      cases hloaded : store.loaded env st with
      | error e => simp [hkey]
      | ok keys => simp [hexp, hkey]

theorem cache_of_taken_up (hstore : a.idempotency = some store)
    (hkey : trimSpace job.idempotencyKey ≠ "")
    (h : ((a.precheck job).run env st).result = .ok none) :
    ∃ keys, ((a.precheck job).run env st).state.cache = some keys := by
  by_cases hexp : isExpired job env.now = true
  · rw [run_precheck_of_expired hexp] at h
    exact absurd h (by simp)
  · rw [Bool.not_eq_true] at hexp
    rw [run_precheck_of_key hexp hstore hkey] at h ⊢
    cases hloaded : store.loaded env st with
    | error e' =>
      rw [hloaded] at h
      exact absurd h (by simp)
    | ok keys => exact ⟨keys, rfl⟩

theorem run_remember_of_blank (hkey : trimSpace job.idempotencyKey = "") :
    (a.remember job).run env st = ⟨.ok (), st, []⟩ := by
  unfold remember
  split
  · rfl
  · cases a.idempotency with
    | none => rfl
    | some store =>
      simp only [run_mapError, IdempotencyStore.run_record_of_blank hkey]
      rfl

theorem run_remember (hstore : a.idempotency = some store)
    (hkey : trimSpace job.idempotencyKey ≠ "") :
    (a.remember job).run env st =
      ((store.record job.idempotencyKey).mapError (·.wrap "record idempotency key: ")).run env
        st := by
  have hraw : job.idempotencyKey ≠ "" := fun h => hkey (by rw [h]; decide)
  simp only [remember, if_neg hraw, hstore]

theorem get_remember_of_ne (hstore : a.idempotency = some store) {id : ResourceId}
    (h : id ≠ store.configMap) :
    ((a.remember job).run env st).state.objects.get id = st.objects.get id := by
  by_cases hkey : trimSpace job.idempotencyKey = ""
  · rw [run_remember_of_blank hkey]
  · rw [run_remember hstore hkey, run_mapError]
    dsimp only
    rw [IdempotencyStore.get_record_of_ne h]

theorem run_applyJob_of_some {outcome : ApplyOutcome}
    (h : ((a.precheck job).run env st).result = .ok (some outcome)) :
    (a.applyJob job).run env st =
      ⟨.ok outcome, ((a.precheck job).run env st).state, ((a.precheck job).run env st).trace⟩ := by
  rw [applyJob, run_bind_of_ok h]
  simp [Outcome.after]

theorem run_applyJob_of_error {e : AgentError}
    (h : ((a.precheck job).run env st).result = .error e) :
    (a.applyJob job).run env st =
      ⟨.error e, ((a.precheck job).run env st).state, ((a.precheck job).run env st).trace⟩ := by
  rw [applyJob, run_bind_of_error h]

theorem applyJob_of_answered (hstore : a.idempotency = some store)
    (h : isExpired job env.now = true ∨ trimSpace job.idempotencyKey ≠ "" ∧
      ∀ keys, store.loaded env st = .ok keys → trimSpace job.idempotencyKey ∈ keys) :
    ((a.applyJob job).run env st).trace = [] ∧
      ((a.applyJob job).run env st).state.objects = st.objects := by
  obtain ⟨hobjects, htrace⟩ := precheck_frame env st job hstore
  have hanswered : ((a.precheck job).run env st).result ≠ .ok none := by
    by_cases hexp : isExpired job env.now = true
    · rw [run_precheck_of_expired hexp]
      simp
    · obtain ⟨hkey, hknown⟩ := h.resolve_left hexp
      rw [Bool.not_eq_true] at hexp
      rw [run_precheck_of_key hexp hstore hkey]
      cases hloaded : store.loaded env st with
      | error e => simp
      | ok keys => simp [hknown keys hloaded]
  cases hr : ((a.precheck job).run env st).result with
  | error e =>
    rw [run_applyJob_of_error hr]
    exact ⟨htrace, hobjects⟩
  | ok r =>
    cases r with
    | none => exact absurd hr hanswered
    | some outcome =>
      rw [run_applyJob_of_some hr]
      exact ⟨htrace, hobjects⟩

theorem applyJob_of_failed {e : AgentError}
    (hpre : ((a.precheck job).run env st).result = .ok none)
    (hact : ((a.carryOut job).run env ((a.precheck job).run env st).state).result = .error e) :
    ((a.applyJob job).run env st).result = .error e ∧
      ((a.applyJob job).run env st).state =
        ((a.carryOut job).run env ((a.precheck job).run env st).state).state := by
  rw [applyJob, run_bind_of_ok hpre, Outcome.result_after, Outcome.state_after,
    run_bind_of_error hact]
  exact ⟨rfl, rfl⟩

theorem applyJob_of_carried {ref : AppliedRef}
    (hpre : ((a.precheck job).run env st).result = .ok none)
    (hact : ((a.carryOut job).run env ((a.precheck job).run env st).state).result = .ok ref) :
    let o := (a.remember job).run env
      ((a.carryOut job).run env ((a.precheck job).run env st).state).state
    ((a.applyJob job).run env st).result = o.result.map (fun _ =>
        { result := { outcome := .succeeded, appliedRef := some ref, timestamp := env.now } }) ∧
      ((a.applyJob job).run env st).state = o.state := by
  intro o
  rw [applyJob, run_bind_of_ok hpre, Outcome.result_after, Outcome.state_after,
    run_bind_of_ok hact, Outcome.result_after, Outcome.state_after]
  cases hrem : o.result with
  | error e =>
    rw [run_bind_of_error hrem]
    exact ⟨rfl, rfl⟩
  | ok u =>
    rw [run_bind_of_ok hrem]
    exact ⟨rfl, rfl⟩

theorem get_applyJob_of_ne (hstore : a.idempotency = some store)
    (hpre : ((a.precheck job).run env st).result = .ok none) {id : ResourceId}
    (h : id ≠ store.configMap) :
    ((a.applyJob job).run env st).state.objects.get id =
      ((a.carryOut job).run env ((a.precheck job).run env st).state).state.objects.get id := by
  cases hact : ((a.carryOut job).run env ((a.precheck job).run env st).state).result with
  | error e => rw [(applyJob_of_failed hpre hact).2]
  | ok ref => rw [(applyJob_of_carried hpre hact).2, get_remember_of_ne hstore h]

theorem applyJob_invariant {I : AgentState → Prop}
    (hprecheck : ∀ st, I st → I ((a.precheck job).run env st).state)
    (hcarryOut : ∀ st, I st → I ((a.carryOut job).run env st).state)
    (hremember : ∀ st, I st → I ((a.remember job).run env st).state) (hst : I st) :
    I ((a.applyJob job).run env st).state := by
  have hchecked := hprecheck st hst
  cases hpre : ((a.precheck job).run env st).result with
  | error e =>
    rw [run_applyJob_of_error hpre]
    exact hchecked
  | ok answer =>
    cases answer with
    | some outcome =>
      rw [run_applyJob_of_some hpre]
      exact hchecked
    | none =>
      have hacted := hcarryOut _ hchecked
      cases hact : ((a.carryOut job).run env ((a.precheck job).run env st).state).result with
      | error e =>
        rw [(applyJob_of_failed hpre hact).2]
        exact hacted
      | ok ref =>
        rw [(applyJob_of_carried hpre hact).2]
        exact hremember _ hacted

theorem remember_of_applyJob {outcome : ApplyOutcome}
    (hpre : ((a.precheck job).run env st).result = .ok none)
    (h : ((a.applyJob job).run env st).result = .ok outcome) :
    outcome.idempotent = false ∧ ∃ st', ((a.remember job).run env st').result = .ok () ∧
      ((a.applyJob job).run env st).state = ((a.remember job).run env st').state := by
  cases hact : ((a.carryOut job).run env ((a.precheck job).run env st).state).result with
  | error e =>
    rw [(applyJob_of_failed hpre hact).1] at h
    exact absurd h (by simp)
  | ok ref =>
    obtain ⟨hresult, hstate⟩ := applyJob_of_carried hpre hact
    rw [hresult] at h
    cases hrem : ((a.remember job).run env
        ((a.carryOut job).run env ((a.precheck job).run env st).state).state).result with
    | error e =>
      rw [hrem] at h
      exact absurd h (by simp [Except.map])
    | ok u =>
      rw [hrem] at h
      obtain rfl := Except.ok.inj h
      exact ⟨rfl, _, hrem, hstate⟩

end applyJob

end Applier

end VWorkspace.Agent
