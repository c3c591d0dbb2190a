import VWorkspaceOperator.Cluster
import VWorkspaceOperator.Instance.Memory
import VWorkspaceOperator.Kit.Rules

/-!
# The cluster as the instance controller sees it

The instance controller keeps the Flux objects of an `ApplicationInstance`: the
`HelmRelease` and the source its chart comes from.  The releases are those the Helm
engine of the operation controller patches, so they live in the same `Workloads`; the
chart sources, and the Secrets and ConfigMaps that values come from, are read and
written by this controller alone.  For a native SeaweedFS workload it keeps a `Seaweed`
instead, and looks at the Service and the `S3Credentials` that others make for it.

The state of a program is the cluster together with what the operator has in memory.

As for the operation controller, `fault` names the error each call site gets in one
reconcile, and a failed call has no effect.
-/

namespace VWorkspace

open Kit

structure HelmReleaseRef where
  name : String
  ns : String
  deriving DecidableEq, Repr

structure EndpointStatus where
  name : String
  url : String
  type : String := ""
  notes : String := ""
  deriving DecidableEq, Repr

/-- `ApplicationInstanceStatus`; a chart snapshot has the fields of the chart. -/
structure ApplicationInstanceStatus where
  observedGeneration : ℕ := 0
  conditions : List Condition := []
  helmReleaseRef : Option HelmReleaseRef := none
  lastAppliedChart : Option ChartSpec := none
  lastReconcileTime : Option ℕ := none
  endpoints : List EndpointStatus := []
  deriving DecidableEq, Repr

/-- An `ApplicationInstance` with what its own controller reads and writes besides. -/
structure ManagedInstance extends ApplicationInstance where
  generation : ℕ := 1
  status : ApplicationInstanceStatus := {}
  deriving DecidableEq, Repr

instance : Keyed ManagedInstance ObjectKey := ⟨fun app => app.metadata.key⟩

structure DataObject where
  key : ObjectKey
  data : List (String × Bytes) := []

instance : Keyed DataObject ObjectKey := ⟨DataObject.key⟩

/-- The kinds of objects the controller keeps for an instance. -/
inductive OwnedKind where
  | helmRelease
  | helmRepository
  | ociRepository
  | seaweed
  deriving DecidableEq, Repr

def OwnedKind.text : OwnedKind → String
  | .helmRelease => "HelmRelease"
  | .helmRepository => "HelmRepository"
  | .ociRepository => "OCIRepository"
  | .seaweed => "Seaweed"

def OwnedKind.resource : OwnedKind → String
  | .helmRelease => "helmreleases.helm.toolkit.fluxcd.io"
  | .helmRepository => "helmrepositories.source.toolkit.fluxcd.io"
  | .ociRepository => "ocirepositories.source.toolkit.fluxcd.io"
  | .seaweed => "seaweeds.seaweed.seaweedfs.com"

structure InstanceCluster where
  instances : Store ManagedInstance
  workloads : Workloads
  helmRepositories : Store Unstructured := Store.empty
  ociRepositories : Store Unstructured := Store.empty
  seaweeds : Store Unstructured := Store.empty
  secrets : Store DataObject := Store.empty
  configMaps : Store DataObject := Store.empty
  s3Credentials : Store Unstructured := Store.empty
  /-- The places of the Services. -/
  services : List ObjectKey := []
  memory : OperatorMemory := {}

namespace InstanceCluster

def objects (c : InstanceCluster) : OwnedKind → Store Unstructured
  | .helmRelease => c.workloads.objects .helmRelease
  | .helmRepository => c.helmRepositories
  | .ociRepository => c.ociRepositories
  | .seaweed => c.seaweeds

def setObjects (c : InstanceCluster) (kind : OwnedKind) (s : Store Unstructured) : InstanceCluster :=
  match kind with
  | .helmRelease => { c with workloads := c.workloads.setObjects .helmRelease s }
  | .helmRepository => { c with helmRepositories := s }
  | .ociRepository => { c with ociRepositories := s }
  | .seaweed => { c with seaweeds := s }

abbrev releases (c : InstanceCluster) : Store Unstructured := c.objects .helmRelease

variable {c : InstanceCluster} {kind : OwnedKind} {s : Store Unstructured}

@[simp] theorem objects_setObjects_self : (c.setObjects kind s).objects kind = s := by
  cases kind with
  | helmRelease => exact Workloads.objects_setObjects_self _ _ _
  | helmRepository | ociRepository | seaweed => rfl

theorem objects_setObjects_of_ne {kind' : OwnedKind} (h : kind' ≠ kind) :
    (c.setObjects kind s).objects kind' = c.objects kind' := by
  cases kind <;> cases kind' <;> first | exact absurd rfl h | rfl

@[simp] theorem secrets_setObjects : (c.setObjects kind s).secrets = c.secrets := by
  cases kind <;> rfl

@[simp] theorem configMaps_setObjects : (c.setObjects kind s).configMaps = c.configMaps := by
  cases kind <;> rfl

def withoutObjects (c : InstanceCluster) : InstanceCluster :=
  { c with
    workloads := Workloads.empty
    helmRepositories := Store.empty
    ociRepositories := Store.empty
    seaweeds := Store.empty }

@[simp] theorem withoutObjects_setObjects :
    (c.setObjects kind s).withoutObjects = c.withoutObjects := by
  cases kind <;> rfl

def withMemory (c : InstanceCluster) (f : OperatorMemory → OperatorMemory) : InstanceCluster :=
  { c with memory := f c.memory }

end InstanceCluster

/-- The patches of the annotations by which the delivery of events is recorded. -/
inductive PatchSite where
  | claim
  | staleClaim
  | unsentClaim
  | posted
  | endpointsAck
  | failedPosted
  | failedAck
  /-- The attempts of the acknowledgement of managed storage. -/
  | ack (attempt : ℕ)
  /-- The marker of an acknowledgement that has to be tried again. -/
  | retry
  /-- The removal of a marker. -/
  | clear (name : String)
  deriving DecidableEq, Repr

/-- The API call sites of the instance controller.  In one reconcile each of them is
reached at most once; the hooks of the batcher number those of each event they look at. -/
inductive InstanceSite where
  | getInstance
  | addFinalizer
  | removeFinalizer
  | updateBlocked
  | updatePlaceholder
  | updateEnsureFailed
  | updateReconciled
  | updateDeleting
  | updateDeletingBlocked
  | get (kind : OwnedKind)
  | create (kind : OwnedKind)
  | update (kind : OwnedKind)
  | delete (kind : OwnedKind)
  | syncStatus
  /-- The look for a legacy release, before and after a deletion. -/
  | releaseExists (again : Bool)
  | seaweedExists
  | syncSeaweed
  | getService
  | getSecret
  | getConfigMap
  | listCredentials
  | getCredentialSecret (i : ℕ)
  | readForPatch (event : ℕ) (s : PatchSite)
  | patch (event : ℕ) (s : PatchSite)
  deriving DecidableEq, Repr

/-- What a reconcile of an instance depends on besides the cluster. -/
structure InstanceEnv where
  /-- The clock, in seconds. -/
  now : ℕ
  /-- The error a call site gets, if it fails. -/
  fault : InstanceSite → Option String := fun _ => none
  /-- Whether that error is a conflict. -/
  conflict : InstanceSite → Bool := fun _ => false
  /-- Whether the API server takes new finalizers for an object that is being deleted. -/
  takesFinalizers : Bool := false

inductive InstanceEvent where
  /-- A status update took effect; the instance as it is now stored. -/
  | statusWritten (app : ManagedInstance)
  /-- An update of the metadata took effect. -/
  | metadataWritten (app : ManagedInstance)
  /-- The instance left the store with its last finalizer. -/
  | removed (k : ObjectKey)
  /-- The conditions of an instance were reported, against those before. -/
  | reported (app : ManagedInstance) (prev : List Condition)
  /-- The annotations of an instance were patched. -/
  | patched (app : ManagedInstance)
  | created (kind : OwnedKind) (o : Unstructured)
  | updated (kind : OwnedKind) (o : Unstructured)
  | deleted (kind : OwnedKind) (k : ObjectKey)

def InstanceEvent.ofObject : InstanceEvent → Bool
  | .created _ _ | .updated _ _ | .deleted _ _ => true
  | .statusWritten _ | .metadataWritten _ | .removed _ | .reported _ _ | .patched _ => false

abbrev InstanceM := Prog InstanceEnv InstanceCluster InstanceEvent GoError

namespace InstanceM

/-- An API call that does nothing yet: it fails if its site does. -/
def call (s : InstanceSite) : InstanceM Unit where
  run env c :=
    match env.fault s with
    | none => ⟨.ok (), c, []⟩
    | some msg => ⟨.error { msg }, c, []⟩

def now : InstanceM ℕ := do
  let env ← Prog.ask
  pure env.now

def read {α : Type} (s : InstanceSite) (f : InstanceCluster → α) : InstanceM α := do
  call s
  let c ← Prog.get
  pure (f c)

theorem run_read_eq {α : Type} (s : InstanceSite) (f : InstanceCluster → α) (env : InstanceEnv)
    (c : InstanceCluster) :
    (read s f).run env c = ⟨match env.fault s with
      | none => .ok (f c)
      | some msg => .error { msg }, c, []⟩ := by
  unfold read call
  simp only [Prog.run_bind]
  cases env.fault s with
  | none => rfl
  | some msg => rfl

def getInstance (k : ObjectKey) : InstanceM (Option ManagedInstance) :=
  read .getInstance fun c => c.instances.get k

/-- `Status().Update`: write the status of `app` and nothing else. -/
def updateStatus (s : InstanceSite) (app : ManagedInstance) : InstanceM Unit := do
  call s
  let c ← Prog.get
  match c.instances.get app.metadata.key with
  | none => Prog.throw (notFound "applicationinstances.apps.vworkspace.io" app.metadata.name)
  | some stored =>
      let app' := { stored with status := app.status }
      Prog.write (fun c => { c with instances := c.instances.put app' }) (.statusWritten app')

/-- What an update makes of what is stored: the status is a subresource and stays, and a change
of the spec is a new generation. -/
def updated (app stored : ManagedInstance) : ManagedInstance where
  metadata := app.metadata
  spec := app.spec
  generation := if app.spec = stored.spec then stored.generation else stored.generation + 1
  status := stored.status

theorem updated_of_spec {app stored : ManagedInstance} (metadata : ObjectMeta)
    (h : app.spec = stored.spec) :
    updated { app with metadata } stored = { stored with metadata } := by
  rw [updated, if_pos h, ← h]

/-- `Update` of the whole instance. -/
def updateMetadata (s : InstanceSite) (app : ManagedInstance) : InstanceM Unit := do
  call s
  let env ← Prog.ask
  let c ← Prog.get
  match c.instances.get app.metadata.key with
  | none => Prog.throw (notFound "applicationinstances.apps.vworkspace.io" app.metadata.name)
  | some stored =>
      match answerUpdate env.takesFinalizers stored.metadata app.metadata with
      | .refused err => Prog.throw err
      | .removed =>
          Prog.write (fun c => { c with instances := c.instances.erase app.metadata.key })
            (.removed app.metadata.key)
      | .stored =>
          let app' := updated app stored
          Prog.write (fun c => { c with instances := c.instances.put app' }) (.metadataWritten app')

def instanceRef (app : ManagedInstance) : Agent.AppliedRef :=
  Agent.resourceRefFromMeta appsGroupVersion "ApplicationInstance" app.metadata app.generation

def reportConditions (app : ManagedInstance) (prev : List Condition) : InstanceM Unit := do
  let t ← now
  Prog.write (fun c => c.withMemory fun m =>
      m.reportConditionTransitions t (instanceRef app) prev app.status.conditions)
    (.reported app prev)

def createObject (kind : OwnedKind) (o : Unstructured) : InstanceM Unit := do
  call (.create kind)
  let c ← Prog.get
  if ((c.objects kind).get o.metadata.key).isSome then
    Prog.throw (alreadyExists kind.resource o.metadata.name)
  else
    Prog.write (fun c => c.setObjects kind ((c.objects kind).put o)) (.created kind o)

def updateObject (kind : OwnedKind) (o : Unstructured) : InstanceM Unit := do
  call (.update kind)
  let c ← Prog.get
  if ((c.objects kind).get o.metadata.key).isSome then
    Prog.write (fun c => c.setObjects kind ((c.objects kind).put o)) (.updated kind o)
  else
    Prog.throw (notFound kind.resource o.metadata.name)

/-- `Delete` of an object of the instance; "not found" is ignored. -/
def deleteObject (kind : OwnedKind) (k : ObjectKey) : InstanceM Unit := do
  call (.delete kind)
  let c ← Prog.get
  if ((c.objects kind).get k).isSome then
    Prog.write (fun c => c.setObjects kind ((c.objects kind).erase k)) (.deleted kind k)
  else pure ()

/-- `controllerutil.CreateOrUpdate`, with a mutation that may make calls of its own. -/
def createOrUpdate (kind : OwnedKind) (k : ObjectKey)
    (mutate : Unstructured → InstanceM Unstructured) : InstanceM Unit := do
  match ← read (.get kind) fun c => (c.objects kind).get k with
  | none =>
      let o ← mutate { metadata := { ns := k.ns, name := k.name } }
      createObject kind o
  | some o =>
      let o' ← mutate o
      if o' = o then pure () else updateObject kind o'

section keeps

open Prog

variable {env : InstanceEnv} {P : InstanceCluster → Prop} {k : ObjectKey}

theorem idle_call (s : InstanceSite) : Idle (call s) := by
  intro env c
  simp only [call]
  cases env.fault s <;> exact ⟨rfl, rfl⟩

theorem idle_now : Idle now := .bind .ask fun _ => .pure _

theorem idle_read {α : Type} (s : InstanceSite) (f : InstanceCluster → α) : Idle (read s f) :=
  .bind (idle_call s) fun _ => .bind .get fun _ => .pure _

theorem triple_read {α : Type} {E : InstanceEvent → Prop} (s : InstanceSite)
    (f : InstanceCluster → α) : Triple env P (read s f) E (fun a c => P c ∧ a = f c) :=
  .bind (idle_call s).triple fun _ =>
    .bind (.get (Q := fun c' c => P c ∧ c' = c) fun _ h => ⟨h, rfl⟩) fun _ =>
      .pure fun _ h => ⟨h.1, h.2 ▸ rfl⟩

theorem eq_of_read {α : Type} {s : InstanceSite} {f : InstanceCluster → α} {c : InstanceCluster}
    {a : α} (h : ((read s f).run env c).result = .ok a) : a = f c := by
  cases hcall : ((call s).run env c).result with
  | error e =>
    rw [read, run_bind_of_error hcall] at h
    exact absurd h (by simp)
  | ok u =>
    rw [read, run_bind_of_ok hcall, (idle_call s env c).1] at h
    exact (Except.ok.inj h).symm

theorem keeps_updateStatus (s : InstanceSite) (app : ManagedInstance)
    (h : ∀ c stored st, c.instances.get app.metadata.key = some stored → P c →
      P { c with instances := c.instances.put { stored with status := st } }) :
    Keeps env P (updateStatus s app) := by
  intro c hc
  refine Idle.state_bind (idle_call s) hc fun _ _ => Idle.state_bind .get hc fun c' hc' => ?_
  obtain rfl : c = c' := Except.ok.inj hc'
  cases hget : c.instances.get app.metadata.key with
  | none => exact hc
  | some stored => exact h c stored app.status hget hc

theorem run_updateMetadata (env : InstanceEnv) (s : InstanceSite) (app : ManagedInstance)
    (c : InstanceCluster) :
    (∃ e, (updateMetadata s app).run env c = ⟨.error e, c, []⟩) ∨
      ∃ stored, c.instances.get app.metadata.key = some stored ∧
        ((updateMetadata s app).run env c =
            ⟨.ok (), { c with instances := c.instances.put (updated app stored) },
              [.metadataWritten (updated app stored)]⟩ ∨
          app.metadata.finalizers = [] ∧ (updateMetadata s app).run env c =
            ⟨.ok (), { c with instances := c.instances.erase app.metadata.key },
              [.removed app.metadata.key]⟩) := by
  unfold updateMetadata call
  simp only [run_bind]
  cases env.fault s with
  | some msg => exact .inl ⟨_, rfl⟩
  | none =>
    simp only [run_ask, run_get, Outcome.after, List.nil_append]
    cases hget : c.instances.get app.metadata.key with
    | none => exact .inl ⟨_, rfl⟩
    | some stored =>
      simp only
      cases hanswer : answerUpdate env.takesFinalizers stored.metadata app.metadata with
      | refused err => exact .inl ⟨err, rfl⟩
      | removed => exact .inr ⟨stored, rfl, .inr ⟨(of_answerUpdate_removed hanswer).2, rfl⟩⟩
      | stored => exact .inr ⟨stored, rfl, .inl rfl⟩

theorem state_updateMetadata {s : InstanceSite} {app stored : ManagedInstance} {c : InstanceCluster}
    (hget : c.instances.get app.metadata.key = some stored) (hc : P c)
    (hput : P { c with instances := c.instances.put (updated app stored) })
    (herase : app.metadata.finalizers = [] →
      P { c with instances := c.instances.erase app.metadata.key }) :
    P ((updateMetadata s app).run env c).state := by
  rcases run_updateMetadata env s app c with
    ⟨e, hrun⟩ | ⟨stored', hget', hrun | ⟨hnone, hrun⟩⟩
  · rw [hrun]; exact hc
  · obtain rfl : stored = stored' := Option.some.inj (hget.symm.trans hget')
    rw [hrun]; exact hput
  · rw [hrun]; exact herase hnone

theorem keeps_updateMetadata (s : InstanceSite) (app : ManagedInstance)
    (hput : ∀ c stored, c.instances.get app.metadata.key = some stored → P c →
      P { c with instances := c.instances.put (updated app stored) })
    (herase : ∀ c, P c → P { c with instances := c.instances.erase app.metadata.key }) :
    Keeps env P (updateMetadata s app) := by
  intro c hc
  rcases run_updateMetadata env s app c with
    ⟨e, hrun⟩ | ⟨stored, hget, hrun | ⟨-, hrun⟩⟩
  · rw [hrun]; exact hc
  · rw [hrun]; exact hput c stored hget hc
  · rw [hrun]; exact herase c hc

/-- What is kept by the status updates of an instance and by the reports about it. -/
structure StatusClosed (P : InstanceCluster → Prop) : Prop where
  status : ∀ c k stored st, c.instances.get k = some stored → P c →
    P { c with instances := c.instances.put { stored with status := st } }
  report : ∀ c t ref prev next, P c →
    P (c.withMemory fun m => m.reportConditionTransitions t ref prev next)

/-- What is kept by the status updates of the instance under a key and by reports. -/
structure StatusClosedAt (k : ObjectKey) (P : InstanceCluster → Prop) : Prop where
  status : ∀ c stored st, c.instances.get k = some stored → P c →
    P { c with instances := c.instances.put { stored with status := st } }
  report : ∀ c t ref prev next, P c →
    P (c.withMemory fun m => m.reportConditionTransitions t ref prev next)

theorem StatusClosed.at (h : StatusClosed P) (k : ObjectKey) : StatusClosedAt k P :=
  ⟨fun c stored st => h.status c k stored st, h.report⟩

theorem StatusClosed.of_objects (hinstances : ∀ c instances, P c → P { c with instances })
    (hmemory : ∀ c f, P c → P (c.withMemory f)) : StatusClosed P :=
  ⟨fun c _ _ _ _ hc => hinstances c _ hc, fun c _ _ _ _ hc => hmemory c _ hc⟩

theorem keeps_reportConditions (hP : StatusClosedAt k P) (app : ManagedInstance)
    (prev : List Condition) : Keeps env P (reportConditions app prev) :=
  .bind (.of_idle idle_now) fun _ => .write fun c hc => hP.report c _ _ _ _ hc

theorem keeps_updateStatus_report {α : Type} (hP : StatusClosedAt k P) {s : InstanceSite}
    {app : ManagedInstance} (hkey : app.metadata.key = k) (f : GoError → GoError)
    (prev : List Condition) {x : InstanceM α} (hx : Keeps env P x) :
    Keeps env P (do
      (updateStatus s app).mapError f
      reportConditions app prev
      x) :=
  .bind (.mapError (keeps_updateStatus s app fun c stored st hget =>
      hP.status c stored st (hkey ▸ hget))) fun _ =>
    .bind (keeps_reportConditions hP app prev) fun _ => hx

theorem keeps_createObject {kind : OwnedKind} {o : Unstructured}
    (h : ∀ c, P c → P (c.setObjects kind ((c.objects kind).put o))) :
    Keeps env P (createObject kind o) := by
  refine .bind (.of_idle (idle_call _)) fun _ => .bind (.of_idle .get) fun c => ?_
  split
  · exact .of_idle (.throw _)
  · exact .write h

theorem keeps_updateObject {kind : OwnedKind} {o : Unstructured}
    (h : ∀ c, P c → P (c.setObjects kind ((c.objects kind).put o))) :
    Keeps env P (updateObject kind o) := by
  refine .bind (.of_idle (idle_call _)) fun _ => .bind (.of_idle .get) fun c => ?_
  split
  · exact .write h
  · exact .of_idle (.throw _)

theorem keeps_deleteObject {kind : OwnedKind}
    (h : ∀ c, P c → P (c.setObjects kind ((c.objects kind).erase k))) :
    Keeps env P (deleteObject kind k) := by
  refine .bind (.of_idle (idle_call _)) fun _ => .bind (.of_idle .get) fun c => ?_
  split
  · exact .write h
  · exact .of_idle (.pure _)

/-- The object a create-or-update mutates: the one at the place, or a new one. -/
def mutated (c : InstanceCluster) (kind : OwnedKind) (k : ObjectKey) : Unstructured :=
  ((c.objects kind).get k).getD { metadata := { ns := k.ns, name := k.name } }

theorem key_mutated (c : InstanceCluster) (kind : OwnedKind) (k : ObjectKey) :
    (mutated c kind k).metadata.key = k := by
  unfold mutated
  cases hget : (c.objects kind).get k with
  | none => rfl
  | some o => exact Store.key_of_get hget

theorem keeps_createOrUpdate {kind : OwnedKind} {mutate : Unstructured → InstanceM Unstructured}
    (hidle : ∀ o, Idle (mutate o))
    (h : ∀ c o, P c → ((mutate (mutated c kind k)).run env c).result = .ok o →
      ∀ c', P c' → P (c'.setObjects kind ((c'.objects kind).put o))) :
    Keeps env P (createOrUpdate kind k mutate) := by
  intro c hc
  refine Idle.state_bind (idle_read _ _) hc fun found hfound => ?_
  obtain rfl := eq_of_read hfound
  have hmutate := h c
  unfold mutated at hmutate
  cases hget : (c.objects kind).get k with
  | none =>
    rw [hget] at hmutate
    exact Idle.state_bind (hidle _) hc fun o ho =>
      keeps_createObject (hmutate o hc ho) c hc
  | some o =>
    rw [hget] at hmutate
    refine Idle.state_bind (hidle _) hc fun o' ho' => ?_
    split
    · exact hc
    · exact keeps_updateObject (hmutate o' hc ho') c hc

end keeps

section apart

open Prog

variable {α β : Type} {env : InstanceEnv} {x : InstanceM α}

/-- The program writes nothing but objects of the instances. -/
def Apart (x : InstanceM α) : Prop :=
  ∀ env c, (x.run env c).state.withoutObjects = c.withoutObjects ∧
    ∀ e ∈ (x.run env c).trace, e.ofObject = true

theorem Apart.of_idle (h : Idle x) : Apart x := by
  intro env c
  rw [(h env c).1, (h env c).2]
  exact ⟨rfl, fun _ he => absurd he List.not_mem_nil⟩

theorem Apart.bind {f : α → InstanceM β} (hx : Apart x) (hf : ∀ a, Apart (f a)) :
    Apart (x >>= f) := by
  intro env c
  obtain ⟨hstate, htrace⟩ := hx env c
  cases h : (x.run env c).result with
  | error err => rw [run_bind_of_error h]; exact ⟨hstate, htrace⟩
  | ok a =>
    obtain ⟨hstate', htrace'⟩ := hf a env (x.run env c).state
    rw [run_bind_of_ok h]
    refine ⟨hstate'.trans hstate, fun e he => ?_⟩
    rcases List.mem_append.mp he with he | he
    · exact htrace e he
    · exact htrace' e he

theorem Apart.mapError {f : GoError → GoError} (hx : Apart x) : Apart (x.mapError f) := hx

theorem Apart.keeps {P : InstanceCluster → Prop} (hx : Apart x)
    (hP : ∀ c c', c'.withoutObjects = c.withoutObjects → P c → P c') : Keeps env P x :=
  fun c hc => hP c _ (hx env c).1 hc

theorem apart_createObject (kind : OwnedKind) (o : Unstructured) : Apart (createObject kind o) := by
  refine .bind (.of_idle (idle_call _)) fun _ => .bind (.of_idle .get) fun c => ?_
  split
  · exact .of_idle (.throw _)
  · exact fun env c => ⟨InstanceCluster.withoutObjects_setObjects, by simp [InstanceEvent.ofObject]⟩

theorem apart_updateObject (kind : OwnedKind) (o : Unstructured) : Apart (updateObject kind o) := by
  refine .bind (.of_idle (idle_call _)) fun _ => .bind (.of_idle .get) fun c => ?_
  split
  · exact fun env c => ⟨InstanceCluster.withoutObjects_setObjects, by simp [InstanceEvent.ofObject]⟩
  · exact .of_idle (.throw _)

theorem apart_deleteObject (kind : OwnedKind) (k : ObjectKey) : Apart (deleteObject kind k) := by
  refine .bind (.of_idle (idle_call _)) fun _ => .bind (.of_idle .get) fun c => ?_
  split
  · exact fun env c => ⟨InstanceCluster.withoutObjects_setObjects, by simp [InstanceEvent.ofObject]⟩
  · exact .of_idle (.pure _)

theorem apart_createOrUpdate {kind : OwnedKind} {mutate : Unstructured → InstanceM Unstructured}
    (hidle : ∀ o, Idle (mutate o)) : Apart (createOrUpdate kind k mutate) := by
  refine .bind (.of_idle (idle_read _ _)) fun found => ?_
  cases found with
  | none => exact .bind (.of_idle (hidle _)) fun o => apart_createObject kind o
  | some o =>
    refine .bind (.of_idle (hidle _)) fun o' => ?_
    split
    · exact .of_idle (.pure _)
    · exact apart_updateObject kind o'

end apart

end InstanceM

end VWorkspace
