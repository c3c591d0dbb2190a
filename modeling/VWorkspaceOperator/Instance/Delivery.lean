import VWorkspaceOperator.Instance.Licences

/-!
# The delivery of events

The reconciles of instances, the goroutine that flushes the batcher and the hooks the instance
controller has put into the flush share the memory of the operator and the instances.  Here
they are one machine: a reconcile is a step, and so is each step of a flush with the hook that
runs in it.  Other controllers report through the same batcher, others change the cluster, the
runtime sets the client, and the operator is restarted, which loses its memory.  A reconcile or
a hook that a restart interrupts leaves what it leaves when its remaining calls fail.
-/

namespace VWorkspace

open Kit Prog InstanceM

def Agent.FlushPhase.batch : Agent.FlushPhase → List Agent.Event
  | .extracted batch | .tested batch | .prepared batch | .failed batch | .aborted batch
  | .delivered batch | .crashed batch => batch
  | .idle | .acknowledged => []

/-- The batch that is being posted: the hook before the post has run, and none that follows. -/
def Agent.FlushPhase.posting : Agent.FlushPhase → List Agent.Event
  | .prepared batch | .failed batch | .delivered batch | .crashed batch => batch
  | .idle | .extracted _ | .tested _ | .aborted _ | .acknowledged => []

theorem Agent.FlushPhase.posting_subset (phase : Agent.FlushPhase) :
    phase.posting ⊆ phase.batch := by
  cases phase <;> first | exact List.Subset.refl _ | exact List.nil_subset _

def Agent.FlushPhase.isCrashed : Agent.FlushPhase → Bool
  | .crashed _ => true
  | _ => false

def OperatorMemory.restarted (m : OperatorMemory) : OperatorMemory where
  reporting := m.reporting
  batcher := { maxBatch := m.batcher.maxBatch, maxBuffer := m.batcher.maxBuffer }

/-- The cluster with the memory of the operator, the goroutine that flushes, and what the control
plane has accepted. -/
structure DeliveryWorld where
  cluster : InstanceCluster
  client : Option Agent.HTTPClient := none
  phase : Agent.FlushPhase := .idle
  accepted : List Agent.Event := []

inductive DeliveryStep where
  | reconcile (env : InstanceEnv) (k : ObjectKey)
  /-- One step of the flush, with the hook that runs in it; a post is accepted or not. -/
  | flush (env : InstanceEnv) (accepts : Bool)
  /-- The runtime writes the client. -/
  | setClient (client : Option Agent.HTTPClient)
  /-- Another controller reports conditions. -/
  | report (now : ℕ) (ref : Agent.AppliedRef) (prev next : List Condition)
  /-- The cluster controller reports that it has rotated its credentials. -/
  | rotated (now : ℕ) (ref : Agent.AppliedRef) (condition : Condition)
  | restart
  /-- Others change the cluster. -/
  | outside (c : InstanceCluster)

def DeliveryStep.inProcess : DeliveryStep → Bool
  | .restart | .outside _ => false
  | _ => true

namespace DeliveryWorld

/-- The events in the buffer and in the batch of the flush. -/
def held (w : DeliveryWorld) : List Agent.Event :=
  w.cluster.memory.batcher.events ++ w.phase.batch

def flusher (w : DeliveryWorld) : Agent.Flusher where
  batcher := w.cluster.memory.batcher
  client := w.client
  phase := w.phase
  accepted := w.accepted

variable (r : InstanceController)

/-- The hook of the controller that runs in a step of the flush. -/
def hook (env : InstanceEnv) (phase : Agent.FlushPhase) (c : InstanceCluster) : InstanceCluster :=
  match phase with
  | .tested batch => c.withMemory fun m =>
      { m with delivery := InstanceController.prepareManagedStoragePost batch m.delivery }
  | .failed batch => c.withMemory fun m =>
      { m with delivery := InstanceController.abortManagedStoragePost batch m.delivery }
  | .delivered batch => ((r.ackManagedStorageDelivered 0 batch).run env c).state
  | _ => c

def flushed (env : InstanceEnv) (accepts : Bool) (w : DeliveryWorld) : DeliveryWorld :=
  let f := w.flusher.advance accepts
  { cluster := (hook r env w.phase w.cluster).withMemory fun m => { m with batcher := f.batcher }
    client := f.client
    phase := f.phase
    accepted := f.accepted }

def act (w : DeliveryWorld) : DeliveryStep → DeliveryWorld
  | .reconcile env k => { w with cluster := ((r.reconcile k).run env w.cluster).state }
  | .flush env accepts => w.flushed r env accepts
  | .setClient client => { w with client }
  | .report now ref prev next => { w with
      cluster := w.cluster.withMemory fun m => m.reportConditionTransitions now ref prev next }
  | .rotated now ref condition => { w with
      cluster := w.cluster.withMemory fun m =>
        m.reportAudit now ref "CredentialRotated" [condition] "" }
  | .restart => { w with
      cluster := w.cluster.withMemory OperatorMemory.restarted
      client := none
      phase := .idle }
  | .outside c => { w with cluster := { c with memory := w.cluster.memory } }

/-- What a step leaves; a process that is gone takes no step until it is restarted. -/
def step (w : DeliveryWorld) (a : DeliveryStep) : DeliveryWorld :=
  if w.phase.isCrashed && a.inProcess then w else w.act r a

def plainLicence : Licence where
  acks _ _ := False
  posts _ _ := False
  endpoints _ _ := False
  retries _ := False
  removes _ := False
  sends _ e := Plain e

inductive Next (w : DeliveryWorld) : DeliveryStep → DeliveryWorld → Prop
  /-- The process is gone, or there is nothing to flush. -/
  | stay (a : DeliveryStep) : Next w a w
  | reconcile {env : InstanceEnv} {k : ObjectKey} {c : InstanceCluster}
      (h : Moves (r.reconcileLicence w.cluster k) w.cluster c) :
      Next w (.reconcile env k) { w with cluster := c }
  | reported {a : DeliveryStep} {c : InstanceCluster} (h : Moves plainLicence w.cluster c) :
      Next w a { w with cluster := c }
  | client {client : Option Agent.HTTPClient} : Next w (.setClient client) { w with client }
  /-- The flush changes the buffer, or what it knows of its client. -/
  | handled {env : InstanceEnv} {accepts : Bool} {b : Agent.EventBatcher} {phase : Agent.FlushPhase}
      (hheld : List.Subperm (b.events ++ phase.batch) w.held) (hbefore : w.phase.posting = [])
      (hafter : phase.posting = []) :
      Next w (.flush env accepts)
        { w with cluster := w.cluster.withMemory fun m => { m with batcher := b }, phase }
  | prepared {env : InstanceEnv} {accepts : Bool} {batch : List Agent.Event}
      (h : w.phase = .tested batch) :
      Next w (.flush env accepts) { w with
        cluster := w.cluster.withMemory fun m =>
          { m with delivery := InstanceController.prepareManagedStoragePost batch m.delivery }
        phase := .prepared batch }
  | posted {env : InstanceEnv} {accepts : Bool} {batch : List Agent.Event}
      (h : w.phase = .prepared batch) :
      Next w (.flush env accepts)
        { w with phase := .delivered batch, accepted := w.accepted ++ batch }
  | failed {env : InstanceEnv} {accepts : Bool} {batch : List Agent.Event} {phase : Agent.FlushPhase}
      (h : w.phase = .prepared batch) (hphase : phase = .failed batch ∨ phase = .crashed batch) :
      Next w (.flush env accepts) { w with phase }
  | aborted {env : InstanceEnv} {accepts : Bool} {batch : List Agent.Event}
      (h : w.phase = .failed batch) :
      Next w (.flush env accepts) { w with
        cluster := w.cluster.withMemory fun m =>
          { m with delivery := InstanceController.abortManagedStoragePost batch m.delivery }
        phase := .aborted batch }
  | acknowledged {env : InstanceEnv} {accepts : Bool} {batch : List Agent.Event}
      (h : w.phase = .delivered batch) :
      Next w (.flush env accepts) { w with
        cluster := ((r.ackManagedStorageDelivered 0 batch).run env w.cluster).state
        phase := .acknowledged }
  | restart : Next w .restart { w with
      cluster := w.cluster.withMemory OperatorMemory.restarted
      client := none
      phase := .idle }
  | outside (c : InstanceCluster) :
      Next w (.outside c) { w with cluster := { c with memory := w.cluster.memory } }

variable {r}

theorem batcher_ackManagedStorageDelivered (env : InstanceEnv) (batch : List Agent.Event)
    (c : InstanceCluster) :
    ((r.ackManagedStorageDelivered 0 batch).run env c).state.memory.batcher = c.memory.batcher := by
  have hmoves : Moves (deliveryLicence batch) c
      ((r.ackManagedStorageDelivered 0 batch).run env c).state :=
    InstanceController.licensed_ackManagedStorageDelivered 0 (List.Subset.refl _) env c
  exact hmoves.batcher fun _ _ => id

theorem next_flushed (w : DeliveryWorld) (env : InstanceEnv) (accepts : Bool) :
    Next r w (.flush env accepts) (w.flushed r env accepts) := by
  obtain ⟨c, client, phase, accepted⟩ := w
  cases phase with
  | idle =>
    cases hextract : c.memory.batcher.extract with
    | none =>
      have hstay : flushed r env accepts ⟨c, client, .idle, accepted⟩ = ⟨c, client, .idle, accepted⟩ := by
        simp [flushed, flusher, hook, Agent.Flusher.advance, hextract, InstanceCluster.withMemory]
      rw [hstay]
      exact .stay _
    | some found =>
      obtain ⟨batch, b⟩ := found
      obtain ⟨-, hsplit, -⟩ := Agent.EventBatcher.of_extract hextract
      have hflushed : flushed r env accepts ⟨c, client, .idle, accepted⟩ =
          ⟨c.withMemory fun m => { m with batcher := b }, client, .extracted batch, accepted⟩ := by
        simp [flushed, flusher, hook, Agent.Flusher.advance, hextract]
      rw [hflushed]
      refine .handled ?_ rfl rfl
      rw [held, ← hsplit]
      exact (List.perm_append_comm.trans (List.append_nil _ ▸ List.Perm.refl _)).subperm
  | extracted batch =>
    cases client with
    | none =>
      have hlost : (c.memory.batcher.events ++ []).Sublist (c.memory.batcher.events ++ batch) :=
        (List.nil_sublist batch).append_left _
      exact .handled hlost.subperm rfl rfl
    | some client => exact .handled (List.Subperm.refl _) rfl rfl
  | tested batch => exact .prepared rfl
  | prepared batch =>
    cases client with
    | none => exact .failed rfl (.inr rfl)
    | some client =>
      cases accepts with
      | true => exact .posted rfl
      | false => exact .failed rfl (.inl rfl)
  | failed batch => exact .aborted rfl
  | aborted batch =>
    refine .handled ?_ rfl rfl
    change List.Subperm ((c.memory.batcher.requeue batch).events ++ []) _
    rw [Agent.EventBatcher.events_requeue, List.append_nil]
    exact (keepLast_sublist _ _).subperm.trans List.perm_append_comm.subperm
  | delivered batch =>
    have hbatcher := batcher_ackManagedStorageDelivered (r := r) env batch c
    have hflushed : flushed r env accepts ⟨c, client, .delivered batch, accepted⟩ =
        ⟨((r.ackManagedStorageDelivered 0 batch).run env c).state, client, .acknowledged, accepted⟩ := by
      simp only [flushed, flusher, hook, Agent.Flusher.advance, InstanceCluster.withMemory,
        ← hbatcher]
    rw [hflushed]
    exact .acknowledged rfl
  | acknowledged =>
    refine .handled ?_ rfl rfl
    change List.Subperm (c.memory.batcher.drained.events ++ []) _
    rw [Agent.EventBatcher.events_drained]
    exact List.Subperm.refl _
  | crashed batch => exact .stay _

theorem moves_reportConditionTransitions (c : InstanceCluster) (now : ℕ) (ref : Agent.AppliedRef)
    (prev next : List Condition) :
    Moves plainLicence c
      (c.withMemory fun m => m.reportConditionTransitions now ref prev next) :=
  OperatorMemory.reportConditionTransitions_induction
    (P := fun m => Moves plainLicence c (c.withMemory fun _ => m))
    (fun _ cond hm => hm.tail (.send now (plain_transitionEvent now ref cond))) .refl

theorem plain_rotated (now : ℕ) (ref : Agent.AppliedRef) (condition : Condition) :
    Plain (Agent.auditEvent now ref "CredentialRotated" [condition] "") := by
  have hkey : (Agent.auditEvent now ref "CredentialRotated" [condition] "").eventKey =
      "CredentialRotated/" ++ (ref.uid ++ ("/" ++ condition.type)) := by
    simp [Agent.auditEvent, String.append_assoc]
  exact plain_of_key hkey (by decide) (by decide) (by decide)

theorem next_step (w : DeliveryWorld) (a : DeliveryStep) : Next r w a (w.step r a) := by
  unfold step
  split
  · exact .stay a
  · cases a with
    | reconcile env k => exact .reconcile (InstanceController.moves_reconcile env w.cluster k)
    | flush env accepts => exact next_flushed w env accepts
    | setClient client => exact .client
    | report now ref prev next => exact .reported (moves_reportConditionTransitions _ _ _ _ _)
    | rotated now ref condition =>
      exact .reported (.single (.send now (plain_rotated now ref condition)))
    | restart => exact .restart
    | outside c => exact .outside c

end DeliveryWorld

/-- An event that the operator makes: a plain one, or one with endpoints or credentials and a key
that says which. -/
inductive Made (r : InstanceController) (e : Agent.Event) : Prop
  | plain (h : Plain e)
  | endpoints (hkind : e.kind = "ConditionTransition")
      (hkey : e.eventKey =
        Agent.endpointsEventKey e.resourceRef (r.seaweedEndpointsReportKey e.endpoints))
  | managed {ms : Agent.ManagedStoragePayload} {ready : Condition}
      (hkind : e.kind = "ConditionTransition") (htype : ready.type = "Ready")
      (hstatus : ready.status = .true) (hms : e.managedStorage = some ms)
      (hkey : e.eventKey =
        Agent.managedStorageEventKey e.resourceRef ready (r.payloadReportKey ms))

/-- The key of the event with the credentials of an instance that is ready. -/
def storageEventKey (k : ObjectKey) (key : String) : String :=
  Agent.managedStorageEventKeyPrefix ++ k.ns ++ "/" ++ k.name ++ "/" ++ "Ready" ++ "/" ++ "True" ++
    "/" ++ key

structure StorageReport (r : InstanceController) (e : Agent.Event) (k : ObjectKey) (key : String) :
    Prop where
  place : InstanceController.eventPlace e = k
  kind : e.kind = "ConditionTransition"
  payload : ∃ ms, e.managedStorage = some ms ∧ r.payloadReportKey ms = key
  eventKey : e.eventKey = storageEventKey k key
  notEndpoints : Agent.endpointsReportKeyFromEventKey e.eventKey = none
  reports : Agent.managedStorageReportKeyFromEventKey e.eventKey = some key
  unsplit : Agent.Unsplit k.ns ∧ Agent.Unsplit k.name

structure EndpointsReport (r : InstanceController) (e : Agent.Event) (k : ObjectKey)
    (key : String) : Prop where
  place : InstanceController.eventPlace e = k
  endpoints : r.seaweedEndpointsReportKey e.endpoints = key
  unsplit : Agent.Unsplit k.ns ∧ Agent.Unsplit k.name

section made

variable {r : InstanceController} {e : Agent.Event} {k : ObjectKey} {key : String}

theorem managedStorageEventKey_eq {ref : Agent.AppliedRef} {ready : Condition}
    (htype : ready.type = "Ready") (hstatus : ready.status = .true) :
    Agent.managedStorageEventKey ref ready key = storageEventKey ⟨ref.ns, ref.name⟩ key := by
  unfold Agent.managedStorageEventKey storageEventKey
  rw [htype, hstatus]
  rfl

theorem Plain.not_reportsStorage (h : Plain e) : ¬ReportsStorage e k key := by
  rintro ⟨-, hkey⟩
  rw [Agent.managedStorageReportKeyFromEventKey, Agent.reportKeyFromEventKey,
    h.managedStorage] at hkey
  exact absurd hkey (by simp)

theorem Plain.not_reportsEndpoints (h : Plain e) : ¬ReportsEndpoints e k key := by
  rintro ⟨-, hkey⟩
  rw [Agent.endpointsReportKeyFromEventKey, Agent.reportKeyFromEventKey, h.endpoints] at hkey
  exact absurd hkey (by simp)

theorem Made.storageReport (h : Made r e) (hreports : ReportsStorage e k key) :
    StorageReport r e k key := by
  cases h with
  | plain h => exact absurd hreports h.not_reportsStorage
  | endpoints hkind hkey =>
    obtain ⟨-, hparse⟩ := hreports
    rw [hkey, Agent.managedStorageReportKey_endpoints] at hparse
    exact absurd hparse (by simp)
  | @managed ms ready hkind htype hstatus hms hkey =>
    obtain ⟨rfl, hparse⟩ := hreports
    have hreports := hparse
    rw [hkey] at hparse
    obtain ⟨rfl, hns, hname⟩ := Agent.of_managedStorageReportKey hparse
    exact ⟨rfl, hkind, ⟨ms, hms, rfl⟩, hkey.trans (managedStorageEventKey_eq htype hstatus),
      hkey ▸ Agent.endpointsReportKey_managedStorage, hreports, hns, hname⟩

theorem StorageReport.ackEvent (h : StorageReport r e k key) (i : ℕ) :
    r.ackEvent i e = r.ackManagedStorage i k key := by
  have hkind : e.kind ≠ "ManagedStorageFailed" := by
    rw [h.kind]
    decide
  rw [InstanceController.ackEvent, if_neg hkind, h.notEndpoints, h.reports, ← h.place]

theorem Made.endpointsReport (h : Made r e) (hreports : ReportsEndpoints e k key) :
    EndpointsReport r e k key := by
  cases h with
  | plain h => exact absurd hreports h.not_reportsEndpoints
  | endpoints hkind hkey =>
    obtain ⟨rfl, hparse⟩ := hreports
    rw [hkey] at hparse
    obtain ⟨rfl, hns, hname⟩ := Agent.of_endpointsReportKey hparse
    exact ⟨rfl, rfl, hns, hname⟩
  | managed hkind htype hstatus hms hkey =>
    obtain ⟨-, hparse⟩ := hreports
    rw [hkey, Agent.endpointsReportKey_managedStorage] at hparse
    exact absurd hparse (by simp)

theorem Plain.stamp (h : Plain e) (now : ℕ) : Plain (e.stamp now) := ⟨h.managedStorage, h.endpoints⟩

theorem Made.stamp (h : Made r e) (now : ℕ) : Made r (e.stamp now) := by
  cases h with
  | plain h => exact .plain (h.stamp now)
  | endpoints hkind hkey => exact .endpoints hkind hkey
  | managed hkind htype hstatus hms hkey => exact .managed hkind htype hstatus hms hkey

theorem InstanceController.Sends.made {c : InstanceCluster} {m : OperatorMemory}
    (h : r.Sends c k m e) : Made r e := by
  cases h with
  | plain h => exact .plain h
  | endpoints hget now ready => exact .endpoints rfl rfl
  | managed hget hms htype hstatus hreported hpending hposting now endpoints =>
    exact .managed rfl htype hstatus rfl rfl

end made

namespace DeliveryWorld

variable {r : InstanceController} {w : DeliveryWorld}

/-- A world in which the operator has just been started, and nothing has been accepted. -/
structure Started (w : DeliveryWorld) : Prop where
  events : w.cluster.memory.batcher.events = []
  delivery : w.cluster.memory.delivery = {}
  phase : w.phase = .idle
  accepted : w.accepted = []

variable (r) in
/-- The events held are events the operator makes, and a batch that was delivered was accepted. -/
structure Sound (w : DeliveryWorld) : Prop where
  made : ∀ e ∈ w.held, Made r e
  delivered : ∀ batch, w.phase = .delivered batch → batch ⊆ w.accepted

theorem Started.held (h : w.Started) : w.held = [] := by
  rw [DeliveryWorld.held, h.events, h.phase]
  rfl

theorem Started.sound (h : w.Started) : w.Sound r where
  made e he := absurd (h.held ▸ he) List.not_mem_nil
  delivered batch hbatch := absurd (h.phase.symm.trans hbatch) (by simp)

theorem mem_held {e : Agent.Event} :
    e ∈ w.held ↔ e ∈ w.cluster.memory.batcher.events ∨ e ∈ w.phase.batch := List.mem_append

theorem held_of_moves {L : Licence} {c : InstanceCluster} (h : Moves L w.cluster c)
    {e : Agent.Event} (he : e ∈ ({ w with cluster := c } : DeliveryWorld).held) :
    e ∈ w.held ∨ ∃ m now e₀, L.sends m e₀ ∧ e = e₀.stamp now := by
  rcases mem_held.mp he with hbuffer | hbatch
  · exact (h.events hbuffer).imp_left fun hold => mem_held.mpr (.inl hold)
  · exact .inl (mem_held.mpr (.inr hbatch))

theorem Sound.next (h : w.Sound r) {a : DeliveryStep} {w' : DeliveryWorld}
    (hnext : Next r w a w') : w'.Sound r := by
  cases hnext with
  | stay => exact h
  | reconcile hmoves =>
    refine ⟨fun e he => ?_, h.delivered⟩
    rcases held_of_moves hmoves he with hold | ⟨m, now, e₀, hsend, rfl⟩
    · exact h.made e hold
    · exact hsend.made.stamp now
  | reported hmoves =>
    refine ⟨fun e he => ?_, h.delivered⟩
    rcases held_of_moves hmoves he with hold | ⟨m, now, e₀, hsend, rfl⟩
    · exact h.made e hold
    · exact .plain (Plain.stamp hsend now)
  | client => exact ⟨h.made, h.delivered⟩
  | @handled env accepts b phase hheld hbefore hafter =>
    refine ⟨fun e he => h.made e (hheld.subset he), fun batch hbatch => ?_⟩
    obtain rfl : phase = .delivered batch := hbatch
    obtain rfl : batch = [] := hafter
    exact List.nil_subset _
  | prepared hphase =>
    refine ⟨fun e he => h.made e ?_, fun _ hbatch => absurd hbatch (by simp)⟩
    rwa [DeliveryWorld.held, hphase]
  | @posted env accepts batch hphase =>
    refine ⟨fun e he => h.made e ?_, fun batch' hbatch => ?_⟩
    · rwa [DeliveryWorld.held, hphase]
    · obtain rfl : batch = batch' := Agent.FlushPhase.delivered.inj hbatch
      exact List.subset_append_right _ _
  | @failed env accepts batch phase hphase hnext =>
    refine ⟨fun e he => h.made e ?_, fun batch' hbatch => ?_⟩
    · rw [DeliveryWorld.held, hphase]
      rcases hnext with rfl | rfl <;> exact he
    · rcases hnext with rfl | rfl <;> exact absurd hbatch (by simp)
  | aborted hphase =>
    refine ⟨fun e he => h.made e ?_, fun _ hbatch => absurd hbatch (by simp)⟩
    rwa [DeliveryWorld.held, hphase]
  | @acknowledged env accepts batch hphase =>
    refine ⟨fun e he => h.made e ?_, fun _ hbatch => absurd hbatch (by simp)⟩
    rcases mem_held.mp he with hbuffer | hbatch
    · rw [batcher_ackManagedStorageDelivered] at hbuffer
      exact mem_held.mpr (.inl hbuffer)
    · exact absurd hbatch List.not_mem_nil
  | restart =>
    exact ⟨fun e he => absurd he List.not_mem_nil, fun _ hbatch => absurd hbatch (by simp)⟩
  | outside c => exact ⟨h.made, h.delivered⟩

end DeliveryWorld

/-- The annotations in which the operator keeps what it has delivered. -/
def deliveryAnnotations : List String :=
  [ reportedManagedStorageAccessKeyAnnotation, managedStorageAckRetryAnnotation,
    seaweedEndpointsAckRetryAnnotation, managedStorageFailedAckRetryAnnotation,
    managedStorageClaimAnnotation, managedStoragePostedAnnotation,
    managedStorageFailedPostedAnnotation, reportedManagedStorageFailedAnnotation,
    reportedSeaweedEndpointsAnnotation]

/-- Others leave these annotations: an instance has those it had, and a new one has none. -/
def AnnotationsKept (c c' : InstanceCluster) : Prop :=
  ∀ app' ∈ c'.instances.items, ∀ key ∈ deliveryAnnotations,
    app'.metadata.annotations.lookup key =
      ((c.instances.get app'.metadata.key).filter fun app =>
        app.metadata.uid = app'.metadata.uid).bind fun app => app.metadata.annotations.lookup key

theorem AnnotationsKept.lookup {c c' : InstanceCluster} (h : AnnotationsKept c c') {k : ObjectKey}
    {app' : ManagedInstance} (happ' : c'.instances.get k = some app') {key value : String}
    (hkey : key ∈ deliveryAnnotations)
    (hvalue : app'.metadata.annotations.lookup key = some value) :
    ∃ app, c.instances.get k = some app ∧ app.metadata.uid = app'.metadata.uid ∧
      app.metadata.annotations.lookup key = some value := by
  have hk : app'.metadata.key = k := Store.key_of_get happ'
  rw [h app' (Store.mem_of_get happ') key hkey, Option.bind_eq_some_iff] at hvalue
  obtain ⟨app, hfilter, hlookup⟩ := hvalue
  obtain ⟨hget, huid⟩ := Option.filter_eq_some_iff.mp hfilter
  exact ⟨app, hk ▸ hget, by simpa using huid, hlookup⟩

/-- The annotations under which nothing has been delivered. -/
def Unannotated (c : InstanceCluster) : Prop :=
  ∀ app ∈ c.instances.items, ∀ key ∈ deliveryAnnotations,
    app.metadata.annotations.lookup key = none

end VWorkspace
