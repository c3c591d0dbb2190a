import VWorkspaceOperator.Instance.Faultless
import VWorkspaceOperator.Properties.StorageEvidence

/-!
# Credentials are not forgotten

Where a reconcile of a ready instance finds credentials and all its calls succeed, the
credentials are reported when it returns, or an event with them is in the buffer or in the
batch that is being posted.  The reconcile returns early in three cases: an event is in the
buffer, the credentials were posted or acknowledged and only the annotation is missing, or they
are marked as being posted.  Only the last of these rests on the runs before: the mark is set
when a batch is about to be posted, and taken away by the hook that runs after the post.
-/

namespace VWorkspace

open Kit Prog InstanceM

/-- An event of the list reports the storage that a mark is for. -/
def ReportedIn (events : List Agent.Event) (dk key : String) : Prop :=
  ∃ e ∈ events, ∃ k : ObjectKey, dk = storageDeliveryKey k.ns k.name ∧ ReportsStorage e k key

/-- What is marked as being posted is in the batch that is being posted. -/
def Marked (w : DeliveryWorld) : Prop :=
  ∀ dk key, w.cluster.memory.delivery.posting.lookup dk = some key →
    ReportedIn w.phase.posting dk key

section marks

variable {d : StorageDelivery} {dk key : String} {batch : List Agent.Event}

theorem of_prepareManagedStoragePost
    (h : (InstanceController.prepareManagedStoragePost batch d).posting.lookup dk = some key) :
    d.posting.lookup dk = some key ∨ ReportedIn batch dk key := by
  unfold InstanceController.prepareManagedStoragePost at h
  induction batch generalizing d with
  | nil => exact .inl h
  | cons e batch ih =>
    rw [List.foldl_cons] at h
    rcases ih h with hrest | ⟨e', he', hreported⟩
    · split at hrest
      · exact .inl hrest
      · next key' hkey =>
        have hset : (setField (storageDeliveryKey e.resourceRef.ns e.resourceRef.name) key'
            d.posting).lookup dk = some key := hrest
        rcases of_lookup_setField hset with hold | ⟨rfl, rfl⟩
        · exact .inl hold
        · exact .inr ⟨e, List.mem_cons_self, InstanceController.eventPlace e, rfl, rfl, hkey⟩
    · exact .inr ⟨e', List.mem_cons_of_mem e he', hreported⟩

theorem lookup_clearStoragePosting_ne (ns name : String) :
    (d.clearStoragePosting ns name key).posting.lookup (storageDeliveryKey ns name) ≠ some key := by
  unfold StorageDelivery.clearStoragePosting
  split
  · simp
  · next hne =>
    intro hlookup
    rw [hlookup] at hne
    exact hne rfl

theorem of_abortManagedStoragePost
    (h : (InstanceController.abortManagedStoragePost batch d).posting.lookup dk = some key) :
    d.posting.lookup dk = some key ∧ ¬ReportedIn batch dk key := by
  unfold InstanceController.abortManagedStoragePost at h
  induction batch generalizing d with
  | nil => exact ⟨h, fun ⟨e, he, _⟩ => absurd he List.not_mem_nil⟩
  | cons e batch ih =>
    rw [List.foldl_cons] at h
    obtain ⟨hhead, hrest⟩ := ih h
    have hnot : ¬ReportedIn [e] dk key ∧ d.posting.lookup dk = some key := by
      split at hhead
      · next hnone =>
        refine ⟨?_, hhead⟩
        rintro ⟨e', he', k, -, -, hkey⟩
        rw [List.mem_singleton.mp he', hnone] at hkey
        exact absurd hkey (by simp)
      · next key' hsome =>
        refine ⟨?_, (d.forgets_clearStoragePosting _ _ _).posting dk key hhead⟩
        rintro ⟨e', he', k, rfl, rfl, hkey⟩
        rw [List.mem_singleton.mp he', hsome] at hkey
        obtain rfl := Option.some.inj hkey
        rw [List.mem_singleton.mp he'] at hhead
        exact lookup_clearStoragePosting_ne _ _ hhead
    refine ⟨hnot.2, ?_⟩
    rintro ⟨e', he', hreported⟩
    rcases List.mem_cons.mp he' with rfl | he'
    · exact hnot.1 ⟨e', List.mem_singleton_self _, hreported⟩
    · exact hrest ⟨e', he', hreported⟩

end marks

/-! #### The hook after a delivery -/

section acknowledge

variable {r : InstanceController} {env : InstanceEnv} {c : InstanceCluster} {k : ObjectKey}
  {dk key : String} {e : Agent.Event} {i : ℕ}

theorem returns_ackEvent : Returns env c (r.ackEvent i e) fun _ _ => True := by
  have hretry : ∀ k name c, Returns env c (r.triggerAckRetry i k name)
      fun _ _ => True := by
    intro k name c
    refine .seq (returns_now (.seq (.attempt_of ?_)))
    split
    · exact .pure trivial
    · exact .seq (.attempt_of (.pure trivial))
  unfold InstanceController.ackEvent
  split
  · refine .seq (.attempt_of ?_)
    split
    · exact hretry _ _ _
    · refine .seq (.attempt_of ?_)
      split
      · exact hretry _ _ _
      · exact .pure trivial
  · split
    · refine .seq (.attempt_of ?_)
      split
      · exact hretry _ _ _
      · exact .pure trivial
    · split
      · refine .seq (returns_onDelivery (.seq (.attempt_of ?_)))
        split
        · exact hretry _ _ _
        · refine .seq (.attempt_of ?_)
          split
          · exact hretry _ _ _
          · exact .pure trivial
      · exact .pure trivial

/-- The licence to acknowledge one report, and nothing else. -/
def ackLicence (k : ObjectKey) (key : String) : Licence where
  acks k' key' := k' = k ∧ key' = key
  posts k' key' := k' = k ∧ key' = key
  endpoints _ _ := False
  retries _ := False
  removes _ := False
  sends _ _ := False

theorem posting_ackManagedStorage :
    ((r.ackManagedStorage i k key).run env c).state.memory.delivery.posting.lookup
      (storageDeliveryKey k.ns k.name) ≠ some key := by
  have hretry : Licensed (ackLicence k key)
      (r.triggerAckRetry i k managedStorageAckRetryAnnotation) :=
    licensed_triggerAckRetry i fun _ _ => permits_of_notMem (by decide)
  unfold InstanceController.ackManagedStorage
  rw [run_bind_of_ok (x := onDelivery _) (a := ()) rfl, Outcome.state_after]
  intro hlookup
  refine lookup_clearStoragePosting_ne k.ns k.name
    (Licensed.posting (L := ackLicence k key) ?_ hlookup)
  refine .bind (.attempt <| licensed_ensureAnnotation _ _ fun a => ?_) fun res => ?_
  · exact permits_setField (fun h => absurd h (by decide)) (fun _ => ⟨rfl, rfl⟩)
      (fun h => absurd h (by decide)) fun h => absurd h (by decide)
  · split
    · exact hretry
    · refine .bind (.attempt (licensed_patchManagedStorageAck _ ⟨rfl, rfl⟩)) fun res => ?_
      split
      · exact hretry
      · exact .of_idle (.pure _)

theorem of_ackManagedStorageDelivered {batch : List Agent.Event} (hmade : ∀ e ∈ batch, Made r e)
    (h : ((r.ackManagedStorageDelivered i batch).run env c).state.memory.delivery.posting.lookup dk =
      some key) : c.memory.delivery.posting.lookup dk = some key ∧ ¬ReportedIn batch dk key := by
  induction batch generalizing i c with
  | nil => exact ⟨h, fun ⟨e, he, _⟩ => absurd he List.not_mem_nil⟩
  | cons e batch ih =>
    have hreturns : Returns env c (r.ackEvent i e) fun _ _ => True := returns_ackEvent
    obtain ⟨u, hu, -⟩ := hreturns
    rw [InstanceController.ackManagedStorageDelivered, run_bind_of_ok hu] at h
    obtain ⟨hhead, hrest⟩ := ih (fun e' he' => hmade e' (List.mem_cons_of_mem e he')) h
    have hmoves := licensed_ackEvent (r := r) i (List.mem_singleton_self e) env c
    refine ⟨hmoves.posting hhead, ?_⟩
    rintro ⟨e', he', hreported⟩
    rcases List.mem_cons.mp he' with rfl | he'
    · obtain ⟨k, rfl, hreports⟩ := hreported
      rw [((hmade e' List.mem_cons_self).storageReport hreports).ackEvent] at hhead
      exact posting_ackManagedStorage hhead
    · exact hrest ⟨e', he', hreported⟩

end acknowledge

/-! #### Every reachable state -/

section reachable

variable {r : InstanceController} {w w' : DeliveryWorld}

theorem Marked.lookup_of_nil (h : Marked w) (hphase : w.phase.posting = []) (dk key : String) :
    w.cluster.memory.delivery.posting.lookup dk ≠ some key := by
  intro hlookup
  obtain ⟨e, he, -⟩ := h dk key hlookup
  rw [hphase] at he
  exact absurd he List.not_mem_nil

theorem Marked.next (hsound : w.Sound r) (h : Marked w) {a : DeliveryStep}
    (hnext : DeliveryWorld.Next r w a w') : Marked w' := by
  cases hnext with
  | stay => exact h
  | reconcile hmoves => exact fun dk key hdk => h dk key (hmoves.posting hdk)
  | reported hmoves => exact fun dk key hdk => h dk key (hmoves.posting hdk)
  | client => exact h
  | handled hheld hbefore hafter =>
    exact fun dk key hdk => absurd hdk (h.lookup_of_nil hbefore dk key)
  | @prepared env accepts batch hphase =>
    intro dk key hdk
    rcases of_prepareManagedStoragePost hdk with hold | hreported
    · exact absurd hold (h.lookup_of_nil (by rw [hphase]; rfl) dk key)
    · exact hreported
  | posted hphase =>
    intro dk key hdk
    have hreported := h dk key hdk
    rw [hphase] at hreported
    exact hreported
  | failed hphase hnext =>
    intro dk key hdk
    have hreported := h dk key hdk
    rw [hphase] at hreported
    rcases hnext with rfl | rfl <;> exact hreported
  | aborted hphase =>
    intro dk key hdk
    obtain ⟨hold, hnot⟩ := of_abortManagedStoragePost hdk
    have hreported := h dk key hold
    rw [hphase] at hreported
    exact absurd hreported hnot
  | @acknowledged env accepts batch hphase =>
    intro dk key hdk
    have hmade : ∀ e ∈ batch, Made r e := fun e he =>
      hsound.made e (DeliveryWorld.mem_held.mpr (.inr (hphase ▸ he)))
    obtain ⟨hold, hnot⟩ := of_ackManagedStorageDelivered hmade hdk
    have hreported := h dk key hold
    rw [hphase] at hreported
    exact absurd hreported hnot
  | restart =>
    exact fun dk key hdk =>
      absurd hdk (by simp [InstanceCluster.withMemory, OperatorMemory.restarted])
  | outside c => exact h

theorem marked_exec (hstart : w.Started) (steps : List DeliveryStep) :
    (exec (DeliveryWorld.step r) w steps).Sound r ∧ Marked (exec (DeliveryWorld.step r) w steps) := by
  have hmarked : Marked w := by
    intro dk key hdk
    rw [hstart.delivery] at hdk
    exact absurd hdk (by simp)
  exact exec_of_along (p := fun _ _ => True) (I := fun s => s.Sound r ∧ Marked s)
    (along_of_forall fun _ _ => trivial)
    (fun s a _ hs => ⟨hs.1.next (DeliveryWorld.next_step s a),
      hs.2.next hs.1 (DeliveryWorld.next_step s a)⟩) ⟨hstart.sound, hmarked⟩

end reachable

/-- The credentials are reported, or an event with them is in the buffer or among those that are
being posted. -/
def OnItsWay (posting : List Agent.Event) (k : ObjectKey) (key : String) (c : InstanceCluster) :
    Prop :=
  Annotated k reportedManagedStorageAccessKeyAnnotation key c ∨
    (∃ e ∈ c.memory.batcher.events, e.eventKey = storageEventKey k key) ∨
    ∃ e ∈ posting, e.eventKey = storageEventKey k key

section underway

variable {r : InstanceController} {env : InstanceEnv} (henv : env.Faultless) {c : InstanceCluster}
  {app stored : ManagedInstance} {ready : Condition} {ms : ManagedStorageSnapshot} {key : String}
  {posting : List Agent.Event}

theorem exists_of_hasPendingEvent {m : OperatorMemory} (htype : ready.type = "Ready")
    (hstatus : ready.status = .true)
    (h : m.hasPendingEvent (Agent.managedStorageEventKey (instanceRef app) ready key)) :
    ∃ e ∈ m.batcher.events, e.eventKey = storageEventKey app.metadata.key key := by
  rw [managedStorageEventKey_eq htype hstatus, OperatorMemory.hasPendingEvent,
    Agent.EventBatcher.hasEventKey, Bool.and_eq_true, Bool.and_eq_true, List.any_eq_true] at h
  obtain ⟨-, -, e, he, hkey⟩ := h
  exact ⟨e, he, of_decide_eq_true hkey⟩

include henv

variable (hget : c.instances.get app.metadata.key = some stored)
  (hreporting : c.memory.reporting = true) (htype : ready.type = "Ready")
  (hstatus : ready.status = .true)
  (hunreported : app.annotation reportedManagedStorageAccessKeyAnnotation ≠ key)

include hget hreporting htype hstatus hunreported

theorem returns_sendManagedStorage
    (hunposted : app.annotation managedStoragePostedAnnotation ≠ key) :
    Returns env c (InstanceController.sendManagedStorage app ready ms key)
      fun _ => OnItsWay posting app.metadata.key key := by
  have hclaim : Returns env c (claimManagedStorageDelivery app key) fun claim c' =>
      (∃ app', claim = .claimed app') ∧ c'.memory = c.memory := by
    unfold claimManagedStorageDelivery
    rw [if_neg hunreported]
    split
    · exact .pure ⟨⟨_, rfl⟩, rfl⟩
    · exact .seq (.attempt (returns_patchAnnotations henv hget (.pure ⟨⟨_, rfl⟩, rfl⟩)))
  refine .seq (returns_now (.seq (.attempt (hclaim.mono fun claim c' h => ?_))))
  obtain ⟨⟨app', rfl⟩, hmemory⟩ := h
  have hreporting' : c'.memory.reporting = true := hmemory ▸ hreporting
  refine .seq (returns_remembered ?_)
  rw [if_pos hreporting']
  refine .bind (P := fun _ c'' => ∃ e ∈ c''.memory.batcher.events,
    e.eventKey = storageEventKey app.metadata.key key) (.modify ?_) fun _ _ h =>
      .seq (returns_onDelivery (.pure (.inr (.inl h))))
  rw [InstanceCluster.withMemory, OperatorMemory.reportManagedStorageReady,
    OperatorMemory.enqueue, if_pos hreporting']
  exact ⟨_, Agent.EventBatcher.mem_events_enqueue, managedStorageEventKey_eq htype hstatus⟩

variable (hkey : key ≠ "")

include hkey

theorem returns_deliverManagedStorage :
    Returns env c (InstanceController.deliverManagedStorage app ready ms key)
      fun _ => OnItsWay posting app.metadata.key key := by
  refine .seq (returns_remembered ?_)
  split
  · next hpending => exact .pure (.inr (.inl (exists_of_hasPendingEvent htype hstatus hpending)))
  · split
    · -- it was posted, and only the acknowledgement is missing
      have hretry : Returns env c (retryManagedStorageAck app.metadata.key key)
          fun _ => Annotated app.metadata.key reportedManagedStorageAccessKeyAnnotation key :=
        .seq (returns_onDelivery
          (returns_patchManagedStorageAck henv (c := c.withMemory _) hget hkey))
      exact .seq (.attempt (hretry.mono fun _ _ h => .pure (.inl h)))
    · next hunposted =>
      exact returns_sendManagedStorage henv hget hreporting htype hstatus hunreported hunposted

variable (hposting : c.memory.delivery.postingStorageReportKey app.metadata.ns app.metadata.name =
  some key → ∃ e ∈ posting, e.eventKey = storageEventKey app.metadata.key key)

include hposting

theorem returns_resumeManagedStorage :
    Returns env c (InstanceController.resumeManagedStorage app ready ms key)
      fun _ => OnItsWay posting app.metadata.key key := by
  have hagain : Returns env c (do
      onDelivery fun d => d.clearStorageInFlight app.metadata.ns app.metadata.name
      InstanceController.deliverManagedStorage app ready ms key)
      fun _ => OnItsWay posting app.metadata.key key :=
    .seq (returns_onDelivery
      (returns_deliverManagedStorage henv hget hreporting htype hstatus hunreported hkey))
  refine .seq (returns_remembered ?_)
  split
  · exact returns_deliverManagedStorage henv hget hreporting htype hstatus hunreported hkey
  · split
    · exact hagain
    · split
      · next hpending => exact .pure (.inr (.inl (exists_of_hasPendingEvent htype hstatus hpending)))
      · split
        · next hmark => exact .pure (.inr (.inr (hposting hmark)))
        · exact hagain

theorem returns_settleManagedStorage :
    Returns env c (InstanceController.settleManagedStorage app ready ms key)
      fun _ => OnItsWay posting app.metadata.key key := by
  refine .seq (returns_remembered ?_)
  split
  · exact returns_resumeManagedStorage henv hget hreporting htype hstatus hunreported hkey hposting
  · split
    · exact .seq (returns_onDelivery (returns_resumeManagedStorage henv hget hreporting htype hstatus
        hunreported hkey hposting))
    · exact .seq (.attempt ((returns_patchManagedStorageAck henv hget hkey).mono fun _ _ h =>
        .pure (.inl h)))

omit hget hreporting htype hstatus hunreported hkey hposting in
theorem returns_reportManagedStorage (hget : c.instances.get app.metadata.key = some stored)
    (hreporting : c.memory.reporting = true)
    (hready : isConditionTrue app.status.conditions "Ready")
    (hstored : ∀ key,
      stored.metadata.annotations.lookup reportedManagedStorageAccessKeyAnnotation = some key ↔
        app.metadata.annotations.lookup reportedManagedStorageAccessKeyAnnotation = some key)
    (hposting : c.memory.delivery.postingStorageReportKey app.metadata.ns app.metadata.name =
      some (r.managedStorageReportKey ms) →
        ∃ e ∈ posting, e.eventKey = storageEventKey app.metadata.key (r.managedStorageReportKey ms)) :
    Returns env c (r.reportManagedStorage app ms)
      fun _ => OnItsWay posting app.metadata.key (r.managedStorageReportKey ms) := by
  have hkey : r.managedStorageReportKey ms ≠ "" := r.digestKey_ne_empty _
  refine .seq (returns_now ?_)
  rw [isConditionTrue] at hready
  cases hcondition : getCondition app.status.conditions "Ready" with
  | none => rw [hcondition] at hready; exact absurd hready (by simp)
  | some ready =>
    have htype : ready.type = "Ready" := by
      rw [getCondition] at hcondition
      simpa using List.find?_some hcondition
    have hstatus : ready.status = .true := by
      rw [hcondition] at hready
      simpa using hready
    simp only
    split
    · next hreported =>
      have hlookup := (hstored _).mpr (app.lookup_of_annotation hreported hkey)
      exact .seq (returns_onDelivery (.pure (.inl ⟨stored, hget, hlookup⟩)))
    · next hunreported =>
      split
      · next hclaim =>
        have hclear : Returns env c (clearManagedStorageClaim .staleClaim app)
            fun app' c' => app' = stored.annotate (unsetField managedStorageClaimAnnotation) ∧
              c'.instances.get app.metadata.key = some app' ∧ c'.memory = c.memory := by
          unfold clearManagedStorageClaim
          rw [if_neg hclaim.1]
          refine returns_patchAnnotations henv hget ⟨rfl, ?_, rfl⟩
          have hsame : stored.metadata.key = app.metadata.key := Store.key_of_get hget
          have hput : Keyed.key (stored.annotate (unsetField managedStorageClaimAnnotation)) =
              app.metadata.key := hsame
          exact hput ▸ Store.get_put_self c.instances _
        refine .seq (.attempt (hclear.mono fun app' c' h => ?_))
        obtain ⟨rfl, hget', hmemory⟩ := h
        have hsame : stored.metadata.key = app.metadata.key := Store.key_of_get hget
        have hunreported' : ManagedInstance.annotation
            (stored.annotate (unsetField managedStorageClaimAnnotation))
            reportedManagedStorageAccessKeyAnnotation ≠ r.managedStorageReportKey ms := by
          intro heq
          have hlookup := ManagedInstance.lookup_of_annotation heq hkey
          rw [ManagedInstance.annotate, lookup_unsetField_of_ne (by decide)] at hlookup
          have happ := (hstored _).mp hlookup
          exact hunreported (by rw [ManagedInstance.annotation, happ]; rfl)
        have hplace : (stored.annotate (unsetField managedStorageClaimAnnotation)).metadata.key =
            app.metadata.key := hsame
        rw [← hplace] at hposting ⊢
        have hns : stored.metadata.ns = app.metadata.ns := congrArg ObjectKey.ns hsame
        have hname : stored.metadata.name = app.metadata.name := congrArg ObjectKey.name hsame
        refine returns_settleManagedStorage henv (hsame ▸ hget') (hmemory ▸ hreporting) htype hstatus
          hunreported' hkey fun hmark => hposting ?_
        rw [← hmemory, ← hns, ← hname]
        exact hmark
      · exact returns_settleManagedStorage henv hget hreporting htype hstatus hunreported hkey hposting

end underway

section forgotten

variable {r : InstanceController} {env : InstanceEnv} {c : InstanceCluster} {app : ManagedInstance}

theorem returns_reportSeaweedEndpointsIfNeeded :
    Returns env c (r.reportSeaweedEndpointsIfNeeded app) fun _ _ => True := by
  refine .seq (returns_now ?_)
  simp only
  split
  · exact .pure trivial
  · split
    · exact .pure trivial
    · split
      · refine .seq (.attempt_of ?_)
        split
        · exact .pure trivial
        · refine .seq (.attempt_of ?_)
          split
          · exact .pure trivial
          · split
            · exact .pure trivial
            · exact .seq (.attempt_of (.pure trivial))
      · split
        · exact .pure trivial
        · split
          · exact .pure trivial
          · refine .seq (returns_remembered ?_)
            split
            · exact .pure trivial
            · exact .modify trivial

def endpointsLicence : Licence where
  acks _ _ := False
  posts _ _ := False
  endpoints _ _ := True
  retries _ := False
  removes _ := False
  sends _ _ := True

theorem storage_onItsWay {w : DeliveryWorld} (hstart : w.Started) (steps : List DeliveryStep)
    (henv : env.Faultless)
    (hdelivery : c.memory.delivery =
      (exec (DeliveryWorld.step r) w steps).cluster.memory.delivery)
    (hreporting : c.memory.reporting = true)
    (hget : c.instances.get app.metadata.key = some app)
    (hready : isConditionTrue app.status.conditions "Ready") {ms : ManagedStorageSnapshot}
    (hms : credentialsOf c app.toApplicationInstance = some ms) :
    OnItsWay (exec (DeliveryWorld.step r) w steps).phase.posting app.metadata.key
      (r.managedStorageReportKey ms)
      ((r.reconcileSeaweedManagedStorage app).run env c).state := by
  obtain ⟨hsound, hmarked⟩ := marked_exec (r := r) hstart steps
  generalize exec (DeliveryWorld.step r) w steps = w' at *
  have hmoves : Moves endpointsLicence c
      ((r.reportSeaweedEndpointsIfNeeded app).run env c).state :=
    (heeds_moves _ _).reportEndpoints rfl (fun _ _ => trivial) fun _ _ _ _ => trivial
  obtain ⟨stored, hstored, hevolved⟩ := hmoves.stays id hget
  have hreported : ∀ key,
      stored.metadata.annotations.lookup reportedManagedStorageAccessKeyAnnotation = some key ↔
        app.metadata.annotations.lookup reportedManagedStorageAccessKeyAnnotation = some key := by
    intro key
    constructor
    · exact fun h => (hevolved.annotations.reported key h).resolve_right id
    · intro h
      obtain ⟨key', hkey', rfl | hfalse⟩ := hevolved.annotations.standing key h
      · exact hkey'
      · exact hfalse.elim
  have hresolved : ((resolveManagedStorageState app.toApplicationInstance).run env
      ((r.reportSeaweedEndpointsIfNeeded app).run env c).state).result = .ok (.resolved ms) :=
    resolved_of_credentialsOf henv ((credentialsOf_congr (Moves.credentials hmoves)).trans hms)
  have hidle := (idle_resolveManagedStorageState app.toApplicationInstance env
    ((r.reportSeaweedEndpointsIfNeeded app).run env c).state).1
  have hposting : ((r.reportSeaweedEndpointsIfNeeded app).run env c).state.memory.delivery =
      w'.cluster.memory.delivery := delivery_reportSeaweedEndpointsIfNeeded app |>.trans hdelivery
  have hreporting' := hmoves.reporting.trans hreporting
  have hreturns : Returns env c (r.reportSeaweedEndpointsIfNeeded app) fun _ _ => True :=
    returns_reportSeaweedEndpointsIfNeeded
  obtain ⟨u, hu, -⟩ := hreturns
  unfold InstanceController.reconcileSeaweedManagedStorage
  rw [if_pos hready, run_bind_of_ok hu, Outcome.state_after]
  generalize ((r.reportSeaweedEndpointsIfNeeded app).run env c).state = c₁ at *
  have hattempt : ((resolveManagedStorageState app.toApplicationInstance).attempt.run env
      c₁).result = .ok (.ok (.resolved ms)) := congrArg Except.ok hresolved
  rw [run_bind_of_ok hattempt, Outcome.state_after, run_attempt, hidle]
  have hposted : c₁.memory.delivery.postingStorageReportKey app.metadata.ns app.metadata.name =
      some (r.managedStorageReportKey ms) → ∃ e ∈ w'.phase.posting,
        e.eventKey = storageEventKey app.metadata.key (r.managedStorageReportKey ms) := by
    intro hmark
    rw [hposting] at hmark
    obtain ⟨e, he, k, hdk, hreports⟩ := hmarked _ _ hmark
    have hheld : e ∈ w'.held := DeliveryWorld.mem_held.mpr (.inr (w'.phase.posting_subset he))
    have hreport := (hsound.made e hheld).storageReport hreports
    obtain ⟨hns, hname⟩ := Agent.eq_of_join_eq hreport.unsplit.1 hreport.unsplit.2 hdk.symm
    have hplace : k = app.metadata.key := by
      rw [ObjectMeta.key, hns, hname]
    exact ⟨e, he, hplace ▸ hreport.eventKey⟩
  have hreport : Returns env c₁ (r.reportManagedStorage app ms) fun _ =>
      OnItsWay w'.phase.posting app.metadata.key (r.managedStorageReportKey ms) :=
    returns_reportManagedStorage henv hstored hreporting' hready hreported hposted
  obtain ⟨result, -, hway⟩ := hreport
  exact hway

end forgotten

def sampleCredentials : ManagedStorageSnapshot := ⟨"key1", "secret", "store"⟩

/-- The event is taken out of the buffer and about to be posted. -/
def samplePosting : List DeliveryStep := sampleReconcile :: sampleFlush 3

theorem sample_storage_onItsWay :
    ∃ app ∈ (exec (DeliveryWorld.step sampleController) sampleWorld
        samplePosting).cluster.instances.items,
      OnItsWay (exec (DeliveryWorld.step sampleController) sampleWorld samplePosting).phase.posting
        app.metadata.key (sampleController.managedStorageReportKey sampleCredentials)
        ((sampleController.reconcileSeaweedManagedStorage app).run { now := 9 }
          (exec (DeliveryWorld.step sampleController) sampleWorld samplePosting).cluster).state := by
  have hfound : ∃ app ∈ (exec (DeliveryWorld.step sampleController) sampleWorld
      samplePosting).cluster.instances.items,
      isConditionTrue app.status.conditions "Ready" ∧
        credentialsOf (exec (DeliveryWorld.step sampleController) sampleWorld
          samplePosting).cluster app.toApplicationInstance = some sampleCredentials ∧
        (exec (DeliveryWorld.step sampleController) sampleWorld
          samplePosting).cluster.memory.reporting = true := by decide +kernel
  generalize hw : exec (DeliveryWorld.step sampleController) sampleWorld samplePosting = w at hfound ⊢
  obtain ⟨app, happ, hready, hms, hreporting⟩ := hfound
  have henv : InstanceEnv.Faultless { now := 9 } := fun _ => rfl
  have hway := storage_onItsWay (r := sampleController) (c := w.cluster) started_sampleWorld
    samplePosting henv (hw ▸ rfl) hreporting (Store.get_of_mem happ) hready hms
  rw [hw] at hway
  exact ⟨app, happ, hway⟩

end VWorkspace
