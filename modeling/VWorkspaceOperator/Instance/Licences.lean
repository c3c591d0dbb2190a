import VWorkspaceOperator.Instance.Moves

/-!
# What a reconcile and an acknowledgement may write

A reconcile of an instance acknowledges managed storage if an acknowledgement is pending in
memory or the instance is annotated as posted, and endpoints if the instance carries the marker
to try again.  It sends the credentials the cluster holds, unless they are annotated as
reported, their event is in the buffer, or they are known to be on their way.  The hook that
runs after a delivery writes what the keys of the delivered events say, and sends nothing.
-/

namespace VWorkspace

open Kit Prog InstanceM

/-- The key of the event is none of those from which something is read. -/
structure Plain (e : Agent.Event) : Prop where
  managedStorage : hasPrefix e.eventKey Agent.managedStorageEventKeyPrefix = false
  endpoints : hasPrefix e.eventKey Agent.endpointsEventKeyPrefix = false

theorem plain_of_key {e : Agent.Event} {s t : String} (hkey : e.eventKey = s ++ t)
    (hs : s.toList ≠ []) (hmanaged : s.toList.head? ≠ some 'm')
    (hendpoints : s.toList.head? ≠ some 'e') : Plain e := by
  constructor
  · rw [hkey]
    exact hasPrefix_append_eq_false t hs (by decide) hmanaged
  · rw [hkey]
    exact hasPrefix_append_eq_false t hs (by decide) hendpoints

theorem plain_transitionEvent (now : ℕ) (ref : Agent.AppliedRef) (c : Condition) :
    Plain (Agent.transitionEvent now ref c) := by
  obtain ⟨t, ht⟩ := Agent.exists_conditionEventKey ref c
  exact plain_of_key (s := "condition/") (t := t) ht (by decide) (by decide) (by decide)

theorem plain_auditEvent (now : ℕ) (ref : Agent.AppliedRef) (kind : String)
    (conditions : List Condition) (s t : String) (hs : s.toList ≠ [])
    (hmanaged : s.toList.head? ≠ some 'm') (hendpoints : s.toList.head? ≠ some 'e') :
    Plain (Agent.auditEvent now ref kind conditions (s ++ t)) := by
  have hne : s ++ t ≠ "" := by
    intro h
    have hlist := congrArg String.toList h
    rw [String.toList_append] at hlist
    exact hs (List.append_eq_nil_iff.mp hlist).1
  refine plain_of_key (s := s) (t := t) ?_ hs hmanaged hendpoints
  exact if_pos hne

theorem InstanceController.digestKey_ne_empty (r : InstanceController) (input : Bytes) :
    r.digestKey input ≠ "" := by
  refine hexEncode_ne_empty fun hnil => ?_
  have hlength := congrArg List.length hnil
  simp at hlength

theorem ManagedInstance.lookup_of_annotation {app : ManagedInstance} {key value : String}
    (h : app.annotation key = value) (hvalue : value ≠ "") :
    app.metadata.annotations.lookup key = some value := by
  unfold annotation at h
  cases hlookup : app.metadata.annotations.lookup key with
  | none => rw [hlookup] at h; exact absurd h.symm hvalue
  | some v => rw [hlookup] at h; rw [← h]; rfl

namespace InstanceController

variable (r : InstanceController)

/-- The events a reconcile of a place sends, from the cluster it starts in and with what is in
memory when it sends them. -/
inductive Sends (c₀ : InstanceCluster) (k : ObjectKey) (m : OperatorMemory) : Agent.Event → Prop
  | plain {e : Agent.Event} (h : Plain e) : Sends c₀ k m e
  | endpoints {app : ManagedInstance} (hget : c₀.instances.get k = some app) (now : ℕ)
      (ready : Condition) :
      Sends c₀ k m (Agent.seaweedEndpointsEvent now (instanceRef app) ready
        (endpointsOf app.toApplicationInstance) (r.endpointsKeyOf app.toApplicationInstance))
  | managed {app : ManagedInstance} {ms : ManagedStorageSnapshot}
      (hget : c₀.instances.get k = some app)
      (hms : credentialsOf c₀ app.toApplicationInstance = some ms)
      {ready : Condition} (htype : ready.type = "Ready") (hstatus : ready.status = .true)
      (hreported : app.metadata.annotations.lookup reportedManagedStorageAccessKeyAnnotation ≠
        some (r.managedStorageReportKey ms))
      (hpending : m.hasPendingEvent (Agent.managedStorageEventKey (instanceRef app) ready
        (r.managedStorageReportKey ms)) = false)
      (hposting : ¬(c₀.memory.delivery.inFlightStorageReportKey k.ns k.name =
          some (r.managedStorageReportKey ms) ∧
        c₀.memory.delivery.postingStorageReportKey k.ns k.name =
          some (r.managedStorageReportKey ms)))
      (now : ℕ) (endpoints : List Agent.EndpointPayload) :
      Sends c₀ k m (Agent.managedStorageReadyEvent now (instanceRef app) ready endpoints ms.payload
        (r.managedStorageReportKey ms))

/-- What a reconcile of a place may write, from the cluster it starts in. -/
def reconcileLicence (c₀ : InstanceCluster) (k : ObjectKey) : Licence where
  acks k' key := k' = k ∧
    (c₀.memory.delivery.pendingStorageAckReportKey k.ns k.name = some key ∨
      ∃ app, c₀.instances.get k = some app ∧
        app.metadata.annotations.lookup managedStoragePostedAnnotation = some key)
  posts _ _ := False
  endpoints k' key := k' = k ∧
    ∃ app, c₀.instances.get k = some app ∧
      (app.metadata.annotations.lookup seaweedEndpointsAckRetryAnnotation).isSome ∧
      key = r.endpointsKeyOf app.toApplicationInstance
  retries _ := False
  removes k' := k' = k
  sends := r.Sends c₀ k

end InstanceController

section reconcile

variable {r : InstanceController} {env : InstanceEnv} {c₀ c : InstanceCluster} {k : ObjectKey}
  {app₀ app : ManagedInstance}

/-! #### The walk through the delivery -/

section walk

variable {L : Licence} {J : (α : Type) → InstanceEnv → InstanceCluster → InstanceM α → Prop}

namespace Patches

variable (hJ : Patches L k J) (hk : app.metadata.key = k)

include hJ hk

theorem acknowledgeFailed : J _ env c (InstanceController.acknowledgeFailed app) := by
  subst hk
  refine hJ.bind (hJ.attempt (hJ.ensure _ _ fun _ => permits_of_notMem (by decide))) fun res _ => ?_
  split
  · exact hJ.idle (.pure _)
  · exact hJ.bind (hJ.clear _ (by decide)) fun _ _ =>
      hJ.bind (hJ.clear _ (by decide)) fun _ _ => hJ.idle (.pure _)

theorem reportFailed (hsend : ∀ m e, Plain e → L.sends m e) :
    J _ env c (InstanceController.reportManagedStorageFailed app) := by
  refine hJ.bind (hJ.idle InstanceM.idle_now) fun t _ => ?_
  split
  · exact hJ.idle (.pure _)
  · split
    · exact hJ.acknowledgeFailed hk
    · split
      · exact hJ.acknowledgeFailed hk
      · refine hJ.bind (hJ.idle idle_remembered) fun m _ => ?_
        split
        · exact hJ.idle (.pure _)
        · have hkey : InstanceController.failedAuditKey app =
              "ManagedStorageFailed/" ++ (app.metadata.uid ++ "/Ready") := String.append_assoc
          have hplain : ∀ conditions, Plain (Agent.auditEvent t (instanceRef app)
              "ManagedStorageFailed" conditions (InstanceController.failedAuditKey app)) := by
            intro conditions
            rw [hkey]
            exact plain_auditEvent _ _ _ _ _ _ (by decide) (by decide) (by decide)
          exact hJ.bind (hJ.send t (hsend _ _ (hplain _))) fun _ _ => hJ.idle (.pure _)

theorem reportEndpoints
    (hack : (app.metadata.annotations.lookup seaweedEndpointsAckRetryAnnotation).isSome →
      agentEndpointsFromStatus app.status.endpoints ≠ [] → L.endpoints k
        (r.seaweedEndpointsReportKey (agentEndpointsFromStatus app.status.endpoints)))
    (hsend : ∀ m t ready, agentEndpointsFromStatus app.status.endpoints ≠ [] →
      L.sends m (Agent.seaweedEndpointsEvent t (instanceRef app) ready
        (agentEndpointsFromStatus app.status.endpoints)
        (r.seaweedEndpointsReportKey (agentEndpointsFromStatus app.status.endpoints)))) :
    J _ env c (r.reportSeaweedEndpointsIfNeeded app) := by
  subst hk
  refine hJ.bind (hJ.idle InstanceM.idle_now) fun t _ => ?_
  simp only
  split
  · exact hJ.idle (.pure _)
  · next hsome =>
    split
    · exact hJ.idle (.pure _)
    · split
      · next hretry =>
        have hmarked := Option.isSome_of_eq_some (app.lookup_of_annotation rfl hretry)
        refine hJ.bind (hJ.attempt (hJ.ensure _ _ fun a => ?_)) fun res _ => ?_
        · exact permits_setField (fun h => absurd h (by decide)) (fun h => absurd h (by decide))
            (fun _ => hack hmarked hsome) fun h => absurd h (by decide)
        · split
          · exact hJ.idle (.pure _)
          · exact hJ.clear _ (by decide)
      · split
        · exact hJ.idle (.pure _)
        · next ready _ =>
          split
          · exact hJ.idle (.pure _)
          · refine hJ.bind (hJ.idle idle_remembered) fun m _ => ?_
            split
            · exact hJ.idle (.pure _)
            · simp only [OperatorMemory.reportSeaweedEndpoints, if_neg hsome]
              exact hJ.send t (hsend _ t ready hsome)

end Patches

theorem patches_memory {τ : Type} {g : OperatorMemory → τ}
    (hg : ∀ m now e, L.sends m e → g (m.enqueue now e) = g m) :
    Patches L k fun _ env c x => g (x.run env c).state.memory = g c.memory where
  idle h := by rw [(h _ _).1]
  bind := by
    intro α β env c x f hx hf
    cases h : (x.run env c).result with
    | error err => rw [run_bind_of_error h]; exact hx
    | ok a => rw [run_bind_of_ok h]; exact (hf a h).trans hx
  mapError h := h
  attempt h := h
  patch := by
    intro env c f event s _
    rw [run_patchAnnotations]
    split <;> rfl
  send now h := hg _ now _ h

/-- Everything is allowed, or nothing. -/
def Licence.always (p : Prop) : Licence :=
  ⟨fun _ _ => p, fun _ _ => p, fun _ _ => p, fun _ => p, fun _ => p, fun _ _ => p⟩

theorem patches_none : Patches (.always False) k fun _ env c x => (x.run env c).state.memory = c.memory :=
  patches_memory (g := id) fun _ _ _ h => h.elim

/-- What the delivery of credentials asks of a licence, with these maps of the delivery. -/
structure Admits (L : Licence) (k : ObjectKey) (app : ManagedInstance) (ready : Condition)
    (ms : ManagedStorageSnapshot) (reportKey : String) (d : StorageDelivery) : Prop where
  key : app.metadata.key = k
  posted : app.annotation managedStoragePostedAnnotation = reportKey → L.acks k reportKey
  pending : d.pendingStorageAckReportKey k.ns k.name = some reportKey → L.acks k reportKey
  send : ¬(d.inFlightStorageReportKey k.ns k.name = some reportKey ∧
      d.postingStorageReportKey k.ns k.name = some reportKey) → ∀ m now endpoints,
    m.hasPendingEvent (Agent.managedStorageEventKey (instanceRef app) ready reportKey) = false →
    L.sends m (Agent.managedStorageReadyEvent now (instanceRef app) ready endpoints ms.payload
      reportKey)

theorem key_of_patchAnnotations {event : ℕ} {s : PatchSite}
    {f : List (String × String) → List (String × String)}
    (h : ((patchAnnotations event s k f).run env c).result = .ok app) : app.metadata.key = k := by
  rw [run_patchAnnotations] at h
  split at h
  · exact absurd h (by simp)
  · exact absurd h (by simp)
  · next stored _ hget =>
    rw [← Except.ok.inj h]
    exact Store.key_of_get hget

theorem key_of_claimManagedStorageDelivery {app' : ManagedInstance} {reportKey : String}
    (h : ((claimManagedStorageDelivery app reportKey).run env c).result = .ok (.claimed app')) :
    app'.metadata.key = app.metadata.key := by
  unfold claimManagedStorageDelivery at h
  split_ifs at h
  · exact absurd h (by simp)
  · rw [← StorageClaim.claimed.inj (Except.ok.inj h)]
  · exact absurd h (by simp)
  · obtain ⟨res, hres, h⟩ := exists_of_result_bind h
    cases res with
    | ok patched =>
      rw [← StorageClaim.claimed.inj (Except.ok.inj h)]
      exact key_of_patchAnnotations (Except.ok.inj hres)
    | error err =>
      obtain ⟨conflict, -, h⟩ := exists_of_result_bind h
      split_ifs at h
      · exact absurd h (by simp)
      · exact absurd h (by simp)

theorem of_clearManagedStorageClaim {s : PatchSite} {app' : ManagedInstance}
    (h : ((clearManagedStorageClaim s app).run env c).result = .ok app') :
    app' = app ∨ ∃ stored, c.instances.get app.metadata.key = some stored ∧
      app' = stored.annotate (unsetField managedStorageClaimAnnotation) := by
  unfold clearManagedStorageClaim at h
  split at h
  · exact .inl (Except.ok.inj h).symm
  · rw [run_patchAnnotations] at h
    split at h
    · exact absurd h (by simp)
    · exact absurd h (by simp)
    · next stored _ hget => exact .inr ⟨stored, hget, (Except.ok.inj h).symm⟩

namespace Heeds

variable {ready : Condition} {ms : ManagedStorageSnapshot} {reportKey : String}
  {d : StorageDelivery} (hJ : Heeds L k J)

include hJ

theorem sendStorage (h : Admits L k app ready ms reportKey d)
    (hposting : ¬(d.inFlightStorageReportKey k.ns k.name = some reportKey ∧
      d.postingStorageReportKey k.ns k.name = some reportKey))
    (hpending : c.memory.hasPendingEvent
      (Agent.managedStorageEventKey (instanceRef app) ready reportKey) = false) :
    J _ env c (InstanceController.sendManagedStorage app ready ms reportKey) := by
  refine hJ.bind (hJ.idle InstanceM.idle_now) fun now _ =>
    hJ.bind (hJ.attempt (hJ.claim h.key _)) fun res hres => ?_
  rw [(InstanceM.idle_now env c).1] at hres ⊢
  have hclaimed : ((claimManagedStorageDelivery app reportKey).run env c).state.memory = c.memory :=
    patches_none.claim h.key reportKey
  split
  · exact hJ.idle (.pure _)
  · exact hJ.idle (.pure _)
  · exact hJ.idle (.pure _)
  · next app' =>
    have hkey := (key_of_claimManagedStorageDelivery (Except.ok.inj hres)).trans h.key
    refine hJ.bind (hJ.idle idle_remembered) fun m _ => ?_
    rw [(idle_remembered env _).1]
    split
    · refine hJ.bind (hJ.send now (h.send hposting _ _ _ (hclaimed ▸ hpending))) fun _ _ => ?_
      exact hJ.bind (hJ.forget fun d => d.forgets_markStorageInFlight _ _ _) fun _ _ =>
        hJ.idle (.pure _)
    · refine hJ.bind (hJ.attempt (hJ.clearClaim _ hkey)) fun res _ => ?_
      split <;> exact hJ.idle (.pure _)

theorem deliver (h : Admits L k app ready ms reportKey d)
    (hposting : ¬(d.inFlightStorageReportKey k.ns k.name = some reportKey ∧
      d.postingStorageReportKey k.ns k.name = some reportKey)) :
    J _ env c (InstanceController.deliverManagedStorage app ready ms reportKey) := by
  refine hJ.bind (hJ.idle idle_remembered) fun m hm => ?_
  obtain rfl : c.memory = m := Except.ok.inj hm
  rw [(idle_remembered env c).1]
  split
  · exact hJ.idle (.pure _)
  · next hpending =>
    split
    · next hposted =>
      rw [h.key]
      refine hJ.bind (hJ.attempt (hJ.retryAck (h.posted hposted))) fun res _ => ?_
      split <;> exact hJ.idle (.pure _)
    · exact hJ.sendStorage h hposting (Bool.eq_false_iff.mpr hpending)

theorem resume (h : Admits L k app ready ms reportKey d)
    (hinFlight : c.memory.delivery.inFlight = d.inFlight)
    (hposting : c.memory.delivery.posting = d.posting) :
    J _ env c (InstanceController.resumeManagedStorage app ready ms reportKey) := by
  have hns : app.metadata.ns = k.ns := congrArg ObjectKey.ns h.key
  have hname : app.metadata.name = k.name := congrArg ObjectKey.name h.key
  have hlookup : ∀ ns name, c.memory.delivery.inFlightStorageReportKey ns name =
      d.inFlightStorageReportKey ns name := by
    intro ns name
    rw [StorageDelivery.inFlightStorageReportKey, hinFlight]
    rfl
  have hclear : ∀ c, J _ env c
      (onDelivery fun d => d.clearStorageInFlight app.metadata.ns app.metadata.name) :=
    fun c => hJ.forget fun d => d.forgets_clearStorageInFlight _ _
  refine hJ.bind (hJ.idle idle_remembered) fun m hm => ?_
  obtain rfl : c.memory = m := Except.ok.inj hm
  split
  · next hnone =>
    refine hJ.deliver h fun hboth => ?_
    rw [hlookup, hns, hname, hboth.1] at hnone
    exact absurd hnone (by simp)
  · next inFlightKey hsome =>
    rw [hlookup, hns, hname] at hsome
    split
    · next hother =>
      refine hJ.bind (hclear _) fun _ _ => hJ.deliver h fun hboth => ?_
      exact hother (Option.some.inj (hsome.symm.trans hboth.1))
    · split
      · exact hJ.idle (.pure _)
      · split
        · exact hJ.idle (.pure _)
        · next hnot =>
          refine hJ.bind (hclear _) fun _ _ => hJ.deliver h fun hboth => ?_
          refine hnot ?_
          rw [StorageDelivery.postingStorageReportKey, hposting, hns, hname]
          exact hboth.2

theorem settle (h : Admits L k app ready ms reportKey c.memory.delivery) :
    J _ env c (InstanceController.settleManagedStorage app ready ms reportKey) := by
  have hns : app.metadata.ns = k.ns := congrArg ObjectKey.ns h.key
  have hname : app.metadata.name = k.name := congrArg ObjectKey.name h.key
  refine hJ.bind (hJ.idle idle_remembered) fun m hm => ?_
  obtain rfl : c.memory = m := Except.ok.inj hm
  rw [(idle_remembered env c).1]
  split
  · exact hJ.resume h rfl rfl
  · next pendingKey hpending =>
    split
    · -- an acknowledgement of other credentials is forgotten
      exact hJ.bind (hJ.forget fun d => d.forgets_clearStorageAckPending _ _)
        fun _ _ => hJ.resume h rfl rfl
    · next hsame =>
      obtain rfl : pendingKey = reportKey := not_not.mp hsame
      rw [hns, hname] at hpending
      rw [h.key]
      refine hJ.bind (hJ.attempt (hJ.ack _ (h.pending hpending))) fun res _ => ?_
      split <;> exact hJ.idle (.pure _)

theorem report (hk : app.metadata.key = k)
    (h : ∀ t ready app', getCondition app.status.conditions "Ready" = some ready →
      app.annotation reportedManagedStorageAccessKeyAnnotation ≠ r.managedStorageReportKey ms →
      (app' = app ∨ ∃ stored, c.instances.get k = some stored ∧
        app' = stored.annotate (unsetField managedStorageClaimAnnotation)) →
      Admits L k app' (InstanceController.managedStorageReady t ready) ms
        (r.managedStorageReportKey ms) c.memory.delivery) :
    J _ env c (r.reportManagedStorage app ms) := by
  refine hJ.bind (hJ.idle InstanceM.idle_now) fun t _ => ?_
  rw [(InstanceM.idle_now env c).1]
  split
  · exact hJ.idle (.pure _)
  · next ready hready =>
    simp only
    split
    · exact hJ.bind (hJ.forget fun d => d.forgets_clearStorageDeliveryState _ _) fun _ _ =>
        hJ.idle (.pure _)
    · next hunreported =>
      split
      · refine hJ.bind (hJ.attempt (hJ.clearClaim _ hk)) fun res hres => ?_
        split
        · exact hJ.idle (.pure _)
        · next app' =>
          have hclear := of_clearManagedStorageClaim (Except.ok.inj hres)
          have hmemory : ((clearManagedStorageClaim .staleClaim app).attempt.run env c).state.memory =
              c.memory := patches_none.clearClaim .staleClaim hk
          refine hJ.settle ?_
          rw [hmemory]
          exact h t ready app' hready hunreported (hk ▸ hclear)
      · exact hJ.settle (h t ready app hready hunreported (.inl rfl))

end Heeds

end walk

section storage

variable {ready : Condition} {ms : ManagedStorageSnapshot} {reportKey : String}

variable (r c₀ k app₀) in
/-- The credentials the cluster holds for an instance are not annotated as reported.  The
reconcile has another version of the instance at hand, without a stale claim perhaps. -/
structure Due (app : ManagedInstance) (ready : Condition) (ms : ManagedStorageSnapshot) :
    Prop where
  get : c₀.instances.get k = some app₀
  ref : instanceRef app = instanceRef app₀
  posted : ∀ key, app.metadata.annotations.lookup managedStoragePostedAnnotation = some key →
    app₀.metadata.annotations.lookup managedStoragePostedAnnotation = some key
  type : ready.type = "Ready"
  status : ready.status = .true
  credentials : credentialsOf c₀ app₀.toApplicationInstance = some ms
  unreported : app₀.metadata.annotations.lookup reportedManagedStorageAccessKeyAnnotation ≠
    some (r.managedStorageReportKey ms)

theorem Due.key (h : Due r c₀ k app₀ app ready ms) : app.metadata.key = k := by
  have hns : app.metadata.ns = app₀.metadata.ns := congrArg Agent.AppliedRef.ns h.ref
  have hname : app.metadata.name = app₀.metadata.name := congrArg Agent.AppliedRef.name h.ref
  rw [ObjectMeta.key, hns, hname]
  exact Store.key_of_get h.get

theorem Due.admits (h : Due r c₀ k app₀ app ready ms) :
    Admits (r.reconcileLicence c₀ k) k app ready ms (r.managedStorageReportKey ms)
      c₀.memory.delivery where
  key := h.key
  posted hposted := by
    have hlookup := h.posted _ (app.lookup_of_annotation hposted (r.digestKey_ne_empty _))
    exact ⟨rfl, .inr ⟨app₀, h.get, hlookup⟩⟩
  pending hpending := ⟨rfl, .inl hpending⟩
  send hposting m now endpoints hm := by
    rw [h.ref] at hm ⊢
    exact .managed h.get h.credentials h.type h.status h.unreported hm hposting now endpoints

theorem moves_reportManagedStorage (hget : c₀.instances.get k = some app₀)
    (hmoves : Moves (r.reconcileLicence c₀ k) c₀ c)
    (hdelivery : c.memory.delivery = c₀.memory.delivery)
    (hms : credentialsOf c₀ app₀.toApplicationInstance = some ms)
    {status : ApplicationInstanceStatus} (hready : isConditionTrue status.conditions "Ready") :
    Moves (r.reconcileLicence c₀ k) c
      ((r.reportManagedStorage { app₀ with status } ms).run env c).state := by
  have hkey : app₀.metadata.key = k := Store.key_of_get hget
  refine (heeds_moves _ k).report hkey fun t ready app' hcondition hunreported happ' => ?_
  have hcondition : getCondition status.conditions "Ready" = some ready := hcondition
  have htype : ready.type = "Ready" := by
    rw [getCondition] at hcondition
    simpa using List.find?_some hcondition
  have hstatus : ready.status = .true := by
    rw [isConditionTrue, hcondition] at hready
    simpa using hready
  have hunreported : app₀.metadata.annotations.lookup
      reportedManagedStorageAccessKeyAnnotation ≠ some (r.managedStorageReportKey ms) := by
    intro hlookup
    refine hunreported ?_
    rw [ManagedInstance.annotation, hlookup]
    rfl
  have hdue : Due r c₀ k app₀ app' (InstanceController.managedStorageReady t ready) ms := by
    rcases happ' with rfl | ⟨stored, hstored, rfl⟩
    · exact ⟨hget, rfl, fun _ h => h, htype, hstatus, hms, hunreported⟩
    · obtain ⟨app₁, hget₁, hevolved⟩ := hmoves.get hstored
      obtain rfl : app₀ = app₁ := Option.some.inj (hget.symm.trans hget₁)
      refine ⟨hget, hevolved.ref, fun key hposted => ?_, htype, hstatus, hms, hunreported⟩
      exact (hevolved.annotations.posted key (lookup_of_unsetField hposted)).resolve_right id
  exact hdelivery ▸ hdue.admits

theorem delivery_reportSeaweedEndpointsIfNeeded (app : ManagedInstance) :
    ((r.reportSeaweedEndpointsIfNeeded app).run env c).state.memory.delivery = c.memory.delivery :=
  (patches_memory (L := .always True) (g := OperatorMemory.delivery)
    fun _ _ _ _ => OperatorMemory.delivery_enqueue).reportEndpoints rfl (fun _ _ => trivial)
      fun _ _ _ _ => trivial

theorem moves_reconcileSeaweedManagedStorage (hget : c₀.instances.get k = some app₀)
    (hmoves : Moves (r.reconcileLicence c₀ k) c₀ c)
    (hdelivery : c.memory.delivery = c₀.memory.delivery) {status : ApplicationInstanceStatus}
    (hendpoints : agentEndpointsFromStatus status.endpoints = [] ∨
      agentEndpointsFromStatus status.endpoints = endpointsOf app₀.toApplicationInstance) :
    Moves (r.reconcileLicence c₀ k) c₀
      ((r.reconcileSeaweedManagedStorage { app₀ with status }).run env c).state := by
  refine hmoves.trans ?_
  unfold InstanceController.reconcileSeaweedManagedStorage
  split
  · next hready =>
    have hkey : app₀.metadata.key = k := Store.key_of_get hget
    have hreport : Moves (r.reconcileLicence c₀ k) c
        ((r.reportSeaweedEndpointsIfNeeded { app₀ with status }).run env c).state := by
      refine (heeds_moves _ k).reportEndpoints hkey (fun hmarked hsome => ?_)
        fun m t ready hsome => ?_
      · have heq := hendpoints.resolve_left hsome
        rw [heq]
        exact ⟨rfl, app₀, hget, hmarked, rfl⟩
      · have heq := hendpoints.resolve_left hsome
        rw [heq]
        exact .endpoints hget t ready
    refine moves_bind hreport fun _ _ => ?_
    have hmoves₁ := hmoves.trans hreport
    have hdelivery₁ : ((r.reportSeaweedEndpointsIfNeeded { app₀ with status }).run env
        c).state.memory.delivery = c₀.memory.delivery :=
      (delivery_reportSeaweedEndpointsIfNeeded _).trans hdelivery
    generalize ((r.reportSeaweedEndpointsIfNeeded { app₀ with status }).run env c).state = c₁
      at hmoves₁ hdelivery₁ ⊢
    have hidle : Idle (resolveManagedStorageState app₀.toApplicationInstance).attempt :=
      (idle_resolveManagedStorageState _).attempt
    have hresolve : Moves (r.reconcileLicence c₀ k) c₁
        ((resolveManagedStorageState app₀.toApplicationInstance).attempt.run env c₁).state :=
      Licensed.of_idle hidle env c₁
    refine moves_bind hresolve fun res hres => ?_
    rw [show ((resolveManagedStorageState _).attempt.run env c₁).state = c₁ from (hidle env c₁).1]
    split
    · exact .refl
    · exact .refl
    · exact (heeds_moves _ k).reportFailed hkey fun _ _ => .plain
    · exact .refl
    · next ms =>
      have hms : credentialsOf c₀ app₀.toApplicationInstance = some ms := by
        rw [← credentialsOf_congr (Moves.credentials hmoves₁)]
        exact credentialsOf_of_resolved (Except.ok.inj hres)
      exact moves_reportManagedStorage hget hmoves₁ hdelivery₁ hms hready
  · exact .refl

end storage

/-! #### The whole reconcile -/

variable (r c₀ k app₀) in
/-- A reconcile before it comes to the delivery of managed storage.  The finalizers are the only
metadata it has written. -/
structure Underway (c : InstanceCluster) : Prop where
  moves : Moves (r.reconcileLicence c₀ k) c₀ c
  delivery : c.memory.delivery = c₀.memory.delivery
  stored : ∀ stored, c.instances.get k = some stored → stored.spec = app₀.spec ∧
    stored.metadata = { app₀.metadata with finalizers := stored.metadata.finalizers }

theorem Underway.start (hget : c.instances.get k = some app) : Underway r c k app c where
  moves := .refl
  delivery := rfl
  stored stored hstored := by
    obtain rfl : app = stored := Option.some.inj (hget.symm.trans hstored)
    exact ⟨rfl, rfl⟩

theorem Underway.enqueue (h : Underway r c₀ k app₀ c) {e : Agent.Event} (he : Plain e) (now : ℕ) :
    Underway r c₀ k app₀ (c.withMemory fun m => m.enqueue now e) where
  moves := h.moves.tail (.send now (.plain he))
  delivery := OperatorMemory.delivery_enqueue.trans h.delivery
  stored := h.stored

theorem statusClosed_underway : StatusClosed (Underway r c₀ k app₀) where
  status c k' stored st hget hc := by
    have hevolved : Evolved (r.reconcileLicence c₀ k) stored { stored with status := st } :=
      ⟨rfl, rfl, rfl, rfl, .refl _ _⟩
    refine ⟨hc.moves.tail (.write hget hevolved), hc.delivery, fun app' happ' => ?_⟩
    rcases Store.of_get_put happ' with ⟨rfl, hk⟩ | happ'
    · have hsame : k' = k := (Store.key_of_get hget).symm.trans hk
      exact hc.stored stored (hsame ▸ hget)
    · exact hc.stored app' happ'
  report c t ref prev next hc :=
    OperatorMemory.reportConditionTransitions_induction
      (P := fun m => Underway r c₀ k app₀ (c.withMemory fun _ => m))
      (fun _ cond hm => hm.enqueue (plain_transitionEvent t ref cond) t) hc

theorem underway_objects (c c' : InstanceCluster) (h : c'.withoutObjects = c.withoutObjects)
    (hc : Underway r c₀ k app₀ c) : Underway r c₀ k app₀ c' where
  moves := hc.moves.tail (.objects h)
  delivery := (congrArg OperatorMemory.delivery (memory_of_withoutObjects h)).trans hc.delivery
  stored stored hstored := hc.stored stored (instances_of_withoutObjects h ▸ hstored)

theorem Underway.put (h : Underway r c₀ k app₀ c) {stored : ManagedInstance}
    (hget : c.instances.get k = some stored) (finalizers : List String) :
    Underway r c₀ k app₀ { c with
      instances := c.instances.put { stored with metadata := { app₀.metadata with finalizers } } } := by
  have hmetadata := (h.stored stored hget).2
  have hevolved : Evolved (r.reconcileLicence c₀ k) stored
      { stored with metadata := { app₀.metadata with finalizers } } := by
    refine ⟨?_, ?_, rfl, rfl, ?_⟩
    · rw [hmetadata]; rfl
    · rw [hmetadata]
    · rw [hmetadata]; exact .refl _ _
  refine ⟨h.moves.tail (.write hget hevolved), h.delivery, fun app' happ' => ?_⟩
  rcases Store.of_get_put happ' with ⟨rfl, -⟩ | happ'
  · exact ⟨(h.stored stored hget).1, rfl⟩
  · exact h.stored app' happ'

theorem keeps_dropFinalizer_underway (hkey : app₀.metadata.key = k) :
    Keeps env (Underway r c₀ k app₀) (dropFinalizer app₀) := by
  refine .bind (.mapError (keeps_updateMetadata _ _ (fun c stored hget hc => ?_) fun c hc => ?_))
    fun _ => .of_idle (.pure _)
  · have hget : c.instances.get k = some stored := hkey ▸ hget
    rw [updated_of_spec _ (hc.stored stored hget).1.symm]
    exact hc.put hget _
  · refine ⟨hc.moves.tail (.removed hkey), hc.delivery, fun stored hstored => ?_⟩
    have hnone := Store.get_erase_self c.instances app₀.metadata.key
    rw [hkey] at hnone
    exact absurd (hnone.symm.trans (hkey ▸ hstored)) (by simp)

theorem InstanceController.moves_reconcile (env : InstanceEnv) (c : InstanceCluster)
    (k : ObjectKey) :
    Moves (r.reconcileLicence c k) c ((r.reconcile k).run env c).state := by
  refine keeps_reconcile (P := Moves (r.reconcileLicence c k) c) .refl ?_ ?_
  · intro app metadata hget hmetadata
    rw [hmetadata]
    exact ((Underway.start hget).put hget _).moves
  · intro app hget _
    have hkey : app.metadata.key = k := Store.key_of_get hget
    have hstart : Underway r c k app c := .start hget
    refine state_proceed (statusClosed_underway.at _) (.of_apart underway_objects) hstart
      (fun _ hc => hc.moves) (fun c' status hc' hendpoints => ?_) (keeps_dropFinalizer_underway hkey)
    exact moves_reconcileSeaweedManagedStorage hget hc'.moves hc'.delivery hendpoints

end reconcile

/-- The event reports managed storage of the instance at a place, as far as its key says. -/
def ReportsStorage (e : Agent.Event) (k : ObjectKey) (key : String) : Prop :=
  InstanceController.eventPlace e = k ∧
    Agent.managedStorageReportKeyFromEventKey e.eventKey = some key

/-- The event reports endpoints of the instance at a place. -/
def ReportsEndpoints (e : Agent.Event) (k : ObjectKey) (key : String) : Prop :=
  InstanceController.eventPlace e = k ∧ Agent.endpointsReportKeyFromEventKey e.eventKey = some key

/-- What the hook that runs after the delivery of a batch may write. -/
def deliveryLicence (batch : List Agent.Event) : Licence where
  acks k key := ∃ e ∈ batch, ReportsStorage e k key
  posts k key := ∃ e ∈ batch, ReportsStorage e k key
  endpoints k key := ∃ e ∈ batch, ReportsEndpoints e k key
  retries k := ∃ e ∈ batch, ∃ key, ReportsEndpoints e k key
  removes _ := False
  sends _ _ := False

section acknowledgement

variable {r : InstanceController} {L : Licence} {k : ObjectKey} {key : String} (i : ℕ)

theorem licensed_triggerAckRetry {name : String}
    (h : ∀ value a, L.Permits k a (setField name value a)) :
    Licensed L (r.triggerAckRetry i k name) := by
  refine .bind (.of_idle InstanceM.idle_now) fun t =>
    .bind (.of_idle (.attempt (idle_getForPatch _ _ _))) fun res => ?_
  split
  · exact .of_idle (.pure _)
  · exact .bind (.attempt (licensed_patchAnnotations _ _ (h _))) fun _ => .of_idle (.pure _)

theorem licensed_ackFailedAudit : Licensed L (r.ackFailedAudit i k) := by
  have hretry : Licensed L (r.triggerAckRetry i k managedStorageFailedAckRetryAnnotation) :=
    licensed_triggerAckRetry i fun _ _ => permits_of_notMem (by decide)
  refine .bind (.attempt <| licensed_ensureAnnotation _ _ fun _ => permits_of_notMem (by decide))
    fun res => ?_
  split
  · exact hretry
  · refine .bind (.attempt <| licensed_ensureAnnotation _ _ fun _ => permits_of_notMem (by decide))
      fun res => ?_
    split
    · exact hretry
    · exact .of_idle (.pure _)

theorem licensed_ackEndpoints (h : L.endpoints k key) (hretry : L.retries k) :
    Licensed L (r.ackEndpoints i k key) := by
  refine .bind (.attempt <| licensed_ensureAnnotation _ _ fun a => ?_) fun res => ?_
  · exact permits_setField (fun h => absurd h (by decide)) (fun h => absurd h (by decide))
      (fun _ => h) fun h => absurd h (by decide)
  · split
    · exact licensed_triggerAckRetry i fun value a =>
        permits_setField (fun h => absurd h (by decide)) (fun h => absurd h (by decide))
          (fun h => absurd h (by decide)) fun _ => hretry
    · exact .of_idle (.pure _)

theorem licensed_ackManagedStorage (h : L.acks k key) (hposts : L.posts k key) :
    Licensed L (r.ackManagedStorage i k key) := by
  have hretry : Licensed L (r.triggerAckRetry i k managedStorageAckRetryAnnotation) :=
    licensed_triggerAckRetry i fun _ _ => permits_of_notMem (by decide)
  have hmaps : Licensed L (onDelivery fun d => ((d.markStorageAckPending k.ns k.name
      key).clearStorageInFlight k.ns k.name).clearStoragePosting k.ns k.name key) := by
    intro env c
    have hpend : Moves L c (c.withMemory fun m =>
        { m with delivery := m.delivery.markStorageAckPending k.ns k.name key }) := .single (.pend h)
    have hinFlight := StorageDelivery.forgets_clearStorageInFlight
      (c.memory.delivery.markStorageAckPending k.ns k.name key) k.ns k.name
    exact (hpend.tail (.forget hinFlight)).tail
      (.forget (StorageDelivery.forgets_clearStoragePosting _ k.ns k.name key))
  refine .bind hmaps fun _ => .bind (.attempt <| licensed_ensureAnnotation _ _ fun a => ?_)
    fun res => ?_
  · exact permits_setField (fun h => absurd h (by decide)) (fun _ => hposts)
      (fun h => absurd h (by decide)) fun h => absurd h (by decide)
  · split
    · exact hretry
    · refine .bind (.attempt (licensed_patchManagedStorageAck _ h)) fun res => ?_
      split
      · exact hretry
      · exact .of_idle (.pure _)

theorem licensed_ackEvent {batch : List Agent.Event} {e : Agent.Event} (he : e ∈ batch) :
    Licensed (deliveryLicence batch) (r.ackEvent i e) := by
  unfold InstanceController.ackEvent
  split
  · exact licensed_ackFailedAudit i
  · split
    · next key hkey => exact licensed_ackEndpoints i ⟨e, he, rfl, hkey⟩ ⟨e, he, key, rfl, hkey⟩
    · split
      · next key hkey => exact licensed_ackManagedStorage i ⟨e, he, rfl, hkey⟩ ⟨e, he, rfl, hkey⟩
      · exact .of_idle (.pure _)

theorem InstanceController.licensed_ackManagedStorageDelivered {batch events : List Agent.Event}
    (h : events ⊆ batch) :
    Licensed (deliveryLicence batch) (r.ackManagedStorageDelivered i events) := by
  induction events generalizing i with
  | nil => exact .of_idle (.pure _)
  | cons e events ih =>
    obtain ⟨he, hrest⟩ := List.cons_subset.mp h
    exact .bind (licensed_ackEvent i he) fun _ => ih (i + 1) hrest

end acknowledgement

end VWorkspace
