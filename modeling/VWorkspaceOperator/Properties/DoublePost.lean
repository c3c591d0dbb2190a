import VWorkspaceOperator.Properties.StorageProgress

/-!
# Credentials that are posted twice

Before it sends credentials a reconcile looks for their event in the buffer, and then whether
they are marked as in flight and as being posted.  Neither is so while a flush has taken the
event out of the buffer and not yet marked it, or has taken the mark away after a failed post
and not yet put the event back; and the marks of other credentials in between take the place of
the first.  A reconcile in such a window sends the credentials a second time.

Where every reconcile that finds its event in the batch finds it marked, no event with
credentials is held twice.  The credentials are posted once, then, as long as they stay and
their acknowledgement succeeds.
-/

namespace VWorkspace

open Kit Prog InstanceM

variable {m : OperatorMemory} {a : DeliveryStep} {app : ManagedInstance}

def copies (eventKey : String) (events : List Agent.Event) : ℕ :=
  events.countP fun e => e.eventKey = eventKey

theorem copies_append (eventKey : String) (events events' : List Agent.Event) :
    copies eventKey (events ++ events') = copies eventKey events + copies eventKey events' :=
  List.countP_append

theorem copies_eq_zero {eventKey : String} {events : List Agent.Event} :
    copies eventKey events = 0 ↔ ∀ e ∈ events, e.eventKey ≠ eventKey := by
  simp [copies, List.countP_eq_zero]

/-- The reconcile of an instance finds credentials.  If the flush has their event in its batch,
they are marked as in flight and as being posted. -/
def DeliveryWorld.Shielded (r : InstanceController) (w : DeliveryWorld) : DeliveryStep → Prop
  | .reconcile _ k => ∀ app ∈ w.cluster.instances.get k,
      ∀ ms ∈ credentialsOf w.cluster app.toApplicationInstance,
        (∃ e ∈ w.phase.batch, e.eventKey = storageEventKey k (r.managedStorageReportKey ms)) →
        w.cluster.memory.delivery.inFlightStorageReportKey k.ns k.name =
            some (r.managedStorageReportKey ms) ∧
          w.cluster.memory.delivery.postingStorageReportKey k.ns k.name =
            some (r.managedStorageReportKey ms)
  | _ => True

/-- No key of managed storage belongs to two events that are held. -/
def Single (w : DeliveryWorld) : Prop :=
  ∀ eventKey, hasPrefix eventKey Agent.managedStorageEventKeyPrefix = true →
    copies eventKey w.held ≤ 1

section single

variable {r : InstanceController} {w w' : DeliveryWorld} {c : InstanceCluster} {k : ObjectKey}
  {eventKey : String}

theorem copies_eq_zero_of_sends {e : Agent.Event}
    (hshielded : w.Shielded r (.reconcile { now := 0 } k)) (hsend : r.Sends w.cluster k m e)
    (hkey : hasPrefix e.eventKey Agent.managedStorageEventKeyPrefix = true)
    (hreporting : m.reporting = true) :
    copies e.eventKey m.batcher.events = 0 ∧ copies e.eventKey w.phase.batch = 0 := by
  cases hsend with
  | plain h => rw [h.managedStorage] at hkey; exact absurd hkey (by simp)
  | @endpoints app hget now ready =>
    obtain ⟨t, ht⟩ := Agent.exists_endpointsEventKey (instanceRef app)
      (r.endpointsKeyOf app.toApplicationInstance)
    have hnot : hasPrefix (Agent.endpointsEventKey (instanceRef app)
        (r.endpointsKeyOf app.toApplicationInstance)) Agent.managedStorageEventKeyPrefix = false := by
      rw [ht]
      exact hasPrefix_append_eq_false t (by decide) (by decide) (by decide)
    exact absurd (hkey.symm.trans hnot) (by simp)
  | @managed app ms hget hms ready htype hstatus hreported hpending hposting now endpoints =>
    have hplace : app.metadata.key = k := Store.key_of_get hget
    have hevent : Agent.managedStorageEventKey (instanceRef app) ready
        (r.managedStorageReportKey ms) = storageEventKey k (r.managedStorageReportKey ms) := by
      rw [managedStorageEventKey_eq htype hstatus, ← hplace]
      rfl
    constructor
    · rw [copies_eq_zero]
      intro e he heq
      have hhas : m.hasPendingEvent (Agent.managedStorageEventKey (instanceRef app) ready
          (r.managedStorageReportKey ms)) = true := by
        rw [OperatorMemory.hasPendingEvent, hreporting, Bool.true_and,
          Agent.EventBatcher.hasEventKey, Bool.and_eq_true, List.any_eq_true]
        refine ⟨?_, e, he, decide_eq_true heq⟩
        obtain ⟨t, ht⟩ := Agent.exists_managedStorageEventKey (instanceRef app) ready
          (r.managedStorageReportKey ms)
        rw [ht, decide_eq_true_eq]
        intro hempty
        exact absurd (congrArg String.toList hempty) (by simp [Agent.managedStorageEventKeyPrefix])
      exact absurd (hhas.symm.trans hpending) (by simp)
    · rw [copies_eq_zero]
      intro e he heq
      exact hposting (hshielded app hget ms hms ⟨e, he, heq.trans hevent⟩)

theorem copies_enqueue_le (m : OperatorMemory) (now : ℕ) (e : Agent.Event) :
    copies eventKey (m.enqueue now e).batcher.events ≤
      copies eventKey m.batcher.events + if e.eventKey = eventKey then 1 else 0 := by
  rw [OperatorMemory.enqueue]
  split
  · have hstamp : copies eventKey [e.stamp now] = if e.eventKey = eventKey then 1 else 0 := by
      rw [copies, List.countP_singleton]
      exact if_congr decide_eq_true_iff rfl rfl
    rw [← hstamp, ← copies_append]
    exact (Agent.EventBatcher.events_enqueue (b := m.batcher)) ▸ (keepLast_sublist _ _).countP_le
  · exact Nat.le_add_right _ _

theorem copies_enqueue_of_not_reporting (h : m.reporting = false) (now : ℕ) (e : Agent.Event) :
    copies eventKey (m.enqueue now e).batcher.events = copies eventKey m.batcher.events := by
  rw [OperatorMemory.enqueue, h]
  rfl

theorem Single.moves (h : Single w) {L : Licence} (hmoves : Moves L w.cluster c)
    (hsends : ∀ m e, L.sends m e →
      hasPrefix e.eventKey Agent.managedStorageEventKeyPrefix = true → m.reporting = true →
      copies e.eventKey m.batcher.events = 0 ∧ copies e.eventKey w.phase.batch = 0) :
    Single { w with cluster := c } := by
  intro eventKey hpre
  have hstart := h eventKey hpre
  rw [DeliveryWorld.held, copies_append] at hstart ⊢
  change copies eventKey c.memory.batcher.events + copies eventKey w.phase.batch ≤ 1
  induction hmoves with
  | refl => exact hstart
  | @tail c₁ c₂ _ hmove ih =>
    cases hmove with
    | objects hsame => rw [memory_of_withoutObjects hsame]; exact ih
    | write _ _ | removed _ | forget _ | pend _ => exact ih
    | @send now e hsend =>
      change copies eventKey (c₁.memory.enqueue now e).batcher.events + _ ≤ 1
      have hle : copies eventKey (c₁.memory.enqueue now e).batcher.events ≤ _ :=
        copies_enqueue_le c₁.memory now e
      by_cases hkey : e.eventKey = eventKey
      · rw [if_pos hkey] at hle
        cases hreporting : c₁.memory.reporting with
        | false => rw [copies_enqueue_of_not_reporting hreporting]; exact ih
        | true =>
          obtain ⟨hbuffer, hbatch⟩ := hsends _ _ hsend (hkey ▸ hpre) hreporting
          rw [hkey] at hbuffer hbatch
          omega
      · rw [if_neg hkey] at hle
        omega

theorem Single.of_subperm (h : Single w) (hheld : List.Subperm w'.held w.held) : Single w' :=
  fun eventKey hpre => (hheld.countP_le _).trans (h eventKey hpre)

theorem Single.next (h : Single w) (hshielded : w.Shielded r a)
    (hnext : DeliveryWorld.Next r w a w') : Single w' := by
  cases hnext with
  | stay => exact h
  | reconcile hmoves =>
    exact h.moves hmoves fun _ _ hsend => copies_eq_zero_of_sends hshielded hsend
  | reported hmoves =>
    refine h.moves hmoves fun _ _ hplain hkey => ?_
    exact absurd (hkey.symm.trans (Plain.managedStorage hplain)) (by simp)
  | client => exact h
  | handled hheld hbefore hafter => exact h.of_subperm hheld
  | prepared hphase =>
    refine h.of_subperm ?_
    rw [DeliveryWorld.held, DeliveryWorld.held, hphase]
    exact List.Subperm.refl _
  | posted hphase =>
    refine h.of_subperm ?_
    rw [DeliveryWorld.held, DeliveryWorld.held, hphase]
    exact List.Subperm.refl _
  | failed hphase hnext =>
    refine h.of_subperm ?_
    rw [DeliveryWorld.held, DeliveryWorld.held, hphase]
    rcases hnext with rfl | rfl <;> exact List.Subperm.refl _
  | aborted hphase =>
    refine h.of_subperm ?_
    rw [DeliveryWorld.held, DeliveryWorld.held, hphase]
    exact List.Subperm.refl _
  | acknowledged hphase =>
    refine h.of_subperm (List.Sublist.subperm ?_)
    rw [DeliveryWorld.held, DeliveryWorld.held, DeliveryWorld.batcher_ackManagedStorageDelivered]
    exact (List.nil_sublist _).append_left _
  | restart => exact h.of_subperm (List.Sublist.subperm (List.nil_sublist _))
  | outside c => exact h

theorem DeliveryWorld.Started.single (h : w.Started) : Single w := by
  intro eventKey _
  rw [h.held]
  exact Nat.zero_le 1

end single

section keys

variable {r : InstanceController} {e : Agent.Event} {k : ObjectKey} {key : String}

theorem InstanceController.unsplit_digestKey (r : InstanceController) (input : Bytes) :
    Agent.Unsplit (r.digestKey input) := splitOn_of_notMem (notMem_hexEncode (by decide) _)

theorem splitOn_storageEventKey (hns : Agent.Unsplit k.ns) (hname : Agent.Unsplit k.name)
    (hkey : Agent.Unsplit key) :
    splitOn '/' (storageEventKey k key) =
      ["managedStorage", k.ns, k.name, "Ready", "True", key] := by
  have hfirst : splitOn '/' (Agent.managedStorageEventKeyPrefix ++ k.ns) =
      ["managedStorage"] ++ splitOn '/' k.ns := Agent.splitOn_slash "managedStorage" k.ns
  have hready : splitOn '/' "Ready" = ["Ready"] := by decide
  have htrue : splitOn '/' "True" = ["True"] := by decide
  simp only [storageEventKey, Agent.splitOn_slash, hfirst, hready, htrue]
  rw [show splitOn '/' k.ns = [k.ns] from hns, show splitOn '/' k.name = [k.name] from hname,
    show splitOn '/' key = [key] from hkey]
  rfl

theorem hasPrefix_storageEventKey (k : ObjectKey) (key : String) :
    hasPrefix (storageEventKey k key) Agent.managedStorageEventKeyPrefix = true := by
  unfold storageEventKey
  simp only [String.append_assoc]
  exact hasPrefix_append_self _ _

theorem Made.storageReport_of_eventKey (h : Made r e) (hns : Agent.Unsplit k.ns)
    (hname : Agent.Unsplit k.name) (hkey : Agent.Unsplit key)
    (heventKey : e.eventKey = storageEventKey k key) : StorageReport r e k key := by
  have hsplit := splitOn_storageEventKey hns hname hkey
  have hreports : ReportsStorage e (InstanceController.eventPlace e) key := by
    refine ⟨rfl, ?_⟩
    rw [heventKey, Agent.managedStorageReportKeyFromEventKey, Agent.reportKeyFromEventKey,
      if_pos (hasPrefix_storageEventKey k key), hsplit]
    rfl
  have hreport := h.storageReport hreports
  have hsplit' := splitOn_storageEventKey hreport.unsplit.1 hreport.unsplit.2 hkey
  rw [← hreport.eventKey, heventKey, hsplit] at hsplit'
  simp only [List.cons.injEq, true_and] at hsplit'
  have hplace : InstanceController.eventPlace e = k := by
    cases k
    rw [ObjectKey.mk.injEq]
    exact ⟨hsplit'.1.symm, hsplit'.2.1.symm⟩
  exact hplace ▸ hreport

theorem InstanceController.Sends.of_reportsStorage {c : InstanceCluster} {k₀ : ObjectKey}
    (h : r.Sends c k₀ m e) (hreports : ReportsStorage e k key) :
    k = k₀ ∧ ∃ app ms, c.instances.get k₀ = some app ∧
      credentialsOf c app.toApplicationInstance = some ms ∧ r.managedStorageReportKey ms = key ∧
        app.metadata.annotations.lookup reportedManagedStorageAccessKeyAnnotation ≠ some key := by
  cases h with
  | plain h => exact absurd hreports h.not_reportsStorage
  | endpoints hget now ready =>
    have hnone : Agent.managedStorageReportKeyFromEventKey _ = some key := hreports.2
    exact absurd (hnone.symm.trans Agent.managedStorageReportKey_endpoints) (by simp)
  | @managed app ms hget hms ready htype hstatus hreported hpending hposting now endpoints =>
    obtain ⟨rfl, hparse⟩ := hreports
    obtain ⟨rfl, -, -⟩ := Agent.of_managedStorageReportKey hparse
    have hplace : app.metadata.key = k₀ := Store.key_of_get hget
    exact ⟨hplace, app, ms, hget, hms, rfl, hreported⟩

end keys

/-- The credentials of an instance stay, the instance stays the object it is, and the hook after
the delivery of its event succeeds. -/
def DeliveryWorld.Steady (r : InstanceController) (k : ObjectKey) (key : String)
    (w : DeliveryWorld) : DeliveryStep → Prop
  | .reconcile _ k' => k' = k → ∀ app ∈ w.cluster.instances.get k,
      ∀ ms ∈ credentialsOf w.cluster app.toApplicationInstance, r.managedStorageReportKey ms = key
  | .flush env _ => ∀ batch, w.phase = .delivered batch →
      (∃ e ∈ batch, e.eventKey = storageEventKey k key) →
        env.Faultless ∧ ∃ app, w.cluster.instances.get k = some app
  | .restart => False
  | .outside c => AnnotationsKept w.cluster c ∧ ∀ app', c.instances.get k = some app' →
      ∃ app, w.cluster.instances.get k = some app ∧ app.metadata.uid = app'.metadata.uid
  | _ => True

/-- The event was posted at most once.  If it was, it is in the batch that is to be acknowledged,
or it is acknowledged and not held. -/
structure Once (r : InstanceController) (k : ObjectKey) (key : String) (w : DeliveryWorld) : Prop where
  same : ∀ e, e ∈ w.held ∨ e ∈ w.accepted → ∀ key', ReportsStorage e k key' → key' = key
  once : copies (storageEventKey k key) w.accepted ≤ 1
  posted : copies (storageEventKey k key) w.accepted ≠ 0 →
    (∃ batch, w.phase = .delivered batch ∧ copies (storageEventKey k key) batch ≠ 0) ∨
      copies (storageEventKey k key) w.held = 0 ∧ ∀ app, w.cluster.instances.get k = some app →
        app.metadata.annotations.lookup reportedManagedStorageAccessKeyAnnotation = some key

section once

variable {r : InstanceController} {w w' : DeliveryWorld} {k : ObjectKey} {key : String}
  {c c' : InstanceCluster}

theorem lookup_reported_of_moves {L : Licence} (hmoves : Moves L c c')
    (hacks : ∀ key', L.acks k key' → key' = key) {app' : ManagedInstance}
    (happ : c.instances.get k = some app) (happ' : c'.instances.get k = some app')
    (h : app.metadata.annotations.lookup reportedManagedStorageAccessKeyAnnotation = some key) :
    app'.metadata.annotations.lookup reportedManagedStorageAccessKeyAnnotation = some key := by
  obtain ⟨app₀, happ₀, hevolved⟩ := hmoves.get happ'
  obtain rfl : app = app₀ := Option.some.inj (happ.symm.trans happ₀)
  obtain ⟨key', hlookup, rfl | hacked⟩ := hevolved.annotations.standing key h
  · exact hlookup
  · obtain rfl := hacks key' ((Store.key_of_get happ : app.metadata.key = k) ▸ hacked)
    exact hlookup

theorem annotated_ackManagedStorageDelivered {env : InstanceEnv} (henv : env.Faultless)
    (hkey : key ≠ "") {batch : List Agent.Event} (hmade : ∀ e ∈ batch, Made r e)
    (hsame : ∀ e ∈ batch, ∀ key', ReportsStorage e k key' → key' = key) (i : ℕ)
    (happ : c.instances.get k = some app) (h : ∃ e ∈ batch, ReportsStorage e k key) :
    Annotated k reportedManagedStorageAccessKeyAnnotation key
      ((r.ackManagedStorageDelivered i batch).run env c).state := by
  induction batch generalizing i c app with
  | nil =>
    obtain ⟨e, he, -⟩ := h
    exact absurd he List.not_mem_nil
  | cons e batch ih =>
    have hreturns : Returns env c (r.ackEvent i e) fun _ _ => True := returns_ackEvent
    obtain ⟨u, hu, -⟩ := hreturns
    rw [InstanceController.ackManagedStorageDelivered, run_bind_of_ok hu, Outcome.state_after]
    have hmoves := licensed_ackEvent (r := r) i (List.mem_singleton_self e) env c
    obtain ⟨app₁, happ₁, -⟩ := hmoves.stays id happ
    obtain ⟨e', he', hreports⟩ := h
    rcases List.mem_cons.mp he' with rfl | he'
    · -- the first event is acknowledged, and the others leave that
      have hack : Returns env c (r.ackManagedStorage i k key) fun _ =>
          Annotated k reportedManagedStorageAccessKeyAnnotation key :=
        returns_ackManagedStorage henv happ hkey
      obtain ⟨_, -, app₂, happ₂, hreported⟩ := hack
      rw [((hmade e' List.mem_cons_self).storageReport hreports).ackEvent] at happ₁ hmoves ⊢
      have hrest : Moves (deliveryLicence batch) _
          ((r.ackManagedStorageDelivered (i + 1) batch).run env
            ((r.ackManagedStorage i k key).run env c).state).state :=
        InstanceController.licensed_ackManagedStorageDelivered (i + 1) (List.Subset.refl _) env _
      obtain ⟨app₃, happ₃, -⟩ := hrest.stays id happ₂
      refine ⟨app₃, happ₃, lookup_reported_of_moves hrest ?_ happ₂ happ₃ hreported⟩
      rintro key' ⟨e, he, hreports'⟩
      exact hsame e (List.mem_cons_of_mem _ he) key' hreports'
    · exact ih (fun e he => hmade e (List.mem_cons_of_mem _ he))
        (fun e he => hsame e (List.mem_cons_of_mem _ he)) (i + 1) happ₁ ⟨e', he', hreports⟩

theorem AnnotationsKept.lookup_eq (h : AnnotationsKept c c') {app' : ManagedInstance}
    (happ : c.instances.get k = some app) (happ' : c'.instances.get k = some app')
    (huid : app.metadata.uid = app'.metadata.uid) {name : String}
    (hmem : name ∈ deliveryAnnotations) :
    app'.metadata.annotations.lookup name = app.metadata.annotations.lookup name := by
  have hk : app'.metadata.key = k := Store.key_of_get happ'
  rw [h app' (Store.mem_of_get happ') name hmem, hk, happ,
    Option.filter_some_pos (by simpa using huid)]
  rfl

theorem Once.of_held_subset (h : Once r k key w) (hheld : w'.held ⊆ w.held)
    (haccepted : w'.accepted = w.accepted)
    (hinstances : w'.cluster.instances = w.cluster.instances)
    (hphase : ∀ batch, w.phase = .delivered batch →
      copies (storageEventKey k key) batch ≠ 0 → w'.phase = .delivered batch) :
    Once r k key w' where
  same e he := h.same e (he.imp (fun hmem => hheld hmem) fun hmem => haccepted ▸ hmem)
  once := haccepted ▸ h.once
  posted hne := by
    rw [haccepted] at hne
    rcases h.posted hne with ⟨batch, hbatch, hcopies⟩ | ⟨hzero, hreported⟩
    · exact .inl ⟨batch, hphase batch hbatch hcopies, hcopies⟩
    · refine .inr ⟨?_, fun app happ => hreported app (hinstances ▸ happ)⟩
      rw [copies_eq_zero] at hzero ⊢
      exact fun e he => hzero e (hheld he)

theorem Once.moves (h : Once r k key w) {L : Licence} (hmoves : Moves L w.cluster c)
    (hacks : ∀ key', L.acks k key' → key' = key)
    (hsame : ∀ m e, L.sends m e → ∀ key', ReportsStorage e k key' → key' = key)
    (hsends : ∀ m e, L.sends m e → e.eventKey = storageEventKey k key →
      ∃ app, w.cluster.instances.get k = some app ∧
        app.metadata.annotations.lookup reportedManagedStorageAccessKeyAnnotation ≠ some key) :
    Once r k key { w with cluster := c } where
  same e he key' hreports := by
    rcases he with he | he
    · rcases DeliveryWorld.held_of_moves hmoves he with hold | ⟨m, now, e₀, hsend, rfl⟩
      · exact h.same e (.inl hold) key' hreports
      · exact hsame m e₀ hsend key' hreports
    · exact h.same e (.inr he) key' hreports
  once := h.once
  posted hne := by
    rcases h.posted hne with hbatch | ⟨hzero, hreported⟩
    · exact .inl hbatch
    · refine .inr ⟨?_, fun app' happ' => ?_⟩
      · rw [copies_eq_zero] at hzero ⊢
        intro e he
        rcases DeliveryWorld.held_of_moves hmoves he with hold | ⟨m, now, e₀, hsend, rfl⟩
        · exact hzero e hold
        · intro heq
          obtain ⟨app, happ, hunreported⟩ := hsends m e₀ hsend heq
          exact hunreported (hreported app happ)
      · obtain ⟨app, happ, -⟩ := hmoves.get happ'
        exact lookup_reported_of_moves hmoves hacks happ happ' (hreported app happ)

theorem Once.backed (h : Once r k key w) {key' : String}
    (hbacked : Backed r (fun _ _ => True) w k key') : key' = key := by
  obtain ⟨e, he, hreport, -⟩ := hbacked
  exact h.same e (.inr he) key' ⟨hreport.place, hreport.reports⟩

theorem Once.next (hns : Agent.Unsplit k.ns) (hname : Agent.Unsplit k.name)
    (hkey : Agent.Unsplit key) (hne : key ≠ "") (hsound : w.Sound r)
    (hevident : Evident r (fun _ _ => True) w) (hsingle : Single w) (h : Once r k key w)
    (hsteady : w.Steady r k key a) (hnext : DeliveryWorld.Next r w a w') : Once r k key w' := by
  have hpre := hasPrefix_storageEventKey k key
  have hheld : copies (storageEventKey k key) w.cluster.memory.batcher.events +
      copies (storageEventKey k key) w.phase.batch ≤ 1 :=
    (copies_append _ _ _).symm.le.trans (hsingle _ hpre)
  have hother : ∀ {batch'}, w.phase.posting = [] → ∀ batch, w.phase = .delivered batch →
      copies (storageEventKey k key) batch ≠ 0 → batch' = Agent.FlushPhase.delivered batch := by
    intro batch' hposting batch hphase hcopies
    rw [hphase] at hposting
    obtain rfl : batch = [] := hposting
    exact absurd rfl hcopies
  cases hnext with
  | stay => exact h
  | @reconcile env k₀ c hmoves =>
    refine h.moves hmoves ?_ ?_ ?_
    · rintro key' ⟨rfl, hpending | ⟨app, happ, hposted⟩⟩
      · exact h.backed (hevident.pendingStorageAck hpending)
      · exact h.backed (hevident.posted _ app key' happ hposted)
    · intro m e hsend key' hreports
      obtain ⟨rfl, app, ms, happ, hms, rfl, -⟩ := hsend.of_reportsStorage hreports
      exact hsteady rfl app happ ms hms
    · intro m e hsend heventKey
      have hreport := hsend.made.storageReport_of_eventKey hns hname hkey heventKey
      obtain ⟨rfl, app, -, happ, -, -, hunreported⟩ :=
        hsend.of_reportsStorage ⟨hreport.place, hreport.reports⟩
      exact ⟨app, happ, hunreported⟩
  | reported hmoves =>
    refine h.moves hmoves (fun _ hfalse => hfalse.elim) ?_ ?_
    · intro m e hplain key' hreports
      exact absurd hreports (Plain.not_reportsStorage hplain)
    · intro m e hplain heventKey
      rw [← heventKey] at hpre
      exact absurd (hpre.symm.trans (Plain.managedStorage hplain)) (by simp)
  | client => exact h.of_held_subset (List.Subset.refl _) rfl rfl fun _ hphase _ => hphase
  | handled hheld' hbefore hafter =>
    exact h.of_held_subset hheld'.subset rfl rfl (hother hbefore)
  | prepared hphase =>
    refine h.of_held_subset ?_ rfl rfl (hother (by rw [hphase]; rfl))
    rw [DeliveryWorld.held, DeliveryWorld.held, hphase]
    exact List.Subset.refl _
  | @posted env accepts batch hphase =>
    have hbatch : w.phase.batch = batch := by rw [hphase]; rfl
    rw [hbatch] at hheld
    have hzero : copies (storageEventKey k key) w.accepted ≠ 0 →
        copies (storageEventKey k key) w.held = 0 ∧ ∀ app, w.cluster.instances.get k = some app →
          app.metadata.annotations.lookup reportedManagedStorageAccessKeyAnnotation = some key := by
      intro hcopies
      rcases h.posted hcopies with ⟨batch', hphase', -⟩ | hdone
      · exact absurd (hphase.symm.trans hphase') (by simp)
      · exact hdone
    rw [DeliveryWorld.held, copies_append, hbatch] at hzero
    constructor
    · intro e he key' hreports
      have hmem : e ∈ w.held ∨ e ∈ w.accepted := by
        rcases he with he | he
        · exact .inl (by rwa [DeliveryWorld.held, hphase])
        · rcases List.mem_append.mp he with he | he
          · exact .inr he
          · exact .inl (DeliveryWorld.mem_held.mpr (.inr (hbatch ▸ he)))
      exact h.same e hmem key' hreports
    · have honce := h.once
      change copies _ (w.accepted ++ batch) ≤ 1
      rw [copies_append]
      by_cases hcopies : copies (storageEventKey k key) w.accepted = 0
      · omega
      · have := (hzero hcopies).1
        omega
    · intro hcopies
      change copies _ (w.accepted ++ batch) ≠ 0 at hcopies
      rw [copies_append] at hcopies
      by_cases hfirst : copies (storageEventKey k key) w.accepted = 0
      · exact .inl ⟨batch, rfl, by omega⟩
      · obtain ⟨hnone, hreported⟩ := hzero hfirst
        refine .inr ⟨?_, hreported⟩
        rw [DeliveryWorld.held, copies_append]
        exact hnone
  | @failed env accepts batch phase hphase hphase' =>
    have hlater : ∀ batch', w.phase = .delivered batch' → copies (storageEventKey k key) batch' ≠ 0 →
        phase = .delivered batch' := fun batch' hdelivered _ =>
      absurd (hphase.symm.trans hdelivered) (by simp)
    refine h.of_held_subset ?_ rfl rfl hlater
    rw [DeliveryWorld.held, DeliveryWorld.held, hphase]
    rcases hphase' with rfl | rfl <;> exact List.Subset.refl _
  | aborted hphase =>
    refine h.of_held_subset ?_ rfl rfl fun batch' hdelivered _ =>
      absurd (hphase.symm.trans hdelivered) (by simp)
    rw [DeliveryWorld.held, DeliveryWorld.held, hphase]
    exact List.Subset.refl _
  | @acknowledged env accepts batch hphase =>
    have hbatch : w.phase.batch = batch := by rw [hphase]; rfl
    have hmem : ∀ e ∈ batch, e ∈ w.held := fun e he =>
      DeliveryWorld.mem_held.mpr (.inr (hbatch ▸ he))
    have hmoves : Moves (deliveryLicence batch) w.cluster
        ((r.ackManagedStorageDelivered 0 batch).run env w.cluster).state :=
      InstanceController.licensed_ackManagedStorageDelivered 0 (List.Subset.refl _) env w.cluster
    have hacks : ∀ key', (deliveryLicence batch).acks k key' → key' = key := by
      rintro key' ⟨e, he, hreports⟩
      exact h.same e (.inl (hmem e he)) key' hreports
    have hmoved := h.moves hmoves hacks (fun _ _ hfalse => hfalse.elim) fun _ _ hfalse => hfalse.elim
    refine ⟨fun e he => hmoved.same e (he.imp_left fun hmem => ?_), h.once, fun hcopies => ?_⟩
    · rcases DeliveryWorld.mem_held.mp hmem with hbuffer | hnil
      · exact DeliveryWorld.mem_held.mpr (.inl hbuffer)
      · exact absurd hnil List.not_mem_nil
    · rw [hbatch] at hheld
      have hbuffer : copies (storageEventKey k key)
          ((r.ackManagedStorageDelivered 0 batch).run env w.cluster).state.memory.batcher.events =
            copies (storageEventKey k key) w.cluster.memory.batcher.events := by
        rw [DeliveryWorld.batcher_ackManagedStorageDelivered]
      have hleft : ∀ n, copies (storageEventKey k key) w.cluster.memory.batcher.events = 0 → n = 0 →
          copies (storageEventKey k key)
            ((r.ackManagedStorageDelivered 0 batch).run env w.cluster).state.memory.batcher.events +
              n = 0 := by
        intro n hzero hn
        rw [hbuffer, hzero, hn]
      right
      rw [DeliveryWorld.held, copies_append]
      rcases hmoved.posted hcopies with ⟨batch', hphase', hcopies'⟩ | ⟨hzero, hreported⟩
      · -- the event is in the batch, so it is annotated now and not in the buffer
        obtain rfl : batch = batch' := Agent.FlushPhase.delivered.inj (hphase.symm.trans hphase')
        refine ⟨hleft _ (by omega) rfl, fun app happ => ?_⟩
        have hmade : ∀ e ∈ batch, Made r e := fun e he => hsound.made e (hmem e he)
        obtain ⟨e, he, heventKey⟩ : ∃ e ∈ batch, e.eventKey = storageEventKey k key := by
          by_contra hnone
          push Not at hnone
          exact hcopies' (copies_eq_zero.mpr hnone)
        have hreport := (hmade e he).storageReport_of_eventKey hns hname hkey heventKey
        obtain ⟨henv, app₀, happ₀⟩ := hsteady batch hphase ⟨e, he, heventKey⟩
        obtain ⟨app', happ', hlookup⟩ := annotated_ackManagedStorageDelivered henv hne hmade
          (fun e he => h.same e (.inl (hmem e he))) 0 happ₀
          ⟨e, he, hreport.place, hreport.reports⟩
        obtain rfl : app = app' := Option.some.inj (happ.symm.trans happ')
        exact hlookup
      · refine ⟨hleft _ ?_ rfl, hreported⟩
        rw [DeliveryWorld.held, copies_append] at hzero
        have hsum : copies (storageEventKey k key)
            ((r.ackManagedStorageDelivered 0 batch).run env w.cluster).state.memory.batcher.events +
              copies (storageEventKey k key) w.phase.batch = 0 := hzero
        omega
  | restart => exact hsteady.elim
  | outside c =>
    obtain ⟨hannotations, hsame⟩ := hsteady
    refine ⟨h.same, h.once, fun hcopies => ?_⟩
    rcases h.posted hcopies with hbatch | ⟨hzero, hreported⟩
    · exact .inl hbatch
    · refine .inr ⟨hzero, fun app' happ' => ?_⟩
      obtain ⟨app, happ, huid⟩ := hsame app' happ'
      rw [hannotations.lookup_eq happ happ' huid (by simp [deliveryAnnotations])]
      exact hreported app happ

theorem DeliveryWorld.Started.once (h : w.Started) : Once r k key w where
  same e he := by
    rw [h.held, h.accepted] at he
    exact absurd he (by simp)
  once := by
    rw [h.accepted]
    exact Nat.zero_le 1
  posted hne := by
    rw [h.accepted] at hne
    exact absurd rfl hne

end once

theorem storage_posted_once {r : InstanceController} {w : DeliveryWorld} (hstart : w.Started)
    (hunannotated : Unannotated w.cluster) {steps : List DeliveryStep}
    (hsteps : Along (DeliveryWorld.step r) (fun w a => w.Shielded r a) w steps) :
    (∀ ref ready key, copies (Agent.managedStorageEventKey ref ready key)
      (exec (DeliveryWorld.step r) w steps).held ≤ 1) ∧
    ∀ (k : ObjectKey) (ms : ManagedStorageSnapshot), Agent.Unsplit k.ns → Agent.Unsplit k.name →
      Along (DeliveryWorld.step r) (fun w a => w.Steady r k (r.managedStorageReportKey ms) a) w
        steps →
      copies (storageEventKey k (r.managedStorageReportKey ms))
        (exec (DeliveryWorld.step r) w steps).accepted ≤ 1 := by
  constructor
  · intro ref ready key
    have hsingle : Single (exec (DeliveryWorld.step r) w steps) :=
      exec_of_along (I := Single) hsteps
        (fun s a hshielded hs => hs.next hshielded (DeliveryWorld.next_step s a)) hstart.single
    obtain ⟨t, ht⟩ := Agent.exists_managedStorageEventKey ref ready key
    exact hsingle _ (ht ▸ hasPrefix_append_self _ _)
  · intro k ms hns hname hsteady
    refine (exec_of_along (I := fun s => s.Sound r ∧ Evident r (fun _ _ => True) s ∧ Single s ∧
      Once r k (r.managedStorageReportKey ms) s) (along_and.mpr ⟨hsteps, hsteady⟩)
      (fun s a ⟨hshielded, hsteady⟩ ⟨hsound, hevident, hsingle, honce⟩ => ?_)
      ⟨hstart.sound, .start hstart hunannotated, hstart.single, hstart.once⟩).2.2.2.once
    have hnext := DeliveryWorld.next_step (r := r) s a
    refine ⟨hsound.next hnext, hevident.next hsound lasting_true hnext fun c ha => ?_,
      hsingle.next hshielded hnext, honce.next hns hname (r.unsplit_digestKey _)
        (r.digestKey_ne_empty _) hsound hevident hsingle hsteady hnext⟩
    subst ha
    exact hevident.outside hsteady.1 (fun _ _ _ _ _ _ => trivial)
      (fun _ _ _ _ _ _ => trivial) fun _ _ _ _ _ _ _ _ _ => trivial

/-! #### A reconcile while the event is in the batch -/

instance (r : InstanceController) (w : DeliveryWorld) : DecidablePred (w.Shielded r) := fun a =>
  match a with
  | .reconcile _ k => inferInstanceAs (Decidable (∀ app ∈ w.cluster.instances.get k,
      ∀ ms ∈ credentialsOf w.cluster app.toApplicationInstance, (∃ _ ∈ _, _) → _ ∧ _))
  | .outside _ | .flush _ _ | .setClient _ | .report _ _ _ _ | .rotated _ _ _ | .restart =>
    inferInstanceAs (Decidable True)

/-- The sample instance is there, with the first credentials. -/
def SampleStays (w : DeliveryWorld) : Prop :=
  (w.cluster.instances.get samplePlace).map
    (fun app => credentialsOf w.cluster app.toApplicationInstance) = some (some sampleCredentials)

instance : DecidablePred SampleStays := fun _ => inferInstanceAs (Decidable (_ = _))

theorem along_steady_sample {steps : List DeliveryStep} {w : DeliveryWorld}
    (hmem : ∀ a ∈ steps, a = sampleReconcile ∨ a = .flush { now := 6 } true)
    (h : Along (DeliveryWorld.step sampleController) (fun w _ => SampleStays w) w steps) :
    Along (DeliveryWorld.step sampleController) (fun w a => w.Steady sampleController samplePlace
      (sampleController.managedStorageReportKey sampleCredentials) a) w steps := by
  refine (along_and.mpr ⟨h, along_of_forall_mem fun a ha _ => hmem a ha⟩).mono ?_
  rintro w a ⟨hstays, hstep⟩
  obtain ⟨app, happ, hms⟩ := Option.map_eq_some_iff.mp hstays
  rcases hstep with rfl | rfl
  · rintro - app' happ' ms hms'
    obtain rfl : app = app' := Option.some.inj (happ.symm.trans happ')
    obtain rfl : sampleCredentials = ms := Option.some.inj (hms.symm.trans hms')
    rfl
  · exact fun batch _ _ => ⟨fun _ => rfl, app, happ⟩

theorem mem_sampleFlush {n : ℕ} (ha : a ∈ sampleFlush n) :
    a = sampleReconcile ∨ a = .flush { now := 6 } true := .inr (List.eq_of_mem_replicate ha)

/-- The instance is reconciled once more after the hook before the post has marked the event. -/
def sampleRetry : List DeliveryStep :=
  sampleReconcile :: sampleFlush 3 ++ sampleReconcile :: sampleFlush 7

theorem mem_sampleRetry (ha : a ∈ sampleRetry) :
    a = sampleReconcile ∨ a = .flush { now := 6 } true := by
  rcases List.mem_append.mp ha with ha | ha <;> rcases List.mem_cons.mp ha with rfl | ha
  · exact .inl rfl
  · exact mem_sampleFlush ha
  · exact .inl rfl
  · exact mem_sampleFlush ha

theorem sample_storage_posted_once :
    copies (storageEventKey samplePlace (sampleController.managedStorageReportKey sampleCredentials))
      (exec (DeliveryWorld.step sampleController) sampleWorld (sampleRetry.take 4)).phase.batch = 1 ∧
    (∀ ref ready key, copies (Agent.managedStorageEventKey ref ready key)
      (exec (DeliveryWorld.step sampleController) sampleWorld sampleRetry).held ≤ 1) ∧
    copies (storageEventKey samplePlace (sampleController.managedStorageReportKey sampleCredentials))
      (exec (DeliveryWorld.step sampleController) sampleWorld sampleRetry).accepted = 1 := by
  obtain ⟨hheld, haccepted⟩ := storage_posted_once started_sampleWorld (by decide +kernel)
    (show Along (DeliveryWorld.step sampleController) (fun w a => w.Shielded sampleController a)
      sampleWorld sampleRetry by decide +kernel)
  refine ⟨by decide +kernel, hheld, le_antisymm ?_ (by decide +kernel)⟩
  exact haccepted samplePlace sampleCredentials (splitOn_of_notMem (by decide))
    (splitOn_of_notMem (by decide))
    (along_steady_sample (fun a ha => mem_sampleRetry ha) (by decide +kernel))

/-- The instance is reconciled once more after the flush has taken the event out of the buffer. -/
def sampleRace : List DeliveryStep := sampleReconcile :: sampleFlush 1 ++ [sampleReconcile]

theorem storage_held_twice :
    sampleWorld.Started ∧ Unannotated sampleWorld.cluster ∧
      copies (storageEventKey samplePlace
        (sampleController.managedStorageReportKey sampleCredentials))
        (exec (DeliveryWorld.step sampleController) sampleWorld sampleRace).held = 2 ∧
      Along (DeliveryWorld.step sampleController) (fun w a => w.Steady sampleController samplePlace
        (sampleController.managedStorageReportKey sampleCredentials) a) sampleWorld
        (sampleRace ++ sampleFlush 9) ∧
      copies (storageEventKey samplePlace
        (sampleController.managedStorageReportKey sampleCredentials))
        (exec (DeliveryWorld.step sampleController) sampleWorld
          (sampleRace ++ sampleFlush 9)).accepted = 2 := by
  refine ⟨started_sampleWorld, by decide +kernel, by decide +kernel, ?_, by decide +kernel⟩
  refine along_steady_sample (fun a ha => ?_) (by decide +kernel)
  rcases List.mem_append.mp ha with ha | ha
  · rcases List.mem_append.mp ha with ha | ha
    · rcases List.mem_cons.mp ha with rfl | ha
      · exact .inl rfl
      · exact mem_sampleFlush ha
    · exact .inl (List.mem_singleton.mp ha)
  · exact mem_sampleFlush ha

end VWorkspace
