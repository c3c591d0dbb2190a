import VWorkspaceOperator.Instance.Delivery

/-!
# What the annotations of managed storage are evidence of

An instance is annotated as reported under the key of some credentials.  The annotation is
written after a delivery, or later from what was recorded then: an entry in memory, or the
annotation that says that the credentials were posted.  So it is evidence that the control
plane has accepted an event with those credentials, for an instance of that name.

It is not evidence of an event about that very object.  The memory and the events in flight know
instances by name, so what was delivered for an instance that is gone may be acknowledged on the
one that has taken its name.
-/

namespace VWorkspace

open Kit Prog InstanceM

def Kept (c c' : InstanceCluster) : Prop :=
  ∀ k app', c'.instances.get k = some app' →
    ∃ app, c.instances.get k = some app ∧ app.metadata.uid = app'.metadata.uid

theorem kept_of_instances {c c' : InstanceCluster} (h : c'.instances = c.instances) : Kept c c' :=
  fun _ app' happ' => ⟨app', h ▸ happ', rfl⟩

theorem Moves.kept {L : Licence} {c c' : InstanceCluster} (h : Moves L c c') : Kept c c' := by
  intro k app' happ'
  obtain ⟨app, happ, hevolved⟩ := h.get happ'
  exact ⟨app, happ, hevolved.uid.symm⟩

/-- A property of the events of an instance that lasts as long as the objects do. -/
structure Lasting (O : InstanceCluster → Agent.Event → Prop) : Prop where
  kept : ∀ {c c' e}, Kept c c' → O c e → O c' e
  sent : ∀ {c k app e}, c.instances.get k = some app → e.resourceRef = instanceRef app → O c e

section evidence

variable {r : InstanceController} {O : InstanceCluster → Agent.Event → Prop} {w w' : DeliveryWorld}
  {k : ObjectKey} {key : String}

variable (r O) in
/-- An event with such credentials was accepted for the place. -/
def Backed (w : DeliveryWorld) (k : ObjectKey) (key : String) : Prop :=
  ∃ e ∈ w.accepted, StorageReport r e k key ∧ O w.cluster e

variable (r O) in
/-- All that is recorded of managed storage goes back to an event that was accepted. -/
structure Evident (w : DeliveryWorld) : Prop where
  owned : ∀ e ∈ w.held, ∀ k key, ReportsStorage e k key → O w.cluster e
  pending : ∀ dk key, w.cluster.memory.delivery.ackPending.lookup dk = some key →
    ∃ k, dk = storageDeliveryKey k.ns k.name ∧ Backed r O w k key
  reported : ∀ k app key, w.cluster.instances.get k = some app →
    app.metadata.annotations.lookup reportedManagedStorageAccessKeyAnnotation = some key →
    Backed r O w k key
  posted : ∀ k app key, w.cluster.instances.get k = some app →
    app.metadata.annotations.lookup managedStoragePostedAnnotation = some key → Backed r O w k key

theorem Backed.mono (h : Backed r O w k key) (haccepted : w.accepted ⊆ w'.accepted)
    (hO : ∀ e, InstanceController.eventPlace e = k → O w.cluster e → O w'.cluster e) :
    Backed r O w' k key := by
  obtain ⟨e, he, hreport, howned⟩ := h
  exact ⟨e, haccepted he, hreport, hO e hreport.place howned⟩

theorem Evident.pendingStorageAck (h : Evident r O w)
    (hpending : w.cluster.memory.delivery.pendingStorageAckReportKey k.ns k.name = some key) :
    Backed r O w k key := by
  obtain ⟨k', hdk, hbacked⟩ := h.pending _ _ hpending
  obtain ⟨e, he, hreport, howned⟩ := hbacked
  obtain ⟨hns, hname⟩ := Agent.eq_of_join_eq hreport.unsplit.1 hreport.unsplit.2 hdk.symm
  have hk : k' = k := by
    cases k; cases k'; cases hns; cases hname; rfl
  exact hk ▸ ⟨e, he, hreport, howned⟩

theorem Evident.of_held_subset (h : Evident r O w) (hO : Lasting O)
    (hinstances : w'.cluster.instances = w.cluster.instances)
    (hpending : ∀ dk key, w'.cluster.memory.delivery.ackPending.lookup dk = some key →
      w.cluster.memory.delivery.ackPending.lookup dk = some key)
    (hheld : w'.held ⊆ w.held) (haccepted : w.accepted ⊆ w'.accepted) : Evident r O w' := by
  have hlast : ∀ e, O w.cluster e → O w'.cluster e :=
    fun e => hO.kept (kept_of_instances hinstances)
  have hbacked : ∀ {k key}, Backed r O w k key → Backed r O w' k key :=
    fun hb => hb.mono haccepted fun e _ => hlast e
  constructor
  · intro e he k key hreports
    exact hlast e (h.owned e (hheld he) k key hreports)
  · intro dk key hdk
    obtain ⟨k, hk, hb⟩ := h.pending dk key (hpending dk key hdk)
    exact ⟨k, hk, hbacked hb⟩
  · intro k app key happ hlookup
    exact hbacked (h.reported k app key (hinstances ▸ happ) hlookup)
  · intro k app key happ hlookup
    exact hbacked (h.posted k app key (hinstances ▸ happ) hlookup)

theorem Evident.moves (h : Evident r O w) (hO : Lasting O) {L : Licence} {c : InstanceCluster}
    (hmoves : Moves L w.cluster c) (hacks : ∀ k key, L.acks k key → Backed r O w k key)
    (hposts : ∀ k key, L.posts k key → Backed r O w k key)
    (hsends : ∀ m e, L.sends m e → ∀ now k key, ReportsStorage (e.stamp now) k key →
      O w.cluster (e.stamp now)) :
    Evident r O { w with cluster := c } := by
  have hlast : ∀ e, O w.cluster e → O c e := fun e => hO.kept hmoves.kept
  have hbacked : ∀ {k key}, Backed r O w k key → Backed r O { w with cluster := c } k key :=
    fun hb => hb.mono (List.Subset.refl _) fun e _ => hlast e
  constructor
  · intro e he k key hreports
    rcases DeliveryWorld.held_of_moves hmoves he with hold | ⟨m, now, e₀, hsend, rfl⟩
    · exact hlast e (h.owned e hold k key hreports)
    · exact hlast _ (hsends m e₀ hsend now k key hreports)
  · intro dk key hdk
    rcases hmoves.pending hdk with hold | ⟨k, hk, hacked⟩
    · obtain ⟨k, hk, hb⟩ := h.pending dk key hold
      exact ⟨k, hk, hbacked hb⟩
    · exact ⟨k, hk, hbacked (hacks k key hacked)⟩
  · intro k app' key happ' hlookup
    obtain ⟨app, happ, hevolved⟩ := hmoves.get happ'
    have hk : app.metadata.key = k := Store.key_of_get happ
    rcases hevolved.annotations.reported key hlookup with hold | hacked
    · exact hbacked (h.reported k app key happ hold)
    · exact hbacked (hacks k key (hk ▸ hacked))
  · intro k app' key happ' hlookup
    obtain ⟨app, happ, hevolved⟩ := hmoves.get happ'
    have hk : app.metadata.key = k := Store.key_of_get happ
    rcases hevolved.annotations.posted key hlookup with hold | hposted
    · exact hbacked (h.posted k app key happ hold)
    · exact hbacked (hposts k key (hk ▸ hposted))

theorem Evident.outside (h : Evident r O w) {c : InstanceCluster}
    (hannotations : AnnotationsKept w.cluster c)
    (hheld : ∀ e ∈ w.held, ∀ k key, ReportsStorage e k key → O w.cluster e →
      O { c with memory := w.cluster.memory } e)
    (hpending : ∀ k key e,
      w.cluster.memory.delivery.pendingStorageAckReportKey k.ns k.name = some key →
      InstanceController.eventPlace e = k → O w.cluster e →
      O { c with memory := w.cluster.memory } e)
    (hsame : ∀ k app app' e, w.cluster.instances.get k = some app → c.instances.get k = some app' →
      app.metadata.uid = app'.metadata.uid → InstanceController.eventPlace e = k →
      O w.cluster e → O { c with memory := w.cluster.memory } e) :
    Evident r O { w with cluster := { c with memory := w.cluster.memory } } := by
  have hlookup : ∀ annotation ∈ deliveryAnnotations, ∀ k app' key,
      c.instances.get k = some app' → app'.metadata.annotations.lookup annotation = some key →
      (∀ app, w.cluster.instances.get k = some app →
        app.metadata.annotations.lookup annotation = some key → Backed r O w k key) →
      Backed r O { w with cluster := { c with memory := w.cluster.memory } } k key := by
    intro annotation hannotation k app' key happ' hvalue hbacked
    obtain ⟨app, happ, huid, hold⟩ := hannotations.lookup happ' hannotation hvalue
    refine (hbacked app happ hold).mono (List.Subset.refl _) fun e hplace => ?_
    exact hsame k app app' e happ happ' huid hplace
  constructor
  · intro e he k key hreports
    exact hheld e he k key hreports (h.owned e he k key hreports)
  · intro dk key hdk
    obtain ⟨k, rfl, hb⟩ := h.pending dk key hdk
    exact ⟨k, rfl, hb.mono (List.Subset.refl _) fun e => hpending k key e hdk⟩
  · intro k app' key happ' hvalue
    exact hlookup _ (by simp [deliveryAnnotations]) k app' key happ' hvalue fun app happ =>
      h.reported k app key happ
  · intro k app' key happ' hvalue
    exact hlookup _ (by simp [deliveryAnnotations]) k app' key happ' hvalue fun app happ =>
      h.posted k app key happ

/-! #### The hooks -/

theorem ackPending_prepareManagedStoragePost (batch : List Agent.Event) (d : StorageDelivery) :
    (InstanceController.prepareManagedStoragePost batch d).ackPending = d.ackPending := by
  unfold InstanceController.prepareManagedStoragePost
  induction batch generalizing d with
  | nil => rfl
  | cons e batch ih =>
    rw [List.foldl_cons, ih]
    split <;> rfl

theorem ackPending_abortManagedStoragePost (batch : List Agent.Event) (d : StorageDelivery) :
    (InstanceController.abortManagedStoragePost batch d).ackPending = d.ackPending := by
  unfold InstanceController.abortManagedStoragePost
  induction batch generalizing d with
  | nil => rfl
  | cons e batch ih =>
    rw [List.foldl_cons, ih]
    split
    · rfl
    · unfold StorageDelivery.clearStoragePosting
      split <;> rfl

theorem backed_of_delivered (hsound : w.Sound r) (h : Evident r O w) {batch : List Agent.Event}
    (hphase : w.phase = .delivered batch) (hreports : ∃ e ∈ batch, ReportsStorage e k key) :
    Backed r O w k key := by
  obtain ⟨e, he, hreports⟩ := hreports
  have hheld : e ∈ w.held := DeliveryWorld.mem_held.mpr (.inr (hphase ▸ he))
  exact ⟨e, hsound.delivered batch hphase he, (hsound.made e hheld).storageReport hreports,
    h.owned e hheld k key hreports⟩

theorem Evident.next (hsound : w.Sound r) (h : Evident r O w) (hO : Lasting O) {a : DeliveryStep}
    (hnext : DeliveryWorld.Next r w a w')
    (houtside : ∀ c, a = .outside c →
      Evident r O { w with cluster := { c with memory := w.cluster.memory } }) :
    Evident r O w' := by
  cases hnext with
  | stay => exact h
  | @reconcile env k c hmoves =>
    refine h.moves hO hmoves ?_ (fun _ _ hfalse => hfalse.elim) ?_
    · rintro k' key ⟨rfl, hpending | ⟨app, happ, hposted⟩⟩
      · exact h.pendingStorageAck hpending
      · exact h.posted _ app key happ hposted
    · intro m e hsend now k' key hreports
      cases hsend with
      | plain hplain => exact absurd hreports (hplain.stamp now).not_reportsStorage
      | endpoints hget _ ready => exact hO.sent hget rfl
      | managed hget => exact hO.sent hget rfl
  | reported hmoves =>
    refine h.moves hO hmoves (fun _ _ hfalse => hfalse.elim) (fun _ _ hfalse => hfalse.elim) ?_
    intro m e hplain now k key hreports
    exact absurd hreports (Plain.stamp hplain now).not_reportsStorage
  | client =>
    exact h.of_held_subset hO rfl (fun _ _ => id) (List.Subset.refl _) (List.Subset.refl _)
  | handled hheld hbefore hafter =>
    exact h.of_held_subset hO rfl (fun _ _ => id) hheld.subset (List.Subset.refl _)
  | prepared hphase =>
    refine h.of_held_subset hO rfl (fun dk key hdk => ?_) ?_ (List.Subset.refl _)
    · rwa [InstanceCluster.withMemory, ackPending_prepareManagedStoragePost] at hdk
    · rw [DeliveryWorld.held, DeliveryWorld.held, hphase]
      exact List.Subset.refl _
  | posted hphase =>
    refine h.of_held_subset hO rfl (fun _ _ => id) ?_ (List.subset_append_left _ _)
    rw [DeliveryWorld.held, DeliveryWorld.held, hphase]
    exact List.Subset.refl _
  | failed hphase hphase' =>
    refine h.of_held_subset hO rfl (fun _ _ => id) ?_ (List.Subset.refl _)
    rw [DeliveryWorld.held, DeliveryWorld.held, hphase]
    rcases hphase' with rfl | rfl <;> exact List.Subset.refl _
  | aborted hphase =>
    refine h.of_held_subset hO rfl (fun dk key hdk => ?_) ?_ (List.Subset.refl _)
    · rwa [InstanceCluster.withMemory, ackPending_abortManagedStoragePost] at hdk
    · rw [DeliveryWorld.held, DeliveryWorld.held, hphase]
      exact List.Subset.refl _
  | @acknowledged env accepts batch hphase =>
    have hmoves : Moves (deliveryLicence batch) w.cluster
        ((r.ackManagedStorageDelivered 0 batch).run env w.cluster).state :=
      InstanceController.licensed_ackManagedStorageDelivered 0 (List.Subset.refl _) env w.cluster
    have hacked := h.moves hO hmoves (fun k key => backed_of_delivered hsound h hphase)
      (fun k key => backed_of_delivered hsound h hphase) (fun _ _ hfalse => hfalse.elim)
    refine hacked.of_held_subset hO rfl (fun _ _ => id) ?_ (List.Subset.refl _)
    exact List.append_subset.mpr ⟨List.subset_append_left _ _, List.nil_subset _⟩
  | restart =>
    refine h.of_held_subset hO rfl (fun dk key hdk => ?_) (List.nil_subset _) (List.Subset.refl _)
    exact absurd hdk (by simp [InstanceCluster.withMemory, OperatorMemory.restarted])
  | outside c => exact houtside c rfl

theorem Evident.start (h : w.Started) (hunannotated : Unannotated w.cluster) : Evident r O w where
  owned e he := absurd (h.held ▸ he) List.not_mem_nil
  pending dk key hdk := by
    rw [h.delivery] at hdk
    exact absurd hdk (by simp)
  reported k app key happ hlookup := by
    rw [hunannotated app (Store.mem_of_get happ) _ (by simp [deliveryAnnotations])] at hlookup
    exact absurd hlookup (by simp)
  posted k app key happ hlookup := by
    rw [hunannotated app (Store.mem_of_get happ) _ (by simp [deliveryAnnotations])] at hlookup
    exact absurd hlookup (by simp)

end evidence

def sampleDigest (bs : Bytes) : Vector UInt8 32 := Vector.ofFn fun i => bs.getD i.val 0

def sampleController : InstanceController where
  engine := some ⟨fun _ => .error ""⟩
  seaweedEngine := some ⟨fun _ => .error ""⟩
  sha256 := sampleDigest
  rfc3339 := Nat.repr

def samplePlace : ObjectKey := ⟨"team-a", "store"⟩

def sampleStorage (uid : String) : ManagedInstance where
  metadata :=
    { ns := "team-a", name := "store", uid, finalizers := [applicationInstanceFinalizer] }
  spec :=
    { catalogId := catalogIdSeaweedFS, mode := .managed
      release := some { name := "store", ns := "team-a" }
      values := some { source := .inline, inline := some (bytesOf "\x7b\"filer\":\x7b\x7d\x7d") } }

def sampleSeaweed : Unstructured where
  metadata := { ns := "team-a", name := "store", uid := "sw" }
  body := [("status", .obj [("conditions",
    .arr [.obj [("type", .str "Ready"), ("status", .str "True")]])])]

def sampleS3Credentials : Unstructured where
  metadata := { ns := "team-a", name := "creds", uid := "s3" }
  body := [("spec", .obj [("seaweedRef", .obj [("name", .str "store")])]),
    ("status", .obj [("phase", .str "Ready"), ("secretName", .str "creds")])]

def sampleSecret (accessKey : String) : DataObject where
  key := ⟨"team-a", "creds"⟩
  data := [("accessKey", bytesOf accessKey), ("secretKey", bytesOf "secret")]

def sampleCluster (app : ManagedInstance) (accessKey : String) : InstanceCluster where
  instances := Store.empty.put app
  workloads := Workloads.empty
  seaweeds := Store.empty.put sampleSeaweed
  secrets := Store.empty.put (sampleSecret accessKey)
  s3Credentials := Store.empty.put sampleS3Credentials

/-- The operator in that cluster, connected to the control plane. -/
def sampleWorld : DeliveryWorld where
  cluster := sampleCluster (sampleStorage "u1") "key1"
  client := some ⟨"https://workspace.example.org", "c1", "t"⟩

def sampleKey : String := "6b65793100736563"

def sampleReconcile : DeliveryStep := .reconcile { now := 5 } samplePlace

def sampleFlush (n : ℕ) : List DeliveryStep := List.replicate n (.flush { now := 6 } true)

theorem started_sampleWorld : sampleWorld.Started := ⟨rfl, rfl, rfl, rfl⟩

instance (c : InstanceCluster) : Decidable (Unannotated c) :=
  inferInstanceAs (Decidable (∀ _ ∈ _, ∀ _ ∈ _, _ = _))

instance (c c' : InstanceCluster) : Decidable (AnnotationsKept c c') :=
  inferInstanceAs (Decidable (∀ _ ∈ _, ∀ _ ∈ _, _ = _))

def DeliveryWorld.Undisturbing (w : DeliveryWorld) : DeliveryStep → Prop
  | .outside c => AnnotationsKept w.cluster c
  | _ => True

theorem lasting_true : Lasting fun _ _ => True := ⟨fun _ _ => trivial, fun _ _ => trivial⟩

theorem reported_accepted {r : InstanceController} {w : DeliveryWorld} (hstart : w.Started)
    (hunannotated : Unannotated w.cluster) {steps : List DeliveryStep}
    (hsteps : Along (DeliveryWorld.step r) DeliveryWorld.Undisturbing w steps)
    {app : ManagedInstance} {key : String}
    (happ : app ∈ (exec (DeliveryWorld.step r) w steps).cluster.instances.items)
    (hreported :
      app.metadata.annotations.lookup reportedManagedStorageAccessKeyAnnotation = some key) :
    ∃ e ∈ (exec (DeliveryWorld.step r) w steps).accepted,
      InstanceController.eventPlace e = app.metadata.key ∧
        ∃ ms, e.managedStorage = some ms ∧ r.payloadReportKey ms = key := by
  have hrun : (exec (DeliveryWorld.step r) w steps).Sound r ∧
      Evident r (fun _ _ => True) (exec (DeliveryWorld.step r) w steps) := by
    refine exec_of_along (I := fun s => s.Sound r ∧ Evident r (fun _ _ => True) s) hsteps
      (fun s a hundisturbing ⟨hsound, hevident⟩ => ?_) ⟨hstart.sound, .start hstart hunannotated⟩
    have hnext := DeliveryWorld.next_step (r := r) s a
    refine ⟨hsound.next hnext, hevident.next hsound lasting_true hnext fun c ha => ?_⟩
    subst ha
    exact hevident.outside hundisturbing (fun _ _ _ _ _ _ => trivial)
      (fun _ _ _ _ _ _ => trivial) fun _ _ _ _ _ _ _ _ _ => trivial
  obtain ⟨e, he, hreport, -⟩ :=
    hrun.2.reported _ app key (Store.get_of_mem happ) hreported
  exact ⟨e, he, hreport.place, hreport.payload⟩

def sampleDelivery : List DeliveryStep := sampleReconcile :: sampleFlush 7

theorem sampleDelivery_reported :
    ∃ app ∈ (exec (DeliveryWorld.step sampleController) sampleWorld
        sampleDelivery).cluster.instances.items,
      app.metadata.annotations.lookup reportedManagedStorageAccessKeyAnnotation = some sampleKey := by
  decide +kernel

theorem along_sampleDelivery {p : DeliveryWorld → DeliveryStep → Prop} {w : DeliveryWorld}
    (hreconcile : ∀ w, p w sampleReconcile) (hflush : ∀ w, p w (.flush { now := 6 } true)) :
    Along (DeliveryWorld.step sampleController) p w sampleDelivery := by
  refine along_of_forall_mem fun a ha s => ?_
  rcases List.mem_cons.mp ha with rfl | ha
  · exact hreconcile s
  · obtain rfl := List.eq_of_mem_replicate ha
    exact hflush s

theorem sample_reported_accepted :
    ∃ app ∈ (exec (DeliveryWorld.step sampleController) sampleWorld
        sampleDelivery).cluster.instances.items,
      app.metadata.annotations.lookup reportedManagedStorageAccessKeyAnnotation = some sampleKey ∧
        ∃ e ∈ (exec (DeliveryWorld.step sampleController) sampleWorld sampleDelivery).accepted,
          InstanceController.eventPlace e = app.metadata.key ∧
            ∃ ms, e.managedStorage = some ms ∧
              sampleController.payloadReportKey ms = sampleKey := by
  obtain ⟨app, happ, hreported⟩ := sampleDelivery_reported
  exact ⟨app, happ, hreported, reported_accepted started_sampleWorld (by decide +kernel)
    (along_sampleDelivery (fun _ => trivial) fun _ => trivial) happ hreported⟩

def Speaks (c : InstanceCluster) (e : Agent.Event) : Prop :=
  ∀ app, c.instances.get (InstanceController.eventPlace e) = some app →
    app.metadata.uid = e.resourceRef.uid

theorem lasting_speaks : Lasting Speaks where
  kept hkept hspeaks app' happ' := by
    obtain ⟨app, happ, huid⟩ := hkept _ app' happ'
    exact huid.symm.trans (hspeaks app happ)
  sent {c k app e} hget href app' happ' := by
    have hplace : InstanceController.eventPlace e = k := by
      rw [InstanceController.eventPlace, href]
      exact Store.key_of_get hget
    obtain rfl : app = app' := Option.some.inj (hget.symm.trans (hplace ▸ happ'))
    rw [href]
    rfl

/-- No acknowledgement is pending for a place, and no event with credentials is held for it. -/
def DeliveryWorld.Quiet (w : DeliveryWorld) (k : ObjectKey) : Prop :=
  w.cluster.memory.delivery.pendingStorageAckReportKey k.ns k.name = none ∧
    ∀ e ∈ w.held, InstanceController.eventPlace e = k →
      Agent.managedStorageReportKeyFromEventKey e.eventKey = none

/-- Nothing is on its way for a name that another object takes. -/
def DeliveryWorld.Settled (w : DeliveryWorld) : DeliveryStep → Prop
  | .outside c => ∀ app' ∈ c.instances.items,
      (w.cluster.instances.get app'.metadata.key).any
        (fun app => app.metadata.uid = app'.metadata.uid) ∨ w.Quiet app'.metadata.key
  | _ => True

theorem Evident.outside_of_settled {r : InstanceController} {w : DeliveryWorld}
    {c : InstanceCluster} (h : Evident r Speaks w) (hannotations : AnnotationsKept w.cluster c)
    (hsettled : w.Settled (.outside c)) :
    Evident r Speaks { w with cluster := { c with memory := w.cluster.memory } } := by
  have hsame : ∀ k app', c.instances.get k = some app' →
      (∃ app, w.cluster.instances.get k = some app ∧ app.metadata.uid = app'.metadata.uid) ∨
        w.Quiet k := by
    intro k app' happ'
    obtain rfl : app'.metadata.key = k := Store.key_of_get happ'
    rcases hsettled app' (Store.mem_of_get happ') with hany | hquiet
    · cases hget : w.cluster.instances.get app'.metadata.key with
      | none => rw [hget] at hany; exact absurd hany (by simp)
      | some app => rw [hget] at hany; exact .inl ⟨app, rfl, by simpa using hany⟩
    · exact .inr hquiet
  refine h.outside hannotations ?_ ?_ ?_
  · rintro e he k key ⟨rfl, hparse⟩ hspeaks app' happ'
    rcases hsame _ app' happ' with ⟨app, happ, huid⟩ | hquiet
    · exact huid.symm.trans (hspeaks app happ)
    · exact absurd (hparse.symm.trans (hquiet.2 e he rfl)) (by simp)
  · rintro k key e hpending rfl hspeaks app' happ'
    rcases hsame _ app' happ' with ⟨app, happ, huid⟩ | hquiet
    · exact huid.symm.trans (hspeaks app happ)
    · exact absurd (hpending.symm.trans hquiet.1) (by simp)
  · rintro k app app' e happ happ' huid rfl hspeaks app'' happ''
    obtain rfl : app' = app'' := Option.some.inj (happ'.symm.trans happ'')
    exact huid.symm.trans (hspeaks app happ)

theorem reported_accepted_of_settled {r : InstanceController} {w : DeliveryWorld}
    (hstart : w.Started) (hunannotated : Unannotated w.cluster) {steps : List DeliveryStep}
    (hsteps : Along (DeliveryWorld.step r) (fun w a => w.Undisturbing a ∧ w.Settled a) w steps)
    {app : ManagedInstance} {key : String}
    (happ : app ∈ (exec (DeliveryWorld.step r) w steps).cluster.instances.items)
    (hreported :
      app.metadata.annotations.lookup reportedManagedStorageAccessKeyAnnotation = some key) :
    ∃ e ∈ (exec (DeliveryWorld.step r) w steps).accepted,
      e.managedStorage.isSome ∧ InstanceController.eventPlace e = app.metadata.key ∧
        e.resourceRef.uid = app.metadata.uid := by
  have hrun : (exec (DeliveryWorld.step r) w steps).Sound r ∧
      Evident r Speaks (exec (DeliveryWorld.step r) w steps) := by
    refine exec_of_along (I := fun s => s.Sound r ∧ Evident r Speaks s) hsteps
      (fun s a ⟨hundisturbing, hsettled⟩ ⟨hsound, hevident⟩ => ?_) ⟨hstart.sound, .start hstart hunannotated⟩
    have hnext := DeliveryWorld.next_step (r := r) s a
    refine ⟨hsound.next hnext, hevident.next hsound lasting_speaks hnext fun c ha => ?_⟩
    subst ha
    exact hevident.outside_of_settled hundisturbing hsettled
  have hget := Store.get_of_mem happ
  obtain ⟨e, he, hreport, hspeaks⟩ := hrun.2.reported _ app key hget hreported
  obtain ⟨ms, hms, -⟩ := hreport.payload
  refine ⟨e, he, by rw [hms]; rfl, hreport.place, ?_⟩
  exact (hspeaks app (by rw [hreport.place]; exact hget)).symm

/-! #### Two objects of one name -/

/-- The first instance goes, with the annotations it has by then, and another one takes its
name. -/
def sampleHandover (annotations : List (String × String)) : List DeliveryStep :=
  let app := sampleStorage "u1"
  let deleted := { app with
    metadata := { app.metadata with annotations, deletionTimestamp := some 7 } }
  [.outside (sampleCluster deleted "key1"), sampleReconcile,
    .outside (sampleCluster (sampleStorage "u2") "key1")]

instance (w : DeliveryWorld) : DecidablePred w.Undisturbing := fun a =>
  match a with
  | .outside c => inferInstanceAs (Decidable (AnnotationsKept w.cluster c))
  | .reconcile _ _ | .flush _ _ | .setClient _ | .report _ _ _ _ | .rotated _ _ _ | .restart =>
    inferInstanceAs (Decidable True)

instance (w : DeliveryWorld) (k : ObjectKey) : Decidable (w.Quiet k) :=
  inferInstanceAs (Decidable (_ ∧ ∀ _ ∈ _, _ → _))

instance (w : DeliveryWorld) : DecidablePred w.Settled := fun a =>
  match a with
  | .outside c => inferInstanceAs (Decidable (∀ _ ∈ c.instances.items, _ ∨ _))
  | .reconcile _ _ | .flush _ _ | .setClient _ | .report _ _ _ _ | .rotated _ _ _ | .restart =>
    inferInstanceAs (Decidable True)

/-- The first instance is reported before it goes, and the second one is reported in turn. -/
def sampleSuccession : List DeliveryStep :=
  sampleDelivery ++ sampleHandover (setField reportedManagedStorageAccessKeyAnnotation sampleKey []) ++
    sampleDelivery

theorem sample_reported_accepted_of_settled :
    ∃ app ∈ (exec (DeliveryWorld.step sampleController) sampleWorld
        sampleSuccession).cluster.instances.items,
      app.metadata.uid = "u2" ∧
      app.metadata.annotations.lookup reportedManagedStorageAccessKeyAnnotation = some sampleKey ∧
        ∃ e ∈ (exec (DeliveryWorld.step sampleController) sampleWorld sampleSuccession).accepted,
          e.managedStorage.isSome ∧ InstanceController.eventPlace e = app.metadata.key ∧
            e.resourceRef.uid = app.metadata.uid := by
  have hlast : ∃ app ∈ (exec (DeliveryWorld.step sampleController) sampleWorld
      sampleSuccession).cluster.instances.items, app.metadata.uid = "u2" ∧
      app.metadata.annotations.lookup reportedManagedStorageAccessKeyAnnotation =
        some sampleKey := by decide +kernel
  obtain ⟨app, happ, huid, hreported⟩ := hlast
  exact ⟨app, happ, huid, hreported, reported_accepted_of_settled started_sampleWorld
    (by decide +kernel) (by decide +kernel) happ hreported⟩

/-- The first instance goes while its event is posted and not acknowledged. -/
def sampleSnatch : List DeliveryStep :=
  sampleReconcile :: sampleFlush 4 ++
    sampleHandover (setField managedStorageClaimAnnotation sampleKey []) ++ sampleFlush 1

theorem recreated_reported :
    sampleWorld.Started ∧ Unannotated sampleWorld.cluster ∧
      Along (DeliveryWorld.step sampleController) DeliveryWorld.Undisturbing sampleWorld
        sampleSnatch ∧
      (∃ app ∈ (exec (DeliveryWorld.step sampleController) sampleWorld
          sampleSnatch).cluster.instances.items, app.metadata.uid = "u2" ∧
        app.metadata.annotations.lookup reportedManagedStorageAccessKeyAnnotation =
          some sampleKey) ∧
      ∀ e ∈ (exec (DeliveryWorld.step sampleController) sampleWorld sampleSnatch).accepted,
        e.resourceRef.uid ≠ "u2" := by
  refine ⟨started_sampleWorld, ?_⟩
  decide +kernel

end VWorkspace
