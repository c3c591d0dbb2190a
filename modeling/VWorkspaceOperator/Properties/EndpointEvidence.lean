import VWorkspaceOperator.Properties.StorageEvidence

/-!
# What the annotation of endpoints is evidence of

An instance is annotated as reported under the key of its endpoints by the hook after a
delivery.  If that fails, the hook leaves a marker, and a later reconcile writes the annotation
in its place.  The marker does not say which endpoints were delivered: the reconcile writes the
key of the endpoints the instance has by then.

So the annotation is evidence of a delivery as long as the endpoints of an instance do not
change while an event with the earlier ones is on its way or the marker is set.
-/

namespace VWorkspace

open Kit Prog InstanceM

section evidence

variable {r : InstanceController} {w w' : DeliveryWorld} {k : ObjectKey} {key : String}

variable (r) in
/-- An event with such endpoints was accepted for the place. -/
def EndpointsAccepted (accepted : List Agent.Event) (k : ObjectKey) (key : String) : Prop :=
  ∃ e ∈ accepted, ReportsEndpoints e k key ∧ r.seaweedEndpointsReportKey e.endpoints = key

variable (r) in
/-- All that is recorded of endpoints goes back to an event that was accepted, and the events on
their way have the endpoints that the instances have. -/
structure EndpointsEvident (w : DeliveryWorld) : Prop where
  fresh : ∀ k app, w.cluster.instances.get k = some app → ∀ e ∈ w.held, ∀ key,
    ReportsEndpoints e k key → key = r.endpointsKeyOf app.toApplicationInstance
  marked : ∀ k app v, w.cluster.instances.get k = some app →
    app.metadata.annotations.lookup seaweedEndpointsAckRetryAnnotation = some v →
    EndpointsAccepted r w.accepted k (r.endpointsKeyOf app.toApplicationInstance)
  reported : ∀ k app key, w.cluster.instances.get k = some app →
    app.metadata.annotations.lookup reportedSeaweedEndpointsAnnotation = some key →
    EndpointsAccepted r w.accepted k key

theorem EndpointsAccepted.mono {accepted accepted' : List Agent.Event}
    (h : EndpointsAccepted r accepted k key) (hsub : accepted ⊆ accepted') :
    EndpointsAccepted r accepted' k key := by
  obtain ⟨e, he, hreports⟩ := h
  exact ⟨e, hsub he, hreports⟩

theorem Evolved.endpointsKeyOf {L : Licence} {app app' : ManagedInstance} (h : Evolved L app app') :
    r.endpointsKeyOf app'.toApplicationInstance = r.endpointsKeyOf app.toApplicationInstance := by
  have hns : app'.metadata.ns = app.metadata.ns := congrArg ObjectKey.ns h.key
  have hspec : app'.toApplicationInstance.spec = app.toApplicationInstance.spec := h.spec
  unfold InstanceController.endpointsKeyOf endpointsOf releaseNamespace
  rw [hspec, show app'.toApplicationInstance.metadata.ns = app.toApplicationInstance.metadata.ns
    from hns]

theorem EndpointsEvident.of_held_subset (h : EndpointsEvident r w)
    (hinstances : w'.cluster.instances = w.cluster.instances) (hheld : w'.held ⊆ w.held)
    (haccepted : w.accepted ⊆ w'.accepted) : EndpointsEvident r w' where
  fresh k app happ e he := h.fresh k app (hinstances ▸ happ) e (hheld he)
  marked k app v happ hlookup := (h.marked k app v (hinstances ▸ happ) hlookup).mono haccepted
  reported k app key happ hlookup :=
    (h.reported k app key (hinstances ▸ happ) hlookup).mono haccepted

theorem EndpointsEvident.moves (h : EndpointsEvident r w) {L : Licence} {c : InstanceCluster}
    (hmoves : Moves L w.cluster c)
    (hendpoints : ∀ k key, L.endpoints k key → EndpointsAccepted r w.accepted k key)
    (hretries : ∀ k app, w.cluster.instances.get k = some app → L.retries k →
      EndpointsAccepted r w.accepted k (r.endpointsKeyOf app.toApplicationInstance))
    (hsends : ∀ m e, L.sends m e → ∀ k app, w.cluster.instances.get k = some app → ∀ key,
      ReportsEndpoints e k key → key = r.endpointsKeyOf app.toApplicationInstance) :
    EndpointsEvident r { w with cluster := c } := by
  constructor
  · intro k app' happ' e he key hreports
    obtain ⟨app, happ, hevolved⟩ := hmoves.get happ'
    rw [hevolved.endpointsKeyOf]
    rcases DeliveryWorld.held_of_moves hmoves he with hold | ⟨m, now, e₀, hsend, rfl⟩
    · exact h.fresh k app happ e hold key hreports
    · exact hsends m e₀ hsend k app happ key hreports
  · intro k app' v happ' hlookup
    obtain ⟨app, happ, hevolved⟩ := hmoves.get happ'
    have hk : app.metadata.key = k := Store.key_of_get happ
    rw [hevolved.endpointsKeyOf]
    rcases hevolved.annotations.retry v hlookup with hold | hretried
    · exact h.marked k app v happ hold
    · exact hretries k app happ (hk ▸ hretried)
  · intro k app' key happ' hlookup
    obtain ⟨app, happ, hevolved⟩ := hmoves.get happ'
    have hk : app.metadata.key = k := Store.key_of_get happ
    rcases hevolved.annotations.endpoints key hlookup with hold | hacked
    · exact h.reported k app key happ hold
    · exact hendpoints k key (hk ▸ hacked)

variable (r) in
/-- Where others change the cluster, the events on their way have the endpoints the instances have
then, and an instance with the marker keeps the endpoints it had. -/
def DeliveryWorld.EndpointsSettled (w : DeliveryWorld) : DeliveryStep → Prop
  | .outside c => ∀ app' ∈ c.instances.items,
      (∀ e ∈ w.held, InstanceController.eventPlace e = app'.metadata.key →
        ∀ key ∈ Agent.endpointsReportKeyFromEventKey e.eventKey,
          key = r.endpointsKeyOf app'.toApplicationInstance) ∧
      ((app'.metadata.annotations.lookup seaweedEndpointsAckRetryAnnotation).isSome →
        ∀ app ∈ w.cluster.instances.get app'.metadata.key,
          r.endpointsKeyOf app'.toApplicationInstance = r.endpointsKeyOf app.toApplicationInstance)
  | _ => True

theorem EndpointsEvident.outside (h : EndpointsEvident r w) {c : InstanceCluster}
    (hannotations : AnnotationsKept w.cluster c) (hsettled : w.EndpointsSettled r (.outside c)) :
    EndpointsEvident r { w with cluster := { c with memory := w.cluster.memory } } := by
  constructor
  · intro k app' happ' e he key hreports
    obtain rfl : app'.metadata.key = k := Store.key_of_get happ'
    exact (hsettled app' (Store.mem_of_get happ')).1 e he hreports.1 key hreports.2
  · intro k app' v happ' hlookup
    obtain ⟨app, happ, -, hold⟩ := hannotations.lookup happ' (by simp [deliveryAnnotations]) hlookup
    obtain rfl : app'.metadata.key = k := Store.key_of_get happ'
    have hmarked : (app'.metadata.annotations.lookup seaweedEndpointsAckRetryAnnotation).isSome := by
      rw [hlookup]
      rfl
    rw [(hsettled app' (Store.mem_of_get happ')).2 hmarked app happ]
    exact h.marked _ app v happ hold
  · intro k app' key happ' hlookup
    obtain ⟨app, happ, -, hold⟩ := hannotations.lookup happ' (by simp [deliveryAnnotations]) hlookup
    exact h.reported k app key happ hold

theorem InstanceController.Sends.of_reportsEndpoints {c : InstanceCluster} {k₀ : ObjectKey}
    {m : OperatorMemory} {e : Agent.Event} (h : r.Sends c k₀ m e)
    (hreports : ReportsEndpoints e k key) :
    ∃ app, c.instances.get k = some app ∧ key = r.endpointsKeyOf app.toApplicationInstance := by
  cases h with
  | plain h => exact absurd hreports h.not_reportsEndpoints
  | @endpoints app hget now ready =>
    obtain ⟨hk, hparse⟩ := hreports
    obtain ⟨rfl, -, -⟩ := Agent.of_endpointsReportKey hparse
    have hplace : app.metadata.key = k₀ := Store.key_of_get hget
    obtain rfl : k₀ = k := hplace.symm.trans hk
    exact ⟨app, hget, rfl⟩
  | managed hget hms htype hstatus hreported hpending hposting now endpoints =>
    have hnone : Agent.endpointsReportKeyFromEventKey _ = some key := hreports.2
    exact absurd (hnone.symm.trans Agent.endpointsReportKey_managedStorage) (by simp)

theorem endpointsAccepted_of_delivered (hsound : w.Sound r) {batch : List Agent.Event}
    (hphase : w.phase = .delivered batch) {e : Agent.Event} (he : e ∈ batch)
    (hreports : ReportsEndpoints e k key) : EndpointsAccepted r w.accepted k key := by
  have hheld : e ∈ w.held := DeliveryWorld.mem_held.mpr (.inr (hphase ▸ he))
  exact ⟨e, hsound.delivered batch hphase he, hreports,
    ((hsound.made e hheld).endpointsReport hreports).endpoints⟩

theorem EndpointsEvident.next (hsound : w.Sound r) (h : EndpointsEvident r w) {a : DeliveryStep}
    (hundisturbing : w.Undisturbing a) (hsettled : w.EndpointsSettled r a)
    (hnext : DeliveryWorld.Next r w a w') : EndpointsEvident r w' := by
  cases hnext with
  | stay => exact h
  | @reconcile env k₀ c hmoves =>
    refine h.moves hmoves ?_ (fun _ _ _ hfalse => hfalse.elim) ?_
    · -- the marker stands for the endpoints that the instance has
      rintro k' key ⟨rfl, app, happ, hmarked, rfl⟩
      obtain ⟨v, hv⟩ := Option.isSome_iff_exists.mp hmarked
      exact h.marked _ app v happ hv
    · intro m e hsend k app happ key hreports
      obtain ⟨app', happ', rfl⟩ := hsend.of_reportsEndpoints hreports
      rw [Option.some.inj (happ'.symm.trans happ)]
  | reported hmoves =>
    refine h.moves hmoves (fun _ _ hfalse => hfalse.elim) (fun _ _ _ hfalse => hfalse.elim) ?_
    intro m e hplain k app happ key hreports
    exact absurd hreports (Plain.not_reportsEndpoints hplain)
  | client => exact h.of_held_subset rfl (List.Subset.refl _) (List.Subset.refl _)
  | handled hheld hbefore hafter => exact h.of_held_subset rfl hheld.subset (List.Subset.refl _)
  | prepared hphase =>
    refine h.of_held_subset rfl ?_ (List.Subset.refl _)
    rw [DeliveryWorld.held, DeliveryWorld.held, hphase]
    exact List.Subset.refl _
  | posted hphase =>
    refine h.of_held_subset rfl ?_ (List.subset_append_left _ _)
    rw [DeliveryWorld.held, DeliveryWorld.held, hphase]
    exact List.Subset.refl _
  | failed hphase hphase' =>
    refine h.of_held_subset rfl ?_ (List.Subset.refl _)
    rw [DeliveryWorld.held, DeliveryWorld.held, hphase]
    rcases hphase' with rfl | rfl <;> exact List.Subset.refl _
  | aborted hphase =>
    refine h.of_held_subset rfl ?_ (List.Subset.refl _)
    rw [DeliveryWorld.held, DeliveryWorld.held, hphase]
    exact List.Subset.refl _
  | @acknowledged env accepts batch hphase =>
    have hmoves : Moves (deliveryLicence batch) w.cluster
        ((r.ackManagedStorageDelivered 0 batch).run env w.cluster).state :=
      InstanceController.licensed_ackManagedStorageDelivered 0 (List.Subset.refl _) env w.cluster
    have hacked : EndpointsEvident r { w with
        cluster := ((r.ackManagedStorageDelivered 0 batch).run env w.cluster).state } := by
      refine h.moves hmoves ?_ ?_ (fun _ _ hfalse => hfalse.elim)
      · rintro k key ⟨e, he, hreports⟩
        exact endpointsAccepted_of_delivered hsound hphase he hreports
      · -- the event is about the endpoints that the instance has
        rintro k app happ ⟨e, he, key, hreports⟩
        have hheld : e ∈ w.held := DeliveryWorld.mem_held.mpr (.inr (hphase ▸ he))
        rw [← h.fresh k app happ e hheld key hreports]
        exact endpointsAccepted_of_delivered hsound hphase he hreports
    refine hacked.of_held_subset rfl ?_ (List.Subset.refl _)
    exact List.append_subset.mpr ⟨List.subset_append_left _ _, List.nil_subset _⟩
  | restart => exact h.of_held_subset rfl (List.nil_subset _) (List.Subset.refl _)
  | outside c => exact h.outside hundisturbing hsettled

theorem EndpointsEvident.start (h : w.Started) (hunannotated : Unannotated w.cluster) :
    EndpointsEvident r w where
  fresh k app happ e he := absurd (h.held ▸ he) List.not_mem_nil
  marked k app v happ hlookup := by
    rw [hunannotated app (Store.mem_of_get happ) _ (by simp [deliveryAnnotations])] at hlookup
    exact absurd hlookup (by simp)
  reported k app key happ hlookup := by
    rw [hunannotated app (Store.mem_of_get happ) _ (by simp [deliveryAnnotations])] at hlookup
    exact absurd hlookup (by simp)

end evidence

theorem endpoints_accepted {r : InstanceController} {w : DeliveryWorld} (hstart : w.Started)
    (hunannotated : Unannotated w.cluster) {steps : List DeliveryStep}
    (hsteps : Along (DeliveryWorld.step r) (fun w a => w.Undisturbing a ∧ w.EndpointsSettled r a) w
      steps) {app : ManagedInstance} {key : String}
    (happ : app ∈ (exec (DeliveryWorld.step r) w steps).cluster.instances.items)
    (hreported : app.metadata.annotations.lookup reportedSeaweedEndpointsAnnotation = some key) :
    ∃ e ∈ (exec (DeliveryWorld.step r) w steps).accepted,
      ReportsEndpoints e app.metadata.key key ∧ r.seaweedEndpointsReportKey e.endpoints = key := by
  have hrun : (exec (DeliveryWorld.step r) w steps).Sound r ∧
      EndpointsEvident r (exec (DeliveryWorld.step r) w steps) := by
    refine exec_of_along (I := fun s => s.Sound r ∧ EndpointsEvident r s) hsteps
      (fun s a ⟨hundisturbing, hsettled⟩ ⟨hsound, hevident⟩ => ?_)
      ⟨hstart.sound, .start hstart hunannotated⟩
    have hnext := DeliveryWorld.next_step (r := r) s a
    exact ⟨hsound.next hnext, hevident.next hsound hundisturbing hsettled hnext⟩
  exact hrun.2.reported _ app key (Store.get_of_mem happ) hreported

/-- A controller whose digest looks at the host of an endpoint. -/
def endpointsController : InstanceController :=
  { sampleController with sha256 := fun bs => Vector.ofFn fun i => bs.getD (i.val + 10) 0 }

def sampleGateway (release : String) (annotations : List (String × String)) : ManagedInstance where
  metadata := { ns := "team-a", name := "store", uid := "u1", annotations,
                finalizers := [applicationInstanceFinalizer] }
  spec :=
    { catalogId := catalogIdSeaweedFS, mode := .managed
      release := some { name := release, ns := "team-a" }
      values := some
        { source := .inline, inline := some (bytesOf "\x7b\"s3\":\x7b\"enabled\":true\x7d\x7d") } }

/-- The cluster, in which the `Seaweed` of the release is ready and has a service. -/
def gatewayCluster (release : String) (annotations : List (String × String)) : InstanceCluster where
  instances := Store.empty.put (sampleGateway release annotations)
  workloads := Workloads.empty
  seaweeds := Store.empty.put
    { sampleSeaweed with metadata := { sampleSeaweed.metadata with name := release } }
  services := [⟨"team-a", s3ServiceName release⟩]

def gatewayWorld : DeliveryWorld where
  cluster := gatewayCluster "store" []
  client := some ⟨"https://workspace.example.org", "c1", "t"⟩

def gatewayKey (release : String) : String :=
  endpointsController.endpointsKeyOf (sampleGateway release []).toApplicationInstance

theorem started_gatewayWorld : gatewayWorld.Started := ⟨rfl, rfl, rfl, rfl⟩

instance (r : InstanceController) (w : DeliveryWorld) : DecidablePred (w.EndpointsSettled r) :=
  fun a =>
  match a with
  | .outside c => inferInstanceAs (Decidable (∀ _ ∈ c.instances.items, (∀ _ ∈ _, _ → ∀ _ ∈ _, _) ∧ _))
  | .reconcile _ _ | .flush _ _ | .setClient _ | .report _ _ _ _ | .rotated _ _ _ | .restart =>
    inferInstanceAs (Decidable True)

/-- The release is renamed after its endpoint was reported, and the new one is reported in turn. -/
def sampleRenaming : List DeliveryStep :=
  sampleDelivery ++ [.outside (gatewayCluster "shop"
    (setField reportedSeaweedEndpointsAnnotation (gatewayKey "store") []))] ++ sampleDelivery

theorem sample_endpoints_accepted :
    ∃ app ∈ (exec (DeliveryWorld.step endpointsController) gatewayWorld
        sampleRenaming).cluster.instances.items,
      app.metadata.annotations.lookup reportedSeaweedEndpointsAnnotation =
          some (gatewayKey "shop") ∧
        ∃ e ∈ (exec (DeliveryWorld.step endpointsController) gatewayWorld sampleRenaming).accepted,
          ReportsEndpoints e app.metadata.key (gatewayKey "shop") ∧
            endpointsController.seaweedEndpointsReportKey e.endpoints = gatewayKey "shop" := by
  have hlast : ∃ app ∈ (exec (DeliveryWorld.step endpointsController) gatewayWorld
      sampleRenaming).cluster.instances.items,
      app.metadata.annotations.lookup reportedSeaweedEndpointsAnnotation =
        some (gatewayKey "shop") := by decide +kernel
  obtain ⟨app, happ, hreported⟩ := hlast
  exact ⟨app, happ, hreported, endpoints_accepted started_gatewayWorld (by decide +kernel)
    (by decide +kernel) happ hreported⟩

def endpointsFault : InstanceSite → Option String
  | .patch _ .endpointsAck => some "the server is currently unable to handle the request"
  | _ => none

/-- The acknowledgement fails and leaves the marker, and then the release is renamed. -/
def sampleMisread : List DeliveryStep :=
  sampleReconcile :: sampleFlush 4 ++ [.flush { now := 6, fault := endpointsFault } true,
    .outside (gatewayCluster "shop" (setField seaweedEndpointsAckRetryAnnotation "6" [])), sampleReconcile]

theorem renamed_reported :
    gatewayWorld.Started ∧ Unannotated gatewayWorld.cluster ∧
      Along (DeliveryWorld.step endpointsController) DeliveryWorld.Undisturbing gatewayWorld
        sampleMisread ∧
      (∃ app ∈ (exec (DeliveryWorld.step endpointsController) gatewayWorld
          sampleMisread).cluster.instances.items,
        app.metadata.annotations.lookup reportedSeaweedEndpointsAnnotation =
          some (gatewayKey "shop")) ∧
      ∀ e ∈ (exec (DeliveryWorld.step endpointsController) gatewayWorld sampleMisread).accepted,
        Agent.endpointsReportKeyFromEventKey e.eventKey ≠ some (gatewayKey "shop") := by
  refine ⟨started_gatewayWorld, ?_⟩
  decide +kernel

end VWorkspace
