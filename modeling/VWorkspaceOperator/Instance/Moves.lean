import VWorkspaceOperator.Instance.Controller
import Mathlib.Logic.Relation

/-!
# What the instance controller writes

A reconcile, and the hook that runs after a delivery, change the cluster and the memory in
many places.  Here is said once what these changes are, as single moves: objects, statuses,
finalizers, annotations, the maps of the delivery and the buffer.  Four annotations carry
evidence, which a later reconcile trusts: that managed storage was posted and that it was
reported, that endpoints were reported, and that an acknowledgement of endpoints has to be
tried again.  Those, and the events that are sent, are written only with a licence, which says
what the program knows where it writes them.
-/

namespace VWorkspace

open Kit Prog InstanceM

variable {app app' : ManagedInstance}

structure Licence where
  /-- Managed storage may be acknowledged, at a place and under a report key. -/
  acks : ObjectKey → String → Prop
  /-- It may be marked as posted. -/
  posts : ObjectKey → String → Prop
  /-- Endpoints may be acknowledged. -/
  endpoints : ObjectKey → String → Prop
  /-- Their acknowledgement may be marked to be tried again. -/
  retries : ObjectKey → Prop
  /-- An instance may go. -/
  removes : ObjectKey → Prop
  /-- An event may be sent, with this in memory. -/
  sends : OperatorMemory → Agent.Event → Prop

/-- What changes of the evidence in the annotations of an instance is licensed. -/
structure Licence.Permits (L : Licence) (k : ObjectKey) (before after : List (String × String)) :
    Prop where
  reported : ∀ key, after.lookup reportedManagedStorageAccessKeyAnnotation = some key →
    before.lookup reportedManagedStorageAccessKeyAnnotation = some key ∨ L.acks k key
  /-- What is reported stays reported, or something else is. -/
  standing : ∀ key, before.lookup reportedManagedStorageAccessKeyAnnotation = some key →
    ∃ key', after.lookup reportedManagedStorageAccessKeyAnnotation = some key' ∧
      (key' = key ∨ L.acks k key')
  posted : ∀ key, after.lookup managedStoragePostedAnnotation = some key →
    before.lookup managedStoragePostedAnnotation = some key ∨ L.posts k key
  endpoints : ∀ key, after.lookup reportedSeaweedEndpointsAnnotation = some key →
    before.lookup reportedSeaweedEndpointsAnnotation = some key ∨ L.endpoints k key
  retry : ∀ v, after.lookup seaweedEndpointsAckRetryAnnotation = some v →
    before.lookup seaweedEndpointsAckRetryAnnotation = some v ∨ L.retries k

/-- Entries of the maps may go; what is in flight is not evidence of anything. -/
structure StorageDelivery.Forgets (d d' : StorageDelivery) : Prop where
  posting : ∀ key v, d'.posting.lookup key = some v → d.posting.lookup key = some v
  ackPending : ∀ key v, d'.ackPending.lookup key = some v → d.ackPending.lookup key = some v

/-- What may become of an instance: it stays the object it is, and its evidence is licensed. -/
structure Evolved (L : Licence) (app app' : ManagedInstance) : Prop where
  key : app'.metadata.key = app.metadata.key
  uid : app'.metadata.uid = app.metadata.uid
  spec : app'.spec = app.spec
  generation : app'.generation = app.generation
  annotations : L.Permits app.metadata.key app.metadata.annotations app'.metadata.annotations

inductive Move (L : Licence) (c : InstanceCluster) : InstanceCluster → Prop
  | objects {c' : InstanceCluster} (h : c'.withoutObjects = c.withoutObjects) : Move L c c'
  /-- A status, finalizers or annotations are written. -/
  | write {k : ObjectKey} {stored new : ManagedInstance} (h : c.instances.get k = some stored)
      (hnew : Evolved L stored new) : Move L c { c with instances := c.instances.put new }
  | removed {k : ObjectKey} (h : L.removes k) :
      Move L c { c with instances := c.instances.erase k }
  | forget {d : StorageDelivery} (h : c.memory.delivery.Forgets d) :
      Move L c (c.withMemory fun m => { m with delivery := d })
  | pend {k : ObjectKey} {key : String} (h : L.acks k key) :
      Move L c (c.withMemory fun m =>
        { m with delivery := m.delivery.markStorageAckPending k.ns k.name key })
  | send (now : ℕ) {e : Agent.Event} (h : L.sends c.memory e) :
      Move L c (c.withMemory fun m => m.enqueue now e)

abbrev Moves (L : Licence) : InstanceCluster → InstanceCluster → Prop :=
  Relation.ReflTransGen (Move L)

section left

variable {L : Licence} {c c' : InstanceCluster}

theorem instances_of_withoutObjects (h : c'.withoutObjects = c.withoutObjects) :
    c'.instances = c.instances := by
  have hinstances : c'.withoutObjects.instances = c.withoutObjects.instances :=
    congrArg InstanceCluster.instances h
  exact hinstances

theorem memory_of_withoutObjects (h : c'.withoutObjects = c.withoutObjects) :
    c'.memory = c.memory := by
  have hmemory : c'.withoutObjects.memory = c.withoutObjects.memory :=
    congrArg InstanceCluster.memory h
  exact hmemory

theorem Licence.Permits.refl (k : ObjectKey) (a : List (String × String)) : L.Permits k a a :=
  ⟨fun _ => .inl, fun key h => ⟨key, h, .inl rfl⟩, fun _ => .inl, fun _ => .inl, fun _ => .inl⟩

theorem Licence.Permits.trans {k : ObjectKey} {a b d : List (String × String)}
    (h : L.Permits k a b) (h' : L.Permits k b d) : L.Permits k a d where
  reported key hd := (h'.reported key hd).elim (h.reported key) .inr
  standing key ha := by
    obtain ⟨key₁, hb, h₁⟩ := h.standing key ha
    obtain ⟨key₂, hd, h₂⟩ := h'.standing key₁ hb
    refine ⟨key₂, hd, ?_⟩
    rcases h₂ with rfl | hacks
    · exact h₁
    · exact .inr hacks
  posted key hd := (h'.posted key hd).elim (h.posted key) .inr
  endpoints key hd := (h'.endpoints key hd).elim (h.endpoints key) .inr
  retry v hd := (h'.retry v hd).elim (h.retry v) .inr

theorem Evolved.refl (app : ManagedInstance) : Evolved L app app :=
  ⟨rfl, rfl, rfl, rfl, .refl _ _⟩

theorem Evolved.trans {app'' : ManagedInstance} (h : Evolved L app app')
    (h' : Evolved L app' app'') : Evolved L app app'' where
  key := h'.key.trans h.key
  uid := h'.uid.trans h.uid
  spec := h'.spec.trans h.spec
  generation := h'.generation.trans h.generation
  annotations := h.annotations.trans (h.key ▸ h'.annotations)

theorem Evolved.ref (h : Evolved L app app') : instanceRef app' = instanceRef app := by
  have hns : app'.metadata.ns = app.metadata.ns := congrArg ObjectKey.ns h.key
  have hname : app'.metadata.name = app.metadata.name := congrArg ObjectKey.name h.key
  rw [instanceRef, instanceRef, Agent.resourceRefFromMeta, Agent.resourceRefFromMeta, hns, hname,
    h.uid, h.generation]

theorem Move.get (h : Move L c c') {k : ObjectKey} (happ' : c'.instances.get k = some app') :
    ∃ app, c.instances.get k = some app ∧ Evolved L app app' := by
  cases h with
  | objects h => exact ⟨app', instances_of_withoutObjects h ▸ happ', .refl _⟩
  | @write k' stored new hget hnew =>
    rcases Store.of_get_put happ' with ⟨rfl, hk⟩ | happ'
    · have hsame : k' = k := ((Store.key_of_get hget).symm.trans hnew.key.symm).trans hk
      exact ⟨stored, hsame ▸ hget, hnew⟩
    · exact ⟨app', happ', .refl _⟩
  | @removed k' _ =>
    by_cases hk : k = k'
    · subst hk
      exact absurd (happ'.symm.trans (Store.get_erase_self _ _)) (by simp)
    · exact ⟨app', (Store.get_erase_of_ne hk).symm.trans happ', .refl _⟩
  | forget _ | pend _ | send _ _ => exact ⟨app', happ', .refl _⟩

theorem Moves.get (h : Moves L c c') {k : ObjectKey} (happ' : c'.instances.get k = some app') :
    ∃ app, c.instances.get k = some app ∧ Evolved L app app' := by
  induction h generalizing app' with
  | refl => exact ⟨app', happ', .refl _⟩
  | tail _ hmove ih =>
    obtain ⟨app₁, happ₁, hevolved₁⟩ := hmove.get happ'
    obtain ⟨app, happ, hevolved⟩ := ih happ₁
    exact ⟨app, happ, hevolved.trans hevolved₁⟩

theorem Moves.stays (h : Moves L c c') {k : ObjectKey} (hk : ¬L.removes k)
    (happ : c.instances.get k = some app) :
    ∃ app', c'.instances.get k = some app' ∧ Evolved L app app' := by
  have hstep : ∀ c₁ c₂ (app₁ : ManagedInstance), Move L c₁ c₂ → c₁.instances.get k = some app₁ →
      ∃ app₂, c₂.instances.get k = some app₂ := by
    intro c₁ c₂ app₁ hmove happ₁
    cases hmove with
    | objects h => exact ⟨app₁, instances_of_withoutObjects h ▸ happ₁⟩
    | @write k' stored new hget hnew =>
      by_cases hsame : k = new.metadata.key
      · exact ⟨new, hsame ▸ Store.get_put_self c₁.instances new⟩
      · exact ⟨app₁, (Store.get_put_of_ne hsame).trans happ₁⟩
    | @removed k' hremoves =>
      have hne : k ≠ k' := fun heq => hk (heq ▸ hremoves)
      exact ⟨app₁, (Store.get_erase_of_ne hne).trans happ₁⟩
    | forget _ | pend _ | send _ _ => exact ⟨app₁, happ₁⟩
  have hthere : ∃ app', c'.instances.get k = some app' := by
    induction h with
    | refl => exact ⟨app, happ⟩
    | tail _ hmove ih =>
      obtain ⟨app₁, happ₁⟩ := ih
      exact hstep _ _ app₁ hmove happ₁
  obtain ⟨app', happ'⟩ := hthere
  obtain ⟨app₀, happ₀, hevolved⟩ := h.get happ'
  obtain rfl : app = app₀ := Option.some.inj (happ.symm.trans happ₀)
  exact ⟨app', happ', hevolved⟩

theorem Moves.pending (h : Moves L c c') {dk key : String}
    (hdk : c'.memory.delivery.ackPending.lookup dk = some key) :
    c.memory.delivery.ackPending.lookup dk = some key ∨
      ∃ k, dk = storageDeliveryKey k.ns k.name ∧ L.acks k key := by
  induction h with
  | refl => exact .inl hdk
  | @tail c₁ c₂ _ hmove ih =>
    cases hmove with
    | objects h => exact ih (memory_of_withoutObjects h ▸ hdk)
    | write _ _ | removed _ => exact ih hdk
    | forget h => exact ih (h.ackPending dk key hdk)
    | @pend k key' hacks =>
      have hset : (setField (storageDeliveryKey k.ns k.name) key'
          c₁.memory.delivery.ackPending).lookup dk = some key := hdk
      by_cases hk : dk = storageDeliveryKey k.ns k.name
      · subst hk
        rw [lookup_setField_self] at hset
        exact .inr ⟨k, rfl, Option.some.inj hset ▸ hacks⟩
      · rw [lookup_setField_of_ne _ hk] at hset
        exact ih hset
    | send now _ =>
      rw [InstanceCluster.withMemory, OperatorMemory.delivery_enqueue] at hdk
      exact ih hdk

theorem Moves.posting (h : Moves L c c') {dk key : String}
    (hdk : c'.memory.delivery.posting.lookup dk = some key) :
    c.memory.delivery.posting.lookup dk = some key := by
  induction h with
  | refl => exact hdk
  | @tail c₁ c₂ _ hmove ih =>
    cases hmove with
    | objects h => exact ih (memory_of_withoutObjects h ▸ hdk)
    | write _ _ | removed _ | pend _ => exact ih hdk
    | forget h => exact ih (h.posting dk key hdk)
    | send now _ =>
      rw [InstanceCluster.withMemory, OperatorMemory.delivery_enqueue] at hdk
      exact ih hdk

theorem Moves.events (h : Moves L c c') {e : Agent.Event} (he : e ∈ c'.memory.batcher.events) :
    e ∈ c.memory.batcher.events ∨ ∃ m now e₀, L.sends m e₀ ∧ e = e₀.stamp now := by
  induction h with
  | refl => exact .inl he
  | @tail c₁ c₂ _ hmove ih =>
    cases hmove with
    | objects h => exact ih (memory_of_withoutObjects h ▸ he)
    | write _ _ | removed _ | pend _ | forget _ => exact ih he
    | @send now e₀ hsend =>
      have hsent : e = e₀.stamp now ∨ e ∈ c₁.memory.batcher.events := by
        rw [InstanceCluster.withMemory, OperatorMemory.enqueue] at he
        split at he
        · exact Agent.EventBatcher.mem_of_mem_enqueue he
        · exact .inr he
      rcases hsent with rfl | he
      · exact .inr ⟨_, now, e₀, hsend, rfl⟩
      · exact ih he

theorem Moves.batcher (h : Moves L c c') (hsends : ∀ m e, ¬L.sends m e) :
    c'.memory.batcher = c.memory.batcher := by
  induction h with
  | refl => rfl
  | @tail c₁ c₂ _ hmove ih =>
    cases hmove with
    | objects h => rw [memory_of_withoutObjects h]; exact ih
    | write _ _ | removed _ | pend _ | forget _ => exact ih
    | send now hsend => exact absurd hsend (hsends _ _)

theorem Moves.reporting (h : Moves L c c') : c'.memory.reporting = c.memory.reporting := by
  induction h with
  | refl => rfl
  | @tail c₁ c₂ _ hmove ih =>
    cases hmove with
    | objects h => rw [memory_of_withoutObjects h]; exact ih
    | write _ _ | removed _ | pend _ | forget _ => exact ih
    | send now hsend => exact OperatorMemory.reporting_enqueue.trans ih

theorem Moves.credentials (h : Moves L c c') : SameCredentials c c' := by
  induction h with
  | refl => exact ⟨rfl, rfl⟩
  | @tail c₁ c₂ _ hmove ih =>
    cases hmove with
    | objects h =>
      have hs3 : c₂.withoutObjects.s3Credentials = c₁.withoutObjects.s3Credentials :=
        congrArg InstanceCluster.s3Credentials h
      have hsecrets : c₂.withoutObjects.secrets = c₁.withoutObjects.secrets :=
        congrArg InstanceCluster.secrets h
      exact ⟨Eq.trans hs3 ih.s3Credentials, Eq.trans hsecrets ih.secrets⟩
    | write _ _ | removed _ | forget _ | pend _ | send _ _ => exact ⟨ih.s3Credentials, ih.secrets⟩

end left

section licensed

variable {α β : Type} {x : InstanceM α} {L : Licence} {env : InstanceEnv} {c : InstanceCluster}

def Licensed (L : Licence) (x : InstanceM α) : Prop :=
  ∀ env c, Moves L c (x.run env c).state

theorem moves_bind {f : α → InstanceM β} (hx : Moves L c (x.run env c).state)
    (hf : ∀ a, (x.run env c).result = .ok a →
      Moves L (x.run env c).state ((f a).run env (x.run env c).state).state) :
    Moves L c ((x >>= f).run env c).state := by
  cases h : (x.run env c).result with
  | error err => rw [run_bind_of_error h]; exact hx
  | ok a => rw [run_bind_of_ok h]; exact hx.trans (hf a h)

theorem Licensed.bind {f : α → InstanceM β} (hx : Licensed L x) (hf : ∀ a, Licensed L (f a)) :
    Licensed L (x >>= f) :=
  fun env c => moves_bind (hx env c) fun a _ => hf a env _

theorem Licensed.of_idle (h : Idle x) : Licensed L x := by
  intro env c
  rw [(h env c).1]

theorem Licensed.posting (h : Licensed L x) {dk key : String}
    (hdk : (x.run env c).state.memory.delivery.posting.lookup dk = some key) :
    c.memory.delivery.posting.lookup dk = some key := (h env c).posting hdk

theorem Licensed.mapError {f : GoError → GoError} (hx : Licensed L x) :
    Licensed L (x.mapError f) := hx

theorem Licensed.attempt (hx : Licensed L x) : Licensed L x.attempt := hx

/-! #### Annotations -/

def evidenceAnnotations : List String :=
  [ reportedManagedStorageAccessKeyAnnotation, managedStoragePostedAnnotation,
    reportedSeaweedEndpointsAnnotation, seaweedEndpointsAckRetryAnnotation]

variable {k : ObjectKey} {key value reportKey : String} {a : List (String × String)}

theorem permits_unsetField (hkey : key ≠ reportedManagedStorageAccessKeyAnnotation) :
    L.Permits k a (unsetField key a) where
  reported _ h := .inl (lookup_of_unsetField h)
  standing key' h := ⟨key', (lookup_unsetField_of_ne (Ne.symm hkey) a).trans h, .inl rfl⟩
  posted _ h := .inl (lookup_of_unsetField h)
  endpoints _ h := .inl (lookup_of_unsetField h)
  retry _ h := .inl (lookup_of_unsetField h)

theorem of_lookup_setField {key' v : String} (h : (setField key value a).lookup key' = some v) :
    a.lookup key' = some v ∨ key' = key ∧ v = value := by
  by_cases hkey : key' = key
  · subst hkey
    rw [lookup_setField_self] at h
    exact .inr ⟨rfl, (Option.some.inj h).symm⟩
  · rw [lookup_setField_of_ne _ hkey] at h
    exact .inl h

theorem permits_setField
    (hreported : key = reportedManagedStorageAccessKeyAnnotation → L.acks k value)
    (hposted : key = managedStoragePostedAnnotation → L.posts k value)
    (hendpoints : key = reportedSeaweedEndpointsAnnotation → L.endpoints k value)
    (hretry : key = seaweedEndpointsAckRetryAnnotation → L.retries k) :
    L.Permits k a (setField key value a) where
  reported _ h := (of_lookup_setField h).imp_right fun ⟨hkey, hv⟩ => hv ▸ hreported hkey.symm
  standing key' h := by
    by_cases hkey : reportedManagedStorageAccessKeyAnnotation = key
    · exact ⟨value, hkey ▸ lookup_setField_self _ _ _, .inr (hreported hkey.symm)⟩
    · exact ⟨key', (lookup_setField_of_ne _ hkey a).trans h, .inl rfl⟩
  posted _ h := (of_lookup_setField h).imp_right fun ⟨hkey, hv⟩ => hv ▸ hposted hkey.symm
  endpoints _ h := (of_lookup_setField h).imp_right fun ⟨hkey, hv⟩ => hv ▸ hendpoints hkey.symm
  retry _ h := (of_lookup_setField h).imp_right fun ⟨hkey, _⟩ => hretry hkey.symm

theorem permits_of_notMem (h : key ∉ evidenceAnnotations) : L.Permits k a (setField key value a) := by
  have hne : ∀ key' ∈ evidenceAnnotations, key ≠ key' := fun _ hmem heq => h (heq ▸ hmem)
  exact permits_setField (fun heq => absurd heq (hne _ (by simp [evidenceAnnotations])))
    (fun heq => absurd heq (hne _ (by simp [evidenceAnnotations])))
    (fun heq => absurd heq (hne _ (by simp [evidenceAnnotations])))
    fun heq => absurd heq (hne _ (by simp [evidenceAnnotations]))

theorem permits_acknowledgedAs (h : L.acks k reportKey) :
    L.Permits k a (acknowledgedAs reportKey a) :=
  (permits_setField (fun _ => h) (fun heq => absurd heq (by decide))
    (fun heq => absurd heq (by decide)) fun heq => absurd heq (by decide)).trans
      ((permits_unsetField (by decide)).trans (permits_unsetField (by decide)))

/-! #### The maps of the delivery -/

namespace StorageDelivery

variable (d : StorageDelivery) (ns name : String)

theorem forgets_markStorageInFlight (reportKey : String) :
    d.Forgets (d.markStorageInFlight ns name reportKey) := ⟨fun _ _ h => h, fun _ _ h => h⟩

theorem forgets_clearStorageInFlight : d.Forgets (d.clearStorageInFlight ns name) :=
  ⟨fun _ _ h => h, fun _ _ h => h⟩

theorem forgets_clearStorageAckPending : d.Forgets (d.clearStorageAckPending ns name) :=
  ⟨fun _ _ h => h, fun _ _ h => lookup_of_unsetField h⟩

theorem forgets_clearStorageDeliveryState : d.Forgets (d.clearStorageDeliveryState ns name) :=
  ⟨fun _ _ h => lookup_of_unsetField h, fun _ _ h => lookup_of_unsetField h⟩

theorem forgets_clearStoragePosting (reportKey : String) :
    d.Forgets (d.clearStoragePosting ns name reportKey) := by
  unfold clearStoragePosting
  split
  · exact ⟨fun _ _ h => lookup_of_unsetField h, fun _ _ h => h⟩
  · exact ⟨fun _ _ h => h, fun _ _ h => h⟩

end StorageDelivery

/-! #### Walks -/

variable (L k) in
/-- A judgement of what a program does from a cluster that passes through the combinators, and
that holds of the patches at a place and of the events a licence allows. -/
structure Patches (J : (α : Type) → InstanceEnv → InstanceCluster → InstanceM α → Prop) :
    Prop where
  idle : ∀ {α env c} {x : InstanceM α}, Idle x → J α env c x
  bind : ∀ {α β env c} {x : InstanceM α} {f : α → InstanceM β}, J α env c x →
    (∀ a, (x.run env c).result = .ok a → J β env (x.run env c).state (f a)) → J β env c (x >>= f)
  mapError : ∀ {α env c f} {x : InstanceM α}, J α env c x → J α env c (x.mapError f)
  attempt : ∀ {α env c} {x : InstanceM α}, J α env c x → J _ env c x.attempt
  patch : ∀ {env c f} event s, (∀ a, L.Permits k a (f a)) →
    J _ env c (patchAnnotations event s k f)
  send : ∀ {env c e} now, L.sends c.memory e →
    J _ env c (Prog.modify fun c => c.withMemory fun m => m.enqueue now e)

variable (L k) in
/-- It also holds of what the licence allows to change in the maps of the delivery. -/
structure Heeds (J : (α : Type) → InstanceEnv → InstanceCluster → InstanceM α → Prop) : Prop
    extends Patches L k J where
  forget : ∀ {env c f}, (∀ d : StorageDelivery, d.Forgets (f d)) → J _ env c (onDelivery f)
  pend : ∀ {env c key}, L.acks k key →
    J _ env c (onDelivery fun d => d.markStorageAckPending k.ns k.name key)

variable {J : (α : Type) → InstanceEnv → InstanceCluster → InstanceM α → Prop}

namespace Patches

variable (hJ : Patches L k J)

include hJ

theorem ensure (event : ℕ) (s : PatchSite) (h : ∀ a, L.Permits k a (setField key value a)) :
    J _ env c ( ensureAnnotation event s k key value) := by
  refine hJ.bind (hJ.idle (idle_getForPatch _ _ _)) fun app _ => ?_
  split
  · exact hJ.idle (.pure _)
  · exact hJ.bind (hJ.mapError (hJ.patch _ _ h)) fun _ _ => hJ.idle (.pure _)

theorem clear (event : ℕ) (hkey : key ≠ reportedManagedStorageAccessKeyAnnotation) :
    J _ env c ( clearAnnotation event k key) := by
  refine hJ.bind (hJ.attempt (hJ.idle (idle_getForPatch _ _ _))) fun res _ => ?_
  split
  · exact hJ.idle (.pure _)
  · split
    · exact hJ.idle (.pure _)
    · exact hJ.bind (hJ.attempt (hJ.patch _ _ fun _ => permits_unsetField hkey)) fun _ _ =>
        hJ.idle (.pure _)

theorem clearClaim (s : PatchSite) (hk : app.metadata.key = k) :
    J _ env c (clearManagedStorageClaim s app) := by
  unfold clearManagedStorageClaim
  split
  · exact hJ.idle (.pure _)
  · rw [hk]
    exact hJ.patch _ _ fun _ => permits_unsetField (by decide)

theorem claim (hk : app.metadata.key = k) (reportKey : String) :
    J _ env c (claimManagedStorageDelivery app reportKey) := by
  unfold claimManagedStorageDelivery
  split
  · exact hJ.idle (.pure _)
  · split
    · split
      · exact hJ.idle (.pure _)
      · exact hJ.idle (.pure _)
    · rw [hk]
      refine hJ.bind (hJ.attempt (hJ.patch _ _ fun _ => permits_of_notMem (by decide)))
        fun res _ => ?_
      split
      · exact hJ.idle (.pure _)
      · refine hJ.bind (hJ.idle (idle_isConflict _ _)) fun conflict _ => ?_
        split
        · exact hJ.idle (.pure _)
        · exact hJ.idle (.throw _)

end Patches

namespace Heeds

variable (hJ : Heeds L k J)

include hJ

theorem ackFrom (event : ℕ) (h : L.acks k reportKey) (attempts : ℕ) : ∀ attempt err c,
    J _ env c (patchManagedStorageAckFrom event k reportKey attempts attempt err) := by
  have hclear : ∀ c, J _ env c (onDelivery fun d => d.clearStorageDeliveryState k.ns k.name) :=
    fun c => hJ.forget fun d => d.forgets_clearStorageDeliveryState _ _
  induction attempts with
  | zero => exact fun _ _ _ => hJ.idle (.throw _)
  | succ attempts ih =>
    intro attempt err c
    refine hJ.bind (hJ.idle (idle_getForPatch _ _ _)) fun app _ => ?_
    split
    · exact hclear _
    · refine hJ.bind (hJ.attempt (hJ.patch _ _ fun _ => permits_acknowledgedAs h)) fun res _ => ?_
      split
      · exact hclear _
      · refine hJ.bind (hJ.idle (idle_isConflict _ _)) fun conflict _ => ?_
        split
        · exact ih _ _ _
        · exact hJ.idle (.throw _)

theorem ack (event : ℕ) (h : L.acks k reportKey) :
    J _ env c (patchManagedStorageAck event k reportKey) := hJ.ackFrom event h 3 0 _ _

theorem retryAck (h : L.acks k reportKey) : J _ env c (retryManagedStorageAck k reportKey) :=
  hJ.bind (hJ.pend h) fun _ _ => hJ.ack 0 h

end Heeds

/-! #### Moves -/

theorem heeds_moves (L : Licence) (k : ObjectKey) :
    Heeds L k fun _ env c x => Moves L c (x.run env c).state where
  idle h := by rw [(h _ _).1]
  bind := moves_bind
  mapError h := h
  attempt h := h
  patch := by
    intro env c f event s hf
    rw [run_patchAnnotations]
    split
    · exact .refl
    · exact .refl
    · next stored hfault hget =>
      have hkey : stored.metadata.key = k := Store.key_of_get hget
      exact .single (.write hget ⟨rfl, rfl, rfl, rfl, hkey ▸ hf _⟩)
  send now h := .single (.send now h)
  forget hf := .single (.forget (hf _))
  pend h := .single (.pend h)

theorem licensed_patchAnnotations {f : List (String × String) → List (String × String)}
    (event : ℕ) (s : PatchSite) (hf : ∀ a, L.Permits k a (f a)) :
    Licensed L (patchAnnotations event s k f) := fun _ _ => (heeds_moves L k).patch event s hf

theorem licensed_ensureAnnotation (event : ℕ) (s : PatchSite)
    (h : ∀ a, L.Permits k a (setField key value a)) :
    Licensed L ( ensureAnnotation event s k key value) := fun _ _ => (heeds_moves L k).ensure event s h

theorem licensed_patchManagedStorageAck (event : ℕ) (h : L.acks k reportKey) :
    Licensed L (patchManagedStorageAck event k reportKey) := fun _ _ => (heeds_moves L k).ack event h

end licensed

end VWorkspace
