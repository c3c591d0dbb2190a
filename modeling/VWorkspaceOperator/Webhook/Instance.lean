import VWorkspaceOperator.Instance.Licences
import VWorkspaceOperator.Instance.Persisted
import VWorkspaceOperator.Webhook.InlineSecrets

/-!
# Admission of instances

The webhook checks instances when they are created and updated: the spec as the reconciler does,
inline values for secrets, and whether a managed instance may become a placeholder.

The second half is a cluster in which all creations and updates of instances pass the webhook.
UIDs are given out once, and what the reconciles did is remembered with the UID of the instance
they were for.
-/

namespace VWorkspace

open Kit Prog

def validateModeTransition (oldApp newApp : ManagedInstance) : Except GoError Unit :=
  if oldApp.spec.isPlaceholder || !newApp.spec.isPlaceholder then .ok ()
  else if oldApp.status.helmReleaseRef = none ∧ newApp.status.helmReleaseRef = none ∧
      oldApp.spec.chart = none ∧ oldApp.spec.release = none then .ok ()
  else .error
    { msg := "cannot switch a managed instance that owns (or may own) a Helm release to " ++
        "placeholder mode; delete and recreate as a placeholder instead" }

def validateInlineValues (values : ValuesSpec) : Except GoError Unit :=
  match values.source with
  | .inline =>
      match values.inline with
      | none => .error { msg := "spec.values.inline is required when source is inline" }
      | some raw => detectInlineSecret raw
  | .secretRef =>
      if refComplete values.secretRef then .ok ()
      else .error
        { msg := "spec.values.secretRef name and key are required when source is secretRef" }
  | .configMapRef =>
      if refComplete values.configMapRef then .ok ()
      else .error
        { msg := "spec.values.configMapRef name and key are required when source is configMapRef" }
  | .unset =>
      .error { msg := "spec.values.source must be inline, secretRef, or configMapRef" }

def validateApplicationInstance (app : ManagedInstance) : Except GoError Unit := do
  validateApplicationInstanceSpec app.toApplicationInstance
  if app.spec.isPlaceholder then .ok ()
  else
    match app.spec.values with
    | none => .ok ()
    | some values => validateInlineValues values

def validateCreate (app : ManagedInstance) : Except GoError Unit := validateApplicationInstance app

def validateUpdate (oldApp app : ManagedInstance) : Except GoError Unit := do
  validateModeTransition oldApp app
  validateApplicationInstance app

section webhook

variable {app oldApp : ManagedInstance}

theorem valid_of_validateApplicationInstance (h : validateApplicationInstance app = .ok ()) :
    app.Valid := by
  obtain ⟨u, hspec, -⟩ := exists_of_bind_ok h
  exact hspec

theorem release_of_validateApplicationInstance (h : validateApplicationInstance app = .ok ())
    (hmode : app.spec.isPlaceholder = false) : app.spec.release ≠ none := by
  have hmanaged : app.spec.mode ≠ .placeholder := by
    simpa [ApplicationInstanceSpec.isPlaceholder] using hmode
  obtain ⟨release, values, hrelease, -⟩ := of_validateReleaseAndValues
    (of_validateApplicationInstanceSpec (valid_of_validateApplicationInstance h) hmanaged).1
  simp [hrelease]

theorem of_validateUpdate (h : validateUpdate oldApp app = .ok ()) :
    validateModeTransition oldApp app = .ok () ∧ validateApplicationInstance app = .ok () := by
  obtain ⟨u, hmode, hvalid⟩ := exists_of_bind_ok h
  exact ⟨hmode, hvalid⟩

theorem isPlaceholder_of_validateModeTransition (h : validateModeTransition oldApp app = .ok ())
    (hrelease : oldApp.spec.isPlaceholder = false → oldApp.spec.release ≠ none)
    (hmode : app.spec.isPlaceholder = true) : oldApp.spec.isPlaceholder = true := by
  by_contra hold
  have hold : oldApp.spec.isPlaceholder = false := by simpa using hold
  unfold validateModeTransition at h
  rw [if_neg (by simp [hold, hmode]), if_neg fun hnone => hrelease hold hnone.2.2.2] at h
  exact absurd h (by simp)

end webhook

/-- A cluster, the UIDs it has given out to instances, and what reconciles did, each event with
the UID of the instance that was reconciled. -/
structure AdmittedWorld where
  cluster : InstanceCluster
  uids : List String := []
  history : List (String × InstanceEvent) := []

inductive AdmittedStep where
  | create (app : ManagedInstance)
  | update (app : ManagedInstance)
  /-- Deletion is requested. -/
  | delete (k : ObjectKey) (t : ℕ)
  /-- The instance leaves the store. -/
  | remove (k : ObjectKey)
  /-- Another party writes the status, which is a subresource the webhook does not see. -/
  | writeStatus (k : ObjectKey) (status : ApplicationInstanceStatus)
  | reconcile (env : InstanceEnv) (k : ObjectKey)
  /-- Others change anything but instances. -/
  | outside (c : InstanceCluster)

namespace AdmittedWorld

def withInstances (w : AdmittedWorld) (instances : Store ManagedInstance) : AdmittedWorld :=
  { w with cluster := { w.cluster with instances } }

/-- The instance under a key is replaced by another version of it. -/
def modify (w : AdmittedWorld) (k : ObjectKey) (f : ManagedInstance → ManagedInstance) :
    AdmittedWorld :=
  match w.cluster.instances.get k with
  | none => w
  | some app => w.withInstances (w.cluster.instances.put (f app))

/-- What a reconcile of the instance under a key did, with its UID. -/
def credited (w : AdmittedWorld) (k : ObjectKey) (trace : List InstanceEvent) :
    List (String × InstanceEvent) :=
  match w.cluster.instances.get k with
  | none => []
  | some app => trace.map (app.metadata.uid, ·)

end AdmittedWorld

/-- What a step leaves.  The API server gives a new instance a UID of its own, and refuses to
change it later. -/
def admittedStep (r : InstanceController) (w : AdmittedWorld) : AdmittedStep → AdmittedWorld
  | .create app =>
      if w.cluster.instances.get app.metadata.key = none ∧ app.metadata.uid ∉ w.uids ∧
          validateCreate app = .ok () then
        { w.withInstances (w.cluster.instances.put app) with
          uids := app.metadata.uid :: w.uids }
      else w
  | .update app =>
      match w.cluster.instances.get app.metadata.key with
      | none => w
      | some oldApp =>
          if app.metadata.uid = oldApp.metadata.uid ∧ validateUpdate oldApp app = .ok () then
            w.withInstances (w.cluster.instances.put app)
          else w
  | .delete k t => w.modify k fun app =>
      { app with metadata := { app.metadata with deletionTimestamp := some t } }
  | .remove k => w.withInstances (w.cluster.instances.erase k)
  | .writeStatus k status => w.modify k fun app => { app with status }
  | .reconcile env k =>
      { w with
        cluster := ((r.reconcile k).run env w.cluster).state
        history := w.history ++ w.credited k ((r.reconcile k).run env w.cluster).trace }
  | .outside c => { w with cluster := { c with instances := w.cluster.instances } }

/-- All instances are those of another cluster, with their UIDs and specs. -/
def Inherits (c c' : InstanceCluster) : Prop :=
  ∀ k app', c'.instances.get k = some app' →
    ∃ app, c.instances.get k = some app ∧ app'.metadata.uid = app.metadata.uid ∧
      app'.spec = app.spec

section inherits

variable {c : InstanceCluster} {w : AdmittedWorld} {k : ObjectKey}

theorem inherits_reconcile (r : InstanceController) (env : InstanceEnv) :
    Inherits c ((r.reconcile k).run env c).state := by
  intro k' app' happ'
  obtain ⟨app, happ, hevolved⟩ := (r.moves_reconcile env c k).get happ'
  exact ⟨app, happ, hevolved.uid, hevolved.spec⟩

theorem inherits_erase : Inherits c { c with instances := c.instances.erase k } := by
  intro k' app' happ'
  have hne : k' ≠ k := by
    rintro rfl
    exact absurd (happ'.symm.trans (Store.get_erase_self _ _)) (by simp)
  exact ⟨app', (Store.get_erase_of_ne hne).symm.trans happ', rfl, rfl⟩

theorem AdmittedWorld.inherits_modify {f : ManagedInstance → ManagedInstance}
    (hkey : ∀ app, (f app).metadata.key = app.metadata.key)
    (huid : ∀ app, (f app).metadata.uid = app.metadata.uid)
    (hspec : ∀ app, (f app).spec = app.spec) :
    Inherits w.cluster (w.modify k f).cluster := by
  intro k' app' happ'
  unfold modify at happ'
  split at happ'
  · exact ⟨app', happ', rfl, rfl⟩
  · next app happ =>
    rcases Store.of_get_put happ' with ⟨rfl, hk⟩ | happ'
    · have hsame : k = k' := ((Store.key_of_get happ).symm.trans (hkey app).symm).trans hk
      exact ⟨app, hsame ▸ happ, huid app, hspec app⟩
    · exact ⟨app', happ', rfl, rfl⟩

end inherits

namespace AdmittedWorld

theorem uids_modify (w : AdmittedWorld) (k : ObjectKey) (f : ManagedInstance → ManagedInstance) :
    (w.modify k f).uids = w.uids := by
  unfold modify
  split <;> rfl

theorem history_modify (w : AdmittedWorld) (k : ObjectKey)
    (f : ManagedInstance → ManagedInstance) : (w.modify k f).history = w.history := by
  unfold modify
  split <;> rfl

theorem mem_credited {w : AdmittedWorld} {k : ObjectKey} {trace : List InstanceEvent} {u : String}
    {e : InstanceEvent} (h : (u, e) ∈ w.credited k trace) :
    ∃ app, w.cluster.instances.get k = some app ∧ app.metadata.uid = u ∧ e ∈ trace := by
  unfold credited at h
  split at h
  · exact absurd h List.not_mem_nil
  · next app happ =>
    obtain ⟨e', he', heq⟩ := List.mem_map.mp h
    obtain ⟨rfl, rfl⟩ := Prod.mk.inj heq
    exact ⟨app, happ, rfl, he'⟩

/-- UIDs are unique, and managed instances have releases. -/
structure WellFormed (w : AdmittedWorld) : Prop where
  issued : ∀ k app, w.cluster.instances.get k = some app → app.metadata.uid ∈ w.uids
  distinct : ∀ k k' app app', w.cluster.instances.get k = some app →
    w.cluster.instances.get k' = some app' → app.metadata.uid = app'.metadata.uid → k = k'
  released : ∀ k app, w.cluster.instances.get k = some app →
    app.spec.isPlaceholder = false → app.spec.release ≠ none
  attributed : ∀ u e, (u, e) ∈ w.history → u ∈ w.uids

namespace WellFormed

variable {w w' : AdmittedWorld}

theorem start (c : InstanceCluster) (h : c.instances = Store.empty) :
    WellFormed { cluster := c } := by
  have hnone : ∀ k, c.instances.get k = none := fun k => by rw [h]; rfl
  refine ⟨fun k app happ => ?_, fun k k' app app' happ => ?_, fun k app happ => ?_,
    fun u e he => absurd he List.not_mem_nil⟩
  all_goals exact absurd (happ.symm.trans (hnone k)) (by simp)

theorem inherit (h : WellFormed w) (hinherits : Inherits w.cluster w'.cluster)
    (huids : w'.uids = w.uids) (hhistory : ∀ u e, (u, e) ∈ w'.history → u ∈ w.uids) :
    WellFormed w' where
  issued k app' happ' := by
    obtain ⟨app, happ, huid, -⟩ := hinherits k app' happ'
    rw [huids, huid]
    exact h.issued k app happ
  distinct k k' a' b' ha' hb' heq := by
    obtain ⟨a, ha, hauid, -⟩ := hinherits k a' ha'
    obtain ⟨b, hb, hbuid, -⟩ := hinherits k' b' hb'
    exact h.distinct k k' a b ha hb (hauid.symm.trans (heq.trans hbuid))
  released k app' happ' hmode := by
    obtain ⟨app, happ, -, hspec⟩ := hinherits k app' happ'
    rw [hspec] at hmode ⊢
    exact h.released k app happ hmode
  attributed u e he := huids ▸ hhistory u e he

theorem create (h : WellFormed w) {app : ManagedInstance} (huid : app.metadata.uid ∉ w.uids)
    (hvalid : validateCreate app = .ok ()) :
    WellFormed { w.withInstances (w.cluster.instances.put app) with
      uids := app.metadata.uid :: w.uids } where
  issued k app' happ' := by
    rcases Store.of_get_put happ' with ⟨rfl, -⟩ | happ'
    · exact List.mem_cons_self
    · exact List.mem_cons_of_mem _ (h.issued k app' happ')
  distinct k k' a b ha hb heq := by
    rcases Store.of_get_put ha with ⟨rfl, hk⟩ | hold <;>
      rcases Store.of_get_put hb with ⟨hb', hk'⟩ | hold'
    · exact hk.symm.trans (hb' ▸ hk')
    · exact absurd (heq ▸ h.issued k' b hold') huid
    · exact absurd (hb' ▸ heq ▸ h.issued k a hold) huid
    · exact h.distinct k k' a b hold hold' heq
  released k app' happ' hmode := by
    rcases Store.of_get_put happ' with ⟨rfl, -⟩ | happ'
    · exact release_of_validateApplicationInstance hvalid hmode
    · exact h.released k app' happ' hmode
  attributed u e he := List.mem_cons_of_mem _ (h.attributed u e he)

theorem update (h : WellFormed w) {oldApp app : ManagedInstance}
    (hold : w.cluster.instances.get app.metadata.key = some oldApp)
    (huid : app.metadata.uid = oldApp.metadata.uid) (hvalid : validateUpdate oldApp app = .ok ()) :
    WellFormed (w.withInstances (w.cluster.instances.put app)) := by
  have hbefore : ∀ k app', (w.cluster.instances.put app).get k = some app' →
      ∃ before, w.cluster.instances.get k = some before ∧
        app'.metadata.uid = before.metadata.uid := by
    intro k app' happ'
    rcases Store.of_get_put happ' with ⟨rfl, hk⟩ | happ'
    · exact ⟨oldApp, hk ▸ hold, huid⟩
    · exact ⟨app', happ', rfl⟩
  refine ⟨fun k app' happ' => ?_, fun k k' a b ha hb heq => ?_, fun k app' happ' hmode => ?_,
    h.attributed⟩
  · obtain ⟨before, hget, huid'⟩ := hbefore k app' happ'
    rw [huid']
    exact h.issued k before hget
  · obtain ⟨a', ha', hauid⟩ := hbefore k a ha
    obtain ⟨b', hb', hbuid⟩ := hbefore k' b hb
    exact h.distinct k k' a' b' ha' hb' (hauid.symm.trans (heq.trans hbuid))
  · rcases Store.of_get_put happ' with ⟨rfl, -⟩ | happ'
    · exact release_of_validateApplicationInstance (of_validateUpdate hvalid).2 hmode
    · exact h.released k app' happ' hmode

theorem step (r : InstanceController) (h : WellFormed w) (a : AdmittedStep) :
    WellFormed (admittedStep r w a) := by
  cases a with
  | create app =>
    simp only [admittedStep]
    split
    · next hadmitted => exact h.create hadmitted.2.1 hadmitted.2.2
    · exact h
  | update app =>
    simp only [admittedStep]
    split
    · exact h
    · next oldApp hold =>
      split
      · next hadmitted => exact h.update hold hadmitted.1 hadmitted.2
      · exact h
  | delete k t =>
    exact h.inherit (inherits_modify (fun _ => rfl) (fun _ => rfl) fun _ => rfl)
      (uids_modify _ _ _) (by rw [admittedStep, history_modify]; exact h.attributed)
  | remove k => exact h.inherit inherits_erase rfl h.attributed
  | writeStatus k status =>
    exact h.inherit (inherits_modify (fun _ => rfl) (fun _ => rfl) fun _ => rfl)
      (uids_modify _ _ _) (by rw [admittedStep, history_modify]; exact h.attributed)
  | reconcile env k =>
    refine h.inherit (inherits_reconcile r env) rfl fun u e he => ?_
    rcases List.mem_append.mp he with he | he
    · exact h.attributed u e he
    · obtain ⟨app, happ, rfl, -⟩ := mem_credited he
      exact h.issued k app happ
  | outside c => exact h.inherit (fun k app' happ' => ⟨app', happ', rfl, rfl⟩) rfl h.attributed

end WellFormed

end AdmittedWorld

end VWorkspace
