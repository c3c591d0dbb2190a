import VWorkspaceOperator.Instance.Licences

/-!
# Runs in which no call fails

What the programs of the instance controller come to where every call to the API succeeds: they
return, and what they were to annotate is annotated.
-/

namespace VWorkspace

open Kit Prog InstanceM

variable {Q : Unit → InstanceCluster → Prop} {s : InstanceSite} {app : ManagedInstance}

def InstanceEnv.Faultless (env : InstanceEnv) : Prop := ∀ s, env.fault s = none

def Annotated (k : ObjectKey) (name value : String) (c : InstanceCluster) : Prop :=
  ∃ app, c.instances.get k = some app ∧ app.metadata.annotations.lookup name = some value

section faultless

variable {env : InstanceEnv} (henv : env.Faultless) {c : InstanceCluster} {k : ObjectKey}
  {stored : ManagedInstance} {α : Type} {event : ℕ}

theorem returns_now {Q : ℕ → InstanceCluster → Prop} (h : Q env.now c) :
    Returns env c InstanceM.now Q := ⟨_, rfl, h⟩

theorem returns_remembered {Q : OperatorMemory → InstanceCluster → Prop} (h : Q c.memory c) :
    Returns env c remembered Q := ⟨_, rfl, h⟩

theorem returns_onDelivery {f : StorageDelivery → StorageDelivery}
    (h : Q () (c.withMemory fun m => { m with delivery := f m.delivery })) :
    Returns env c (onDelivery f) Q := ⟨_, rfl, h⟩

include henv

theorem returns_call (h : Q () c) : Returns env c (call s) Q := by
  refine ⟨(), ?_, ?_⟩
  · simp only [call, henv s]
  · simp only [call, henv s]
    exact h

theorem returns_read {f : InstanceCluster → α} {Q : α → InstanceCluster → Prop} (h : Q (f c) c) :
    Returns env c (InstanceM.read s f) Q := by
  exact .seq (returns_call henv (.seq (.get (.pure h))))

theorem returns_updateStatus (hget : c.instances.get app.metadata.key = some stored)
    (h : Q () { c with instances := c.instances.put { stored with status := app.status } }) :
    Returns env c (updateStatus s app) Q := by
  refine .seq (returns_call henv (.seq (.get ?_)))
  rw [hget]
  exact .write h

theorem returns_updateMetadata (hget : c.instances.get app.metadata.key = some stored)
    (hfinalizers : ∀ f ∈ app.metadata.finalizers, f ∈ stored.metadata.finalizers)
    (hput : Q () { c with instances := c.instances.put (updated app stored) })
    (herase : app.metadata.finalizers = [] →
      Q () { c with instances := c.instances.erase app.metadata.key }) :
    Returns env c (updateMetadata s app) Q := by
  refine .seq (returns_call henv (.seq (.ask (.seq (.get ?_)))))
  rw [hget]
  simp only
  split
  · next err hrefused => exact absurd hrefused (answerUpdate_ne_refused hfinalizers err)
  · next hanswer => exact .write (herase (of_answerUpdate_removed hanswer).2)
  · exact .write hput

omit henv in
theorem returns_reportConditions {prev : List Condition}
    (h : Q () (c.withMemory fun m => m.reportConditionTransitions env.now (instanceRef app) prev
      app.status.conditions)) : Returns env c (InstanceM.reportConditions app prev) Q := by
  exact .seq (returns_now (.write h))

/-- An object that is deleted is gone, and nothing else is. -/
structure Gone (kind : OwnedKind) (k : ObjectKey) (c c' : InstanceCluster) : Prop where
  apart : c'.withoutObjects = c.withoutObjects
  gone : (c'.objects kind).get k = none
  others : ∀ kind' k', kind' ≠ kind ∨ k' ≠ k → (c'.objects kind').get k' = (c.objects kind').get k'

theorem returns_deleteObject (kind : OwnedKind) (k : ObjectKey) :
    Returns env c (deleteObject kind k) fun _ => Gone kind k c := by
  refine .seq (returns_call henv (.seq (.get ?_)))
  split
  · refine .write ⟨InstanceCluster.withoutObjects_setObjects, ?_, fun kind' k' hne => ?_⟩
    · rw [InstanceCluster.objects_setObjects_self, Store.get_erase_self]
    · by_cases hkind : kind' = kind
      · subst hkind
        rw [InstanceCluster.objects_setObjects_self,
          Store.get_erase_of_ne (hne.resolve_left (not_not.mpr rfl))]
      · rw [InstanceCluster.objects_setObjects_of_ne hkind]
  · next hnone =>
    refine .pure ⟨rfl, ?_, fun _ _ _ => rfl⟩
    simpa using hnone

theorem returns_getForPatch (hget : c.instances.get k = some stored) {s : PatchSite}
    {Q : ManagedInstance → InstanceCluster → Prop} (h : Q stored c) :
    Returns env c (getForPatch event s k) Q := by
  refine .seq (.mapError (returns_read henv ?_))
  rw [hget]
  exact .pure h

theorem returns_patchAnnotations (hget : c.instances.get k = some stored) {s : PatchSite}
    {f : List (String × String) → List (String × String)}
    {Q : ManagedInstance → InstanceCluster → Prop}
    (h : Q (stored.annotate f) { c with instances := c.instances.put (stored.annotate f) }) :
    Returns env c (patchAnnotations event s k f) Q := by
  unfold Returns
  rw [run_patchAnnotations, henv, hget]
  exact ⟨_, rfl, h⟩

omit henv in
theorem annotated_of_put {f : List (String × String) → List (String × String)}
    {name value : String} (hget : c.instances.get k = some stored)
    (h : (f stored.metadata.annotations).lookup name = some value) :
    Annotated k name value
      { c with instances := c.instances.put (stored.annotate f) } := by
  have hstored : stored.metadata.key = k := Store.key_of_get hget
  have hkey : Keyed.key (stored.annotate f) = k := hstored
  exact ⟨_, hkey ▸ Store.get_put_self c.instances (stored.annotate f), h⟩

theorem returns_ensureAnnotation (hget : c.instances.get k = some stored) {s : PatchSite}
    {name value : String} (hvalue : value ≠ "") :
    Returns env c ( ensureAnnotation event s k name value)
      fun _ => Annotated k name value := by
  refine .seq (returns_getForPatch henv hget ?_)
  split
  · next h => exact .pure ⟨stored, hget, stored.lookup_of_annotation h hvalue⟩
  · refine .seq (.mapError (returns_patchAnnotations henv hget (.pure ?_)))
    exact annotated_of_put hget (lookup_setField_self _ _ _)

omit henv in
theorem lookup_acknowledgedAs (key : String) (a : List (String × String)) :
    (acknowledgedAs key a).lookup reportedManagedStorageAccessKeyAnnotation = some key := by
  rw [acknowledgedAs, lookup_unsetField_of_ne (by decide), lookup_unsetField_of_ne (by decide),
    lookup_setField_self]

theorem returns_patchManagedStorageAck (hget : c.instances.get k = some stored) {key : String}
    (hkey : key ≠ "") :
    Returns env c (patchManagedStorageAck event k key)
      fun _ => Annotated k reportedManagedStorageAccessKeyAnnotation key := by
  refine .seq (returns_getForPatch henv hget ?_)
  split
  · next h => exact returns_onDelivery ⟨stored, hget, stored.lookup_of_annotation h hkey⟩
  · refine .seq (.attempt (returns_patchAnnotations henv hget (returns_onDelivery ?_)))
    exact annotated_of_put hget (lookup_acknowledgedAs _ _)

theorem returns_ackManagedStorage {r : InstanceController}
    (hget : c.instances.get k = some stored) {key : String} (hkey : key ≠ "") :
    Returns env c (r.ackManagedStorage event k key)
      fun _ => Annotated k reportedManagedStorageAccessKeyAnnotation key := by
  refine .seq (returns_onDelivery (.seq (.attempt ?_)))
  refine ( returns_ensureAnnotation henv (c := c.withMemory _) hget hkey).mono fun _ c' hannotated => ?_
  obtain ⟨app, happ, -⟩ := hannotated
  refine .seq (.attempt ((returns_patchManagedStorageAck henv happ hkey).mono fun _ c' h => ?_))
  exact .pure h

end faultless

end VWorkspace
