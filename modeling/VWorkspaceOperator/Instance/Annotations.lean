import VWorkspaceOperator.Instance.Licences

/-!
# The delivery of managed storage

What a reconcile does for the delivery of managed storage, after it has written the status:
it annotates the instance and changes what is in memory, and leaves all else alone.
-/

namespace VWorkspace

open Kit Prog InstanceM

def ManagedInstance.bare (app : ManagedInstance) : ManagedInstance := app.annotate fun _ => []

@[simp] theorem ManagedInstance.bare_annotate (app : ManagedInstance)
    (f : List (String × String) → List (String × String)) : (app.annotate f).bare = app.bare := rfl

/-- The clusters differ in annotations and in the memory. -/
structure Noted (c c' : InstanceCluster) : Prop where
  instances : ∀ k, (c'.instances.get k).map ManagedInstance.bare =
    (c.instances.get k).map ManagedInstance.bare
  rest : { c' with instances := c.instances, memory := c.memory } = c

namespace Noted

variable {c c' c'' : InstanceCluster} {k : ObjectKey} {app app' : ManagedInstance}

theorem refl (c : InstanceCluster) : Noted c c := ⟨fun _ => rfl, rfl⟩

theorem trans (h : Noted c c') (h' : Noted c' c'') : Noted c c'' where
  instances k := (h'.instances k).trans (h.instances k)
  rest := (congrArg (fun d : InstanceCluster =>
    { d with instances := c.instances, memory := c.memory }) h'.rest).trans h.rest

theorem withMemory (c : InstanceCluster) (f : OperatorMemory → OperatorMemory) :
    Noted c (c.withMemory f) := ⟨fun _ => rfl, rfl⟩

theorem put {stored : ManagedInstance} (f : List (String × String) → List (String × String))
    (hget : c.instances.get k = some stored) :
    Noted c { c with instances := c.instances.put (stored.annotate f) } := by
  refine ⟨fun k' => ?_, rfl⟩
  have hkey : (stored.annotate f).metadata.key = k := Store.key_of_get hget
  by_cases hk : k' = k
  · have hself : (c.instances.put (stored.annotate f)).get k' = some (stored.annotate f) :=
      hk ▸ hkey ▸ Store.get_put_self c.instances (stored.annotate f)
    rw [hself, hk, hget]
    rfl
  · have hne : k' ≠ (stored.annotate f).metadata.key := fun heq => hk (heq.trans hkey)
    exact congrArg _ (Store.get_put_of_ne hne)

theorem get (h : Noted c c') (happ' : c'.instances.get k = some app') :
    ∃ app, c.instances.get k = some app ∧ app'.bare = app.bare := by
  have hbare := h.instances k
  rw [happ', Option.map_some] at hbare
  obtain ⟨app, happ, heq⟩ := Option.map_eq_some_iff.mp hbare.symm
  exact ⟨app, happ, heq.symm⟩

end Noted

section annotates

variable {α β : Type} {x : InstanceM α}

def Annotates (x : InstanceM α) : Prop :=
  ∀ env c, Noted c (x.run env c).state ∧ ∀ e ∈ (x.run env c).trace, ∃ app, e = .patched app

/-- The program changes annotations of the instance under a key and the memory only. -/
def AnnotatesAt (k : ObjectKey) (x : InstanceM α) : Prop :=
  Annotates x ∧
    ∀ env c k', k' ≠ k → (x.run env c).state.instances.get k' = c.instances.get k'

/-- So does one run of it. -/
structure Annotating (k : ObjectKey) (env : InstanceEnv) (c : InstanceCluster) (x : InstanceM α) :
    Prop where
  noted : Noted c (x.run env c).state
  trace : ∀ e ∈ (x.run env c).trace, ∃ app, e = .patched app
  others : ∀ k', k' ≠ k → (x.run env c).state.instances.get k' = c.instances.get k'

theorem annotating_bind {k : ObjectKey} {env : InstanceEnv} {c : InstanceCluster}
    {f : α → InstanceM β} (hx : Annotating k env c x)
    (hf : ∀ a, (x.run env c).result = .ok a → Annotating k env (x.run env c).state (f a)) :
    Annotating k env c (x >>= f) := by
  cases h : (x.run env c).result with
  | error err =>
    have hrun := run_bind_of_error (f := f) h
    exact ⟨hrun ▸ hx.noted, hrun ▸ hx.trace, hrun ▸ hx.others⟩
  | ok a =>
    have hrun := run_bind_of_ok (f := f) h
    refine ⟨?_, fun e he => ?_, fun k' hk => ?_⟩
    · rw [hrun]
      exact hx.noted.trans (hf a h).noted
    · rw [hrun, Outcome.trace_after] at he
      rcases List.mem_append.mp he with he | he
      · exact hx.trace e he
      · exact (hf a h).trace e he
    · rw [hrun]
      exact ((hf a h).others k' hk).trans (hx.others k' hk)

theorem annotating_withMemory {k : ObjectKey} {env : InstanceEnv} {c : InstanceCluster}
    (f : OperatorMemory → OperatorMemory) :
    Annotating k env c (Prog.modify fun c => c.withMemory f : InstanceM Unit) :=
  ⟨.withMemory c f, fun _ he => absurd he List.not_mem_nil, fun _ _ => rfl⟩

theorem heeds_annotating (L : Licence) (k : ObjectKey) :
    Heeds L k fun _ env c x => Annotating k env c x where
  idle := by
    intro α env c x h
    obtain ⟨hstate, htrace⟩ := h env c
    exact ⟨by rw [hstate]; exact .refl c, by simp [htrace], fun _ _ => by rw [hstate]⟩
  bind := annotating_bind
  mapError h := ⟨h.noted, h.trace, h.others⟩
  attempt h := ⟨h.noted, h.trace, h.others⟩
  patch := by
    intro env c f event s _
    have hrun := run_patchAnnotations event s k f env c
    split at hrun
    · exact ⟨hrun ▸ .refl c, by simp [hrun], fun _ _ => by rw [hrun]⟩
    · exact ⟨hrun ▸ .refl c, by simp [hrun], fun _ _ => by rw [hrun]⟩
    · next stored hfault hget =>
      have hkey : (stored.annotate f).metadata.key = k := Store.key_of_get hget
      refine ⟨hrun ▸ .put f hget, by simp [hrun], fun k' hk => ?_⟩
      rw [hrun]
      exact Store.get_put_of_ne fun heq => hk (heq.trans hkey)
  send _ _ := annotating_withMemory _
  forget _ := annotating_withMemory _
  pend _ := annotating_withMemory _

namespace InstanceController

variable (r : InstanceController) (app : ManagedInstance)

theorem annotating_reconcileSeaweedManagedStorage (env : InstanceEnv) (c : InstanceCluster) :
    Annotating app.metadata.key env c (r.reconcileSeaweedManagedStorage app) := by
  have hwalk := heeds_annotating (.always True) app.metadata.key
  unfold reconcileSeaweedManagedStorage
  split
  · refine hwalk.bind (hwalk.reportEndpoints rfl (fun _ _ => trivial) fun _ _ _ _ => trivial)
      fun _ _ => hwalk.bind (hwalk.attempt (hwalk.idle (idle_resolveManagedStorageState _)))
        fun res _ => ?_
    split
    · exact hwalk.idle (.pure _)
    · exact hwalk.idle (.pure _)
    · exact hwalk.reportFailed rfl fun _ _ _ => trivial
    · exact hwalk.idle (.pure _)
    · refine hwalk.report rfl fun t ready app' _ _ happ' => ?_
      have hkey : app'.metadata.key = app.metadata.key := by
        rcases happ' with rfl | ⟨stored, hstored, rfl⟩
        · rfl
        · exact Store.key_of_get hstored
      exact ⟨hkey, fun _ => trivial, fun _ => trivial, fun _ _ _ _ _ => trivial⟩
  · exact hwalk.idle (.pure _)

theorem annotatesAt_reconcileSeaweedManagedStorage :
    AnnotatesAt app.metadata.key (r.reconcileSeaweedManagedStorage app) := by
  have hrun := r.annotating_reconcileSeaweedManagedStorage app
  exact ⟨fun env c => ⟨(hrun env c).noted, (hrun env c).trace⟩, fun env c => (hrun env c).others⟩

theorem annotates_reconcileSeaweedManagedStorage :
    Annotates (r.reconcileSeaweedManagedStorage app) :=
  (r.annotatesAt_reconcileSeaweedManagedStorage app).1

end InstanceController

end annotates

section others

variable {env : InstanceEnv} {k k' : ObjectKey} {found : Option ManagedInstance}

theorem statusClosedAt_get (hne : k' ≠ k) :
    StatusClosedAt k fun c => c.instances.get k' = found where
  status c stored st hget hc := by
    have hkey : stored.metadata.key = k := Store.key_of_get hget
    exact (Store.get_put_of_ne fun heq => hne (heq.trans hkey)).trans hc
  report _ _ _ _ _ hc := hc

theorem get_of_objects (c c' : InstanceCluster) (h : c'.withoutObjects = c.withoutObjects)
    (hc : c.instances.get k' = found) : c'.instances.get k' = found := by
  have hinstances := congrArg InstanceCluster.instances h
  exact (congrArg (fun s => Store.get s k') hinstances).trans hc

theorem keeps_dropFinalizer_get {app : ManagedInstance} (hne : k' ≠ app.metadata.key) :
    Keeps env (fun c => c.instances.get k' = found) (dropFinalizer app) := by
  refine .bind (.mapError (keeps_updateMetadata _ _ (fun c stored hget hc => ?_) fun c hc => ?_))
    fun _ => .of_idle (.pure _)
  · exact (Store.get_put_of_ne hne).trans hc
  · exact (Store.get_erase_of_ne hne).trans hc

theorem InstanceController.get_reconcile_of_ne (r : InstanceController) (c : InstanceCluster)
    (hne : k' ≠ k) :
    ((r.reconcile k).run env c).state.instances.get k' = c.instances.get k' := by
  refine keeps_reconcile (P := fun c' => c'.instances.get k' = c.instances.get k') rfl ?_ ?_
  · intro app metadata hget hmetadata
    have hkey : metadata.key = k := by
      rw [hmetadata]
      exact Store.key_of_get hget
    exact Store.get_put_of_ne fun heq => hne (heq.trans hkey)
  · intro app hget _
    have hkey : app.metadata.key = k := Store.key_of_get hget
    have hne' : k' ≠ app.metadata.key := fun heq => hne (heq.trans hkey)
    refine state_proceed (statusClosedAt_get hne') (.of_apart get_of_objects) rfl (fun _ hc => hc)
      (fun c' status hc' _ => ?_) (keeps_dropFinalizer_get hne')
    exact ((r.annotatesAt_reconcileSeaweedManagedStorage { app with status }).2 env c' k'
      hne').trans hc'

end others

end VWorkspace
