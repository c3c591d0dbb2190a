import VWorkspaceOperator.Engines.Repeat
import VWorkspaceOperator.Engines.Workload

/-!
# Where a workload is put

A call of `Materialize`, with or without API failures, writes at most one
workload, and `Placed` says which: one with the label of the operation, at a place
that the name of the operation and the namespace of the target determine; or a
release, whose metadata stay as they are.
-/

namespace VWorkspace

open Kit Prog EngineM

/-- Where an engine puts the workload of an operation, for a target with
workloads in the namespace `ns`. -/
def workloadPlace (veleroNs : String) (name : OperationEngine) (op : Operation) (ns : String) :
    Option Kind × ObjectKey :=
  match name with
  | .workflow => (some .workflow, ⟨ns, materializedName op⟩)
  | .velero => (some (veleroKind op), veleroKey veleroNs op)
  | _ => (none, ⟨ns, materializedName op⟩)

/-- What may be there after an engine has materialized an operation. -/
inductive Placed (veleroNs : String) (name : OperationEngine) (op : Operation) (ns : String)
    (w : Workloads) : Workloads → Prop
  /-- Nothing was written. -/
  | unchanged : Placed veleroNs name op ns w w
  /-- A workload of the operation was written at its place, a new one unless the
  engine is Velero. -/
  | own (x : Workload) (hplace : x.place = workloadPlace veleroNs name op ns)
      (hown : x.ownedBy op = true)
      (hnew : supportsEngineRef name = true → ∀ y ∈ w, y.place ≠ x.place) :
      Placed veleroNs name op ns w (w.put x)
  /-- A release was patched. -/
  | patched (x y : Workload) (hname : name = .helm) (hy : y ∈ w) (hplace : x.place = y.place)
      (hmeta : x.metadata = y.metadata) : Placed veleroNs name op ns w (w.put x)

section calls

variable {env : EngineEnv} {w : Workloads} {S : Workloads → Prop}

theorem result_read {α : Type} {s : Site} {read : Workloads → α} {a : α}
    (h : ((do call s; let w ← Prog.get; pure (read w) : EngineM α).run env w).result = .ok a) :
    a = read w := by
  have hread := (triple_read (P := fun _ => True) (E := fun _ => True) s read w trivial).2 a h
  rw [hread.2, (idle_read s read env w).1]

theorem state_readThen {α : Type} (s : Site) {f : Workloads → EngineM α} (hs : S w)
    (hf : S ((f w).run env w).state) :
    S ((do call s; let w ← Prog.get; f w : EngineM α).run env w).state := by
  cases hfault : env.fault s with
  | none => simpa only [run_bind, call, hfault, run_get]
  | some msg => simpa only [run_bind, call, hfault]

theorem state_createJob (s : Site) {job : Job} (hs : S w)
    (hput : w.jobs.get job.metadata.key = none → S { w with jobs := w.jobs.put job }) :
    S ((createJob s job).run env w).state := by
  refine state_readThen s hs ?_
  split
  · exact hs
  · next h => exact hput (by simpa using h)

theorem state_createObject (s : Site) {kind : Kind} {o : Unstructured} (hs : S w)
    (hput : (w.objects kind).get o.metadata.key = none →
      S (w.setObjects kind ((w.objects kind).put o))) :
    S ((createObject s kind o).run env w).state := by
  refine state_readThen s hs ?_
  split
  · exact hs
  · next h => exact hput (by simpa using h)

theorem state_updateObject (s : Site) {kind : Kind} {o : Unstructured} (hs : S w)
    (hput : S (w.setObjects kind ((w.objects kind).put o))) :
    S ((updateObject s kind o).run env w).state := by
  refine state_readThen s hs ?_
  split
  · exact hput
  · exact hs

theorem state_ofExcept_bind {α β : Type} {x : Except GoError α} {f : α → EngineM β} (hs : S w)
    (hf : ∀ a, x = .ok a → S ((f a).run env w).state) :
    S ((Prog.ofExcept x >>= f).run env w).state := by
  cases x with
  | error e => exact hs
  | ok a => exact hf a rfl

theorem state_createOrUpdate {kind : Kind} {k : ObjectKey}
    {mutate : Unstructured → Except GoError Unstructured} (hs : S w)
    (hput : ∀ o', mutate (mutated w kind k) = .ok o' →
      S (w.setObjects kind ((w.objects kind).put o'))) :
    S ((createOrUpdate kind k mutate).run env w).state := by
  refine (idle_getObject _ kind k).state_bind hs fun found hfound => ?_
  obtain rfl := result_read hfound
  unfold mutated at hput
  cases hget : (w.objects kind).get k with
  | none =>
    rw [hget] at hput
    exact state_ofExcept_bind hs fun o' ho' => state_createObject _ hs fun _ => hput o' ho'
  | some o =>
    rw [hget] at hput
    refine state_ofExcept_bind hs fun o' ho' => ?_
    split
    · exact hs
    · exact state_updateObject _ hs (hput o' ho')

end calls

section materialize

variable {veleroNs : String} {op : Operation} {ns : String} {env : EngineEnv} {w : Workloads}

theorem placed_createMaterializedJob {name : OperationEngine} {job : Job}
    (hplace : workloadPlace veleroNs name op ns = (none, ⟨ns, materializedName op⟩))
    (hns : job.metadata.ns = ns)
    (hlabels : job.metadata.labels.lookup operationLabelKey = some op.metadata.uid) :
    Placed veleroNs name op ns w ((createMaterializedJob op job ns).run env w).state := by
  refine (idle_getJob _ _).mapError.state_bind .unchanged fun found _ => ?_
  cases found with
  | some existing => exact .unchanged
  | none =>
    refine state_createJob _ .unchanged fun hnone => ?_
    refine .own (.job (materializedJob op job ns)) ?_ ?_ fun _ y hy he => ?_
    · simp [Workload.place, hplace, materializedJob, ObjectMeta.key, hns]
    · simpa [Workload.ownedBy, labelled, Workload.metadata, materializedJob] using hlabels
    · cases y with
      | job j => exact Store.get_eq_none_iff.mp hnone j hy (congrArg Prod.snd he)
      | object kind o => exact absurd (congrArg Prod.fst he) (by simp [Workload.place])

theorem placed_createMaterializedWorkflow (params : WorkflowParameters) :
    Placed veleroNs .workflow op ns w
      ((createMaterializedWorkflow op ns params).run env w).state := by
  refine (idle_getObject _ _ _).mapError.state_bind .unchanged fun found _ => ?_
  cases found with
  | some existing => exact .unchanged
  | none =>
    refine state_ofExcept_bind .unchanged fun body _ => ?_
    refine state_createObject _ .unchanged fun hnone => ?_
    refine .own (.object .workflow (materializedWorkflow op ns body)) ?_ ?_ fun _ y hy he => ?_
    · simp [Workload.place, workloadPlace, key_materializedWorkflow]
    · simp [Workload.ownedBy, labelled, Workload.metadata, materializedWorkflow]
    · cases y with
      | job j => exact absurd (congrArg Prod.fst he) (by simp [Workload.place])
      | object kind o =>
        obtain rfl : kind = .workflow := Option.some.inj (congrArg Prod.fst he)
        exact Store.get_eq_none_iff.mp hnone o hy (congrArg Prod.snd he)

theorem placed_velero {kind : Kind} (hkind : veleroKind op = kind)
    {mutate : Unstructured → Except GoError Unstructured}
    (hmutate : ∀ o o', mutate o = .ok o' → o'.metadata = veleroMeta op o.metadata) :
    Placed veleroNs .velero op ns w
      ((createOrUpdate kind (veleroKey veleroNs op) mutate).run env w).state := by
  refine state_createOrUpdate .unchanged fun o' ho' => ?_
  have hmeta := hmutate _ _ ho'
  refine .own (.object kind o') ?_ ?_ fun h => absurd h (by decide)
  · simp [Workload.place, workloadPlace, hmeta, key_mutated, hkind]
  · simp [Workload.ownedBy, labelled, Workload.metadata, hmeta]

theorem placed_upgradeRelease (params : HelmParameters) (k : ObjectKey) :
    Placed veleroNs .helm op ns w ((upgradeRelease params k).run env w).state := by
  refine (idle_getObject _ _ _).mapError.state_bind .unchanged fun found hfound => ?_
  obtain rfl := result_read (result_of_mapError hfound)
  cases hget : (w.objects .helmRelease).get k with
  | none => exact .unchanged
  | some o =>
    refine state_createOrUpdate .unchanged fun o' ho' => ?_
    rw [mutated, hget, Option.getD_some] at ho'
    have hmeta := (of_patchHelmRelease ho').2.2
    exact .patched (.object .helmRelease o') (.object .helmRelease o) rfl (Store.mem_of_get hget)
      (by simp [Workload.place, hmeta]) hmeta

theorem placed_materialize {engine : Engine} (h : engine ∈ (builtinRegistry veleroNs).engines)
    (op : Operation) (target : ApplicationInstance) (env : EngineEnv) (w : Workloads) :
    Placed veleroNs engine.name op (targetNamespace target) w
      ((engine.materialize op target).run env w).state := by
  simp only [builtinRegistry, List.mem_cons, List.not_mem_nil, or_false] at h
  rcases h with rfl | rfl | rfl | rfl | rfl
  · refine state_ofExcept_bind .unchanged fun params _ => ?_
    split
    · exact .unchanged
    · exact placed_upgradeRelease _ _
  · refine state_ofExcept_bind .unchanged fun params _ => ?_
    split
    · next htype => exact placed_velero (by simp [veleroKind, htype]) fun _ _ h => (of_mutateBackup h).1
    · next htype =>
      unfold materializeRestore
      split
      · exact .unchanged
      · exact placed_velero (by simp [veleroKind, htype]) fun _ _ h => metadata_of_mutateRestore h
    · exact .unchanged
  · refine state_ofExcept_bind .unchanged fun params _ => ?_
    split
    · exact .unchanged
    · exact placed_createMaterializedJob rfl rfl (lookup_applyOperationLabels _ _)
  · refine state_ofExcept_bind .unchanged fun params _ => ?_
    split
    · exact .unchanged
    · exact placed_createMaterializedWorkflow params
  · refine state_ofExcept_bind .unchanged fun params _ => ?_
    split
    · exact .unchanged
    · split
      · exact .unchanged
      · exact placed_createMaterializedJob rfl rfl (lookup_applyOperationLabels _ _)

end materialize

theorem mem_of_mem_apply {e : WorkloadEvent} (he : e.isDeletion = true) {w : Workloads}
    {x : Workload} (h : x ∈ e.apply w) : x ∈ w := by
  cases e with
  | jobDeleted k _ =>
    cases x with
    | job j => exact (Store.mem_erase.mp h).1
    | object kind o => exact h
  | deleted kind k =>
    cases x with
    | job j => exact h
    | object kind' o =>
      by_cases hk : kind' = kind
      · subst hk
        rw [object_mem, WorkloadEvent.apply, Workloads.objects_setObjects_self] at h
        exact (Store.mem_erase.mp h).1
      · rwa [object_mem, WorkloadEvent.apply, Workloads.objects_setObjects_of_ne w _ hk] at h
  | _ => exact absurd he (by simp [WorkloadEvent.isDeletion])

theorem mem_of_cancel {veleroNs : String} {name : OperationEngine} {engine : Engine}
    (hengine : (builtinRegistry veleroNs).get name = some engine) {op : Operation}
    {env : EngineEnv} {w : Workloads} {x : Workload}
    (h : x ∈ ((engine.cancel op).run env w).state) : x ∈ w := by
  have hlogged : ((engine.cancel op).run env w).state =
      replay WorkloadEvent.apply ((engine.cancel op).run env w).trace w :=
    (cancel_builtin hengine op).logged env w
  rw [hlogged] at h
  refine replay_invariant (I := fun w' => ∀ y ∈ w', y ∈ w) (fun e he w' hw' y hy => ?_)
    (fun _ hy => hy) x h
  have hdel := ((cancel_builtin hengine op).only env w trivial).1 e he
  exact hw' y (mem_of_mem_apply hdel hy)

end VWorkspace
