import VWorkspaceOperator.Engines.Effects

/-!
# The workloads of an operation

Jobs, workflows and Velero objects under one type, and the label that says which
of them belong to an operation.  The specifications of the calls that read and
delete workloads are stated here, with the state after each call as a function of
the state before it.
-/

namespace VWorkspace

open Kit Prog EngineM

inductive Workload where
  | job (j : Job)
  | object (kind : Kind) (o : Unstructured)
  deriving DecidableEq, Repr

def Workload.metadata : Workload → ObjectMeta
  | .job j => j.metadata
  | .object _ o => o.metadata

/-- The label that marks the workloads of an operation carries its UID. -/
def labelled (op : Operation) (m : ObjectMeta) : Bool :=
  m.labels.lookup operationLabelKey = some op.metadata.uid

def Workload.ownedBy (op : Operation) (x : Workload) : Bool := labelled op x.metadata

def Workloads.jobList (w : Workloads) : List Workload := w.jobs.items.map .job

def Workloads.objectList (w : Workloads) (kind : Kind) : List Workload :=
  (w.objects kind).items.map (.object kind)

def Workloads.ofEngine (w : Workloads) : OperationEngine → List Workload
  | .job | .helmHookJob => w.jobList
  | .workflow => w.objectList .workflow
  | .velero => w.objectList .backup ++ w.objectList .restore
  | .helm => w.objectList .helmRelease
  | _ => []

instance : Membership Workload Workloads where
  mem w x := match x with
    | .job j => j ∈ w.jobs.items
    | .object kind o => o ∈ (w.objects kind).items

/-- Where a workload is filed: its kind, none for a job, and its key. -/
def Workload.place : Workload → Option Kind × ObjectKey
  | .job j => (none, j.metadata.key)
  | .object kind o => (some kind, o.metadata.key)

def Workloads.put (w : Workloads) : Workload → Workloads
  | .job j => { w with jobs := w.jobs.put j }
  | .object kind o => w.setObjects kind ((w.objects kind).put o)

section members

variable {w : Workloads} {x y : Workload} {j : Job} {kind : Kind} {o : Unstructured}

theorem job_mem : Workload.job j ∈ w ↔ j ∈ w.jobs.items := Iff.rfl

theorem object_mem : Workload.object kind o ∈ w ↔ o ∈ (w.objects kind).items := Iff.rfl

theorem workload_eq_of_place (hx : x ∈ w) (hy : y ∈ w) (h : x.place = y.place) : x = y := by
  cases x with
  | job i =>
    cases y with
    | job j => exact congrArg _ (Store.eq_of_mem hx hy (congrArg Prod.snd h))
    | object kind o => exact absurd (congrArg Prod.fst h) (by simp [Workload.place])
  | object kind o =>
    cases y with
    | job j => exact absurd (congrArg Prod.fst h) (by simp [Workload.place])
    | object kind' o' =>
      obtain rfl : kind = kind' := Option.some.inj (congrArg Prod.fst h)
      exact congrArg _ (Store.eq_of_mem hx hy (congrArg Prod.snd h))

theorem mem_put_workload : y ∈ w.put x ↔ y = x ∨ (y ∈ w ∧ y.place ≠ x.place) := by
  cases x with
  | job i =>
    cases y with
    | job j =>
      have hplace : (Workload.job j).place ≠ (Workload.job i).place ↔
          j.metadata.key ≠ i.metadata.key := by simp [Workload.place]
      rw [job_mem, job_mem, Workload.job.injEq, hplace]
      exact Store.mem_put
    | object kind o => simp [Workload.place, Workloads.put, object_mem]
  | object kind o =>
    cases y with
    | job j => simp [Workload.place, Workloads.put, job_mem]
    | object kind' o' =>
      rw [object_mem, object_mem, Workloads.put]
      by_cases hk : kind' = kind
      · subst hk
        have hplace : (Workload.object kind' o').place ≠ (Workload.object kind' o).place ↔
            o'.metadata.key ≠ o.metadata.key := by simp [Workload.place]
        rw [Workloads.objects_setObjects_self, Workload.object.injEq, eq_self, true_and, hplace]
        exact Store.mem_put
      · rw [Workloads.objects_setObjects_of_ne w _ hk]
        simp [Workload.place, hk]

end members

def engineLocation (instances : Store ApplicationInstance) (op : Operation) : Option ObjectKey :=
  match op.status.engineRef.filter fun ref => ref.ns ≠ "" && ref.name ≠ "" with
  | some ref => some ⟨ref.ns, ref.name⟩
  | none =>
      (instances.get ⟨op.metadata.ns, op.spec.targetRef.name⟩).map fun t =>
        ⟨targetNamespace t, materializedName op⟩

section calls

variable {env : EngineEnv} {P : Workloads → Prop} {E : WorkloadEvent → Prop} {w : Workloads}

theorem triple_getInstance (s : Site) (k : ObjectKey) :
    Triple env P (getInstance s k) E (fun found w => P w ∧ found = env.instances.get k) :=
  .bind (idle_call s).triple fun _ =>
    .bind (.ask (Q := fun env' w => P w ∧ env' = env) fun _ h => ⟨h, rfl⟩) fun _ =>
      .pure fun _ h => ⟨h.1, h.2 ▸ rfl⟩

theorem triple_resolveEngineLocation (op : Operation) :
    Triple env P (resolveEngineLocation op) E
      (fun found w => P w ∧ found = engineLocation env.instances op) := by
  unfold resolveEngineLocation
  simp only
  split
  · next ref href => exact .pure fun _ h => ⟨h, by rw [engineLocation, href]⟩
  · next href =>
    refine .bind (.mapError (triple_getInstance _ _)) fun target => .pure ?_
    rintro _ ⟨hP, rfl⟩
    exact ⟨hP, by rw [engineLocation, href]⟩

theorem triple_deleteJob_eq (s : Site) (k : ObjectKey) (policy : Option DeletionPropagation) :
    Triple env (· = w) (deleteJob s k policy) (fun _ => True)
      (fun _ w' => w' = { w with jobs := w.jobs.erase k }) := by
  refine .bind (idle_call s).triple fun _ =>
    .bind (.get (Q := fun w₁ w₂ => w₁ = w ∧ w₂ = w) fun _ h => ⟨h, h⟩) fun w₁ => ?_
  split
  · exact .write trivial fun _ h => by rw [h.2]
  · next hnone =>
    refine .pure ?_
    rintro _ ⟨rfl, rfl⟩
    rw [Store.erase_of_get_none (by simpa using hnone)]

theorem triple_deleteJobs_eq (i : ℕ) (ks : List ObjectKey) :
    Triple env (· = w) (deleteJobs i ks) (fun _ => True)
      (fun _ w' => w' = { w with jobs := w.jobs.eraseAll ks }) := by
  induction ks generalizing i w with
  | nil => exact .pure fun _ h => h
  | cons k ks ih => exact .bind (.mapError (triple_deleteJob_eq _ k _)) fun _ => ih (i + 1)

theorem triple_deleteObject_eq (s : Site) (kind : Kind) (k : ObjectKey) :
    Triple env (· = w) (deleteObject s kind k) (fun _ => True)
      (fun _ w' => w' = w.setObjects kind ((w.objects kind).erase k)) := by
  refine .bind (idle_call s).triple fun _ =>
    .bind (.get (Q := fun w₁ w₂ => w₁ = w ∧ w₂ = w) fun _ h => ⟨h, h⟩) fun w₁ => ?_
  split
  · exact .write trivial fun _ h => by rw [h.2]
  · next hnone =>
    refine .pure ?_
    rintro _ ⟨rfl, rfl⟩
    rw [Store.erase_of_get_none (by simpa using hnone), Workloads.setObjects_self]

theorem triple_deleteObjects_eq (kind : Kind) (what : String) (i : ℕ) (ks : List ObjectKey) :
    Triple env (· = w) (deleteObjects kind what i ks) (fun _ => True)
      (fun _ w' => w' = w.setObjects kind ((w.objects kind).eraseAll ks)) := by
  induction ks generalizing i w with
  | nil => exact .pure fun _ h => h.trans (Workloads.setObjects_self w kind).symm
  | cons k ks ih =>
    refine .bind (.mapError (triple_deleteObject_eq _ kind k)) fun _ =>
      (ih (i + 1)).post ?_
    rintro _ _ rfl
    rw [Workloads.setObjects_setObjects, Workloads.objects_setObjects_self, Store.eraseAll_cons]

theorem triple_deleteJobsLabeledByOperation (op : Operation) :
    Triple env (· = w) (deleteJobsLabeledByOperation op) (fun _ => True)
      (fun _ w' => w' = { w with jobs := w.jobs.filter fun j => !labelled op j.metadata }) := by
  refine .bind (.mapError (triple_read .cancelList _)) fun jobs => ?_
  rintro _ ⟨rfl, rfl⟩
  rw [← Store.eraseAll_keys_filter]
  exact triple_deleteJobs_eq 0 _ _ rfl

theorem triple_deleteObjectsLabeledByOperation (kind : Kind) (what : String) (op : Operation) :
    Triple env (· = w) (deleteObjectsLabeledByOperation kind what op) (fun _ => True)
      (fun _ w' => w' = w.setObjects kind
        ((w.objects kind).filter fun o => !labelled op o.metadata)) := by
  refine .bind (.mapError (triple_read .cancelList _)) fun objs => ?_
  rintro _ ⟨rfl, rfl⟩
  rw [← Store.eraseAll_keys_filter]
  exact triple_deleteObjects_eq kind what 0 _ _ rfl

end calls

end VWorkspace
