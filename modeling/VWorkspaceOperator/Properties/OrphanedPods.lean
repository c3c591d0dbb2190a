import VWorkspaceOperator.Engines.Pods
import VWorkspaceOperator.Properties.Cancellation

/-!
# The Pods of a cancelled job

`Cancel` of the job and hook job engines deletes jobs, and none of its delete calls has a
propagation policy.  The API server releases the Pods of such a job, so they go on running.

## Main definitions and results

* `podsAfterCancel`: the Pods when the garbage collector has run after a cancellation.
* `cancel_stops_pods_iff`: when a cancellation stops the Pods of the jobs it deletes.
-/

namespace VWorkspace

open Kit Prog EngineM

/-- The jobs that were there before and are not there after. -/
def deletedJobs (w w' : Workloads) : List Job :=
  w.jobs.items.filter fun job => (w'.jobs.get job.metadata.key).isNone

/-- The jobs a cancellation is going to delete: the one at the place of the operation, or, where
there is none, those that carry its UID. -/
def cancelledJobs (instances : Store ApplicationInstance) (op : Operation) (w : Workloads) :
    List Job :=
  match (engineLocation instances op).bind w.jobs.get with
  | some job => [job]
  | none => w.jobs.items.filter fun job => labelled op job.metadata

/-- What the garbage collector leaves of the Pods after a delete call. -/
def WorkloadEvent.collect (w : Workloads) (pods : Store Pod) : WorkloadEvent → Store Pod
  | .jobDeleted k propagation =>
      collectGarbage (jobPropagation propagation) (w.jobs.get k).toList pods
  | _ => pods

/-- The Pods when the garbage collector has run after a cancellation. -/
def podsAfterCancel (engine : Engine) (env : EngineEnv) (op : Operation) (w : Workloads)
    (pods : Store Pod) : Store Pod :=
  ((engine.cancel op).run env w).trace.foldl (WorkloadEvent.collect w) pods

theorem isSome_get_collect {w : Workloads} {pods : Store Pod} {k : ObjectKey} {e : WorkloadEvent}
    (he : e.isDeletion = true) (h : (pods.get k).isSome = true) :
    ((e.collect w pods).get k).isSome = true := by
  cases e with
  | jobDeleted k' propagation =>
    obtain rfl := Option.isNone_iff_eq_none.mp he
    obtain ⟨pod, hpod⟩ := Option.isSome_iff_exists.mp h
    obtain ⟨hmem, rfl⟩ := Store.get_eq_some_iff.mp hpod
    have hget := get_collectGarbage_orphan (w.jobs.get k').toList hmem
    exact Option.isSome_of_eq_some hget
  | _ => exact h

theorem isSome_get_foldl_collect {w : Workloads} {pods : Store Pod} {k : ObjectKey}
    {trace : List WorkloadEvent} (htrace : ∀ e ∈ trace, e.isDeletion = true)
    (h : (pods.get k).isSome = true) :
    ((trace.foldl (WorkloadEvent.collect w) pods).get k).isSome = true := by
  induction trace generalizing pods with
  | nil => exact h
  | cons e trace ih =>
    rw [List.forall_mem_cons] at htrace
    exact ih htrace.2 (isSome_get_collect htrace.1 h)

section cancel

variable {env : EngineEnv} {w : Workloads} {op : Operation} {engine : Engine}

theorem mem_deletedJobs_iff (hok : ((jobCancel op).run env w).result = .ok ()) (job : Job) :
    job ∈ deletedJobs w ((jobCancel op).run env w).state ↔
      job ∈ cancelledJobs env.instances op w := by
  rw [(triple_jobCancel op w rfl).2 () hok, deletedJobs, List.mem_filter, Option.isNone_iff_eq_none,
    Store.get_eq_none_iff]
  unfold cancelledJobs
  cases hfound : (engineLocation env.instances op).bind w.jobs.get with
  | none =>
    rw [afterCancel_of_none hfound, List.mem_filter]
    refine and_congr_right fun hjob => ⟨fun hgone => ?_, fun hown other hother hkey => ?_⟩
    · by_contra hforeign
      exact hgone job (List.mem_filter.mpr ⟨hjob, by simpa using hforeign⟩) rfl
    · obtain ⟨hmem, hkept⟩ := List.mem_filter.mp hother
      obtain rfl : other = job := Store.eq_of_mem hmem hjob hkey
      exact absurd hown (by simpa using hkept)
  | some found =>
    obtain ⟨k, hplace, hget⟩ := Option.bind_eq_some_iff.mp hfound
    obtain ⟨hmem, hkey⟩ := Store.get_eq_some_iff.mp hget
    rw [hplace, afterCancel_of_get hget, List.mem_singleton]
    constructor
    · rintro ⟨hjob, hgone⟩
      by_contra hne
      have hplaced : Keyed.key job ≠ k := fun h => hne (Store.eq_of_mem hjob hmem (h.trans hkey.symm))
      exact hgone job (Store.mem_erase.mpr ⟨hjob, hplaced⟩) rfl
    · rintro rfl
      exact ⟨hmem, fun other hother h => (Store.mem_erase.mp hother).2 (h.trans hkey)⟩

theorem cancel_stops_pods_iff (hengine : engine ∈ [jobEngine, helmHookJobEngine])
    (hok : ((engine.cancel op).run env w).result = .ok ()) (pods : Store Pod) :
    (∀ job ∈ deletedJobs w ((engine.cancel op).run env w).state, ∀ pod ∈ pods.items,
      pod.dependsOn job = true →
        (podsAfterCancel engine env op w pods).get pod.metadata.key = none) ↔
      ∀ job ∈ cancelledJobs env.instances op w, ∀ pod ∈ pods.items, pod.dependsOn job = false := by
  have hcancel : engine.cancel = jobCancel := by
    simp only [List.mem_cons, List.not_mem_nil, or_false] at hengine
    rcases hengine with rfl | rfl <;> rfl
  rw [hcancel] at hok
  have hstays : ∀ pod ∈ pods.items,
      (podsAfterCancel engine env op w pods).get pod.metadata.key ≠ none := by
    intro pod hpod
    have hdeletes : Deletes (engine.cancel op) := hcancel ▸ deletes_jobCancel op
    have hget : pods.get pod.metadata.key = some pod := Store.get_eq_some_iff.mpr ⟨hpod, rfl⟩
    exact Option.isSome_iff_ne_none.mp (isSome_get_foldl_collect (hdeletes.only env w trivial).1
      (Option.isSome_of_eq_some hget))
  rw [hcancel]
  constructor
  · intro hstopped job hjob pod hpod
    by_contra hdepends
    rw [Bool.not_eq_false] at hdepends
    have hdeleted := (mem_deletedJobs_iff hok job).mpr hjob
    exact hstays pod hpod (hstopped job hdeleted pod hpod hdepends)
  · intro hnone job hjob pod hpod hdepends
    have hcancelled := (mem_deletedJobs_iff hok job).mp hjob
    exact absurd hdepends (by simp [hnone job hcancelled pod hpod])

end cancel

/-- The job of an operation. -/
def ownJob : Job := jobAtItsPlace [(operationLabelKey, "uid-run")]

/-- The Pod of that job. -/
def jobPod : Pod where
  metadata := {
    ns := "team", name := "team--run-x7k2p"
    ownerReferences := [⟨"batch/v1", "Job", "team--run", "", true⟩] }

theorem cancel_ownJob :
    ((jobEngine.cancel unstartedRun).run shopEnv (onlyJob ownJob)).result = .ok () := by
  decide +kernel

/-- A Pod of another job. -/
def otherPod : Pod where
  metadata := {
    ns := "team", name := "nightly-4fz8q"
    ownerReferences := [⟨"batch/v1", "Job", "nightly", "uid-nightly", true⟩] }

theorem own_job_stops_pods_iff :
    (∀ job ∈ deletedJobs (onlyJob ownJob)
        ((jobEngine.cancel unstartedRun).run shopEnv (onlyJob ownJob)).state,
      ∀ pod ∈ (Store.empty.put otherPod).items, pod.dependsOn job = true →
        (podsAfterCancel jobEngine shopEnv unstartedRun (onlyJob ownJob)
          (Store.empty.put otherPod)).get pod.metadata.key = none) ∧
    ¬∀ job ∈ deletedJobs (onlyJob ownJob)
        ((jobEngine.cancel unstartedRun).run shopEnv (onlyJob ownJob)).state,
      ∀ pod ∈ ((Store.empty.put otherPod).put jobPod).items, pod.dependsOn job = true →
        (podsAfterCancel jobEngine shopEnv unstartedRun (onlyJob ownJob)
          ((Store.empty.put otherPod).put jobPod)).get pod.metadata.key = none := by
  constructor
  · exact (cancel_stops_pods_iff List.mem_cons_self cancel_ownJob _).mpr (by decide +kernel)
  · rw [cancel_stops_pods_iff List.mem_cons_self cancel_ownJob]
    decide +kernel

theorem pod_outlives_cancelled_job :
    ((jobEngine.cancel unstartedRun).run shopEnv (onlyJob ownJob)).result = .ok () ∧
    ownJob ∈ deletedJobs (onlyJob ownJob)
      ((jobEngine.cancel unstartedRun).run shopEnv (onlyJob ownJob)).state ∧
    jobPod.dependsOn ownJob = true ∧
    ((podsAfterCancel jobEngine shopEnv unstartedRun (onlyJob ownJob) (Store.empty.put jobPod)).get
      jobPod.metadata.key).isSome = true := by
  decide +kernel

end VWorkspace
