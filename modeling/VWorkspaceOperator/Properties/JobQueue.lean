import VWorkspaceOperator.Agent.PullLoop
import VWorkspaceOperator.Properties.Replay

/-!
# The queue of jobs

What becomes of the jobs that are queued in the control plane, over whole runs of the pull loop.
-/

namespace VWorkspace.Agent

open Kit Prog

theorem covers_run (a : Applier) (st : PullState) (steps : List PullStep) :
    Covers (∀ step ∈ steps, step.Smooth)
      (gathered (pullStep a) (processed a) st steps ++
        (exec (pullStep a) st steps).pending.map Job.id)
      ((st.pending ++ steps.flatMap PullStep.enqueued).map Job.id) := by
  induction steps generalizing st with
  | nil => exact .of_eq (by simp)
  | cons step steps ih =>
    obtain ⟨hpart, hall⟩ := ih (pullStep a st step)
    obtain ⟨hpart₁, hall₁⟩ := covers_pullStep a st step
    rw [gathered_cons, exec_cons, List.append_assoc, List.flatMap_cons, ← List.append_assoc st.pending,
      List.map_append]
    rw [List.map_append] at hpart hall
    refine ⟨?_, fun hsmooth => ?_⟩
    · refine ((List.Sublist.refl _).append hpart).trans ?_
      rw [← List.append_assoc]
      exact hpart₁.append_right _
    · rw [List.forall_mem_cons] at hsmooth
      rw [hall hsmooth.2, ← List.append_assoc, hall₁ hsmooth.1]

theorem processed_sublist_queued (a : Applier) (st : PullState) (steps : List PullStep) :
    (gathered (pullStep a) (processed a) st steps ++
        (exec (pullStep a) st steps).pending.map Job.id).Sublist
      ((st.pending ++ steps.flatMap PullStep.enqueued).map Job.id) :=
  (covers_run a st steps).part

theorem processed_eq_queued (a : Applier) (st : PullState) (steps : List PullStep)
    (hsmooth : ∀ step ∈ steps, step.Smooth) :
    gathered (pullStep a) (processed a) st steps ++
        (exec (pullStep a) st steps).pending.map Job.id =
      (st.pending ++ steps.flatMap PullStep.enqueued).map Job.id :=
  (covers_run a st steps).all hsmooth

/-- The connection breaks when the second result is reported. -/
def brokenReport : PullEnv where
  job i :=
    { agent := { now := 0 }
      http := fun req => if req = .result ∧ i = 1 then some (.error "connection reset") else none }

def firstJobs : List PullStep :=
  [.enqueue serviceJob, .enqueue { serviceJob with id := "job-2" }, .poll brokenReport,
    .enqueue { serviceJob with id := "job-3" }]

theorem processed_firstJobs :
    gathered (pullStep systemAgent) (processed systemAgent) ⟨⟨freshAgent, {}⟩, []⟩ firstJobs ++
        (exec (pullStep systemAgent) ⟨⟨freshAgent, {}⟩, []⟩ firstJobs).pending.map Job.id =
      ["job-1", "job-2", "job-3"] := by
  refine processed_eq_queued systemAgent _ firstJobs fun step hstep => ?_
  simp only [firstJobs, List.mem_cons, List.not_mem_nil, or_false] at hstep
  obtain rfl | rfl | rfl | rfl := hstep
  · trivial
  · trivial
  · exact ⟨rfl, fun _ => rfl⟩
  · trivial

end VWorkspace.Agent
