import VWorkspaceOperator.Engines.Velero
import VWorkspaceOperator.Kit.Rules

/-!
# The built-in engines

The registry the operator is set up with, and what its engines have in common:
an engine that is asked for the status of an operation never answers that it is
pending.
-/

namespace VWorkspace

open Kit Prog

def builtinRegistry (veleroNs : String) : Registry :=
  ⟨[helmEngine, veleroEngine veleroNs, jobEngine, workflowEngine, helmHookJobEngine]⟩

theorem get_builtinRegistry (veleroNs : String) (name : OperationEngine) :
    (builtinRegistry veleroNs).get name =
      match name with
      | .helm => some helmEngine
      | .velero => some (veleroEngine veleroNs)
      | .job => some jobEngine
      | .workflow => some workflowEngine
      | .helmHookJob => some helmHookJobEngine
      | .unset | .volsync => none := by
  cases name <;> rfl

/-- The phases of an operation whose engine has been started. -/
def OperationPhase.engaged : OperationPhase → Bool
  | .running | .succeeded | .failed => true
  | _ => false

def ReportsEngaged (x : EngineM EngineStatus) : Prop :=
  ∀ env, Triple env (fun _ => True) x (fun _ => True) (fun es _ => es.phase.engaged = true)

theorem engaged_statusFromConditions (jobName : String) (cs : List JobCondition) :
    (statusFromConditions jobName cs).phase.engaged = true := by
  induction cs with
  | nil => rfl
  | cons c cs ih =>
    unfold statusFromConditions
    split
    · rfl
    · rfl
    · exact ih

theorem engaged_statusFromWorkflow (wf : Unstructured) :
    (statusFromWorkflow wf).phase.engaged = true := by
  unfold statusFromWorkflow
  simp only
  split <;> rfl

theorem engaged_statusFromVelero (op : Operation) (o : Unstructured) :
    (statusFromVelero op o).phase.engaged = true := by
  unfold statusFromVelero
  split <;> rfl

theorem reportsEngaged_jobStatus (op : Operation) : ReportsEngaged (jobStatus op) :=
  fun _ => .bind .top fun _ => .pure fun _ _ => engaged_statusFromConditions _ _

theorem reportsEngaged_helmHookJobStatus (op : Operation) :
    ReportsEngaged (helmHookJobStatus op) :=
  fun _ => .bind .top fun _ => .pure fun _ _ => engaged_statusFromConditions _ _

theorem reportsEngaged_workflowStatus (op : Operation) : ReportsEngaged (workflowStatus op) := by
  intro env
  refine .bind .top fun _ => .bind .top fun found => ?_
  cases found with
  | none => exact .throw
  | some wf => exact .bind .top fun _ => .pure fun _ _ => engaged_statusFromWorkflow wf

theorem reportsEngaged_veleroStatus (ns : String) (op : Operation) :
    ReportsEngaged (veleroStatus ns op) := by
  intro env
  refine .bind .top fun found => ?_
  cases found with
  | none => exact .throw
  | some o => exact .pure fun _ _ => engaged_statusFromVelero op o

theorem phase_of_status_builtin {veleroNs : String} {name : OperationEngine} {engine : Engine}
    (h : (builtinRegistry veleroNs).get name = some engine) (op : Operation) :
    ReportsEngaged (engine.status op) := by
  have hmem := Registry.mem_of_get h
  simp only [builtinRegistry, List.mem_cons, List.not_mem_nil, or_false] at hmem
  rcases hmem with rfl | rfl | rfl | rfl | rfl
  · exact fun _ => .pure fun _ _ => rfl
  · exact reportsEngaged_veleroStatus veleroNs op
  · exact reportsEngaged_jobStatus op
  · exact reportsEngaged_workflowStatus op
  · exact reportsEngaged_helmHookJobStatus op

end VWorkspace
