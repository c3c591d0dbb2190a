import Mathlib.Logic.Function.Basic
import VWorkspaceOperator.Agent.Applier
import VWorkspaceOperator.Kit.Run

/-!
# Several agents over one ConfigMap

The agent runtime is not gated by leader election, so several processes may apply
jobs at the same time.  They share the cluster, and with it the ConfigMap of the
keys; each has a cache of its own.  `ApplyJob` meets the ConfigMap when it checks
a key and when it records one, and between the two it does what the job asks for,
so agents are interleaved at these three parts.  Writing the keys out is one
step: the update carries the version that was read and fails if somebody was
faster.
-/

namespace VWorkspace.Agent

open Kit Prog AgentM

inductive Task where
  | idle
  /-- A job was taken up. -/
  | checked (job : Job)
  /-- What a job asks for is done. -/
  | carried (job : Job)
  deriving DecidableEq, Repr

structure Member where
  cache : Option KeySet := none
  task : Task := .idle

structure Fleet (ι : Type) where
  objects : Store ApiObject
  members : ι → Member

inductive FleetStep (ι : Type) where
  /-- An idle agent looks at a job. -/
  | take (i : ι) (env : AgentEnv) (job : Job)
  /-- An agent does what its job asks for. -/
  | act (i : ι) (env : AgentEnv)
  /-- An agent records the key of its job. -/
  | finish (i : ι) (env : AgentEnv)
  /-- A process starts anew, whatever it was doing. -/
  | restart (i : ι)
  /-- Somebody else changes the cluster. -/
  | outside (change : Store ApiObject → Store ApiObject)

namespace Fleet

variable {ι : Type} [DecidableEq ι]

def view (f : Fleet ι) (i : ι) : AgentState := ⟨f.objects, (f.members i).cache⟩

def leave (f : Fleet ι) (i : ι) (st : AgentState) (task : Task) : Fleet ι :=
  ⟨st.objects, Function.update f.members i ⟨st.cache, task⟩⟩

@[simp] theorem objects_leave (f : Fleet ι) (i : ι) (st : AgentState) (task : Task) :
    (f.leave i st task).objects = st.objects := rfl

@[simp] theorem view_leave_self (f : Fleet ι) (i : ι) (st : AgentState) (task : Task) :
    (f.leave i st task).view i = st := by
  simp [leave, view]

@[simp] theorem task_leave_self (f : Fleet ι) (i : ι) (st : AgentState) (task : Task) :
    ((f.leave i st task).members i).task = task := by
  simp [leave]

theorem members_leave_of_ne (f : Fleet ι) {i j : ι} (h : j ≠ i) (st : AgentState) (task : Task) :
    (f.leave i st task).members j = f.members j := Function.update_of_ne h _ _

@[simp] theorem leave_leave (f : Fleet ι) (i : ι) (st st' : AgentState) (task task' : Task) :
    (f.leave i st task).leave i st' task' = f.leave i st' task' := by
  simp [leave]

theorem leave_view (f : Fleet ι) (i : ι) : f.leave i (f.view i) (f.members i).task = f := by
  simp [leave, view]

def taskOfCheck (job : Job) : Except AgentError (Option ApplyOutcome) → Task
  | .ok none => .checked job
  | .ok (some _) => .idle
  | .error _ => .idle

def taskOfAct (job : Job) : Except AgentError AppliedRef → Task
  | .ok _ => .carried job
  | .error _ => .idle

/-- One step; an agent that is not ready for it stays as it is. -/
def step (a : ι → Applier) (f : Fleet ι) : FleetStep ι → Fleet ι
  | .take i env job =>
      match (f.members i).task with
      | .idle =>
          let o := ((a i).precheck job).run env (f.view i)
          f.leave i o.state (taskOfCheck job o.result)
      | _ => f
  | .act i env =>
      match (f.members i).task with
      | .checked job =>
          let o := ((a i).carryOut job).run env (f.view i)
          f.leave i o.state (taskOfAct job o.result)
      | _ => f
  | .finish i env =>
      match (f.members i).task with
      | .carried job => f.leave i (((a i).remember job).run env (f.view i)).state .idle
      | _ => f
  | .restart i => f.leave i ⟨f.objects, none⟩ .idle
  | .outside change => { f with objects := change f.objects }

section step

variable {a : ι → Applier} {f : Fleet ι} {i : ι} {env : AgentEnv} {job : Job}

theorem step_take (h : (f.members i).task = .idle) :
    step a f (.take i env job) =
      f.leave i (((a i).precheck job).run env (f.view i)).state
        (taskOfCheck job (((a i).precheck job).run env (f.view i)).result) := by
  simp only [step, h]

theorem step_act (h : (f.members i).task = .checked job) :
    step a f (.act i env) =
      f.leave i (((a i).carryOut job).run env (f.view i)).state
        (taskOfAct job (((a i).carryOut job).run env (f.view i)).result) := by
  simp only [step, h]

theorem step_act_idle (h : (f.members i).task = .idle) : step a f (.act i env) = f := by
  simp only [step, h]

theorem step_finish (h : (f.members i).task = .carried job) :
    step a f (.finish i env) =
      f.leave i (((a i).remember job).run env (f.view i)).state .idle := by
  simp only [step, h]

theorem step_finish_idle (h : (f.members i).task = .idle) : step a f (.finish i env) = f := by
  simp only [step, h]

theorem exec_job (hidle : (f.members i).task = .idle) :
    exec (step a) f [.take i env job, .act i env, .finish i env] =
      f.leave i (((a i).applyJob job).run env (f.view i)).state .idle := by
  simp only [exec_cons, exec_nil, step_take hidle]
  cases hpre : (((a i).precheck job).run env (f.view i)).result with
  | error e =>
    rw [Applier.run_applyJob_of_error hpre, step_act_idle (by simp [taskOfCheck]),
      step_finish_idle (by simp [taskOfCheck])]
    rfl
  | ok answer =>
    cases answer with
    | some outcome =>
      rw [Applier.run_applyJob_of_some hpre, step_act_idle (by simp [taskOfCheck]),
        step_finish_idle (by simp [taskOfCheck])]
      rfl
    | none =>
      have hchecked : ((f.leave i (((a i).precheck job).run env (f.view i)).state
          (taskOfCheck job (.ok none))).members i).task = .checked job := task_leave_self _ _ _ _
      rw [step_act hchecked, view_leave_self, leave_leave]
      cases hact : (((a i).carryOut job).run env
          (((a i).precheck job).run env (f.view i)).state).result with
      | error e =>
        rw [step_finish_idle (by simp [taskOfAct]), (Applier.applyJob_of_failed hpre hact).2]
        rfl
      | ok ref =>
        have hcarried : ((f.leave i (((a i).carryOut job).run env
            (((a i).precheck job).run env (f.view i)).state).state
              (taskOfAct job (.ok ref))).members i).task = .carried job := task_leave_self _ _ _ _
        rw [step_finish hcarried, view_leave_self, leave_leave,
          (Applier.applyJob_of_carried hpre hact).2]

/-- Agents that have just started, over a cluster without objects. -/
def fresh : Fleet ι := ⟨Store.empty, fun _ => {}⟩

end step

end Fleet

/-- Agents that have just started, over a ConfigMap without keys. -/
structure FreshFleet {ι : Type} (store : IdempotencyStore) (f : Fleet ι) : Prop where
  members : ∀ i, f.members i = {}
  noKeys : store.savedKeys f.objects = []

theorem freshFleet_fresh {ι : Type} (store : IdempotencyStore) :
    FreshFleet store (Fleet.fresh : Fleet ι) :=
  ⟨fun _ => rfl, rfl⟩

end VWorkspace.Agent
