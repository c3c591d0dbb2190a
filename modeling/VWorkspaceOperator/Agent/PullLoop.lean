import VWorkspaceOperator.Agent.Poller
import VWorkspaceOperator.Kit.Run

/-!
# The pull loop

The control plane keeps a queue of jobs for a cluster.  A request for jobs empties the queue, and
`AgentPoller.PollOnce` then processes one job after the other, whatever becomes of those before.
`Run` does the same in a loop, with requests that wait for the queue to fill.  Nobody puts a job
back into the queue, so each is processed once at most, and in the order in which they were
queued: the jobs are lost that were handed out and did not arrive, or were not acknowledged.
-/

namespace VWorkspace.Agent

open Kit Prog

/-- What a request for jobs meets. -/
inductive FetchFate where
  | served
  /-- The request fails, before or after the control plane hands out the jobs. -/
  | failed (handedOut : Bool) (msg : String)
  /-- The jobs arrive and cannot be read. -/
  | garbled (msg : String)
  /-- Another answer than 200. -/
  | answered (r : Response)

structure PullEnv where
  fetch : FetchFate := .served
  /-- What the jobs of a batch meet, by their positions in it. -/
  job : ℕ → PollerEnv

structure PullState where
  poller : PollerState
  /-- The jobs that wait in the control plane. -/
  pending : List Job := []

abbrev PullM := Prog PullEnv PullState PollerEvent AgentError

def pollJobs : PullM (List Job) := do
  let st ← Prog.get
  Prog.modify fun st => { st with pending := [] }
  pure st.pending

def FetchFate.answer : FetchFate → PullM (List Job)
  | .served => pollJobs
  | .failed handedOut msg => do
      if handedOut then
        let _ ← pollJobs
      Prog.throw { msg := "execute request: " ++ msg }
  | .garbled msg => do
      let _ ← pollJobs
      Prog.throw { msg := "decode jobs response: " ++ msg }
  | .answered r => Prog.throw (decodeError r)

def fetchJobs : PullM (List Job) := do
  let env ← Prog.ask
  env.fetch.answer

/-- The loop over a batch, which goes on after an error and remembers the first. -/
def processJobs (a : Applier) : ℕ → List Job → PullM (Option AgentError)
  | _, [] => pure none
  | i, job :: jobs => do
      let r ← ((processJob a job).lift (fun env _ => env.job i) PullState.poller
        (fun poller st => { st with poller }) id).attempt
      let rest ← processJobs a (i + 1) jobs
      pure (match r with
        | .error e => some e
        | .ok () => rest)

def pollOnce (a : Applier) : PullM Unit := do
  let jobs ← fetchJobs.mapError (·.wrap "fetch jobs: ")
  match ← processJobs a 0 jobs with
  | some e => Prog.throw e
  | none => pure ()

inductive PullStep where
  | enqueue (job : Job)
  | poll (env : PullEnv)
  /-- Others change the cluster, or the agent starts anew. -/
  | outside (agent : AgentState)

def pullStep (a : Applier) (st : PullState) : PullStep → PullState
  | .enqueue job => { st with pending := st.pending ++ [job] }
  | .poll env => ((pollOnce a).run env st).state
  | .outside agent => { st with poller := { st.poller with agent } }

def PullStep.enqueued : PullStep → List Job
  | .enqueue job => [job]
  | .poll _ => []
  | .outside _ => []

def PollerEvent.postedId : PollerEvent → Option String
  | .posted id _ => some id
  | .agent _ => none

def postedIds (trace : List PollerEvent) : List String := trace.filterMap PollerEvent.postedId

/-- The jobs that are processed in a step, by the results that are posted. -/
def processed (a : Applier) (st : PullState) : PullStep → List String
  | .poll env => postedIds ((pollOnce a).run env st).trace
  | _ => []

/-- Jobs are handed out and acknowledged. -/
structure PullEnv.Smooth (env : PullEnv) : Prop where
  fetch : env.fetch = .served
  ack : ∀ i, (env.job i).http .ack = none

def PullStep.Smooth : PullStep → Prop
  | .poll env => env.Smooth
  | _ => True

/-- `xs` is a part of `ys`, in their order, and all of them when things go smoothly. -/
structure Covers (smooth : Prop) (xs ys : List String) : Prop where
  part : xs.Sublist ys
  all : smooth → xs = ys

theorem Covers.of_eq {smooth : Prop} {xs ys : List String} (h : xs = ys) : Covers smooth xs ys :=
  ⟨h ▸ .refl _, fun _ => h⟩

variable {a : Applier} {env : PullEnv} {st : PullState}

theorem postedIds_processJob (a : Applier) (job : Job) (env : PollerEnv) (st : PollerState) :
    postedIds ((processJob a job).run env st).trace = [job.id] ∨
      postedIds ((processJob a job).run env st).trace = [] ∧ env.http .ack ≠ none := by
  cases hack : ((ackJob job.id).run env st).result with
  | error e =>
    rw [(processJob_of_refused hack).2]
    refine .inr ⟨rfl, fun h => ?_⟩
    exact absurd (hack.symm.trans (result_ackJob h job.id)) (by simp)
  | ok u =>
    have hagent : ∀ es : List AgentEvent, postedIds (es.map .agent) = [] := by
      intro es
      rw [postedIds, List.filterMap_map]
      exact List.filterMap_eq_nil_iff.mpr fun _ _ => rfl
    rw [(processJob_spec hack).2, postedIds, List.filterMap_append]
    exact .inl (by rw [← postedIds, hagent]; rfl)

theorem processJobs_spec (a : Applier) (env : PullEnv) (jobs : List Job) (i : ℕ) (st : PullState) :
    ((processJobs a i jobs).run env st).state.pending = st.pending ∧
      Covers env.Smooth (postedIds ((processJobs a i jobs).run env st).trace) (jobs.map Job.id) := by
  induction jobs generalizing i st with
  | nil => exact ⟨rfl, .of_eq rfl⟩
  | cons job jobs ih =>
    let o := (processJob a job).run (env.job i) st.poller
    let rest := (processJobs a (i + 1) jobs).run env { st with poller := o.state }
    have hrun : ((processJobs a i (job :: jobs)).run env st).state = rest.state ∧
        ((processJobs a i (job :: jobs)).run env st).trace = o.trace ++ rest.trace := by
      rw [processJobs, run_bind, run_attempt, run_lift, List.map_id]
      dsimp only
      cases h : rest.result with
      | error e => rw [run_bind_of_error h]; exact ⟨rfl, rfl⟩
      | ok r => rw [run_bind_of_ok h]; exact ⟨rfl, congrArg _ (List.append_nil _)⟩
    obtain ⟨hpending, hpart, hall⟩ := ih (i + 1) { st with poller := o.state }
    rw [hrun.1, hrun.2, postedIds, List.filterMap_append]
    refine ⟨hpending, ?_⟩
    obtain hone | ⟨hnone, hack⟩ := postedIds_processJob a job (env.job i) st.poller
    · rw [show o.trace.filterMap PollerEvent.postedId = [job.id] from hone]
      exact ⟨hpart.cons_cons _, fun h => congrArg _ (hall h)⟩
    · rw [show o.trace.filterMap PollerEvent.postedId = [] from hnone]
      exact ⟨hpart.cons _, fun h => absurd (h.ack i) hack⟩

theorem run_fetchJobs : fetchJobs.run env st = env.fetch.answer.run env st := rfl

theorem run_fetchJobs_of_not_served (h : env.fetch ≠ .served) (st : PullState) :
    ∃ e pending, pending.Sublist st.pending ∧
      fetchJobs.run env st = ⟨.error e, { st with pending }, []⟩ := by
  rw [run_fetchJobs]
  cases hfetch : env.fetch with
  | served => exact absurd hfetch h
  | failed handedOut msg =>
    cases handedOut with
    | false => exact ⟨_, _, .refl _, rfl⟩
    | true => exact ⟨_, _, List.nil_sublist _, rfl⟩
  | garbled msg => exact ⟨_, _, List.nil_sublist _, rfl⟩
  | answered r => exact ⟨_, _, .refl _, rfl⟩

theorem covers_poll (a : Applier) (env : PullEnv) (st : PullState) :
    Covers env.Smooth
      (postedIds ((pollOnce a).run env st).trace ++
        ((pollOnce a).run env st).state.pending.map Job.id)
      (st.pending.map Job.id) := by
  by_cases hfetch : env.fetch = .served
  · let rest := (processJobs a 0 st.pending).run env { st with pending := [] }
    have hrun : ((pollOnce a).run env st).state = rest.state ∧
        ((pollOnce a).run env st).trace = rest.trace := by
      have hserved : (fetchJobs.mapError (·.wrap "fetch jobs: ")).run env st =
          ⟨.ok st.pending, { st with pending := [] }, []⟩ := by
        rw [run_mapError, run_fetchJobs, hfetch]
        rfl
      rw [pollOnce, run_bind, hserved]
      dsimp only
      rw [Outcome.state_after, Outcome.trace_after, List.nil_append]
      cases h : rest.result with
      | error e => rw [run_bind_of_error h]; exact ⟨rfl, rfl⟩
      | ok r =>
        rw [run_bind_of_ok h]
        cases r with
        | none => exact ⟨rfl, List.append_nil _⟩
        | some e => exact ⟨rfl, List.append_nil _⟩
    obtain ⟨hpending, hcovers⟩ := processJobs_spec a env st.pending 0 { st with pending := [] }
    rw [hrun.1, hrun.2, hpending]
    simpa using hcovers
  · obtain ⟨e, pending, hpart, hrun⟩ := run_fetchJobs_of_not_served hfetch st
    rw [pollOnce, run_bind, run_mapError, hrun]
    exact ⟨hpart.map _, fun h => absurd h.fetch hfetch⟩

theorem covers_pullStep (a : Applier) (st : PullState) (step : PullStep) :
    Covers step.Smooth (processed a st step ++ (pullStep a st step).pending.map Job.id)
      ((st.pending ++ step.enqueued).map Job.id) := by
  cases step with
  | enqueue job => exact .of_eq rfl
  | outside agent => exact .of_eq (by rw [PullStep.enqueued, List.append_nil]; rfl)
  | poll env => rw [PullStep.enqueued, List.append_nil]; exact covers_poll a env st

end VWorkspace.Agent
