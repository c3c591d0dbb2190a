import VWorkspaceOperator.Agent.Applier

/-!
# Processing jobs

`AgentPoller.processJob` acknowledges a job, applies it and reports the result.
The control plane keeps the first result it gets for a job; from then on the job
is closed, and the control plane answers further acknowledgements and results of
it with 409.  A request may also fail on the way, or get any other answer.
-/

namespace VWorkspace.Agent

open Kit Prog AgentM

/-- The results the control plane has recorded, by the ids of the jobs. -/
structure ControlPlane where
  results : List (String × JobResult) := []

def ControlPlane.closed (cp : ControlPlane) (id : String) : Bool := (cp.results.lookup id).isSome

structure Response where
  status : ℕ
  /-- The status line, which stands in for a missing message. -/
  line : String := ""
  code : String := ""
  message : String := ""
  deriving DecidableEq, Repr

def noContent : Response := { status := 204, line := "204 No Content" }

def closedAlready : Response := { status := 409, line := "409 Conflict" }

inductive Request where
  | ack
  | result
  deriving DecidableEq, Repr

structure PollerEnv where
  agent : AgentEnv
  /-- What a request meets instead of the protocol's answer: a failure on the way, or
  another answer. -/
  http : Request → Option (Except String Response) := fun _ => none
  /-- The clock when a result is reported. -/
  reportedAt : ℕ := agent.now

structure PollerState where
  agent : AgentState
  plane : ControlPlane := {}

inductive PollerEvent where
  | agent (e : AgentEvent)
  /-- A result is posted. -/
  | posted (id : String) (result : JobResult)

abbrev PollerM := Prog PollerEnv PollerState PollerEvent AgentError

def runAgent {α : Type} (x : AgentM α) : PollerM α :=
  x.lift (fun env _ => env.agent) PollerState.agent (fun st s => { s with agent := st })
    PollerEvent.agent

def decodeError (r : Response) : AgentError :=
  let message := if r.message = "" then r.line else r.message
  { msg := "agent API error (" ++ toString r.status ++ "): " ++ r.code ++ ": " ++ message }

/-- `do`: the answer to a request, by the protocol or not. -/
def request (req : Request) (protocol : PollerM Response) : PollerM Response := do
  let env ← Prog.ask
  match env.http req with
  | none => protocol
  | some (.ok r) => pure r
  | some (.error msg) => Prog.throw { msg := "execute request: " ++ msg }

def accept (r : Response) : PollerM Unit :=
  if r.status = 204 ∨ r.status = 409 then pure () else Prog.throw (decodeError r)

def ackJob (id : String) : PollerM Unit := do
  let r ← request .ack do
    let st ← Prog.get
    pure (if st.plane.closed id then closedAlready else noContent)
  accept r

/-- `ReportResult`: the control plane records the first result of a job. -/
def reportResult (id : String) (result : JobResult) : PollerM Unit := do
  Prog.emit (.posted id result)
  let r ← request .result do
    let st ← Prog.get
    if st.plane.closed id then pure closedAlready
    else
      Prog.modify fun st => { st with plane := ⟨st.plane.results ++ [(id, result)]⟩ }
      pure noContent
  accept r

def isConflict (e : AgentError) : Bool := contains e.msg "conflict"

def errorResult (e : AgentError) (now : ℕ) : JobResult where
  outcome := if isConflict e then .conflict else .failed
  error := e.msg
  timestamp := now

def report (job : Job) : Except AgentError ApplyOutcome → PollerM Unit
  | .ok outcome => (reportResult job.id outcome.result).mapError (·.wrap "report result: ")
  | .error e => do
      let env ← Prog.ask
      (reportResult job.id (errorResult e env.reportedAt)).mapError (·.wrap "report failed result: ")
      Prog.throw e

def processJob (a : Applier) (job : Job) : PollerM Unit := do
  (ackJob job.id).mapError (·.wrap ("ack job " ++ job.id ++ ": "))
  let outcome ← (runAgent (a.applyJob job)).attempt
  report job outcome

section run

variable {a : Applier} {job : Job} {env : PollerEnv} {st : PollerState}

theorem idle_ackJob (id : String) : Idle (ackJob id) := by
  refine .bind ?_ fun r => ?_
  · refine Idle.ask.bind fun env => ?_
    cases env.http .ack with
    | none => exact Idle.get.bind fun _ => Idle.pure _
    | some r =>
      cases r with
      | ok r => exact Idle.pure _
      | error msg => exact Idle.throw _
  · unfold accept
    split
    · exact Idle.pure _
    · exact Idle.throw _

theorem result_ackJob (h : env.http .ack = none) (id : String) :
    ((ackJob id).run env st).result = .ok () := by
  have hrequest : ∀ x : PollerM Response, (request .ack x).run env st = x.run env st := by
    intro x
    rw [request, run_bind, run_ask]
    simp only [h]
    rfl
  rw [ackJob, run_bind, hrequest]
  by_cases hclosed : st.plane.closed id = true
  · simp [run_bind, hclosed, accept, closedAlready]
  · simp [run_bind, hclosed, accept, noContent]

theorem run_reportResult (env : PollerEnv) (st : PollerState) (id : String) (result : JobResult) :
    ∃ r plane, (reportResult id result).run env st =
      ⟨r, { st with plane }, [.posted id result]⟩ := by
  unfold reportResult request accept
  simp only [run_bind, run_emit, run_ask]
  cases env.http .result with
  | none =>
    by_cases hclosed : st.plane.closed id = true
    · refine ⟨.ok (), st.plane, ?_⟩
      simp [run_bind, hclosed, closedAlready, Outcome.after]
    · refine ⟨.ok (), ⟨st.plane.results ++ [(id, result)]⟩, ?_⟩
      simp [run_bind, hclosed, noContent, Outcome.after]
  | some answer =>
    cases answer with
    | error msg => exact ⟨_, _, rfl⟩
    | ok r =>
      by_cases hok : r.status = 204 ∨ r.status = 409
      · refine ⟨.ok (), st.plane, ?_⟩
        simp [hok, Outcome.after]
      · refine ⟨.error (decodeError r), st.plane, ?_⟩
        simp [hok, Outcome.after]

theorem result_reportResult (h : env.http .result = none) (id : String) (result : JobResult) :
    ((reportResult id result).run env st).result = .ok () := by
  by_cases hclosed : st.plane.closed id = true
  · simp [reportResult, request, run_bind, h, hclosed, accept, closedAlready, Outcome.after]
  · simp [reportResult, request, run_bind, h, hclosed, accept, noContent, Outcome.after]

def resultOf (now : ℕ) : Except AgentError ApplyOutcome → JobResult
  | .ok outcome => outcome.result
  | .error e => errorResult e now

theorem report_spec (env : PollerEnv) (st : PollerState) (job : Job)
    (x : Except AgentError ApplyOutcome) :
    ((report job x).run env st).state.agent = st.agent ∧
      ((report job x).run env st).trace = [.posted job.id (resultOf env.reportedAt x)] := by
  cases x with
  | ok outcome =>
    obtain ⟨r, plane, hrun⟩ := run_reportResult env st job.id outcome.result
    rw [report, run_mapError, hrun]
    exact ⟨rfl, rfl⟩
  | error e =>
    obtain ⟨r, plane, hrun⟩ := run_reportResult env st job.id (errorResult e env.reportedAt)
    simp only [report, run_bind, run_ask, run_mapError, hrun]
    cases r with
    | ok u => exact ⟨rfl, rfl⟩
    | error e' => exact ⟨rfl, rfl⟩

theorem processJob_of_refused {e : AgentError}
    (h : ((ackJob job.id).run env st).result = .error e) :
    ((processJob a job).run env st).state = st ∧ ((processJob a job).run env st).trace = [] := by
  have herror : (((ackJob job.id).mapError (·.wrap ("ack job " ++ job.id ++ ": "))).run env st).result =
      .error (e.wrap ("ack job " ++ job.id ++ ": ")) := by
    rw [run_mapError, h]
    rfl
  rw [processJob, run_bind_of_error herror]
  exact idle_ackJob job.id env st

theorem processJob_spec (h : ((ackJob job.id).run env st).result = .ok ()) :
    ((processJob a job).run env st).state.agent =
        ((a.applyJob job).run env.agent st.agent).state ∧
      ((processJob a job).run env st).trace =
        ((a.applyJob job).run env.agent st.agent).trace.map .agent ++
          [.posted job.id
            (resultOf env.reportedAt ((a.applyJob job).run env.agent st.agent).result)] := by
  have hack : (((ackJob job.id).mapError (·.wrap ("ack job " ++ job.id ++ ": "))).run env st).result =
      .ok () := by
    rw [run_mapError, h]
    rfl
  obtain ⟨hstate, htrace⟩ := idle_ackJob job.id env st
  rw [processJob, run_bind_of_ok hack, Outcome.state_after, Outcome.trace_after, run_mapError]
  simp only [hstate, htrace, run_bind, run_attempt, runAgent, run_lift]
  obtain ⟨hagent, hposted⟩ := report_spec env
    ⟨((a.applyJob job).run env.agent st.agent).state, st.plane⟩ job
    ((a.applyJob job).run env.agent st.agent).result
  exact ⟨hagent, by rw [List.nil_append, Outcome.trace_after, hposted]⟩

theorem result_processJob (hhttp : ∀ req, env.http req = none) :
    ((processJob a job).run env st).result =
      ((a.applyJob job).run env.agent st.agent).result.map fun _ => () := by
  have hack : (((ackJob job.id).mapError (·.wrap ("ack job " ++ job.id ++ ": "))).run env st).result =
      .ok () := by
    rw [run_mapError, result_ackJob (hhttp _)]
    rfl
  obtain ⟨hstate, -⟩ := idle_ackJob job.id env st
  rw [processJob, run_bind_of_ok hack, Outcome.result_after, run_mapError]
  simp only [hstate, run_bind, run_attempt, runAgent, run_lift, Outcome.result_after]
  cases ((a.applyJob job).run env.agent st.agent).result with
  | ok outcome =>
    rw [report, run_mapError, result_reportResult (hhttp _)]
    rfl
  | error e =>
    simp only [report, run_bind, run_ask, run_mapError, result_reportResult (hhttp _)]
    rfl

end run

end VWorkspace.Agent
