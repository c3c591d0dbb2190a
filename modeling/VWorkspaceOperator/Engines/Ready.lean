import VWorkspaceOperator.Engines.Members
import VWorkspaceOperator.Engines.Repeat

/-!
# Materializing where nothing is in the way

`Materialize` of an engine fails when a call fails, when the release of the target
is missing or no release at all, when another's workload has the name, or when
the parameters are at fault.  In a situation that rules out all but the last,
it succeeds if and only if the parameters can be decoded and name what the engine
insists on.
-/

namespace VWorkspace

open Kit Prog EngineM

/-- Nothing but the parameters can keep an operation from being materialized. -/
structure Ready (veleroNs : String) (op : Operation) (target : ApplicationInstance)
    (env : EngineEnv) (w : Workloads) : Prop where
  /-- Every call succeeds. -/
  calls : ∀ s, env.fault s = none
  /-- The target has a release, and it is there, with the maps its type prescribes. -/
  release : ∃ release hr, target.spec.release = some release ∧
    (w.objects .helmRelease).get ⟨target.metadata.ns, release.name⟩ = some hr ∧
    MapsAlong ["spec", "chart", "spec", "version"] hr.body
  /-- A job in the place of the operation's is the operation's. -/
  job : ∀ job, w.jobs.get ⟨targetNamespace target, materializedName op⟩ = some job →
    verifyOperationOwnership job.metadata.labels op = .ok ()
  /-- A workflow in the place of the operation's is the operation's. -/
  workflow : ∀ wf,
    (w.objects .workflow).get ⟨targetNamespace target, materializedName op⟩ = some wf →
    verifyOperationOwnership wf.metadata.labels op = .ok ()
  /-- A Velero object in the place of the operation's has a spec that is a map. -/
  velero : ∀ kind o, (w.objects kind).get (veleroKey veleroNs op) = some o → SpecIsMap o.body

section mutations

theorem specIsMap_of_setBody {value : Json} {k : String} {ks : List String} {body body' : Fields}
    (h : setBody value ("spec" :: k :: ks) body = .ok body') : SpecIsMap body' := by
  obtain ⟨-, inner, -, -, rfl⟩ := exists_of_setNested (setNested_of_setBody h)
  intro v hv
  rw [lookup_setField_self, Option.some.injEq] at hv
  exact ⟨inner, hv.symm⟩

theorem exists_setBody {path : List String} {body : Fields} (h : MapsAlong path body)
    (value : Json) : ∃ body', setBody value path body = .ok body' := by
  obtain ⟨body', hset⟩ : ∃ body', setNested value [] path body = .ok body' := exists_setNested h
  exact ⟨body', by rw [setBody, hset]; rfl⟩

theorem exists_patchHelmRelease (params : HelmParameters) {hr : Unstructured}
    (h : MapsAlong ["spec", "chart", "spec", "version"] hr.body) :
    ∃ hr', patchHelmRelease params hr = .ok hr' := by
  rw [patchHelmRelease_eq]
  have hversion : ∃ body, patchVersion params.targetVersion hr.body = .ok body ∧
      SpecIsMap body := by
    unfold patchVersion
    split
    · obtain ⟨body, hset⟩ := exists_setBody h (.str params.targetVersion)
      exact ⟨body, hset, specIsMap_of_setBody hset⟩
    · refine ⟨hr.body, rfl, fun v hv => ?_⟩
      obtain ⟨inner, hobj, -⟩ := h v hv
      exact ⟨inner, hobj⟩
  refine exists_bind_ok hversion fun body hmap => exists_bind_ok (S := fun _ => True) ?_
    fun body' _ => ⟨_, rfl⟩
  unfold patchValues
  split
  · obtain ⟨body', hset, -⟩ := exists_setBody_spec hmap _ "values"
    exact ⟨body', hset, trivial⟩
  · exact ⟨body, rfl, trivial⟩

theorem exists_workflowBody (params : WorkflowParameters) :
    ∃ body, workflowBody params = .ok body := by
  unfold workflowBody
  cases params.workflowTemplateParameters.getD [] with
  | nil => exact ⟨_, rfl⟩
  | cons p ps => exact ⟨_, rfl⟩

theorem exists_mutateBy_of_specIsMap {o : Unstructured} (h : SpecIsMap o.body)
    (settings : List Setting) (op : Operation) : ∃ o', mutateBy settings op o = .ok o' := by
  obtain ⟨body, hbody⟩ := exists_setSpecs h settings
  exact ⟨_, by rw [mutateBy, hbody]; rfl⟩

end mutations

section ready

variable {veleroNs : String} {op : Operation} {target : ApplicationInstance} {env : EngineEnv}
  {w : Workloads}

theorem Ready.specIsMap_mutated (h : Ready veleroNs op target env w) (kind : Kind) :
    SpecIsMap (mutated w kind (veleroKey veleroNs op)).body := by
  unfold mutated
  cases hget : (w.objects kind).get (veleroKey veleroNs op) with
  | none => exact fun v hv => absurd hv (by simp)
  | some o => exact h.velero kind o hget

theorem Ready.result_createMaterializedJob (h : Ready veleroNs op target env w) {job : Job}
    (hns : job.metadata.ns = targetNamespace target) :
    ((createMaterializedJob op job (targetNamespace target)).run env w).result = .ok () := by
  cases hget : w.jobs.get ⟨targetNamespace target, materializedName op⟩ with
  | none => rw [run_createMaterializedJob_of_absent h.calls hns hget]
  | some existing =>
    rw [run_createMaterializedJob_of_existing h.calls hget]
    exact h.job existing hget

theorem Ready.result_createMaterializedWorkflow (h : Ready veleroNs op target env w)
    (params : WorkflowParameters) :
    ((createMaterializedWorkflow op (targetNamespace target) params).run env w).result =
      .ok () := by
  cases hget : (w.objects .workflow).get ⟨targetNamespace target, materializedName op⟩ with
  | none =>
    obtain ⟨body, hbody⟩ := exists_workflowBody params
    have hkey := key_materializedWorkflow op (targetNamespace target) body
    simp [createMaterializedWorkflow, getObject, createObject, run_bind,
      run_engine_call h.calls, hget, hbody, hkey, Except.mapError, Outcome.after]
  | some existing =>
    rw [run_createMaterializedWorkflow_of_existing h.calls hget]
    exact h.workflow existing hget

theorem Ready.result_mutateBy (h : Ready veleroNs op target env w) (kind : Kind)
    {mutate : Unstructured → Except GoError Unstructured} {settings : List Setting}
    (hmutate : ∀ o, mutate o = mutateBy settings op o) :
    ((createOrUpdate kind (veleroKey veleroNs op) mutate).run env w).result = .ok () := by
  obtain ⟨o', ho'⟩ := exists_mutateBy_of_specIsMap (h.specIsMap_mutated kind) settings op
  refine (run_createOrUpdate_of_ok h.calls ((hmutate _).trans ho') ?_).1
  rw [(of_mutateBy ho').2, key_veleroMeta, key_mutated]

theorem Ready.result_upgradeRelease (h : Ready veleroNs op target env w)
    {release : ReleaseSpec} (hrelease : target.spec.release = some release)
    (params : HelmParameters) :
    ((upgradeRelease params ⟨target.metadata.ns, release.name⟩).run env w).result = .ok () := by
  obtain ⟨release', hr, hrelease', hget, hmaps⟩ := h.release
  obtain rfl : release = release' := Option.some.inj (hrelease.symm.trans hrelease')
  rw [run_upgradeRelease_of_some h.calls hget]
  obtain ⟨hr', hpatched⟩ := exists_patchHelmRelease params hmaps
  have hmutated : mutated w .helmRelease ⟨target.metadata.ns, release.name⟩ = hr := by
    rw [mutated, hget, Option.getD_some]
  refine (run_createOrUpdate_of_ok h.calls (by rw [hmutated, hpatched]) ?_).1
  rw [(of_patchHelmRelease hpatched).2.2, ← hmutated, key_mutated]

/-- The parameters, once decoded, name what the engine insists on. -/
def Insists (op : Operation) : Prop :=
  match op.spec.engine with
  | .job => ∀ params, parseJobParameters op = .ok params → params.image ≠ ""
  | .helmHookJob => ∀ params, parseHelmHookJobParameters op = .ok params →
      params.hookName ≠ "" ∧ params.image ≠ ""
  | .workflow => ∀ params, parseWorkflowParameters op = .ok params → params.templateName ≠ ""
  | .velero => op.spec.type = .backup ∨ op.spec.type = .restore ∧
      ∀ params, parseVeleroParameters op = .ok params → params.backupName ≠ ""
  | _ => True

theorem exists_of_isOk {ε α : Type} {x : Except ε α} (h : x.isOk = true) : ∃ a, x = .ok a := by
  cases x with
  | error e => exact absurd h (by simp [Except.isOk, Except.toBool])
  | ok a => exact ⟨a, rfl⟩

theorem materialize_of_ready {engine : Engine}
    (hengine : (builtinRegistry veleroNs).get op.spec.engine = some engine)
    (hready : Ready veleroNs op target env w) (hdecodes : decodesParameters op = true)
    (hinsists : Insists op) :
    ((engine.materialize op target).run env w).result = .ok () := by
  rw [get_builtinRegistry] at hengine
  unfold decodesParameters at hdecodes
  unfold Insists at hinsists
  cases hname : op.spec.engine <;> rw [hname] at hengine hdecodes hinsists <;>
    simp only [Option.some.injEq, reduceCtorEq] at hengine <;> subst hengine
  case velero =>
    obtain ⟨params, hparams⟩ := exists_of_isOk hdecodes
    change ((veleroMaterialize veleroNs op target).run env w).result = _
    unfold veleroMaterialize
    rw [hparams]
    rcases hinsists with htype | ⟨htype, hbackup⟩
    · rw [htype]
      exact hready.result_mutateBy .backup fun _ => mutateBackup_eq _
    · rw [htype]
      change ((materializeRestore veleroNs op params).run env w).result = _
      rw [materializeRestore, if_neg (hbackup params hparams)]
      exact hready.result_mutateBy .restore fun _ => mutateRestore_eq
  case workflow =>
    obtain ⟨params, hparams⟩ := exists_of_isOk hdecodes
    change ((workflowMaterialize op target).run env w).result = _
    unfold workflowMaterialize
    rw [hparams]
    change ((if params.templateName = "" then _ else _ : EngineM Unit).run env w).result = _
    rw [if_neg (hinsists params hparams)]
    exact hready.result_createMaterializedWorkflow params
  case job =>
    obtain ⟨params, hparams⟩ := exists_of_isOk hdecodes
    change ((jobMaterialize op target).run env w).result = _
    unfold jobMaterialize
    rw [hparams]
    change ((if params.image = "" then _ else _ : EngineM Unit).run env w).result = _
    rw [if_neg (hinsists params hparams)]
    exact hready.result_createMaterializedJob rfl
  case helm =>
    obtain ⟨params, hparams⟩ := exists_of_isOk hdecodes
    obtain ⟨release, -, hrelease, -⟩ := hready.release
    change ((helmMaterialize op target).run env w).result = _
    unfold helmMaterialize
    rw [hparams, hrelease]
    exact hready.result_upgradeRelease hrelease params
  case helmHookJob =>
    obtain ⟨params, hparams⟩ := exists_of_isOk hdecodes
    obtain ⟨hhook, himage⟩ := hinsists params hparams
    change ((helmHookJobMaterialize op target).run env w).result = _
    unfold helmHookJobMaterialize
    rw [hparams]
    change ((if params.hookName = "" then _ else if params.image = "" then _ else _ :
      EngineM Unit).run env w).result = _
    rw [if_neg hhook, if_neg himage]
    exact hready.result_createMaterializedJob rfl

end ready

end VWorkspace
