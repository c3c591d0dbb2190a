import VWorkspaceOperator.Engines.Effects

/-!
# Materializing twice

Between `Materialize` and the status that records it the operator may crash or
fail to write, and the next reconcile calls `Materialize` again.  Without API
failures the second call finds what the first one made: a job or a workflow is
recognized by its label, a Velero object and a release are mutated to what they
are already.
-/

namespace VWorkspace

open Kit Prog EngineM

theorem applyOperationLabels_applyOperationLabels (labels : List (String × String))
    (op : Operation) :
    applyOperationLabels (applyOperationLabels labels op) op = applyOperationLabels labels op := by
  have hmanaged : (applyOperationLabels labels op).lookup managedByKey =
      some "vworkspace-operator" :=
    (lookup_setField_of_ne _ (by decide) _).trans (lookup_setField_self _ _ _)
  calc applyOperationLabels (applyOperationLabels labels op) op
      = setField operationLabelKey op.metadata.uid (applyOperationLabels labels op) := by
        rw [applyOperationLabels, setField_of_lookup hmanaged]
    _ = applyOperationLabels labels op :=
        setField_of_lookup (lookup_applyOperationLabels labels op)

theorem upsertOwnerReference_upsertOwnerReference {ref : OwnerReference}
    (href : referSameObject ref ref = true) (refs : List OwnerReference) :
    upsertOwnerReference ref (upsertOwnerReference ref refs) = upsertOwnerReference ref refs := by
  induction refs with
  | nil => simp [upsertOwnerReference, href]
  | cons r refs ih =>
    by_cases h : referSameObject r ref = true
    · simp [upsertOwnerReference, h, href]
    · simp [upsertOwnerReference, h, ih]

theorem referSameObject_operation (name uid name' uid' : String) (b b' : Bool) :
    referSameObject ⟨opsGroupVersion, "Operation", name, uid, b⟩
      ⟨opsGroupVersion, "Operation", name', uid', b'⟩ = decide (name = name') := by
  have hgroup : apiGroup opsGroupVersion = some "ops.vworkspace.io" := by decide
  simp [referSameObject, hgroup]

theorem setOwnerReference_setOwnerReference (op : Operation) (m : ObjectMeta) :
    setOwnerReference op (setOwnerReference op m) = setOwnerReference op m := by
  simp only [setOwnerReference]
  rw [upsertOwnerReference_upsertOwnerReference (by simp [referSameObject_operation])]

theorem veleroMeta_veleroMeta (op : Operation) (m : ObjectMeta) :
    veleroMeta op (veleroMeta op m) = veleroMeta op m := by
  by_cases h : op.metadata.ns = m.ns
  · have hm : veleroMeta op m =
        setOwnerReference op { m with labels := applyOperationLabels m.labels op } := if_pos h
    have hns : op.metadata.ns = (veleroMeta op m).ns := by rw [hm]; exact h
    have hlabels : applyOperationLabels (veleroMeta op m).labels op = (veleroMeta op m).labels := by
      rw [labels_veleroMeta, applyOperationLabels_applyOperationLabels]
    calc veleroMeta op (veleroMeta op m)
        = setOwnerReference op (veleroMeta op m) := by
          rw [veleroMeta, if_pos hns, hlabels]
      _ = veleroMeta op m := by rw [hm, setOwnerReference_setOwnerReference]
  · have hm : veleroMeta op m = { m with labels := applyOperationLabels m.labels op } := if_neg h
    rw [hm, veleroMeta, if_neg h, applyOperationLabels_applyOperationLabels]

section mutations

variable {op : Operation} {o o' : Unstructured}

theorem mutateBy_again {settings : List Setting} (hnodup : (settings.map fun s => s.field).Nodup)
    (h : mutateBy settings op o = .ok o') : mutateBy settings op o' = .ok o' := by
  obtain ⟨hbody, hmeta⟩ := of_mutateBy h
  rw [mutateBy, setSpecs_of_nested (nested_setSpecs hnodup hbody), hmeta]
  simp only [Bind.bind, Except.bind, Pure.pure, Except.pure, veleroMeta_veleroMeta]
  rw [← hmeta]

theorem mutateBackup_again {includedNS : String} {params : VeleroParameters}
    (h : mutateBackup op includedNS params o = .ok o') :
    mutateBackup op includedNS params o' = .ok o' := by
  rw [mutateBackup_eq] at h ⊢
  exact mutateBy_again (by simp [backupSettings]) h

theorem mutateRestore_again {params : VeleroParameters}
    (h : mutateRestore op params o = .ok o') : mutateRestore op params o' = .ok o' := by
  rw [mutateRestore_eq] at h ⊢
  exact mutateBy_again (by simp [restoreSettings]) h

theorem isSome_lookup_copyFields {k : String} {dst : Fields} (src : Fields)
    (h : k ∈ src.map Prod.fst ∨ (dst.lookup k).isSome) : ((copyFields dst src).lookup k).isSome := by
  induction src generalizing dst with
  | nil => simpa [copyFields] using h
  | cons f src ih =>
    obtain ⟨k', v⟩ := f
    refine ih ?_
    by_cases hk : k = k'
    · exact .inr (by simp [hk])
    · rw [lookup_setField_of_ne v hk]
      simpa [hk] using h

theorem setField_copyFields_setField (k : String) (v : Json) {dst : Fields} (src : Fields)
    (hkeys : ∀ k' ∈ src.map Prod.fst, (dst.lookup k').isSome) :
    setField k v (copyFields (setField k v dst) src) = setField k v (copyFields dst src) := by
  induction src generalizing dst with
  | nil => exact setField_setField k v v dst
  | cons f src ih =>
    obtain ⟨k', v'⟩ := f
    have hrest : ∀ k₁ ∈ src.map Prod.fst, ((setField k' v' dst).lookup k₁).isSome := by
      intro k₁ hk₁
      by_cases h : k₁ = k'
      · simp [h]
      · rw [lookup_setField_of_ne v' h]
        exact hkeys k₁ (List.mem_cons_of_mem _ hk₁)
    change setField k v (copyFields (setField k' v' (setField k v dst)) src) =
      setField k v (copyFields (setField k' v' dst) src)
    by_cases h : k = k'
    · rw [h, setField_setField]
    · rw [setField_comm h v v' (hkeys k' List.mem_cons_self)]
      exact ih hrest

theorem copyFields_snoc (dst src : Fields) (k : String) (v : Json) :
    copyFields dst (src ++ [(k, v)]) = setField k v (copyFields dst src) := by
  simp [copyFields, List.foldl_append]

theorem copyFields_copyFields (dst src : Fields) :
    copyFields (copyFields dst src) src = copyFields dst src := by
  induction src using List.reverseRecOn with
  | nil => rfl
  | append_singleton src f ih =>
    obtain ⟨k, v⟩ := f
    rw [copyFields_snoc, copyFields_snoc, setField_copyFields_setField k v src
      fun k' hk' => isSome_lookup_copyFields src (.inl hk'), ih]

theorem lookup_copyFields (k : String) (dst src : Fields) :
    (copyFields dst src).lookup k = ((copyFields [] src).lookup k).or (dst.lookup k) := by
  induction src using List.reverseRecOn with
  | nil => simp [copyFields]
  | append_singleton src f ih =>
    obtain ⟨k', v⟩ := f
    rw [copyFields_snoc, copyFields_snoc]
    by_cases hk : k = k'
    · simp [hk]
    · rw [lookup_setField_of_ne v hk, lookup_setField_of_ne v hk, ih]

/-- The first step of the mutation of a release: the chart version. -/
def patchVersion (version : String) (body : Fields) : Except GoError Fields :=
  if version ≠ "" then setBody (.str version) ["spec", "chart", "spec", "version"] body
  else pure body

def patchValues (patch body : Fields) : Except GoError Fields :=
  if patch ≠ [] then
    setBody (.obj (copyFields ((nestedMap ["spec", "values"] body).getD []) patch))
      ["spec", "values"] body
  else pure body

theorem patchHelmRelease_eq (params : HelmParameters) (hr : Unstructured) :
    patchHelmRelease params hr = (do
      let body ← patchVersion params.targetVersion hr.body
      let body ← patchValues (params.valuesPatch.getD []) body
      pure { hr with body := body }) := by
  by_cases hversion : params.targetVersion = "" <;> by_cases hpatch : params.valuesPatch.getD [] = [] <;>
    simp [patchHelmRelease, patchVersion, patchValues, hversion, hpatch]

theorem of_patchHelmRelease {params : HelmParameters} (h : patchHelmRelease params o = .ok o') :
    (params.targetVersion ≠ "" →
      nested ["spec", "chart", "spec", "version"] o'.body = some (.str params.targetVersion)) ∧
    (params.valuesPatch.getD [] ≠ [] →
      ∃ values, nested ["spec", "values"] o'.body =
        some (.obj (copyFields values (params.valuesPatch.getD [])))) ∧
    o'.metadata = o.metadata := by
  rw [patchHelmRelease_eq] at h
  obtain ⟨body₁, hversion, h⟩ := exists_of_bind_ok h
  obtain ⟨body₂, hvalues, h⟩ := exists_of_bind_ok h
  obtain rfl := Except.ok.inj h
  refine ⟨fun hne => ?_, fun hne => ?_, rfl⟩
  · rw [patchVersion, if_pos hne] at hversion
    have hread := nested_setBody hversion
    unfold patchValues at hvalues
    split at hvalues
    · rw [← hread]
      exact nested_setNested_of_ne (by decide) ["spec"] [] ["spec", "version"]
        (setNested_of_setBody hvalues)
    · rw [← Except.ok.inj hvalues, hread]
  · rw [patchValues, if_pos hne] at hvalues
    exact ⟨_, nested_setBody hvalues⟩

theorem patchHelmRelease_again {params : HelmParameters}
    (h : patchHelmRelease params o = .ok o') : patchHelmRelease params o' = .ok o' := by
  obtain ⟨hversion, hvalues, -⟩ := of_patchHelmRelease h
  have hfirst : patchVersion params.targetVersion o'.body = .ok o'.body := by
    unfold patchVersion
    split
    · next hne => exact setBody_of_nested (hversion hne)
    · rfl
  have hsecond : patchValues (params.valuesPatch.getD []) o'.body = .ok o'.body := by
    unfold patchValues
    split
    · next hne =>
      obtain ⟨values, hread⟩ := hvalues hne
      rw [nestedMap, hread]
      simp only [Option.getD_some, copyFields_copyFields]
      exact setBody_of_nested hread
    · rfl
  rw [patchHelmRelease_eq, hfirst]
  simp only [Bind.bind, Except.bind, hsecond]
  rfl

end mutations

section engines

variable {env : EngineEnv} {w : Workloads}

/-- What a mutation must do to be applied once more: keep the key, and change
nothing in what it made. -/
def MutatesOnce (k : ObjectKey) (mutate : Unstructured → Except GoError Unstructured) : Prop :=
  ∀ o o', o.metadata.key = k → mutate o = .ok o' → o'.metadata.key = k ∧ mutate o' = .ok o'

/-- The object a create-or-update mutates: the one at the place, or a new one. -/
def mutated (w : Workloads) (kind : Kind) (k : ObjectKey) : Unstructured :=
  ((w.objects kind).get k).getD { metadata := { ns := k.ns, name := k.name } }

theorem key_mutated (w : Workloads) (kind : Kind) (k : ObjectKey) :
    (mutated w kind k).metadata.key = k := by
  unfold mutated
  cases hget : (w.objects kind).get k with
  | none => rfl
  | some o => exact Store.key_of_get hget

section createOrUpdate

variable {kind : Kind} {k : ObjectKey} {mutate : Unstructured → Except GoError Unstructured}

theorem run_createOrUpdate_of_error (hfault : ∀ s, env.fault s = none) {e : GoError}
    (h : mutate (mutated w kind k) = .error e) :
    ((createOrUpdate kind k mutate).run env w).result = .error e ∧
      ((createOrUpdate kind k mutate).run env w).state = w := by
  unfold mutated at h
  cases hget : (w.objects kind).get k with
  | none =>
    rw [hget, Option.getD_none] at h
    simp [createOrUpdate, getObject, run_bind, run_engine_call hfault, hget, h]
  | some o =>
    rw [hget, Option.getD_some] at h
    simp [createOrUpdate, getObject, run_bind, run_engine_call hfault, hget, h]

theorem run_createOrUpdate_of_ok (hfault : ∀ s, env.fault s = none) {o' : Unstructured}
    (h : mutate (mutated w kind k) = .ok o') (hkey : o'.metadata.key = k) :
    ((createOrUpdate kind k mutate).run env w).result = .ok () ∧
      ((createOrUpdate kind k mutate).run env w).state =
        w.setObjects kind ((w.objects kind).put o') := by
  unfold mutated at h
  cases hget : (w.objects kind).get k with
  | none =>
    rw [hget, Option.getD_none] at h
    simp [createOrUpdate, getObject, createObject, run_bind, run_engine_call hfault, hget, h, hkey]
  | some o =>
    rw [hget, Option.getD_some] at h
    by_cases hsame : o' = o
    · -- nothing is written, and the object is there
      subst hsame
      simp [createOrUpdate, getObject, run_bind, run_engine_call hfault, hget, h,
        Store.put_of_mem (Store.mem_of_get hget)]
    · simp [createOrUpdate, getObject, updateObject, run_bind, run_engine_call hfault, hget, h,
        hsame, hkey]

theorem triple_createObject_get {P : Workloads → Prop} (s : Site) {o : Unstructured}
    (hkey : o.metadata.key = k) :
    Triple env P (createObject s kind o) (fun _ => True)
      (fun _ w => (w.objects kind).get k = some o) := by
  refine triple_readThen s fun w => ?_
  split
  · exact .throw
  · refine .write trivial fun w _ => ?_
    rw [Workloads.objects_setObjects_self, ← hkey]
    exact Store.get_put_self _ o

theorem triple_updateObject_get {P : Workloads → Prop} (s : Site) {o : Unstructured}
    (hkey : o.metadata.key = k) :
    Triple env P (updateObject s kind o) (fun _ => True)
      (fun _ w => (w.objects kind).get k = some o) := by
  refine triple_readThen s fun w => ?_
  split
  · refine .write trivial fun w _ => ?_
    rw [Workloads.objects_setObjects_self, ← hkey]
    exact Store.get_put_self _ o
  · exact .throw

theorem triple_createOrUpdate_get
    (hkey : ∀ o', mutate (mutated w kind k) = .ok o' → o'.metadata.key = k) :
    Triple env (fun w' => w' = w) (createOrUpdate kind k mutate) (fun _ => True)
      (fun _ w' => ∃ o', mutate (mutated w kind k) = .ok o' ∧ (w'.objects kind).get k = some o') := by
  refine .bind (Q := fun found w' => found = (w.objects kind).get k ∧ w' = w)
    ((triple_getObject _ kind k).post fun found w' h => ⟨by rw [h.2, h.1], h.1⟩) fun found => ?_
  by_cases hfound : found = (w.objects kind).get k
  · unfold mutated at hkey ⊢
    rw [← hfound] at hkey ⊢
    cases found with
    | none =>
      refine .ofExcept_bind fun o' hmutate => ?_
      exact (triple_createObject_get _ (hkey o' hmutate)).post fun _ w' h => ⟨o', hmutate, h⟩
    | some o =>
      refine .ofExcept_bind fun o' hmutate => ?_
      split
      · next hsame => exact .pure fun w' hw' => ⟨o', hmutate, by rw [hw'.2, ← hfound, hsame]⟩
      · exact (triple_updateObject_get _ (hkey o' hmutate)).post fun _ w' h => ⟨o', hmutate, h⟩
  · exact fun w' hw' => absurd hw'.1 hfound

theorem repeatable_createOrUpdate (hfault : ∀ s, env.fault s = none)
    (hmutate : MutatesOnce k mutate) : Repeatable env (createOrUpdate kind k mutate) := by
  intro w
  cases h : mutate (mutated w kind k) with
  | error e =>
    obtain ⟨-, hstate⟩ := run_createOrUpdate_of_error hfault h
    rw [hstate]
    exact ⟨hstate, rfl⟩
  | ok o' =>
    obtain ⟨hkey, hagain⟩ := hmutate _ o' (key_mutated w kind k) h
    obtain ⟨hresult, hstate⟩ := run_createOrUpdate_of_ok hfault h hkey
    have hfound : mutated (w.setObjects kind ((w.objects kind).put o')) kind k = o' := by
      have hget : ((w.objects kind).put o').get k = some o' :=
        hkey ▸ Store.get_put_self (w.objects kind) o'
      rw [mutated, Workloads.objects_setObjects_self, hget, Option.getD_some]
    rw [hstate, hresult]
    rw [← hfound] at hagain
    obtain ⟨hresult', hstate'⟩ := run_createOrUpdate_of_ok hfault (hagain.trans (by rw [hfound])) hkey
    refine ⟨?_, hresult'⟩
    have hmem : o' ∈ ((w.objects kind).put o').items := Store.mem_put.mpr (.inl rfl)
    rw [hstate', Workloads.objects_setObjects_self, Store.put_of_mem hmem,
      Workloads.setObjects_setObjects]

end createOrUpdate

theorem mutatesOnce_mutateBackup (op : Operation) (includedNS : String)
    (params : VeleroParameters) (k : ObjectKey) :
    MutatesOnce k (mutateBackup op includedNS params) := by
  intro o o' hkey h
  exact ⟨by rw [(of_mutateBackup h).1, key_veleroMeta, hkey], mutateBackup_again h⟩

theorem mutatesOnce_mutateRestore (op : Operation) (params : VeleroParameters) (k : ObjectKey) :
    MutatesOnce k (mutateRestore op params) := by
  intro o o' hkey h
  exact ⟨by rw [metadata_of_mutateRestore h, key_veleroMeta, hkey], mutateRestore_again h⟩

theorem mutatesOnce_patchHelmRelease (params : HelmParameters) (k : ObjectKey) :
    MutatesOnce k (patchHelmRelease params) := by
  intro o o' hkey h
  exact ⟨by rw [(of_patchHelmRelease h).2.2, hkey], patchHelmRelease_again h⟩

theorem verifyOperationOwnership_of_lookup {labels : List (String × String)} {op : Operation}
    (h : labels.lookup operationLabelKey = some op.metadata.uid) :
    verifyOperationOwnership labels op = .ok () := by
  have hne : labels ≠ [] := by rintro rfl; exact absurd h (by simp)
  simp [verifyOperationOwnership, hne, h]

section absent

variable {op : Operation} {ns : String}

theorem run_createMaterializedJob_of_existing (hfault : ∀ s, env.fault s = none) {existing : Job}
    (hget : w.jobs.get ⟨ns, materializedName op⟩ = some existing) (job : Job) :
    (createMaterializedJob op job ns).run env w =
      ⟨verifyOperationOwnership existing.metadata.labels op, w, []⟩ := by
  simp [createMaterializedJob, getJob, run_bind, run_engine_call hfault, hget, Except.mapError,
    Outcome.after]

theorem run_createMaterializedJob_of_absent (hfault : ∀ s, env.fault s = none) {job : Job}
    (hns : job.metadata.ns = ns) (hget : w.jobs.get ⟨ns, materializedName op⟩ = none) :
    (createMaterializedJob op job ns).run env w =
      ⟨.ok (), { w with jobs := w.jobs.put (materializedJob op job ns) },
        [.jobCreated (materializedJob op job ns)]⟩ := by
  simp [createMaterializedJob, getJob, createJob, run_bind, run_engine_call hfault, hget,
    Except.mapError, Outcome.after, ObjectMeta.key, hns, materializedJob]

theorem repeatable_createMaterializedJob (hfault : ∀ s, env.fault s = none) {job : Job}
    (hns : job.metadata.ns = ns)
    (hlabels : job.metadata.labels.lookup operationLabelKey = some op.metadata.uid) :
    Repeatable env (createMaterializedJob op job ns) := by
  intro w
  cases hget : w.jobs.get ⟨ns, materializedName op⟩ with
  | some existing =>
    have hrun := run_createMaterializedJob_of_existing hfault hget job
    rw [hrun, hrun]
    exact ⟨rfl, rfl⟩
  | none =>
    have hkey : (materializedJob op job ns).metadata.key = ⟨ns, materializedName op⟩ := by
      simp [materializedJob, ObjectMeta.key, hns]
    have hget' : (w.jobs.put (materializedJob op job ns)).get ⟨ns, materializedName op⟩ =
        some (materializedJob op job ns) := hkey ▸ Store.get_put_self w.jobs _
    have hown : verifyOperationOwnership (materializedJob op job ns).metadata.labels op = .ok () :=
      verifyOperationOwnership_of_lookup (by simpa [materializedJob] using hlabels)
    rw [run_createMaterializedJob_of_absent hfault hns hget,
      run_createMaterializedJob_of_existing hfault hget' job, hown]
    exact ⟨rfl, rfl⟩

theorem repeatable_jobMaterialize (hfault : ∀ s, env.fault s = none) (op : Operation)
    (target : ApplicationInstance) : Repeatable env (jobMaterialize op target) := by
  refine .ofExcept_bind fun params _ => ?_
  split
  · exact .of_idle (.throw _)
  · exact repeatable_createMaterializedJob hfault rfl (lookup_applyOperationLabels _ _)

theorem repeatable_helmHookJobMaterialize (hfault : ∀ s, env.fault s = none) (op : Operation)
    (target : ApplicationInstance) : Repeatable env (helmHookJobMaterialize op target) := by
  refine .ofExcept_bind fun params _ => ?_
  split
  · exact .of_idle (.throw _)
  · split
    · exact .of_idle (.throw _)
    · exact repeatable_createMaterializedJob hfault rfl (lookup_applyOperationLabels _ _)

/-- The part of `WorkflowEngine.Materialize` behind the checks. -/
def createMaterializedWorkflow (op : Operation) (ns : String) (params : WorkflowParameters) :
    EngineM Unit := do
  match ← (getObject .getExisting .workflow ⟨ns, materializedName op⟩).mapError
      (·.wrap "get workflow") with
  | some existing => Prog.ofExcept (verifyOperationOwnership existing.metadata.labels op)
  | none => do
      let body ← Prog.ofExcept (workflowBody params)
      (createObject .create .workflow (materializedWorkflow op ns body)).mapError
        (·.wrap "create workflow")

theorem key_materializedWorkflow (op : Operation) (ns : String) (body : Fields) :
    (materializedWorkflow op ns body).metadata.key = ⟨ns, materializedName op⟩ := by
  simp [materializedWorkflow, ObjectMeta.key]

theorem run_createMaterializedWorkflow_of_existing (hfault : ∀ s, env.fault s = none)
    {existing : Unstructured}
    (hget : (w.objects .workflow).get ⟨ns, materializedName op⟩ = some existing)
    (params : WorkflowParameters) :
    (createMaterializedWorkflow op ns params).run env w =
      ⟨verifyOperationOwnership existing.metadata.labels op, w, []⟩ := by
  simp [createMaterializedWorkflow, getObject, run_bind, run_engine_call hfault, hget,
    Except.mapError, Outcome.after]

theorem repeatable_createMaterializedWorkflow (hfault : ∀ s, env.fault s = none)
    (params : WorkflowParameters) : Repeatable env (createMaterializedWorkflow op ns params) := by
  intro w
  cases hget : (w.objects .workflow).get ⟨ns, materializedName op⟩ with
  | some existing =>
    have hrun := run_createMaterializedWorkflow_of_existing hfault hget params
    rw [hrun, hrun]
    exact ⟨rfl, rfl⟩
  | none =>
    cases hbody : workflowBody params with
    | error e =>
      have hrun : ((createMaterializedWorkflow op ns params).run env w).state = w := by
        simp [createMaterializedWorkflow, getObject, run_bind, run_engine_call hfault, hget,
          hbody, Except.mapError, Outcome.after]
      rw [hrun]
      exact ⟨hrun, rfl⟩
    | ok body =>
      have hkey := key_materializedWorkflow op ns body
      have hrun : (createMaterializedWorkflow op ns params).run env w =
          ⟨.ok (), w.setObjects .workflow
            ((w.objects .workflow).put (materializedWorkflow op ns body)),
            [.created .workflow (materializedWorkflow op ns body)]⟩ := by
        simp [createMaterializedWorkflow, getObject, createObject, run_bind,
          run_engine_call hfault, hget, hbody, hkey, Except.mapError, Outcome.after]
      have hget' : ((w.setObjects .workflow ((w.objects .workflow).put
          (materializedWorkflow op ns body))).objects .workflow).get ⟨ns, materializedName op⟩ =
          some (materializedWorkflow op ns body) := by
        rw [Workloads.objects_setObjects_self]
        exact hkey ▸ Store.get_put_self _ _
      have hown : verifyOperationOwnership (materializedWorkflow op ns body).metadata.labels op =
          .ok () := verifyOperationOwnership_of_lookup (by simp [materializedWorkflow])
      rw [hrun, run_createMaterializedWorkflow_of_existing hfault hget' params, hown]
      exact ⟨rfl, rfl⟩

theorem repeatable_workflowMaterialize (hfault : ∀ s, env.fault s = none) (op : Operation)
    (target : ApplicationInstance) : Repeatable env (workflowMaterialize op target) := by
  refine .ofExcept_bind fun params _ => ?_
  split
  · exact .of_idle (.throw _)
  · exact repeatable_createMaterializedWorkflow hfault params

end absent

theorem repeatable_veleroMaterialize (hfault : ∀ s, env.fault s = none) (veleroNs : String)
    (op : Operation) (target : ApplicationInstance) :
    Repeatable env (veleroMaterialize veleroNs op target) := by
  refine .ofExcept_bind fun params _ => ?_
  split
  · exact repeatable_createOrUpdate hfault (mutatesOnce_mutateBackup _ _ _ _)
  · unfold materializeRestore
    split
    · exact .of_idle (.throw _)
    · exact repeatable_createOrUpdate hfault (mutatesOnce_mutateRestore _ _ _)
  · exact .of_idle (.throw _)

/-- The part of `HelmEngine.Materialize` behind the checks. -/
def upgradeRelease (params : HelmParameters) (k : ObjectKey) : EngineM Unit := do
  match ← (getObject .getExisting .helmRelease k).mapError (·.wrap "get helmrelease") with
  | none => Prog.throw ((notFound Kind.helmRelease.resource k.name).wrap "get helmrelease")
  | some _ => createOrUpdate .helmRelease k (patchHelmRelease params)

theorem run_upgradeRelease_of_some (hfault : ∀ s, env.fault s = none) {k : ObjectKey}
    {o : Unstructured} (hget : (w.objects .helmRelease).get k = some o) (params : HelmParameters) :
    (upgradeRelease params k).run env w =
      (createOrUpdate .helmRelease k (patchHelmRelease params)).run env w := by
  have hread : (getObject .getExisting .helmRelease k).run env w = ⟨.ok (some o), w, []⟩ := by
    rw [← hget]; exact run_engine_read hfault _ _
  simp only [upgradeRelease, run_bind, run_mapError, hread, Except.mapError]
  rfl

theorem patched_of_helmMaterialize {op : Operation} {target : ApplicationInstance}
    {params : HelmParameters} {release : ReleaseSpec} (hparams : parseHelmParameters op = .ok params)
    (hrelease : target.spec.release = some release)
    (hok : ((helmMaterialize op target).run env w).result = .ok ()) :
    ∃ hr, patchHelmRelease params (mutated w .helmRelease ⟨target.metadata.ns, release.name⟩) =
        .ok hr ∧
      (((helmMaterialize op target).run env w).state.objects .helmRelease).get
        ⟨target.metadata.ns, release.name⟩ = some hr := by
  have hrun : (helmMaterialize op target).run env w =
      (upgradeRelease params ⟨target.metadata.ns, release.name⟩).run env w := by
    rw [helmMaterialize, hparams, hrelease]
    rfl
  rw [hrun] at hok ⊢
  generalize (⟨target.metadata.ns, release.name⟩ : ObjectKey) = k at hok ⊢
  have htriple : Triple env (fun w' => w' = w) (upgradeRelease params k) (fun _ => True)
      (fun _ w' => ∃ hr, patchHelmRelease params (mutated w .helmRelease k) = .ok hr ∧
        (w'.objects .helmRelease).get k = some hr) := by
    refine .bind (.mapError (idle_getObject _ _ _).triple) fun found => ?_
    cases found with
    | none => exact .throw
    | some hr =>
      refine triple_createOrUpdate_get fun hr' h => ?_
      exact ((mutatesOnce_patchHelmRelease params k) _ _ (key_mutated _ _ _) h).1
  exact (htriple w rfl).2 () hok

theorem exists_get_createOrUpdate (hfault : ∀ s, env.fault s = none) {kind : Kind} {k : ObjectKey}
    {mutate : Unstructured → Except GoError Unstructured} (hmutate : MutatesOnce k mutate)
    {o : Unstructured} (hget : (w.objects kind).get k = some o) :
    ∃ o', (((createOrUpdate kind k mutate).run env w).state.objects kind).get k = some o' := by
  cases h : mutate (mutated w kind k) with
  | error e => rw [(run_createOrUpdate_of_error hfault h).2]; exact ⟨o, hget⟩
  | ok o' =>
    have hkey := (hmutate _ o' (key_mutated w kind k) h).1
    rw [(run_createOrUpdate_of_ok hfault h hkey).2, Workloads.objects_setObjects_self]
    exact ⟨o', hkey ▸ Store.get_put_self _ _⟩

theorem repeatable_helmMaterialize (hfault : ∀ s, env.fault s = none) (op : Operation)
    (target : ApplicationInstance) : Repeatable env (helmMaterialize op target) := by
  refine .ofExcept_bind fun params _ => ?_
  split
  · exact .of_idle (.throw _)
  · next release _ =>
    change Repeatable env (upgradeRelease params ⟨target.metadata.ns, release.name⟩)
    generalize (⟨target.metadata.ns, release.name⟩ : ObjectKey) = k
    have hmutate := mutatesOnce_patchHelmRelease params k
    intro w
    cases hget : (w.objects .helmRelease).get k with
    | none =>
      have hrun : ((upgradeRelease params k).run env w).state = w := by
        simp [upgradeRelease, getObject, run_bind, run_engine_call hfault, hget, Except.mapError,
          Outcome.after]
      rw [hrun]
      exact ⟨hrun, rfl⟩
    | some o =>
      obtain ⟨o', hget'⟩ := exists_get_createOrUpdate hfault hmutate hget
      rw [run_upgradeRelease_of_some hfault hget, run_upgradeRelease_of_some hfault hget']
      exact repeatable_createOrUpdate hfault hmutate w

theorem repeatable_materialize_builtin (hfault : ∀ s, env.fault s = none) {veleroNs : String}
    {engine : Engine} (h : engine ∈ (builtinRegistry veleroNs).engines) (op : Operation)
    (target : ApplicationInstance) : Repeatable env (engine.materialize op target) := by
  simp only [builtinRegistry, List.mem_cons, List.not_mem_nil, or_false] at h
  rcases h with rfl | rfl | rfl | rfl | rfl
  · exact repeatable_helmMaterialize hfault op target
  · exact repeatable_veleroMaterialize hfault veleroNs op target
  · exact repeatable_jobMaterialize hfault op target
  · exact repeatable_workflowMaterialize hfault op target
  · exact repeatable_helmHookJobMaterialize hfault op target

end engines

end VWorkspace
