import VWorkspaceOperator.Agent.Applier

/-!
# Calls that do not fail

What the agent does when every API call succeeds: keys are recorded, namespaces
are there, and a document is applied, whoever owns the fields it sets.
-/

namespace VWorkspace.Agent

open Kit Prog AgentM

structure QuietEnv where
  env : AgentEnv
  fault : ∀ s, env.fault s = none
  lost : ∀ s, env.lost s = none

variable {env : AgentEnv} (q : QuietEnv) (st : AgentState) (id : ResourceId)

theorem result_persistLocked_of_quiet (store : IdempotencyStore) (st : AgentState) (keys : KeySet) :
    ((store.persistLocked keys).run q.env st).result = .ok () := by
  have hwrite : ∀ raw, ((store.writeKeys raw).run q.env st).result = .ok () := by
    intro raw
    rw [IdempotencyStore.writeKeys, run_bind, run_getObject_of_none (q.fault _)]
    cases hget : st.objects.get store.configMap with
    | none =>
      simp only [createObject, run_bind, run_call_of_none (q.fault _), run_get, run_ask, hget]
      simp [settle, q.lost, Outcome.after]
    | some cm =>
      dsimp only
      split
      · rfl
      · simp only [updateField, run_bind, run_call_of_none (q.fault _), run_get, hget]
        simp [settle, q.lost, Outcome.after]
  simp only [IdempotencyStore.persistLocked, run_bind, run_ask, run_mapError]
  simp [Outcome.after, hwrite, Except.mapError]

theorem result_record_of_quiet {store : IdempotencyStore} {st : AgentState} {key : String}
    {keys : KeySet} (hkey : trimSpace key ≠ "") (hloaded : store.loaded q.env st = .ok keys) :
    ((store.record key).run q.env st).result = .ok () := by
  by_cases hmem : trimSpace key ∈ keys
  · rw [IdempotencyStore.run_record_of_mem hkey hloaded hmem]
  · rw [IdempotencyStore.run_record_of_not_mem hkey hloaded hmem]
    exact result_persistLocked_of_quiet q store _ _

theorem result_ensureTargetNamespace_of_quiet (ns : String) (st : AgentState) :
    ((ensureTargetNamespace ns).run q.env st).result = .ok () := by
  unfold ensureTargetNamespace
  dsimp only
  split
  · rfl
  · rw [run_bind, run_mapError, run_getObject_of_none (q.fault _)]
    cases hget : st.objects.get (namespaceId (trimSpace ns)) with
    | some o => rfl
    | none =>
      simp only [Except.mapError, run_bind, run_attempt, createObject,
        run_call_of_none (q.fault _), run_get, run_ask, hget]
      simp [settle, q.lost, Outcome.after]

def patchedObject (env : AgentEnv) (st : AgentState) (id : ResourceId) (manager : String)
    (config : List (FieldPath × Json)) : ApiObject :=
  let o := (st.objects.get id).getD ⟨id, env.newUid, 1, Store.empty⟩
  let fields := config.foldl (applyField manager) (release manager (config.map Prod.fst) o.fields)
  if (st.objects.get id).isSome then o.withFields fields else { o with fields }

theorem id_patchedObject (env : AgentEnv) (st : AgentState) (id : ResourceId) (manager : String)
    (config : List (FieldPath × Json)) : (patchedObject env st id manager config).id = id := by
  unfold patchedObject
  cases hget : st.objects.get id with
  | none => rfl
  | some o => exact Store.key_of_get hget

theorem get_patched (env : AgentEnv) (st : AgentState) (id : ResourceId) (manager : String)
    (config : List (FieldPath × Json)) :
    ((AgentEvent.patched (patchedObject env st id manager config)).act st).objects.get id =
      some (patchedObject env st id manager config) := by
  have hput := Store.get_put_self st.objects (patchedObject env st id manager config)
  rwa [ApiObject.keyed_key, id_patchedObject] at hput

theorem value_patchedObject {st : AgentState} {id : ResourceId} {manager : String}
    {config : List (FieldPath × Json)} {p : FieldPath} {v : Json} (h : Sets config p v) :
    (patchedObject env st id manager config).fields.value p = some v := by
  unfold patchedObject
  dsimp only
  split
  · exact value_foldl_applyField manager _ h
  · exact value_foldl_applyField manager _ h

theorem run_patchApply_of_quiet (doc : Fields) :
    (patchApply id doc).run q.env st =
      ⟨.ok (), (AgentEvent.patched (patchedObject q.env st id fieldManager (configOf doc))).act st,
        [.patched (patchedObject q.env st id fieldManager (configOf doc))]⟩ := by
  simp only [patchApply, run_mapError, applyObject, run_bind, run_call_of_none (q.fault _), run_get,
    run_ask, applyConfig_force]
  simp [settle, q.lost, Outcome.after, Except.mapError, patchedObject]

theorem run_getPresent_of_quiet {st : AgentState} (s : Site) (what : String) {id : ResourceId}
    {o : ApiObject} (h : st.objects.get id = some o) :
    (getPresent s what id).run q.env st = ⟨.ok o, st, []⟩ := by
  rw [getPresent, run_mapError, run_bind, run_getObject_of_none (q.fault _)]
  simp [h, Outcome.after, Except.mapError]

theorem run_patchApply_bind_of_quiet {β : Type} (doc : Fields) (what : String)
    (k : ApiObject → AgentM β) :
    let o := patchedObject q.env st id fieldManager (configOf doc)
    (patchApply id doc >>= fun _ => getPresent .getApplied what id >>= k).run q.env st =
      ((k o).run q.env ((AgentEvent.patched o).act st)).after [.patched o] := by
  intro o
  rw [run_bind, run_patchApply_of_quiet]
  dsimp only
  rw [run_bind, run_getPresent_of_quiet q _ _ (get_patched _ _ _ _ _)]
  rfl

theorem result_apply_of_quiet {β : Type} {st : AgentState} {x : AgentM Unit}
    (hx : (x.run q.env st).result = .ok ()) (id : ResourceId) (doc : Fields) (what : String)
    (f : ApiObject → β) :
    ∃ o, ((x >>= fun _ => patchApply id doc >>= fun _ => getPresent .getApplied what id >>=
      fun o => pure (f o)).run q.env st).result = .ok (f o) := by
  rw [run_bind_of_ok hx, Outcome.result_after, run_patchApply_bind_of_quiet, Outcome.result_after]
  exact ⟨_, rfl⟩

namespace Applier

variable {a : Applier} {job : Job} {doc : Fields}

theorem applyManifest_of_quiet (hdoc : a.manifest job.payload = .ok doc) :
    ∃ st', ((a.applyManifest job).run q.env st).state =
        (AgentEvent.patched (patchedObject q.env st' (idOf doc) fieldManager (configOf doc))).act
          st' ∧
      ∀ e, ((a.applyManifest job).run q.env st).result = .error e ↔
        ((idOf doc).group = "velero.io" ∧ (idOf doc).kind = "BackupStorageLocation") ∧
          waitResult q.env (idOf doc) job.expiresAt = .error e := by
  have hns := result_ensureTargetNamespace_of_quiet q (namespaceOf doc) st
  have hok : ((Prog.ofExcept (a.manifest job.payload) : AgentM Fields).run q.env st).result =
      .ok doc := hdoc
  refine ⟨((ensureTargetNamespace (namespaceOf doc)).run q.env st).state, ?_⟩
  rw [applyManifest, run_bind_of_ok hok, Outcome.state_after, Outcome.result_after, run_ofExcept]
  dsimp only
  rw [run_bind_of_ok hns, Outcome.state_after, Outcome.result_after, run_patchApply_bind_of_quiet,
    Outcome.state_after, Outcome.result_after, id_patchedObject]
  split
  · next hwaits =>
    refine ⟨((idle_waitForBSLAvailable _ _).bind (fun _ => Idle.pure _) _ _).1, fun e => ?_⟩
    rw [run_bind, and_iff_right hwaits]
    have hwait : ∀ st, (waitForBSLAvailable (idOf doc) job.expiresAt).run q.env st =
        ⟨waitResult q.env (idOf doc) job.expiresAt, st, []⟩ := fun st => rfl
    rw [hwait]
    cases waitResult q.env (idOf doc) job.expiresAt with
    | error e' => simp
    | ok o => simp [Outcome.after]
  · next hnot => exact ⟨rfl, fun e => ⟨fun h => absurd h (by simp), fun h => absurd h.1 hnot⟩⟩

theorem result_applyIntent {st : AgentState} {payload : Bytes} {intent : Intent}
    (h : a.decodeIntent payload = .ok intent) :
    ((a.applyIntent payload).run env st).result = ((realize intent).run env st).result := by
  have hok : ((Prog.ofExcept (a.decodeIntent payload) : AgentM Intent).run env st).result =
      .ok intent := h
  rw [applyIntent, run_bind_of_ok hok, Outcome.result_after, run_ofExcept]

theorem result_ensureNamespacesForInstance_of_quiet (app : Fields) (st : AgentState) :
    ((ensureNamespacesForInstance app).run q.env st).result = .ok () := by
  rw [ensureNamespacesForInstance,
    run_bind_of_ok (result_ensureTargetNamespace_of_quiet q _ st), Outcome.result_after]
  dsimp only
  split
  · exact result_ensureTargetNamespace_of_quiet q _ _
  · rfl

/-- What goes wrong with a job where nothing fails: its payload cannot be read, or the storage
location it applies does not become available. -/
def OwnError (a : Applier) (job : Job) (env : AgentEnv) (e : AgentError) : Prop :=
  a.document job = some (.error e) ∨
    job.kind = .apply ∧ ∃ id doc, a.document job = some (.ok (id, doc)) ∧
      (id.group = "velero.io" ∧ id.kind = "BackupStorageLocation") ∧
        waitResult env id job.expiresAt = .error e

theorem carryOut_of_unreadable {st : AgentState} {e e' : AgentError}
    (h : a.document job = some (.error e')) :
    ((a.carryOut job).run env st).result = .error e ↔ OwnError a job env e := by
  rw [result_carryOut_of_unreadable h, OwnError, h]
  simp

theorem carryOut_of_quiet (st : AgentState) (h : (a.document job).isSome = true) (e : AgentError) :
    ((a.carryOut job).run q.env st).result = .error e ↔ OwnError a job q.env e := by
  obtain ⟨d, hd⟩ := Option.isSome_iff_exists.mp h
  have hintent : job.kind = .intent → (∃ ref, ((a.carryOut job).run q.env st).result = .ok ref) →
      (∃ x, d = .ok x) →
      (((a.carryOut job).run q.env st).result = .error e ↔ OwnError a job q.env e) := by
    rintro hkind ⟨ref, hok⟩ ⟨x, rfl⟩
    rw [hok]
    refine ⟨fun he => absurd he (by simp), ?_⟩
    rintro (hbad | ⟨happly, -⟩)
    · exact absurd (hd.symm.trans hbad) (by simp)
    · exact absurd (hkind.symm.trans happly) (by simp)
  cases applying_of_document hd with
  | manifest hkind doc hdoc =>
    obtain ⟨st', -, hresult⟩ := applyManifest_of_quiet q st hdoc
    have hcarry : a.carryOut job = a.applyManifest job := by rw [carryOut, hkind]
    rw [hcarry, hresult e, OwnError, hd]
    constructor
    · exact fun he => .inr ⟨hkind, _, _, rfl, he⟩
    · rintro (hbad | ⟨-, id, doc', heq, he⟩)
      · exact absurd hbad (by simp)
      · obtain ⟨rfl, rfl⟩ := Prod.mk.inj (Except.ok.inj (Option.some.inj heq))
        exact he
  | ensureInstance hkind app happ =>
    refine hintent hkind ?_ ⟨_, rfl⟩
    rw [carryOut, hkind]
    dsimp only
    rw [result_applyIntent happ, realize]
    obtain ⟨o, ho⟩ := result_apply_of_quiet q
      (result_ensureNamespacesForInstance_of_quiet q app st)
      (instanceId (namespaceOf app) (nameOf app)) app "get application instance"
      (objectRef resourceVersion)
    exact ⟨_, ho⟩
  | requestOperation hkind op hop =>
    refine hintent hkind ?_ ⟨_, rfl⟩
    rw [carryOut, hkind]
    dsimp only
    rw [result_applyIntent hop, realize]
    obtain ⟨o, ho⟩ := result_apply_of_quiet q
      (result_ensureTargetNamespace_of_quiet q (namespaceOf op) st)
      (operationId (namespaceOf op) (nameOf op)) op "get operation" (objectRef resourceVersion)
    exact ⟨_, ho⟩
  | badManifest hkind e' he' => exact carryOut_of_unreadable hd
  | badIntent hkind e' he' => exact carryOut_of_unreadable hd

theorem succeeded_of_quiet {store : IdempotencyStore} {st : AgentState}
    (hstore : a.idempotency = some store) {ref : AppliedRef}
    (hpre : ((a.precheck job).run q.env st).result = .ok none)
    (hact : ((a.carryOut job).run q.env ((a.precheck job).run q.env st).state).result = .ok ref) :
    ∃ outcome, ((a.applyJob job).run q.env st).result = .ok outcome ∧
      outcome.result.outcome = .succeeded := by
  rw [(applyJob_of_carried hpre hact).1]
  by_cases hkey : trimSpace job.idempotencyKey = ""
  · rw [run_remember_of_blank hkey]
    exact ⟨_, rfl, rfl⟩
  · -- the keys were loaded when the job was taken up
    obtain ⟨keys, hcache⟩ := cache_of_taken_up hstore hkey hpre
    have hkept : ((a.carryOut job).run q.env ((a.precheck job).run q.env st).state).state.cache =
        ((a.precheck job).run q.env st).state.cache := (actsOn_carryOut a job).cache
    rw [← hkept] at hcache
    rw [run_remember hstore hkey, run_mapError,
      result_record_of_quiet q hkey (IdempotencyStore.loaded_of_cache hcache)]
    exact ⟨_, rfl, rfl⟩

end Applier

end VWorkspace.Agent
