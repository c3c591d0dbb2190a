import VWorkspaceOperator.Agent.Poller
import VWorkspaceOperator.Agent.Quiet
import VWorkspaceOperator.Properties.Replay

/-!
# Jobs that are closed already

The control plane answers the acknowledgement of a job that has a result with 409.
`AckJob` takes this answer for success, and `processJob` goes on as with any other
job: only the expiry of the job and its idempotency key stand between a job that is
delivered again and the cluster.  A job without a key is applied as often as it is
delivered.
-/

namespace VWorkspace.Agent

open Kit Prog AgentM

def Recalls (store : IdempotencyStore) (key : String) (st : AgentState) : Prop :=
  match st.cache with
  | some keys => trimSpace key ∈ keys
  | none => store.ns = "" ∨ ∀ keys, store.persisted st.objects = .ok keys → trimSpace key ∈ keys

section recalls

variable {a : Applier} {store : IdempotencyStore} {key : String} {st : AgentState} {env : AgentEnv}
  {keys : KeySet} {job : Job}

theorem mem_of_recalls (h : Recalls store key st) (hloaded : store.loaded env st = .ok keys) :
    trimSpace key ∈ keys := by
  rw [Recalls] at h
  cases hcache : st.cache with
  | some cached =>
    rw [IdempotencyStore.loaded_of_cache hcache, Except.ok.injEq] at hloaded
    rw [hcache] at h
    exact hloaded ▸ h
  | none =>
    rw [hcache] at h
    rcases h with hns | hmem
    · rw [IdempotencyStore.loaded, hcache, if_pos hns] at hloaded
      exact absurd hloaded (by simp)
    · exact hmem keys (IdempotencyStore.persisted_of_loaded hcache hloaded)

theorem not_mem_of_not_recalls (h : ¬Recalls store key st) (hfault : env.fault .loadKeys = none) :
    ∃ keys, store.loaded env st = .ok keys ∧ trimSpace key ∉ keys := by
  rw [Recalls] at h
  cases hcache : st.cache with
  | some cached =>
    rw [hcache] at h
    exact ⟨cached, IdempotencyStore.loaded_of_cache hcache, h⟩
  | none =>
    rw [hcache] at h
    obtain ⟨hns, keys, hkeys, hmem⟩ : store.ns ≠ "" ∧
        ∃ keys, store.persisted st.objects = .ok keys ∧ trimSpace key ∉ keys := by
      simpa using h
    refine ⟨keys, ?_, hmem⟩
    rw [IdempotencyStore.loaded, hcache, if_neg hns, hfault]
    exact hkeys

theorem precheck_eq_none (hstore : a.idempotency = some store)
    (hexp : Applier.isExpired job env.now = false) (hfault : env.fault .loadKeys = none)
    (h : ¬(trimSpace job.idempotencyKey ≠ "" ∧ Recalls store job.idempotencyKey st)) :
    ((a.precheck job).run env st).result = .ok none := by
  by_cases hkey : trimSpace job.idempotencyKey = ""
  · rw [Applier.run_precheck_of_blank hexp hkey]
  · have hforgotten : ¬Recalls store job.idempotencyKey st := fun hrec => h ⟨hkey, hrec⟩
    obtain ⟨keys, hloaded, hmem⟩ := not_mem_of_not_recalls hforgotten hfault
    rw [Applier.run_precheck_of_key hexp hstore hkey, hloaded]
    simp [hmem]

end recalls

theorem objects_processJob (a : Applier) (job : Job) (env : PollerEnv) (st : PollerState) :
    ((processJob a job).run env st).state.agent.objects = st.agent.objects ∨
      ((processJob a job).run env st).state.agent.objects =
        ((a.applyJob job).run env.agent st.agent).state.objects := by
  cases hack : ((ackJob job.id).run env st).result with
  | error e => exact .inl (by rw [(processJob_of_refused hack).1])
  | ok u => exact .inr (by rw [(processJob_spec hack).1])

theorem result_ackJob_of_closed {env : PollerEnv} {st : PollerState} {id : String}
    (hhttp : env.http .ack = none) (hclosed : st.plane.closed id = true) :
    ((ackJob id).run env st).result = .ok () := by
  simp [ackJob, request, run_bind, hhttp, hclosed, accept, closedAlready, Outcome.after]

def labelledNamespace (tier : String) : Fields :=
  [("apiVersion", .str "v1"), ("kind", .str "Namespace"),
    ("metadata", .obj [("name", .str "demo"), ("labels", .obj [("tier", .str tier)])])]

def namespacePayload (tier : String) : Bytes :=
  bytesOf ("\x7b\"apiVersion\":\"v1\",\"kind\":\"Namespace\",\"metadata\":\x7b\"name\":\"demo\"," ++
    "\"labels\":\x7b\"tier\":\"" ++ tier ++ "\"\x7d\x7d\x7d")

def tierPath : FieldPath := ["metadata", "labels", "tier"]

theorem idOf_namespace {doc : Fields} (hversion : nestedString ["apiVersion"] doc = "v1")
    (hkind : nestedString ["kind"] doc = "Namespace") (hns : namespaceOf doc = "") :
    idOf doc = namespaceId (nameOf doc) := by
  have hgv : parseGroupVersion "v1" = .ok ("", "v1") := by decide +kernel
  rw [idOf, groupVersionKind, hversion, hgv, hkind, hns]
  rfl

theorem ensureManagedLabels_labelledNamespace (a : Applier) (tier : String) :
    idOf (a.ensureManagedLabels (labelledNamespace tier)) = namespaceId "demo" ∧
      Sets (configOf (a.ensureManagedLabels (labelledNamespace tier))) tierPath (.str tier) := by
  unfold Applier.ensureManagedLabels
  split
  · exact ⟨idOf_namespace rfl rfl rfl, [],
      [(["metadata", "labels", managedByKey], .str "control-plane")], rfl, by decide⟩
  · refine ⟨idOf_namespace rfl rfl rfl, [],
      [(["metadata", "labels", managedByKey], .str "control-plane"),
        (["metadata", "labels", clusterIDKey], .str a.clusterID)], rfl, ?_⟩
    simp [tierPath, managedByKey, clusterIDKey]

theorem label_of_taken_up {a : Applier} {store : IdempotencyStore}
    (hstore : a.idempotency = some store) (q : QuietEnv) {st : AgentState} {job : Job}
    (hkind : job.kind = .apply) {tier : String}
    (hpayload : decodeUnstructured job.payload = .ok (labelledNamespace tier))
    (hpre : ((a.precheck job).run q.env st).result = .ok none) :
    ∃ o, ((a.applyJob job).run q.env st).state.objects.get (namespaceId "demo") = some o ∧
      o.fields.value tierPath = some (.str tier) := by
  have hdoc : a.manifest job.payload = .ok (a.ensureManagedLabels (labelledNamespace tier)) := by
    rw [Applier.manifest, hpayload]
  obtain ⟨hid, hsets⟩ := ensureManagedLabels_labelledNamespace a tier
  have hne : namespaceId "demo" ≠ store.configMap := by
    simp [namespaceId, IdempotencyStore.configMap]
  obtain ⟨st', hstate, -⟩ :=
    Applier.applyManifest_of_quiet q ((a.precheck job).run q.env st).state hdoc
  have hcarry : a.carryOut job = a.applyManifest job := by
    rw [Applier.carryOut, hkind]
  rw [Applier.get_applyJob_of_ne hstore hpre hne, hcarry, hstate, hid]
  exact ⟨_, get_patched q.env st' (namespaceId "demo") fieldManager _, value_patchedObject hsets⟩

theorem closed_job_inert_iff (a : Applier) (store : IdempotencyStore)
    (hstore : a.idempotency = some store) (st : PollerState) (id key : String)
    (expiresAt : Option ℕ) (now : ℕ) (hclosed : st.plane.closed id = true) :
    (∀ kind payload (env : PollerEnv), env.agent.now = now →
      ((processJob a ⟨id, kind, payload, key, expiresAt⟩).run env st).state.agent.objects =
        st.agent.objects) ↔
      (∃ t, expiresAt = some t ∧ t < now) ∨
        (trimSpace key ≠ "" ∧ Recalls store key st.agent) := by
  have hexpired : ∀ kind payload, Applier.isExpired ⟨id, kind, payload, key, expiresAt⟩ now = true ↔
      ∃ t, expiresAt = some t ∧ t < now := by
    intro kind payload
    cases expiresAt with
    | none => simp [Applier.isExpired]
    | some t => simp [Applier.isExpired]
  constructor
  · intro h
    by_contra hnot
    rw [not_or] at hnot
    let q : QuietEnv := ⟨{ now }, fun _ => rfl, fun _ => rfl⟩
    have hlabel : ∀ tier, decodeUnstructured (namespacePayload tier) = .ok (labelledNamespace tier) →
        ∃ o, st.agent.objects.get (namespaceId "demo") = some o ∧
          o.fields.value tierPath = some (.str tier) := by
      intro tier hpayload
      let job : Job := ⟨id, .apply, namespacePayload tier, key, expiresAt⟩
      have hpre : ((a.precheck job).run q.env st.agent).result = .ok none :=
        precheck_eq_none hstore (Bool.eq_false_iff.mpr fun he => hnot.1 ((hexpired _ _).mp he)) rfl
          hnot.2
      have hack : ((ackJob job.id).run { agent := q.env } st).result = .ok () :=
        result_ackJob_of_closed rfl hclosed
      have hsame := h .apply (namespacePayload tier) { agent := q.env } rfl
      rw [(processJob_spec hack).1] at hsame
      rw [← hsame]
      exact label_of_taken_up hstore q rfl hpayload hpre
    obtain ⟨o, ho, hgold⟩ := hlabel "gold" (by decide +kernel)
    obtain ⟨o', ho', hsilver⟩ := hlabel "silver" (by decide +kernel)
    rw [ho, Option.some.injEq] at ho'
    rw [ho', hsilver] at hgold
    exact absurd hgold (by decide)
  · intro h kind payload env hnow
    rcases objects_processJob a ⟨id, kind, payload, key, expiresAt⟩ env st with hsame | happly
    · exact hsame
    · rw [happly]
      refine (Applier.applyJob_of_answered hstore ?_).2
      rw [hnow, hexpired]
      exact h.imp_right fun ⟨hkey, hrec⟩ => ⟨hkey, fun _ => mem_of_recalls hrec⟩

def deleteJob : Job where
  id := "job-2"
  kind := .delete
  payload := bytesOf "\x7b\"apiVersion\":\"v1\",\"kind\":\"Service\",\"name\":\"web\"\x7d"

/-- The job has a result, and somebody has made the Service again. -/
def closedAndRecreated : PollerState where
  agent := ⟨Store.empty.put ⟨⟨"", "Service", "", "web"⟩, "uid-2", 1, Store.empty⟩, none⟩
  plane := ⟨[("job-2", { outcome := .succeeded, timestamp := 90 })]⟩

def closedAndCached : PollerState :=
  { closedAndRecreated with
    agent := { closedAndRecreated.agent with cache := some (KeySet.ofList ["web@1"]) } }

theorem closed_job_inert_cached :
    ((processJob systemAgent ⟨"job-2", deleteJob.kind, deleteJob.payload, "web@1", none⟩).run
      { agent := calm } closedAndCached).state.agent.objects = closedAndCached.agent.objects :=
  (closed_job_inert_iff systemAgent systemStore rfl closedAndCached "job-2" "web@1" none 100
    (by decide +kernel)).mpr (.inr ⟨by decide +kernel,
      show trimSpace "web@1" ∈ KeySet.ofList ["web@1"] by decide +kernel⟩) _ _ _ rfl

theorem closed_job_deletes_again :
    closedAndRecreated.plane.closed deleteJob.id = true ∧
      (closedAndRecreated.agent.objects.get ⟨"", "Service", "", "web"⟩).isSome = true ∧
      (((processJob systemAgent deleteJob).run { agent := calm }
        closedAndRecreated).state.agent.objects.get ⟨"", "Service", "", "web"⟩).isSome = false := by
  decide +kernel

end VWorkspace.Agent
