import VWorkspaceOperator.Agent.Applier
import VWorkspaceOperator.Kit.Run

/-!
# Replays

Once a job was answered, its idempotency key is in the cache of the agent.  It is
also in the ConfigMap, unless writing it failed: `Record` puts the key into the
cache before it writes, and a second delivery is then answered from the cache as
if the key had been recorded.  A restart drops the cache, and a third delivery
applies the job again.
-/

namespace VWorkspace.Agent

open Kit Prog AgentM

inductive AgentStep where
  /-- A job is delivered and applied. -/
  | deliver (env : AgentEnv) (job : Job)
  /-- The process starts anew. -/
  | restart
  /-- Somebody else changes the cluster. -/
  | outside (change : Store ApiObject → Store ApiObject)

def Applier.step (a : Applier) (st : AgentState) : AgentStep → AgentState
  | .deliver env job => ((a.applyJob job).run env st).state
  | .restart => { st with cache := none }
  | .outside change => { st with objects := change st.objects }

def Answered (a : Applier) (env : AgentEnv) (st : AgentState) (job : Job) : Prop :=
  ∃ outcome, ((a.applyJob job).run env st).result = .ok outcome ∧
    (outcome.result.outcome = .succeeded ∨ outcome.idempotent = true)

/-- The step does not lose the key: an agent restarts only when the key, if it is in
its cache, is in the ConfigMap, too, and nothing but the store writes the
ConfigMap. -/
def KeepsKey (a : Applier) (store : IdempotencyStore) (k : String) :
    AgentState → AgentStep → Prop
  | _, .deliver _ job => a.targetId job ≠ some store.configMap
  | st, .restart => k ∈ st.cachedKeys → k ∈ store.savedKeys st.objects
  | st, .outside change =>
      (change st.objects).get store.configMap = st.objects.get store.configMap

/-- The key is in the cache or, before the cache is loaded, in the ConfigMap. -/
def Knows (store : IdempotencyStore) (k : String) (st : AgentState) : Prop :=
  match st.cache with
  | some keys => k ∈ keys
  | none => k ∈ store.savedKeys st.objects

section knows

variable {a : Applier} {store : IdempotencyStore} {k : String} {st : AgentState} {env : AgentEnv}
  {job : Job} {keys : KeySet}

theorem knows_of_cache (hcache : st.cache = some keys) (hk : k ∈ keys) : Knows store k st := by
  rw [Knows, hcache]
  exact hk

theorem knows_of_loaded (hloaded : store.loaded env st = .ok keys) (hk : k ∈ keys) :
    Knows store k st := by
  cases hcache : st.cache with
  | some cached =>
    rw [IdempotencyStore.loaded_of_cache hcache, Except.ok.injEq] at hloaded
    exact knows_of_cache hcache (hloaded ▸ hk)
  | none =>
    rw [Knows, hcache]
    dsimp only
    rw [IdempotencyStore.savedKeys_of_ok (IdempotencyStore.persisted_of_loaded hcache hloaded)]
    exact hk

theorem mem_of_knows (h : Knows store k st) (hloaded : store.loaded env st = .ok keys) :
    k ∈ keys := by
  rw [Knows] at h
  cases hcache : st.cache with
  | some cached =>
    rw [IdempotencyStore.loaded_of_cache hcache, Except.ok.injEq] at hloaded
    rw [hcache] at h
    exact hloaded ▸ h
  | none =>
    rwa [hcache, IdempotencyStore.savedKeys_of_ok
      (IdempotencyStore.persisted_of_loaded hcache hloaded)] at h

theorem applyJob_of_knows (hstore : a.idempotency = some store)
    (hkey : trimSpace job.idempotencyKey ≠ "")
    (h : Knows store (trimSpace job.idempotencyKey) st) :
    ((a.applyJob job).run env st).trace = [] ∧
      ((a.applyJob job).run env st).state.objects = st.objects :=
  Applier.applyJob_of_answered hstore (.inr ⟨hkey, fun _ => mem_of_knows h⟩)

theorem knows_precheck (hstore : a.idempotency = some store) (h : Knows store k st) :
    Knows store k ((a.precheck job).run env st).state := by
  by_cases hexp : Applier.isExpired job env.now = true
  · rw [Applier.run_precheck_of_expired hexp]
    exact h
  · rw [Bool.not_eq_true] at hexp
    by_cases hkey : trimSpace job.idempotencyKey = ""
    · rw [Applier.run_precheck_of_blank hexp hkey]
      exact h
    · rw [Applier.run_precheck_of_key hexp hstore hkey]
      cases hloaded : store.loaded env st with
      | error e => exact h
      | ok keys => exact knows_of_cache rfl (mem_of_knows h hloaded)

theorem knows_congr {st' : AgentState} (hcache : st'.cache = st.cache)
    (hmap : st'.objects.get store.configMap = st.objects.get store.configMap)
    (h : Knows store k st) : Knows store k st' := by
  rw [Knows, IdempotencyStore.savedKeys, IdempotencyStore.persisted] at h ⊢
  rwa [hcache, hmap]

theorem knows_carryOut (htarget : a.targetId job ≠ some store.configMap)
    (h : Knows store k st) : Knows store k ((a.carryOut job).run env st).state :=
  knows_congr (Applier.actsOn_carryOut a job).cache
    ((Applier.actsOn_carryOut a job).get (Applier.not_actsOn_configMap htarget)) h

theorem knows_remember (hstore : a.idempotency = some store) (h : Knows store k st) :
    Knows store k ((a.remember job).run env st).state := by
  by_cases hkey : trimSpace job.idempotencyKey = ""
  · rw [Applier.run_remember_of_blank hkey]
    exact h
  · rw [Applier.run_remember hstore hkey, run_mapError]
    have hspec := store.record_spec env st hkey
    revert hspec
    generalize (store.record job.idempotencyKey).run env st = o
    intro hspec
    have hadd : ∀ keys, store.loaded env st = .ok keys → k ∈ keys.add job.idempotencyKey :=
      fun keys hloaded => KeySet.mem_add.mpr (.inl (mem_of_knows h hloaded))
    cases hspec with
    | unreadable e hloaded => exact h
    | known keys hloaded hmem => exact knows_of_cache rfl (mem_of_knows h hloaded)
    | unsaved keys hloaded hnew e => exact knows_of_cache rfl (hadd keys hloaded)
    | saved keys hloaded hnew r objects trace written hwritten hmem =>
      exact knows_of_cache rfl (hadd keys hloaded)

theorem knows_step (hstore : a.idempotency = some store) {x : AgentStep}
    (hkeeps : KeepsKey a store k st x) (h : Knows store k st) : Knows store k (a.step st x) := by
  cases x with
  | deliver env job =>
    exact Applier.applyJob_invariant (fun _ => knows_precheck hstore)
      (fun _ => knows_carryOut hkeeps) (fun _ => knows_remember hstore) h
  | restart =>
    cases hcache : st.cache with
    | none =>
      rw [Knows, hcache] at h
      exact h
    | some keys =>
      rw [Knows, hcache] at h
      refine hkeeps ?_
      rw [AgentState.cachedKeys, hcache]
      exact h
  | outside change =>
    have hcache : (a.step st (.outside change)).cache = st.cache := rfl
    exact knows_congr hcache hkeeps h

theorem knows_of_answered (hstore : a.idempotency = some store)
    (hkey : trimSpace job.idempotencyKey ≠ "") (h : Answered a env st job) :
    Knows store (trimSpace job.idempotencyKey) ((a.applyJob job).run env st).state := by
  obtain ⟨outcome, hok, hanswer⟩ := h
  cases hpre : ((a.precheck job).run env st).result with
  | error e =>
    rw [Applier.run_applyJob_of_error hpre] at hok
    exact absurd hok (by simp)
  | ok r =>
    cases r with
    | some early =>
      rw [Applier.run_applyJob_of_some hpre] at hok ⊢
      obtain rfl := Except.ok.inj hok
      rcases Applier.precheck_eq_some hstore hpre with rfl | ⟨-, keys, hloaded, hmem⟩
      · -- an expired job is neither applied nor a replay
        exact absurd hanswer (by simp [Applier.expiredOutcome])
      · exact knows_precheck hstore (knows_of_loaded hloaded hmem)
    | none =>
      obtain ⟨-, st', hrem, hstate⟩ := Applier.remember_of_applyJob hpre hok
      rw [hstate]
      rw [Applier.run_remember hstore hkey, run_mapError] at hrem ⊢
      have hadd : ∀ keys : KeySet, trimSpace job.idempotencyKey ∈ keys.add job.idempotencyKey :=
        fun keys => KeySet.mem_add.mpr (.inr ⟨rfl, hkey⟩)
      have hspec := store.record_spec env st' hkey
      revert hspec hrem
      generalize (store.record job.idempotencyKey).run env st' = o
      intro hrem hspec
      cases hspec with
      | unreadable e hloaded => exact absurd hrem (by simp [Except.mapError])
      | known keys hloaded hmem => exact knows_of_cache rfl hmem
      | unsaved keys hloaded hnew e => exact absurd hrem (by simp [Except.mapError])
      | saved keys hloaded hnew r objects trace written hwritten hmem =>
        exact knows_of_cache rfl (hadd keys)

end knows

theorem replay_noop (a : Applier) (store : IdempotencyStore) (hstore : a.idempotency = some store)
    (st : AgentState) (env env' : AgentEnv) (job job' : Job) (between : List AgentStep)
    (hkey : trimSpace job.idempotencyKey ≠ "")
    (hsame : trimSpace job'.idempotencyKey = trimSpace job.idempotencyKey)
    (hanswered : Answered a env st job)
    (hkeeps : Along a.step (KeepsKey a store (trimSpace job.idempotencyKey))
      (a.step st (.deliver env job)) between) :
    let later := exec a.step (a.step st (.deliver env job)) between
    ((a.applyJob job').run env' later).trace = [] ∧
      ((a.applyJob job').run env' later).state.objects = later.objects := by
  have hknown : Knows store (trimSpace job.idempotencyKey)
      (exec a.step (a.step st (.deliver env job)) between) :=
    exec_of_along hkeeps (fun st x hx hst => knows_step hstore hx hst)
      (knows_of_answered hstore hkey hanswered)
  rw [← hsame] at hknown
  exact applyJob_of_knows hstore (hsame ▸ hkey) hknown

def noScheme : Scheme where
  applicationInstance _ _ := .error ⟨"object", "v1alpha1.ApplicationInstance"⟩
  operation _ _ := .error ⟨"object", "v1alpha1.Operation"⟩

def systemStore : IdempotencyStore where
  ns := "vworkspace-system"

def systemAgent : Applier where
  scheme := noScheme
  clusterID := "cluster-1"
  idempotency := some systemStore

def serviceJob : Job where
  id := "job-1"
  kind := .apply
  payload := bytesOf "\x7b\"apiVersion\":\"v1\",\"kind\":\"Service\",\"metadata\":\x7b\"name\":\"web\"\x7d\x7d"
  idempotencyKey := "service/web@1"

def freshAgent : AgentState := ⟨Store.empty, none⟩

def calm : AgentEnv := { now := 100 }

def unsavable : AgentEnv where
  now := 100
  fault s := if s = .persistCreate then some { msg := "etcdserver: request timed out" } else none

theorem replay_noop_after_restart :
    let later := exec systemAgent.step
      (systemAgent.step freshAgent (.deliver calm serviceJob)) [.restart]
    ((systemAgent.applyJob serviceJob).run calm later).trace = [] ∧
      ((systemAgent.applyJob serviceJob).run calm later).state.objects = later.objects := by
  have hanswered : ((systemAgent.applyJob serviceJob).run calm freshAgent).result =
      .ok { result := { outcome := .succeeded
                        appliedRef := some ⟨"v1", "Service", "", "web", "", 1⟩
                        timestamp := 100 } } := by decide +kernel
  have hsaved : "service/web@1" ∈
      systemStore.savedKeys (systemAgent.step freshAgent (.deliver calm serviceJob)).objects := by
    decide +kernel
  exact replay_noop systemAgent systemStore rfl freshAgent calm calm serviceJob serviceJob
    [.restart] (by decide +kernel) rfl ⟨_, hanswered, .inl rfl⟩ ⟨fun _ => hsaved, trivial⟩

theorem replay_applies_after_restart :
    let first := systemAgent.step freshAgent (.deliver unsavable serviceJob)
    let second := systemAgent.step first (.deliver calm serviceJob)
    let later := systemAgent.step second .restart
    ((systemAgent.applyJob serviceJob).run calm first).result =
        .ok (Applier.replayOutcome 100) ∧
      ((systemAgent.applyJob serviceJob).run calm later).trace.map AgentEvent.id =
        [⟨"", "Service", "", "web"⟩, systemStore.configMap] := by
  decide +kernel

end VWorkspace.Agent
