import VWorkspaceOperator.Agent.Fleet
import VWorkspaceOperator.Properties.Replay

/-!
# Work is not skipped by mistake

A job is answered as a replay only if its key was found among the keys of the
store.  A key gets there in one way: an agent did what a job with that key asked
for and recorded it then.  This stays true whatever the agents do at the same
time, since loading, overwriting and failing to write only ever moves keys that
are there already, and a list of keys survives being written as JSON and read
back.
-/

namespace VWorkspace.Agent

open Kit Prog AgentM

def Holds (store : IdempotencyStore) (k : String) (st : AgentState) : Prop :=
  k ∈ st.cachedKeys ∨ k ∈ store.savedKeys st.objects

section holds

variable {a : Applier} {store : IdempotencyStore} {k : String} {st : AgentState} {env : AgentEnv}
  {job : Job} {keys : KeySet}

theorem holds_of_loaded (hloaded : store.loaded env st = .ok keys) (hk : k ∈ keys) :
    Holds store k st := by
  cases hcache : st.cache with
  | some cached =>
    rw [IdempotencyStore.loaded_of_cache hcache, Except.ok.injEq] at hloaded
    left
    rw [AgentState.cachedKeys, hcache]
    exact hloaded ▸ hk
  | none =>
    right
    rw [IdempotencyStore.savedKeys_of_ok (IdempotencyStore.persisted_of_loaded hcache hloaded)]
    exact hk

theorem holds_precheck (hstore : a.idempotency = some store)
    (h : Holds store k ((a.precheck job).run env st).state) : Holds store k st := by
  by_cases hexp : Applier.isExpired job env.now = true
  · rwa [Applier.run_precheck_of_expired hexp] at h
  · rw [Bool.not_eq_true] at hexp
    by_cases hkey : trimSpace job.idempotencyKey = ""
    · rwa [Applier.run_precheck_of_blank hexp hkey] at h
    · rw [Applier.run_precheck_of_key hexp hstore hkey] at h
      cases hloaded : store.loaded env st with
      | error e =>
        rw [hloaded] at h
        exact h
      | ok keys =>
        rw [hloaded] at h
        rcases h with h | h
        · exact holds_of_loaded hloaded h
        · exact .inr h

theorem holds_carryOut (htarget : a.targetId job ≠ some store.configMap)
    (h : Holds store k ((a.carryOut job).run env st).state) : Holds store k st := by
  have hacts := Applier.actsOn_carryOut a job
  have hmap : ((a.carryOut job).run env st).state.objects.get store.configMap =
      st.objects.get store.configMap := hacts.get (Applier.not_actsOn_configMap htarget)
  rw [Holds, AgentState.cachedKeys, IdempotencyStore.savedKeys, IdempotencyStore.persisted,
    hacts.cache, hmap] at h
  exact h

theorem holds_remember (hstore : a.idempotency = some store)
    (h : Holds store k ((a.remember job).run env st).state) :
    Holds store k st ∨ k = trimSpace job.idempotencyKey ∧ k ≠ "" := by
  by_cases hkey : trimSpace job.idempotencyKey = ""
  · rw [Applier.run_remember_of_blank hkey] at h
    exact .inl h
  · rw [Applier.run_remember hstore hkey, run_mapError] at h
    have hspec := store.record_spec env st hkey
    revert hspec h
    generalize (store.record job.idempotencyKey).run env st = o
    intro h hspec
    have hadd : ∀ keys : KeySet, store.loaded env st = .ok keys → k ∈ keys.add job.idempotencyKey →
        Holds store k st ∨ k = trimSpace job.idempotencyKey ∧ k ≠ "" :=
      fun keys hloaded hk => (KeySet.mem_add.mp hk).imp_left (holds_of_loaded hloaded)
    cases hspec with
    | unreadable e hloaded => exact .inl h
    | known keys hloaded hmem =>
      rcases h with h | h
      · exact .inl (holds_of_loaded hloaded h)
      · exact .inl (.inr h)
    | unsaved keys hloaded hnew e =>
      rcases h with h | h
      · exact hadd keys hloaded h
      · exact .inl (.inr h)
    | saved keys hloaded hnew r objects trace written hwritten hmem =>
      rcases h with h | h
      · exact hadd keys hloaded h
      · rw [IdempotencyStore.savedKeys_of_ok hwritten] at h
        exact hadd keys hloaded ((hmem k).mp h)

theorem holds_of_replay (hstore : a.idempotency = some store) {outcome : ApplyOutcome}
    (hok : ((a.applyJob job).run env st).result = .ok outcome)
    (hidem : outcome.idempotent = true) : Holds store (trimSpace job.idempotencyKey) st := by
  cases hpre : ((a.precheck job).run env st).result with
  | error e =>
    rw [Applier.run_applyJob_of_error hpre] at hok
    exact absurd hok (by simp)
  | ok answer =>
    cases answer with
    | none =>
      obtain ⟨hnot, -⟩ := Applier.remember_of_applyJob hpre hok
      exact absurd hidem (by simp [hnot])
    | some early =>
      rw [Applier.run_applyJob_of_some hpre] at hok
      obtain rfl := Except.ok.inj hok
      rcases Applier.precheck_eq_some hstore hpre with rfl | ⟨-, keys, hloaded, hmem⟩
      · exact absurd hidem (by simp [Applier.expiredOutcome])
      · exact holds_of_loaded hloaded hmem

end holds

section fleet

variable {ι : Type} [DecidableEq ι] {a : ι → Applier} {store : IdempotencyStore} {f : Fleet ι}

def OnlyStoreWrites (a : ι → Applier) (store : IdempotencyStore) (f : Fleet ι) :
    FleetStep ι → Prop
  | .act i _ => ∀ job, (f.members i).task = .checked job → (a i).targetId job ≠ some store.configMap
  | .outside change => (change f.objects).get store.configMap = f.objects.get store.configMap
  | _ => True

/-- The step completes what a job with that key asks for. -/
def CompletesAt (a : ι → Applier) (k : String) (f : Fleet ι) : FleetStep ι → Prop
  | .act i env => ∃ job ref, (f.members i).task = .checked job ∧
      trimSpace job.idempotencyKey = k ∧ (((a i).carryOut job).run env (f.view i)).result = .ok ref
  | _ => False

omit [DecidableEq ι] in
theorem FreshFleet.not_holds (hfresh : FreshFleet store f) (i : ι) (k : String) :
    ¬Holds store k (f.view i) := by
  rintro (hk | hk)
  · simp [AgentState.cachedKeys, Fleet.view, hfresh.members i] at hk
  · simp [Fleet.view, hfresh.noKeys] at hk

/-- Every key that is held, or is about to be recorded, was completed. -/
structure Justified (store : IdempotencyStore) (past : String → Prop) (f : Fleet ι) : Prop where
  held : ∀ i k, Holds store k (f.view i) → past k
  carried : ∀ i job, (f.members i).task = .carried job → past (trimSpace job.idempotencyKey)

theorem Justified.leave {past past' : String → Prop} (h : Justified store past f)
    (hmono : ∀ k, past k → past' k) {i : ι} {st : AgentState} {task : Task}
    (hheld : ∀ k, Holds store k st → past' k)
    (hcarried : ∀ job, task = .carried job → past' (trimSpace job.idempotencyKey)) :
    Justified store past' (f.leave i st task) := by
  refine ⟨fun j k hk => ?_, fun j job hjob => ?_⟩
  · by_cases hj : j = i
    · subst hj
      rw [Fleet.view_leave_self] at hk
      exact hheld k hk
    · rcases hk with hk | hk
      · refine hmono k (h.held j k (.inl ?_))
        rwa [AgentState.cachedKeys, Fleet.view, Fleet.members_leave_of_ne f hj] at hk
      · exact hheld k (.inr hk)
  · by_cases hj : j = i
    · subst hj
      rw [Fleet.task_leave_self] at hjob
      exact hcarried job hjob
    · rw [Fleet.members_leave_of_ne f hj] at hjob
      exact hmono _ (h.carried j job hjob)

theorem justified_step (hstore : ∀ i, (a i).idempotency = some store) {past : String → Prop}
    {x : FleetStep ι} (honly : OnlyStoreWrites a store f x) (h : Justified store past f) :
    Justified store (fun k => past k ∨ CompletesAt a k f x) (Fleet.step a f x) := by
  have hweaken : Justified store (fun k => past k ∨ CompletesAt a k f x) f :=
    ⟨fun i k hk => .inl (h.held i k hk), fun i job hjob => .inl (h.carried i job hjob)⟩
  cases x with
  | take i env job =>
    cases htask : (f.members i).task with
    | idle =>
      rw [Fleet.step_take htask]
      refine h.leave (fun _ => .inl) (fun k hk => .inl (h.held i k (holds_precheck (hstore i) hk))) ?_
      intro job' hjob'
      exact absurd hjob' (by unfold Fleet.taskOfCheck; split <;> simp)
    | checked job' =>
      simp only [Fleet.step, htask]
      exact hweaken
    | carried job' =>
      simp only [Fleet.step, htask]
      exact hweaken
  | act i env =>
    cases htask : (f.members i).task with
    | idle =>
      rw [Fleet.step_act_idle htask]
      exact hweaken
    | checked job =>
      rw [Fleet.step_act htask]
      refine h.leave (fun _ => .inl)
        (fun k hk => .inl (h.held i k (holds_carryOut (honly job htask) hk))) ?_
      intro job' hjob'
      cases hact : (((a i).carryOut job).run env (f.view i)).result with
      | error e =>
        rw [hact] at hjob'
        exact absurd hjob' (by simp [Fleet.taskOfAct])
      | ok ref =>
        rw [hact] at hjob'
        obtain rfl : job = job' := by simpa [Fleet.taskOfAct] using hjob'
        exact .inr ⟨job, ref, htask, rfl, hact⟩
    | carried job =>
      simp only [Fleet.step, htask]
      exact hweaken
  | finish i env =>
    cases htask : (f.members i).task with
    | idle =>
      rw [Fleet.step_finish_idle htask]
      exact hweaken
    | checked job =>
      simp only [Fleet.step, htask]
      exact hweaken
    | carried job =>
      rw [Fleet.step_finish htask]
      refine h.leave (fun _ => .inl) (fun k hk => .inl ?_) (by simp)
      rcases holds_remember (hstore i) hk with hk | ⟨rfl, -⟩
      · exact h.held i k hk
      · exact h.carried i job htask
  | restart i =>
    refine h.leave (fun _ => .inl) (fun k hk => .inl (h.held i k ?_)) (by simp)
    rcases hk with hk | hk
    · exact absurd hk (by simp [AgentState.cachedKeys])
    · exact .inr hk
  | outside change =>
    have hsaved : store.savedKeys (change f.objects) = store.savedKeys f.objects := by
      rw [IdempotencyStore.savedKeys, IdempotencyStore.savedKeys, IdempotencyStore.persisted,
        IdempotencyStore.persisted, show (change f.objects).get store.configMap = _ from honly]
    refine ⟨fun i k hk => .inl (h.held i k ?_), fun i job hjob => .inl (h.carried i job hjob)⟩
    rcases hk with hk | hk
    · exact .inl hk
    · exact .inr (hsaved ▸ hk)

end fleet

theorem noop_only_after_completion {ι : Type} [DecidableEq ι] (a : ι → Applier)
    (store : IdempotencyStore) (hstore : ∀ i, (a i).idempotency = some store) (f : Fleet ι)
    (hfresh : FreshFleet store f) (run : List (FleetStep ι))
    (honly : Along (Fleet.step a) (OnlyStoreWrites a store) f run) (i : ι) (env : AgentEnv)
    (job : Job) (outcome : ApplyOutcome)
    (hok : (((a i).applyJob job).run env ((exec (Fleet.step a) f run).view i)).result = .ok outcome)
    (hidem : outcome.idempotent = true) :
    Sometime (Fleet.step a) (CompletesAt a (trimSpace job.idempotencyKey)) f run := by
  have hinit : Justified store (fun _ => False) f := by
    refine ⟨hfresh.not_holds, fun i job hjob => ?_⟩
    simp [hfresh.members i] at hjob
  have hjustified := exec_of_history honly
    (fun past f x hx h => justified_step hstore hx h) hinit
  exact hjustified.held i _ (holds_of_replay (hstore i) hok hidem)

theorem noop_only_after_completion_elsewhere :
    Sometime (Fleet.step fun _ : Bool => systemAgent)
      (CompletesAt (fun _ => systemAgent) "service/web@1") Fleet.fresh
      [.take false calm serviceJob, .act false calm, .finish false calm] := by
  have hreplay : ((systemAgent.applyJob serviceJob).run calm
      ((exec (Fleet.step fun _ : Bool => systemAgent) Fleet.fresh
        [.take false calm serviceJob, .act false calm, .finish false calm]).view true)).result =
      .ok (Applier.replayOutcome 100) := by decide +kernel
  have htarget : systemAgent.targetId serviceJob ≠ some systemStore.configMap := by decide +kernel
  have honly : Along (Fleet.step fun _ : Bool => systemAgent)
      (OnlyStoreWrites (fun _ => systemAgent) systemStore) Fleet.fresh
      [.take false calm serviceJob, .act false calm, .finish false calm] := by
    refine ⟨trivial, fun job hjob => ?_, trivial, trivial⟩
    have htask : ((Fleet.step (fun _ : Bool => systemAgent) Fleet.fresh
        (.take false calm serviceJob)).members false).task = .checked serviceJob := by
      decide +kernel
    obtain rfl : serviceJob = job := by simpa using htask.symm.trans hjob
    exact htarget
  exact noop_only_after_completion (fun _ => systemAgent) systemStore (fun _ => rfl) Fleet.fresh
    (freshFleet_fresh _) _ honly true calm serviceJob _ hreplay rfl

end VWorkspace.Agent
