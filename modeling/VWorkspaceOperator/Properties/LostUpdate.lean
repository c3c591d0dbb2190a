import VWorkspaceOperator.Agent.Quiet
import VWorkspaceOperator.Properties.SkippedWork

/-!
# Two stores over one ConfigMap

A store reads the ConfigMap once and writes its whole cache out whenever it
records a new key.  The update carries the version of the ConfigMap that was read
just before, so it never fails on account of what another store wrote since the
cache was loaded: it overwrites that.  No key is lost exactly as long as every
store that writes has all the keys of the ConfigMap in its cache.
-/

namespace VWorkspace.Agent

open Kit Prog AgentM

variable {k : String} {past : String → Prop}

inductive StoreCall (ι : Type) where
  | contains (i : ι) (q : QuietEnv) (key : String)
  | record (i : ι) (q : QuietEnv) (key : String)

section calls

variable {ι : Type} [DecidableEq ι]

def IdempotencyStore.step (store : IdempotencyStore) (f : Fleet ι) : StoreCall ι → Fleet ι
  | .contains i q key =>
      f.leave i ((store.contains key).run q.env (f.view i)).state (f.members i).task
  | .record i q key =>
      f.leave i ((store.record key).run q.env (f.view i)).state (f.members i).task

/-- The call records the key: `Record` returns nil for it. -/
def RecordsAt (store : IdempotencyStore) (k : String) (f : Fleet ι) : StoreCall ι → Prop
  | .contains _ _ _ => False
  | .record i q key => k ≠ "" ∧ trimSpace key = k ∧
      ((store.record key).run q.env (f.view i)).result = .ok ()

/-- At every point of the run the ConfigMap holds every key that was recorded. -/
def Kept (store : IdempotencyStore) (f : Fleet ι) (run : List (StoreCall ι)) : Prop :=
  ∀ pre, pre <+: run → ∀ k, Sometime store.step (RecordsAt store k) f pre →
    k ∈ store.savedKeys (exec store.step f pre).objects

/-- A store that is about to write has every key of the ConfigMap in its cache. -/
def UpToDate (store : IdempotencyStore) (f : Fleet ι) : StoreCall ι → Prop
  | .contains _ _ _ => True
  | .record i _ key => trimSpace key = "" ∨ ∀ cached, (f.members i).cache = some cached →
      trimSpace key ∈ cached ∨ ∀ k ∈ store.savedKeys f.objects, k ∈ cached ∨ k = trimSpace key

/-- What a call can do: nothing; load the cache; or write a new key with the cache. -/
inductive Effect (store : IdempotencyStore) (f : Fleet ι) : StoreCall ι → Fleet ι → Prop
  | nothing (x : StoreCall ι) (hup : UpToDate store f x) (hno : ∀ k, ¬RecordsAt store k f x) :
      Effect store f x f
  | loads (x : StoreCall ι) (hup : UpToDate store f x) (i : ι) (q : QuietEnv) (keys : KeySet)
      (hloaded : store.loaded q.env (f.view i) = .ok keys)
      (hrec : ∀ k, RecordsAt store k f x → k ∈ keys) :
      Effect store f x (f.leave i ⟨f.objects, some keys⟩ (f.members i).task)
  | writes (i : ι) (q : QuietEnv) (key : String) (keys : KeySet)
      (hkey : trimSpace key ≠ "") (hloaded : store.loaded q.env (f.view i) = .ok keys)
      (hnew : trimSpace key ∉ keys) (hrec : RecordsAt store (trimSpace key) f (.record i q key))
      (objects : Store ApiObject) (written : KeySet)
      (hwritten : store.persisted objects = .ok written)
      (hmem : ∀ k, k ∈ written ↔ k ∈ keys.add key) :
      Effect store f (.record i q key)
        (f.leave i ⟨objects, some (keys.add key)⟩ (f.members i).task)

variable {store : IdempotencyStore} {f : Fleet ι}

omit [DecidableEq ι] in
theorem loaded_eq_cached {i : ι} {env : AgentEnv} {cached : KeySet}
    (hcache : (f.members i).cache = some cached) : store.loaded env (f.view i) = .ok cached :=
  IdempotencyStore.loaded_of_cache hcache

theorem call_effect (x : StoreCall ι) : Effect store f x (store.step f x) := by
  cases x with
  | contains i q key =>
    rw [IdempotencyStore.step]
    by_cases hkey : trimSpace key = ""
    · rw [IdempotencyStore.run_contains_of_blank hkey, Fleet.leave_view]
      exact .nothing _ trivial fun k => id
    · cases hloaded : store.loaded q.env (f.view i) with
      | error e =>
        rw [IdempotencyStore.run_contains_of_error hkey hloaded, Fleet.leave_view]
        exact .nothing _ trivial fun k => id
      | ok keys =>
        rw [IdempotencyStore.run_contains_of_ok hkey hloaded]
        exact .loads (.contains i q key) trivial i q keys hloaded fun k h => h.elim
  | record i q key =>
    rw [IdempotencyStore.step]
    by_cases hkey : trimSpace key = ""
    · rw [IdempotencyStore.run_record_of_blank hkey, Fleet.leave_view]
      exact .nothing _ (.inl hkey) fun k ⟨hne, hk, _⟩ => hne (hk ▸ hkey)
    · cases hloaded : store.loaded q.env (f.view i) with
      | error e =>
        have hrun := IdempotencyStore.run_record_of_error hkey hloaded
        rw [hrun, Fleet.leave_view]
        refine .nothing _ (.inr fun cached hcache => ?_) ?_
        · rw [loaded_eq_cached hcache] at hloaded
          exact absurd hloaded (by simp)
        · rintro k ⟨-, -, hok⟩
          rw [hrun] at hok
          exact absurd hok (by simp)
      | ok keys =>
        have hok := result_record_of_quiet q hkey hloaded
        by_cases hmem : trimSpace key ∈ keys
        · rw [IdempotencyStore.run_record_of_mem hkey hloaded hmem]
          refine .loads (.record i q key) (.inr fun cached hcache => .inl ?_) i q keys hloaded
            fun k ⟨_, hk, _⟩ => hk ▸ hmem
          rw [loaded_eq_cached hcache, Except.ok.injEq] at hloaded
          exact hloaded ▸ hmem
        · have hwrite := result_persistLocked_of_quiet q store
            { f.view i with cache := some (keys.add key) } (keys.add key)
          rw [IdempotencyStore.run_record_of_not_mem hkey hloaded hmem]
          rcases IdempotencyStore.persistLocked_cases q.env
              { f.view i with cache := some (keys.add key) } (keys.add key) with
            ⟨e, he⟩ | ⟨r, objects, t, hrun, written, hwritten, hiff⟩
          · rw [he] at hwrite
            exact absurd hwrite (by simp)
          · rw [hrun]
            exact .writes i q key keys hkey hloaded hmem ⟨hkey, rfl, hok⟩ objects written hwritten
              hiff

theorem holds_leave_of_ne {i j : ι} (hj : j ≠ i) {st : AgentState} {task : Task}
    (h : Holds store k ((f.leave i st task).view j)) :
    k ∈ (f.view j).cachedKeys ∨ k ∈ store.savedKeys st.objects := by
  rwa [Holds, AgentState.cachedKeys, Fleet.view, Fleet.members_leave_of_ne f hj] at h

theorem allRecorded_step (x : StoreCall ι) (h : ∀ i k, Holds store k (f.view i) → past k) :
    ∀ i k, Holds store k ((store.step f x).view i) → past k ∨ RecordsAt store k f x := by
  have heffect : Effect store f x (store.step f x) := call_effect x
  revert heffect
  generalize store.step f x = f'
  intro heffect
  cases heffect with
  | nothing _ hup hno => exact fun i k hk => .inl (h i k hk)
  | loads _ hup i q keys hloaded hrec =>
    intro j k hk
    by_cases hj : j = i
    · subst hj
      rw [Fleet.view_leave_self] at hk
      rcases hk with hk | hk
      · exact .inl (h j k (holds_of_loaded hloaded hk))
      · exact .inl (h j k (.inr hk))
    · rcases holds_leave_of_ne hj hk with hk | hk
      · exact .inl (h j k (.inl hk))
      · exact .inl (h j k (.inr hk))
  | writes i q key keys hkey hloaded hnew hrec objects written hwritten hmem =>
    have hadded : ∀ k, k ∈ keys.add key → past k ∨ RecordsAt store k f (.record i q key) := by
      intro k hk
      rcases KeySet.mem_add.mp hk with hk | ⟨rfl, -⟩
      · exact .inl (h i k (holds_of_loaded hloaded hk))
      · exact .inr hrec
    have hsaved : ∀ k, k ∈ store.savedKeys objects →
        past k ∨ RecordsAt store k f (.record i q key) := by
      intro k hk
      rw [IdempotencyStore.savedKeys_of_ok hwritten] at hk
      exact hadded k ((hmem k).mp hk)
    intro j k hk
    by_cases hj : j = i
    · subst hj
      rw [Fleet.view_leave_self] at hk
      exact hk.elim (hadded k) (hsaved k)
    · exact (holds_leave_of_ne hj hk).elim (fun hk => .inl (h j k (.inl hk))) (hsaved k)

theorem sometime_of_saved (hfresh : FreshFleet store f) (i : ι) (run : List (StoreCall ι))
    (hk : k ∈ store.savedKeys (exec store.step f run).objects) :
    Sometime store.step (RecordsAt store k) f run := by
  have hall : ∀ i k, Holds store k ((exec store.step f run).view i) →
      Sometime store.step (RecordsAt store k) f run :=
    exec_of_history (I := fun past f => ∀ i k, Holds store k (Fleet.view f i) → past k)
      (along_of_forall (p := fun _ _ => True) fun _ _ => trivial)
      (fun past f x _ h => allRecorded_step x h) hfresh.not_holds
  exact hall i k (.inr hk)

/-- Every recorded key and every cached key is in the ConfigMap. -/
structure InSync (store : IdempotencyStore) (past : String → Prop) (f : Fleet ι) : Prop where
  recorded : ∀ k, past k → k ∈ store.savedKeys f.objects
  cached : ∀ i, ∀ k ∈ (f.view i).cachedKeys, k ∈ store.savedKeys f.objects

omit [DecidableEq ι] in
theorem InSync.loaded (h : InSync store past f) {i : ι} {env : AgentEnv} {keys : KeySet}
    (hloaded : store.loaded env (f.view i) = .ok keys) (hk : k ∈ keys) :
    k ∈ store.savedKeys f.objects :=
  (holds_of_loaded hloaded hk).elim (h.cached i k) id

omit [DecidableEq ι] in
theorem mem_add_of_upToDate {i : ι} {q : QuietEnv} {key : String} {keys : KeySet}
    (hkey : trimSpace key ≠ "") (hloaded : store.loaded q.env (f.view i) = .ok keys)
    (hnew : trimSpace key ∉ keys) (h : UpToDate store f (.record i q key))
    (hk : k ∈ store.savedKeys f.objects) : k ∈ keys.add key := by
  rw [KeySet.mem_add]
  cases hcache : (f.members i).cache with
  | none =>
    have hsaved : store.persisted f.objects = .ok keys :=
      IdempotencyStore.persisted_of_loaded hcache hloaded
    rw [IdempotencyStore.savedKeys_of_ok hsaved] at hk
    exact .inl hk
  | some cached =>
    rw [loaded_eq_cached hcache, Except.ok.injEq] at hloaded
    subst hloaded
    rcases (h.resolve_left hkey cached hcache).resolve_left hnew k hk with hk | rfl
    · exact .inl hk
    · exact .inr ⟨rfl, hkey⟩

theorem inSync_step {x : StoreCall ι} (hx : UpToDate store f x) (h : InSync store past f) :
    InSync store (fun k => past k ∨ RecordsAt store k f x) (store.step f x) := by
  have heffect : Effect store f x (store.step f x) := call_effect x
  revert heffect
  generalize store.step f x = f'
  intro heffect
  cases heffect with
  | nothing _ hup hno =>
    exact ⟨fun k hk => hk.elim (h.recorded k) fun hrec => absurd hrec (hno k), h.cached⟩
  | loads _ hup i q keys hloaded hrec =>
    refine ⟨fun k hk => hk.elim (h.recorded k) fun hk => h.loaded hloaded (hrec k hk), ?_⟩
    intro j k hk
    by_cases hj : j = i
    · subst hj
      rw [Fleet.view_leave_self] at hk
      exact h.loaded hloaded hk
    · rw [AgentState.cachedKeys, Fleet.view, Fleet.members_leave_of_ne f hj] at hk
      exact h.cached j k hk
  | writes i q key keys hkey hloaded hnew hrec objects written hwritten hmem =>
    have hold : ∀ k ∈ store.savedKeys f.objects, k ∈ store.savedKeys objects := by
      intro k hk
      rw [IdempotencyStore.savedKeys_of_ok hwritten]
      exact (hmem k).mpr (mem_add_of_upToDate hkey hloaded hnew hx hk)
    have hadded : ∀ k ∈ keys.add key, k ∈ store.savedKeys objects := by
      intro k hk
      rw [IdempotencyStore.savedKeys_of_ok hwritten]
      exact (hmem k).mpr hk
    refine ⟨?_, ?_⟩
    · rintro k (hk | ⟨hne, rfl, -⟩)
      · exact hold k (h.recorded k hk)
      · exact hadded _ (KeySet.mem_add.mpr (.inr ⟨rfl, hne⟩))
    · intro j k hk
      by_cases hj : j = i
      · subst hj
        rw [Fleet.view_leave_self] at hk
        exact hadded k hk
      · rw [AgentState.cachedKeys, Fleet.view, Fleet.members_leave_of_ne f hj] at hk
        exact hold k (h.cached j k hk)

theorem upToDate_of_kept_step {x : StoreCall ι}
    (h : ∀ k ∈ store.savedKeys f.objects, k ∈ store.savedKeys (store.step f x).objects) :
    UpToDate store f x := by
  have heffect : Effect store f x (store.step f x) := call_effect x
  revert heffect h
  generalize store.step f x = f'
  intro h heffect
  cases heffect with
  | nothing _ hup hno => exact hup
  | loads _ hup i q keys hloaded hrec => exact hup
  | writes i q key keys hkey hloaded hnew hrec objects written hwritten hmem =>
    refine .inr fun cached hcache => .inr fun k hk => ?_
    rw [loaded_eq_cached hcache, Except.ok.injEq] at hloaded
    subst hloaded
    have hkept := h k hk
    rw [Fleet.objects_leave, IdempotencyStore.savedKeys_of_ok hwritten] at hkept
    exact (KeySet.mem_add.mp ((hmem k).mp hkept)).imp_right And.left

end calls

def StoreCall.who {ι : Type} : StoreCall ι → ι
  | .contains i _ _ => i
  | .record i _ _ => i

theorem kept_iff_upToDate {ι : Type} [DecidableEq ι] (store : IdempotencyStore) (f : Fleet ι)
    (hfresh : FreshFleet store f) (run : List (StoreCall ι)) :
    Kept store f run ↔ Along store.step (UpToDate store) f run := by
  constructor
  · intro hkept
    rw [along_iff_forall_split]
    rintro pre x post rfl
    refine upToDate_of_kept_step fun k hk => ?_
    have hrec : Sometime store.step (RecordsAt store k) f (pre ++ [x]) :=
      sometime_snoc.mpr (.inl (sometime_of_saved hfresh x.who pre hk))
    have hlater := hkept (pre ++ [x]) ⟨post, by simp⟩ k hrec
    rwa [exec_append] at hlater
  · rintro hup pre ⟨post, rfl⟩ k hk
    have hinit : InSync store (fun _ => False) f :=
      ⟨fun _ hk => hk.elim, fun i k hk => absurd (.inl hk) (hfresh.not_holds i k)⟩
    have hsync := exec_of_history (along_append.mp hup).1
      (fun past f x hx h => inSync_step hx h) hinit
    exact hsync.recorded k hk

def quiet : QuietEnv := ⟨calm, fun _ => rfl, fun _ => rfl⟩

theorem kept_one_after_the_other :
    Kept systemStore (Fleet.fresh : Fleet Bool)
      [.record false quiet "service/web@1", .record true quiet "service/web@2"] := by
  have hnone : ((systemStore.step (Fleet.fresh : Fleet Bool)
      (.record false quiet "service/web@1")).members true).cache = none := rfl
  refine (kept_iff_upToDate systemStore Fleet.fresh (freshFleet_fresh _) _).mpr
    ⟨.inr fun cached hcache => ?_, .inr fun cached hcache => ?_, trivial⟩
  · exact absurd hcache (by simp [Fleet.fresh])
  · exact absurd (hnone.symm.trans hcache) (by simp)

theorem not_kept_of_stale_cache :
    ¬Kept systemStore (Fleet.fresh : Fleet Bool)
      [.contains false quiet "service/web@1", .contains true quiet "service/web@2",
        .record false quiet "service/web@1", .record true quiet "service/web@2"] := by
  intro hkept
  have hrec : Sometime systemStore.step (RecordsAt systemStore "service/web@1")
      (Fleet.fresh : Fleet Bool)
      [.contains false quiet "service/web@1", .contains true quiet "service/web@2",
        .record false quiet "service/web@1", .record true quiet "service/web@2"] :=
    ⟨[_, _], _, [_], rfl, by decide, by decide +kernel, by decide +kernel⟩
  have hlost : systemStore.savedKeys (exec systemStore.step (Fleet.fresh : Fleet Bool)
      [.contains false quiet "service/web@1", .contains true quiet "service/web@2",
        .record false quiet "service/web@1", .record true quiet "service/web@2"]).objects =
      ["service/web@2"] := by decide +kernel
  have hthere := hkept _ (List.prefix_refl _) _ hrec
  rw [hlost] at hthere
  exact absurd hthere (by decide)

end VWorkspace.Agent
