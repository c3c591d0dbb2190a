import VWorkspaceOperator.Agent.Faithful
import VWorkspaceOperator.Instance.Annotations
import VWorkspaceOperator.Kit.Run

/-!
# The reports of instances

All paths of a reconcile write the status of the instance once, and report against the
conditions that were read; what comes after it patches annotations, works on other objects or
removes the finalizer.  One path is different, the end of a native SeaweedFS workload where no
engine is set up, and is left out here.
-/

namespace VWorkspace

open Kit Prog
open Agent (ConditionMap conditionMap replayed DistinctTypes conditionTransitions)

/-- What an event of a reconcile makes `ReportConditionTransitions` enqueue for the instance
under a key. -/
def instanceReports (k : ObjectKey) (now : ℕ) : InstanceEvent → List Agent.Event
  | .reported app prev =>
      if app.metadata.key = k then
        conditionTransitions now (InstanceM.instanceRef app) prev app.status.conditions
      else []
  | _ => []

/-- The reports of a step about the instance under a key. -/
def reportsOfStep (r : InstanceController) (k : ObjectKey) (c : InstanceCluster) :
    InstanceStep → List Agent.Event
  | .reconcile env k' => ((r.reconcile k').run env c).trace.flatMap (instanceReports k env.now)
  | .outside _ => []

def instanceConditions (k : ObjectKey) (c : InstanceCluster) : Option (List Condition) :=
  (c.instances.get k).map fun app => app.status.conditions

/-- Others may change everything but the conditions of the instance, and may remove it. -/
def LeavesInstance (k : ObjectKey) (c : InstanceCluster) : InstanceStep → Prop
  | .reconcile _ _ => True
  | .outside c' => ∀ cs, instanceConditions k c' = some cs → instanceConditions k c = some cs

/-- The reports of instances reproduce their conditions: after every run of reconciles, of any
instances and with any faults, from a cluster where the instance has no conditions. -/
def InstancesFaithful (r : InstanceController) : Prop :=
  ∀ k c run,
    (∀ app, c.instances.get k = some app → app.status.conditions = []) →
    Along (instanceStep r.reconciler) (LeavesInstance k) c run →
    Faithful (replayed (gathered (instanceStep r.reconciler) (reportsOfStep r k) c run) fun _ => none)
      (instanceConditions k (exec (instanceStep r.reconciler) c run))

section reportless

open InstanceM

variable {α β : Type} {x : InstanceM α}

/-- The program writes no status and reports no conditions; an instance may go. -/
def Reportless (x : InstanceM α) : Prop :=
  ∀ env c,
    (∀ k app', (x.run env c).state.instances.get k = some app' →
      ∃ app, c.instances.get k = some app ∧ app'.status = app.status) ∧
    ∀ e ∈ (x.run env c).trace, ∀ app prev, e ≠ .reported app prev

theorem Reportless.of_idle (h : Idle x) : Reportless x := by
  intro env c
  rw [(h env c).1, (h env c).2]
  exact ⟨fun k app' hget => ⟨app', hget, rfl⟩, fun _ he => absurd he List.not_mem_nil⟩

theorem Reportless.of_apart (h : Apart x) : Reportless x := by
  intro env c
  obtain ⟨hstate, htrace⟩ := h env c
  have hinstances := congrArg InstanceCluster.instances hstate
  refine ⟨fun k app' hget => ⟨app', ?_, rfl⟩, fun e he app prev heq => ?_⟩
  · exact (congrArg (fun s => Store.get s k) hinstances).symm.trans hget
  · exact absurd (htrace e he) (by rw [heq]; simp [InstanceEvent.ofObject])

theorem Reportless.bind {f : α → InstanceM β} (hx : Reportless x) (hf : ∀ a, Reportless (f a)) :
    Reportless (x >>= f) := by
  intro env c
  obtain ⟨hstate, htrace⟩ := hx env c
  cases h : (x.run env c).result with
  | error err => rw [run_bind_of_error h]; exact ⟨hstate, htrace⟩
  | ok a =>
    obtain ⟨hstate', htrace'⟩ := hf a env (x.run env c).state
    rw [run_bind_of_ok h]
    refine ⟨fun k app'' hget => ?_, fun e he => ?_⟩
    · obtain ⟨app', hget', hstatus'⟩ := hstate' k app'' hget
      obtain ⟨app, happ, hstatus⟩ := hstate k app' hget'
      exact ⟨app, happ, hstatus'.trans hstatus⟩
    · rcases List.mem_append.mp he with he | he
      · exact htrace e he
      · exact htrace' e he

theorem Reportless.mapError {f : GoError → GoError} (hx : Reportless x) :
    Reportless (x.mapError f) := hx

theorem status_put {c : InstanceCluster} {stored new : ManagedInstance}
    (hget : c.instances.get new.metadata.key = some stored) (hstatus : new.status = stored.status)
    (k : ObjectKey) (app' : ManagedInstance) (h : (c.instances.put new).get k = some app') :
    ∃ app, c.instances.get k = some app ∧ app'.status = app.status := by
  by_cases hk : k = new.metadata.key
  · subst hk
    obtain rfl : new = app' := Option.some.inj ((Store.get_put_self _ new).symm.trans h)
    exact ⟨stored, hget, hstatus⟩
  · exact ⟨app', (Store.get_put_of_ne hk).symm.trans h, rfl⟩

theorem status_refl (c : InstanceCluster) (k : ObjectKey) (app' : ManagedInstance)
    (h : c.instances.get k = some app') :
    ∃ app, c.instances.get k = some app ∧ app'.status = app.status := ⟨app', h, rfl⟩

theorem reportless_updateMetadata (s : InstanceSite) (app : ManagedInstance) :
    Reportless (updateMetadata s app) := by
  intro env c
  rcases run_updateMetadata env s app c with ⟨e, hrun⟩ | ⟨stored, hget, hrun | ⟨-, hrun⟩⟩
  · rw [hrun]
    exact ⟨status_refl c, by simp⟩
  · rw [hrun]
    have hput : ∀ k app', (c.instances.put (updated app stored)).get k =
        some app' → ∃ app, c.instances.get k = some app ∧ app'.status = app.status :=
      status_put hget rfl
    exact ⟨hput, by simp⟩
  · rw [hrun]
    refine ⟨fun k app' h => ⟨app', ?_, rfl⟩, by simp⟩
    by_cases hk : k = app.metadata.key
    · subst hk
      exact absurd (h.symm.trans (Store.get_erase_self _ _)) (by simp)
    · exact (Store.get_erase_of_ne hk).symm.trans h

theorem Annotates.reportless (h : Annotates x) : Reportless x := by
  intro env c
  obtain ⟨hstate, htrace⟩ := h env c
  refine ⟨fun k app' hget => ?_, fun e he app prev heq => ?_⟩
  · obtain ⟨app, happ, hbare⟩ := hstate.get hget
    have hstatus : app'.bare.status = app.bare.status := congrArg ManagedInstance.status hbare
    exact ⟨app, happ, hstatus⟩
  · obtain ⟨app', rfl⟩ := htrace e he
    exact absurd heq (by simp)

end reportless

section instances

open InstanceM

variable {k : ObjectKey} {env : InstanceEnv} {app : ManagedInstance} {t : ConditionMap}
  {c : InstanceCluster}

/-- What the reports so far give is what is stored for the instance under the key. -/
def InstanceFaithfulAt (k : ObjectKey) (t : ConditionMap) (c : InstanceCluster) : Prop :=
  Faithful t (instanceConditions k c)

/-- The instance is the stored one, and what the reports so far give is what is stored under the
key. -/
def InstanceTold (k : ObjectKey) (app : ManagedInstance) (t : ConditionMap) (c : InstanceCluster) :
    Prop :=
  c.instances.get app.metadata.key = some app ∧ InstanceFaithfulAt k t c

/-- How the map follows the events of a reconcile of an instance. -/
def heardOf (k : ObjectKey) (now : ℕ) (e : InstanceEvent) (t : ConditionMap) : ConditionMap :=
  replayed (instanceReports k now e) t

variable (k env app) in
/-- The program starts with the stored instance, and in the end the reports give what is
stored. -/
abbrev InstanceTells {α : Type} (x : InstanceM α) : Prop :=
  Follows (heardOf k env.now) env (InstanceTold k app) x (fun _ => InstanceFaithfulAt k)
    (InstanceFaithfulAt k)

theorem instanceTold_faithful (h : InstanceTold k app t c) : InstanceFaithfulAt k t c := h.2

theorem instanceConditions_put (app : ManagedInstance) :
    instanceConditions k { c with instances := c.instances.put app } =
      if app.metadata.key = k then some app.status.conditions else instanceConditions k c := by
  split
  · next hk =>
    subst hk
    exact congrArg (Option.map _) (Store.get_put_self c.instances app)
  · next hk => exact congrArg (Option.map _) (Store.get_put_of_ne (Ne.symm hk))

theorem Reportless.follows {α : Type} {x : InstanceM α} (hx : Reportless x) :
    Follows (heardOf k env.now) env (InstanceFaithfulAt k) x (fun _ => InstanceFaithfulAt k)
      (InstanceFaithfulAt k) := by
  refine .of_kept (fun t c h => ?_) fun _ _ h => h
  obtain ⟨hstate, htrace⟩ := hx env c
  have hsilent : replay (heardOf k env.now) (x.run env c).trace t = t := by
    refine replay_of_forall_eq fun e he t => ?_
    cases e with
    | reported app prev => exact absurd rfl (htrace _ he app prev)
    | _ => rfl
  rw [hsilent]
  intro cs hcs
  obtain ⟨app', hget', rfl⟩ := Option.map_eq_some_iff.mp hcs
  obtain ⟨app, hget, hstatus⟩ := hstate k app' hget'
  exact h _ (by rw [instanceConditions, hget, Option.map_some, hstatus])

theorem instanceTold_apart {α : Type} {x : InstanceM α} (hx : Apart x) (t : ConditionMap)
    (c : InstanceCluster) (h : InstanceTold k app t c) :
    InstanceTold k app (replay (heardOf k env.now) (x.run env c).trace t) (x.run env c).state := by
  obtain ⟨hstate, htrace⟩ := hx env c
  have hinstances : (x.run env c).state.withoutObjects.instances = c.withoutObjects.instances :=
    congrArg InstanceCluster.instances hstate
  have hinstances : (x.run env c).state.instances = c.instances := hinstances
  have hsilent : replay (heardOf k env.now) (x.run env c).trace t = t := by
    refine replay_of_forall_eq fun e he t => ?_
    cases e with
    | reported app prev => exact absurd (htrace _ he) (by simp [InstanceEvent.ofObject])
    | _ => rfl
  rw [hsilent, InstanceTold, InstanceFaithfulAt, instanceConditions, hinstances]
  exact h

theorem follows_now {P F : ConditionMap → InstanceCluster → Prop} :
    Follows (heardOf k env.now) env P InstanceM.now (fun _ => P) F :=
  .bind .ask fun _ => .pure fun _ _ h => h

theorem follows_updateStatus_reported {α : Type} {Q : α → ConditionMap → InstanceCluster → Prop}
    (s : InstanceSite) {st : ApplicationInstanceStatus} (f : GoError → GoError)
    (hgrow : Grows app.status.conditions st.conditions) {x : InstanceM α}
    (hx : Follows (heardOf k env.now) env (InstanceTold k { app with status := st }) x Q
      (InstanceFaithfulAt k)) :
    Follows (heardOf k env.now) env (InstanceTold k app)
      (do
        (updateStatus s { app with status := st }).mapError f
        InstanceM.reportConditions { app with status := st } app.status.conditions
        x) Q (InstanceFaithfulAt k) := by
  have hupdate : Follows (heardOf k env.now) env (InstanceTold k app)
      (updateStatus s { app with status := st })
      (fun _ t c => ∃ c₀, InstanceTold k app t c₀ ∧
        c = { c₀ with instances := c₀.instances.put { app with status := st } })
      (InstanceFaithfulAt k) := by
    refine .bind (.of_idle (InstanceM.idle_call s) fun _ _ => instanceTold_faithful) fun _ => ?_
    refine .bind (Q := fun c' t c => InstanceTold k app t c ∧ c' = c) (.get fun _ _ h => ⟨h, rfl⟩)
      fun c' => ?_
    split
    · exact .throw fun _ _ h => h.1.2
    · next stored hget =>
      refine .write ?_
      rintro t c ⟨h, rfl⟩
      obtain rfl : app = stored := Option.some.inj (h.1.symm.trans hget)
      exact ⟨c', h, rfl⟩
  refine .bind hupdate.mapError fun _ => .bind (.bind follows_now fun now => .write ?_) fun _ => hx
  rintro t c ⟨c₀, h, rfl⟩
  refine ⟨Store.get_put_self _ _, ?_⟩
  have hconds : instanceConditions k
      { c₀ with instances := c₀.instances.put { app with status := st } } =
        if app.metadata.key = k then some st.conditions else instanceConditions k c₀ :=
    instanceConditions_put _
  rw [InstanceFaithfulAt, heardOf, instanceReports]
  refine (congrArg (Faithful _) hconds).mpr ?_
  split
  · next hk =>
    have hstored : Faithful t (some app.status.conditions) := by
      have hfaithful := h.2
      rwa [InstanceFaithfulAt, instanceConditions, ← hk, h.1, Option.map_some] at hfaithful
    exact hstored.grow hgrow env.now _
  · exact h.2

theorem follows_reported {α : Type} (s : InstanceSite) {st : ApplicationInstanceStatus}
    (f : GoError → GoError) (hgrow : Grows app.status.conditions st.conditions) {x : InstanceM α}
    (hx : Reportless x) :
    InstanceTells k env app (do
      (updateStatus s { app with status := st }).mapError f
      InstanceM.reportConditions { app with status := st } app.status.conditions
      x) :=
  follows_updateStatus_reported s f hgrow
    (hx.follows.pre (fun _ _ => instanceTold_faithful))

theorem follows_setBlocked (reason message : String) :
    InstanceTells k env app (setBlocked app reason message) :=
  .bind follows_now fun _ => follows_reported _ _ (.set (.set (.refl _))) (.of_idle (.pure _))

theorem follows_reconcilePlaceholder : InstanceTells k env app (reconcilePlaceholder app) :=
  .bind follows_now fun _ =>
    follows_reported _ _ (.set (.set (.set (.set (.refl _))))) (.of_idle (.pure _))

theorem grows_applyHelmStatusSnapshot {cs cs' : List Condition} (now : ℕ)
    (snapshot : Option StatusSnapshot) (h : Grows cs cs') :
    Grows cs (applyHelmStatusSnapshot now snapshot cs') := by
  cases snapshot with
  | none => exact h.set
  | some s =>
    simp only [applyHelmStatusSnapshot]
    split_ifs <;> first | exact h.set.set.set.set | exact h.set.set.set

theorem grows_seaweedConditions {cs cs' : List Condition} (now : ℕ)
    (snapshot : Option SeaweedSnapshot) (h : Grows cs cs') :
    Grows cs (seaweedConditions now snapshot cs') := by
  cases snapshot with
  | none => exact h.set.set.set
  | some s =>
    simp only [seaweedConditions]
    split_ifs <;> first | exact h.set.set.set.set | exact h.set.set.set

theorem follows_reconcileHelm (engine : Option FluxEngine) :
    InstanceTells k env app (reconcileHelm engine app) := by
  unfold reconcileHelm
  split
  · exact follows_setBlocked _ _
  · exact .throw fun _ _ => instanceTold_faithful
  · next e spec hspec =>
    refine .bind follows_now fun now => ?_
    have hensure : Apart (e.ensureRelease app.toApplicationInstance spec) :=
      e.apart_ensureRelease _ _
    refine .bind (.of_kept (x := (e.ensureRelease app.toApplicationInstance spec).attempt)
      (instanceTold_apart hensure) fun _ _ => instanceTold_faithful) fun res => ?_
    cases res with
    | error err => exact follows_reported _ _ (.set (.set (.set (.refl _)))) (.of_idle (.throw _))
    | ok u =>
      refine .bind (.of_idle (.mapError (FluxEngine.idle_syncStatus _ _))
        fun _ _ => instanceTold_faithful) fun snapshot => ?_
      exact follows_reported _ _ (grows_applyHelmStatusSnapshot _ _ (.set (.refl _)))
        (.of_idle (.pure _))

theorem reportless_dropFinalizer (app : ManagedInstance) : Reportless (dropFinalizer app) :=
  .bind (.mapError (reportless_updateMetadata _ _)) fun _ => .of_idle (.pure _)

theorem follows_markDeleting {α : Type} (reason message : String) {x : InstanceM α}
    (hx : Reportless x) :
    InstanceTells k env app (do markDeleting app reason message; x) :=
  .bind (.bind follows_now fun _ => follows_reported _ _ (.set (.refl _)) (.of_idle (.pure _)))
    fun _ => hx.follows

theorem follows_finalize (engine : Option FluxEngine) :
    InstanceTells k env app (finalize engine app) := by
  unfold finalize
  split
  · exact follows_markDeleting _ _ (reportless_dropFinalizer app)
  · refine follows_markDeleting _ _ ?_
    split
    · exact reportless_dropFinalizer app
    · exact .of_idle (.throw _)
    · exact .bind (.of_apart (FluxEngine.apart_deleteRelease _ _)) fun _ =>
        reportless_dropFinalizer app

namespace InstanceController

variable (r : InstanceController)

theorem follows_reconcileSeaweed : InstanceTells k env app (r.reconcileSeaweed app) := by
  unfold reconcileSeaweed
  split
  · exact follows_setBlocked _ _
  · exact follows_setBlocked _ _
  · next engine _ _ _ =>
    refine .bind (.of_idle (.attempt (idle_releaseExists _ _)) fun _ _ => instanceTold_faithful)
      fun res => ?_
    split
    · exact follows_setBlocked _ _
    · exact follows_setBlocked _ _
    · refine .bind follows_now fun now => ?_
      have hensure : Apart (engine.ensureSeaweed app.toApplicationInstance) :=
        engine.apart_ensureSeaweed _
      refine .bind (.of_kept (x := (engine.ensureSeaweed app.toApplicationInstance).attempt)
        (instanceTold_apart hensure) fun _ _ => instanceTold_faithful) fun res => ?_
      cases res with
      | error err =>
        exact follows_reported _ _ (.set (.set (.set (.set (.set (.set (.refl _)))))))
          (.of_idle (.pure _))
      | ok u =>
        refine .bind (.of_idle (.mapError (SeaweedEngine.idle_syncStatus _))
          fun _ _ => instanceTold_faithful) fun snapshot => ?_
        refine follows_reported _ _ (grows_seaweedConditions _ _ (.set (.set (.refl _)))) ?_
        split
        · exact .of_idle (.pure _)
        · exact (r.annotates_reconcileSeaweedManagedStorage _).reportless

theorem reportless_removeSeaweed (app : ManagedInstance) : Reportless (r.removeSeaweed app) := by
  refine .bind (.of_apart (SeaweedEngine.apart_deleteSeaweed _)) fun _ => ?_
  refine .bind (.of_idle (r.idle_legacyReleaseExists _ _)) fun legacy => ?_
  have hrest : Reportless (r.leaveIfGone app) := by
    refine .bind (.of_idle (SeaweedEngine.idle_seaweedExists _)) fun found => ?_
    split
    · exact .of_idle (.pure _)
    · refine .bind (.of_idle (r.idle_legacyReleaseExists _ _)) fun legacy => ?_
      split
      · exact .of_idle (.pure _)
      · exact reportless_dropFinalizer app
  simp only
  split
  · exact .bind (.of_apart (FluxEngine.apart_deleteRelease _ _)) fun _ => hrest
  · exact hrest

theorem follows_finalizeSeaweed (h : r.seaweedEngine.isSome) :
    InstanceTells k env app (r.finalizeSeaweed app) := by
  unfold finalizeSeaweed
  refine .bind follows_now fun now => follows_reported _ _ (.set (.refl _)) ?_
  split
  · next hnone => exact absurd h (by simp [hnone])
  · exact r.reportless_removeSeaweed app

theorem follows_instanceReconcile (h : r.seaweedEngine.isSome) (k' : ObjectKey) :
    Follows (heardOf k env.now) env (InstanceFaithfulAt k) (r.reconcile k')
      (fun _ => InstanceFaithfulAt k) (InstanceFaithfulAt k) := by
  have hread : Follows (heardOf k env.now) env (InstanceFaithfulAt k) (getInstance k')
      (fun found t c => InstanceFaithfulAt k t c ∧ found = c.instances.get k')
      (InstanceFaithfulAt k) :=
    .bind (.of_idle (InstanceM.idle_call _) fun _ _ h => h) fun _ =>
      .bind (Q := fun c' t c => InstanceFaithfulAt k t c ∧ c' = c) (.get fun _ _ h => ⟨h, rfl⟩)
        fun c' => .pure fun _ _ h => ⟨h.1, h.2 ▸ rfl⟩
  refine .bind hread fun found => ?_
  cases found with
  | none => exact .pure fun _ _ h => h.1
  | some app =>
    have htold : ∀ t c, InstanceFaithfulAt k t c ∧ some app = c.instances.get k' →
        InstanceTold k app t c := by
      rintro t c ⟨h, hget⟩
      have hkey : app.metadata.key = k' := Store.key_of_get hget.symm
      exact ⟨hkey ▸ hget.symm, h⟩
    simp only
    split
    · exact (Reportless.bind (.mapError (reportless_updateMetadata _ _)) fun _ =>
        .of_idle (.pure _)).follows.pre (fun _ _ h => h.1)
    · refine Follows.pre ?_ htold
      unfold ApplicationInstanceReconciler.proceed
      split
      · split
        · exact r.follows_finalizeSeaweed h
        · exact follows_finalize _
      · split
        · exact follows_setBlocked _ _
        · split
          · exact follows_reconcilePlaceholder
          · split
            · exact r.follows_reconcileSeaweed
            · exact follows_reconcileHelm _

theorem instancesFaithful (h : r.seaweedEngine.isSome) : InstancesFaithful r := by
  intro k c run hstart hrun
  refine faithful_of_run (hrun.mono fun c a ha => ?_) ?_
  · cases a with
    | reconcile env k' =>
      intro m hm
      rw [reportsOfStep, replayed_flatMap]
      exact (r.follows_instanceReconcile h k').state hm
    | outside c' => exact faithfulStep_of_silent rfl ha
  · cases hget : c.instances.get k with
    | none => rw [instanceConditions, hget]; exact .none
    | some app =>
      rw [instanceConditions, hget, Option.map_some, hstart app hget]
      exact faithful_nil

end InstanceController

end instances

end VWorkspace
