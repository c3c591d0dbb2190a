import VWorkspaceOperator.Instance.Controller
import VWorkspaceOperator.Instance.Faultless

/-!
# Instances that can be deleted

The end of an instance works on the release of its spec, and the spec has not been checked there:
what the schema of the resource admits may have no release.  A managed instance without one never
leaves: with Helm the operator follows a pointer to nothing, and with the native engine the
deletion of the `Seaweed` is refused, in every attempt.  All others can be deleted.
-/

namespace VWorkspace

open Kit Prog InstanceM

structure ApplicationInstanceSpec.Admitted (spec : ApplicationInstanceSpec) : Prop where
  catalogId : spec.catalogId ≠ ""
  chart : ∀ chart, spec.chart = some chart → chart.sourceType ≠ .unset ∧ chart.url ≠ "" ∧
    chart.name ≠ "" ∧ chart.version ≠ ""
  release : ∀ release, spec.release = some release → release.name ≠ "" ∧ release.ns ≠ ""
  values : ∀ values, spec.values = some values → values.source ≠ .unset

/-- No object was created for the instance: those that are have its label. -/
def Untouched (c : InstanceCluster) (app : ManagedInstance) : Prop :=
  ∀ kind, ∀ o ∈ (c.objects kind).items, o.metadata.ns = app.metadata.ns →
    o.metadata.labels.lookup applicationInstanceKey ≠ some app.metadata.name

/-- The end of an instance follows no pointer to nothing; and if nothing was created for the
instance and no call fails, the finalizer is removed. -/
structure Deletable (r : InstanceController) (app : ManagedInstance) : Prop where
  noPanic : ∀ env c, ((r.reconciler.proceed app).run env c).result ≠ .error nilDereference
  removed : ∀ env c, env.Faultless → c.instances.get app.metadata.key = some app →
    Untouched c app → Returns env c (r.reconciler.proceed app) fun _ c' =>
      ∀ app', c'.instances.get app.metadata.key = some app' →
        applicationInstanceFinalizer ∉ app'.metadata.finalizers

variable {r : InstanceController} {app : ManagedInstance} {env : InstanceEnv} {c : InstanceCluster}

theorem wrap_ne_nilDereference {pre : String} {a : Char} (hhead : pre.toList.head? = some a)
    (ha : a ≠ 'p') (e : GoError) : e.wrap pre ≠ nilDereference := by
  intro h
  have hmsg : (pre ++ ": " ++ e.msg).toList.head? = some 'p' := by
    have := congrArg (fun e => e.msg.toList.head?) h
    exact this
  rw [String.toList_append, String.toList_append, List.head?_append, List.head?_append, hhead] at hmsg
  exact ha (Option.some.inj hmsg)

theorem raises_reportConditions (app : ManagedInstance) (prev : List Condition) :
    Raises (· ≠ nilDereference) (InstanceM.reportConditions app prev) :=
  .bind (.bind .ask fun _ => .pure _) fun _ => .write

theorem raises_deleteRelease (ns : String) (release : ReleaseSpec) :
    Raises (· ≠ nilDereference) (FluxEngine.deleteRelease ns release) := by
  have hone : ∀ kind name, Raises (· ≠ nilDereference) (FluxEngine.deleteOne ns kind name) := by
    intro kind name
    refine .mapError (wrap_ne_nilDereference (a := 'd') ?_ (by decide))
    simp [String.toList_append]
  exact .bind (hone _ _) fun _ => .bind (hone _ _) fun _ => hone _ _

theorem raises_dropFinalizer (app : ManagedInstance) :
    Raises (· ≠ nilDereference) (dropFinalizer app) :=
  .bind (.mapError (wrap_ne_nilDereference (a := 'r') rfl (by decide))) fun _ => .pure _

theorem raises_finalizeSeaweed (r : InstanceController) (app : ManagedInstance) :
    Raises (· ≠ nilDereference) (r.finalizeSeaweed app) := by
  have hupdate : ∀ app', Raises (· ≠ nilDereference)
      ((updateStatus .updateDeleting app').mapError (·.wrap "update deleting status")) := fun _ =>
    .mapError (wrap_ne_nilDereference (a := 'u') rfl (by decide))
  have hrelease : Raises (· ≠ nilDereference)
      (Prog.ofExcept (validateReleaseRef app.toApplicationInstance) : InstanceM ReleaseSpec) := by
    refine .ofExcept fun e he => ?_
    unfold validateReleaseRef at he
    split at he
    · exact Except.error.inj he ▸ by decide
    · split at he
      · exact Except.error.inj he ▸ by decide
      · exact absurd he (by simp)
  have hlegacy : ∀ again, Raises (· ≠ nilDereference) (r.legacyReleaseExists again app) := by
    intro again
    unfold InstanceController.legacyReleaseExists
    split
    · exact .pure _
    · exact .mapError (wrap_ne_nilDereference (a := 'c') rfl (by decide))
  have hdelete : Raises (· ≠ nilDereference)
      (SeaweedEngine.deleteSeaweed app.toApplicationInstance) := by
    refine .bind hrelease fun release => .mapError (wrap_ne_nilDereference (a := 'd') ?_ (by decide))
    simp [String.toList_append]
  have hexists : Raises (· ≠ nilDereference)
      (SeaweedEngine.seaweedExists app.toApplicationInstance) :=
    .bind hrelease fun _ => .mapError (wrap_ne_nilDereference (a := 'g') rfl (by decide))
  have hrest : Raises (· ≠ nilDereference) (r.leaveIfGone app) := by
    refine .bind hexists fun found => ?_
    split
    · exact .pure _
    · refine .bind (hlegacy true) fun legacy => ?_
      split
      · exact .pure _
      · exact raises_dropFinalizer app
  refine .bind (.bind .ask fun _ => .pure _) fun t => .bind (hupdate _) fun _ =>
    .bind (raises_reportConditions _ _) fun _ => ?_
  split
  · exact .bind (.mapError (wrap_ne_nilDereference (a := 'u') rfl (by decide))) fun _ =>
      .bind (raises_reportConditions _ _) fun _ => .pure _
  · refine .bind hdelete fun _ => .bind (hlegacy false) fun legacy => ?_
    simp only
    split
    · exact .bind (raises_deleteRelease _ _) fun _ => hrest
    · exact hrest

theorem raises_proceed (hdeleting : app.metadata.deletionTimestamp.isSome = true)
    (h : app.spec.isPlaceholder = true ∨ app.spec.release ≠ none) :
    Raises (· ≠ nilDereference) (r.reconciler.proceed app) := by
  have hmark : ∀ reason message, Raises (· ≠ nilDereference) (markDeleting app reason message) :=
    fun _ _ => .bind (.bind .ask fun _ => .pure _) fun _ =>
      .bind (.mapError (wrap_ne_nilDereference (a := 'u') rfl (by decide))) fun _ =>
        raises_reportConditions _ _
  unfold ApplicationInstanceReconciler.proceed
  rw [if_pos hdeleting]
  split
  · exact raises_finalizeSeaweed r app
  · unfold finalize
    split
    · exact .bind (hmark _ _) fun _ => raises_dropFinalizer app
    · next hmanaged =>
      refine .bind (hmark _ _) fun _ => ?_
      split
      · exact raises_dropFinalizer app
      · next hrelease => exact absurd hrelease (h.resolve_left hmanaged)
      · exact .bind (raises_deleteRelease _ _) fun _ => raises_dropFinalizer app

def Stored (c : InstanceCluster) (app : ManagedInstance) : Prop :=
  ∃ stored, c.instances.get app.metadata.key = some stored ∧ stored.metadata = app.metadata

theorem Stored.congr {c c' : InstanceCluster} (h : c'.withoutObjects = c.withoutObjects)
    (hc : Stored c app) : Stored c' app := by
  rw [Stored, instances_of_withoutObjects h]
  exact hc

def Released (app : ManagedInstance) (c : InstanceCluster) : Prop :=
  ∀ app', c.instances.get app.metadata.key = some app' →
    applicationInstanceFinalizer ∉ app'.metadata.finalizers

section returns

variable (henv : env.Faultless)

include henv

theorem returns_dropFinalizer (hc : Stored c app) :
    Returns env c (dropFinalizer app) fun _ => Released app := by
  obtain ⟨stored, hget, hmetadata⟩ := hc
  let released : ObjectMeta := { app.metadata with
    finalizers := app.metadata.finalizers.filter fun f => f ≠ applicationInstanceFinalizer }
  have hnot : applicationInstanceFinalizer ∉ released.finalizers := by simp [released]
  have hput : Released app { c with
      instances := c.instances.put (updated { app with metadata := released } stored) } := by
    intro app' happ'
    obtain rfl := Option.some.inj ((Store.get_put_self c.instances _).symm.trans happ')
    exact hnot
  have hget' : c.instances.get ({ app with metadata := released } : ManagedInstance).metadata.key =
      some stored := hget
  refine .seq (.mapError (returns_updateMetadata henv hget' (fun f hf => ?_) (.pure hput)
    fun _ => .pure fun app' happ' => ?_))
  · rw [hmetadata]
    exact (List.mem_filter.mp hf).1
  · exact absurd ((Store.get_erase_self c.instances app.metadata.key).symm.trans happ') (by simp)

/-- The instance is still stored, and its objects are as they were. -/
def MarkedDeleting (app : ManagedInstance) (c c' : InstanceCluster) : Prop :=
  Stored c' app ∧ ∀ kind, c'.objects kind = c.objects kind

theorem returns_updateStatus_marked {s : InstanceSite} {app' : ManagedInstance} (hc : Stored c app)
    (hmetadata : app'.metadata = app.metadata) :
    Returns env c (updateStatus s app') fun _ => MarkedDeleting app c := by
  obtain ⟨stored, hget, hstored⟩ := hc
  have hget' : c.instances.get app'.metadata.key = some stored := hmetadata ▸ hget
  have hkey : Keyed.key ({ stored with status := app'.status } : ManagedInstance) =
      app.metadata.key := congrArg ObjectMeta.key hstored
  refine returns_updateStatus henv hget' ⟨⟨{ stored with status := app'.status }, ?_, hstored⟩,
    fun kind => ?_⟩
  · rw [← hkey]
    exact Store.get_put_self _ _
  · cases kind <;> rfl

omit henv in
theorem returns_report_marked {app' : ManagedInstance} {prev : List Condition} {c₀ : InstanceCluster}
    (hc : MarkedDeleting app c₀ c) :
    Returns env c (InstanceM.reportConditions app' prev) fun _ => MarkedDeleting app c₀ := by
  refine returns_reportConditions ⟨hc.1, fun kind => ?_⟩
  rw [← hc.2 kind]
  cases kind <;> rfl

theorem returns_markDeleting (hc : Stored c app) (reason message : String) :
    Returns env c (markDeleting app reason message) fun _ => MarkedDeleting app c := by
  exact .seq (returns_now (.bind (.mapError (returns_updateStatus_marked henv hc rfl)) fun _ _ h =>
    returns_report_marked h))

theorem returns_deleteRelease (ns : String) (release : ReleaseSpec) :
    Returns env c (FluxEngine.deleteRelease ns release) fun _ c' =>
      c'.withoutObjects = c.withoutObjects ∧ c'.releases.get ⟨ns, release.name⟩ = none ∧
        ∀ k, (c'.objects .seaweed).get k = (c.objects .seaweed).get k := by
  refine .bind (.mapError (returns_deleteObject henv _ _)) fun _ c₁ h₁ => ?_
  refine .bind (.mapError (returns_deleteObject henv _ _)) fun _ c₂ h₂ => ?_
  refine (Returns.mapError (returns_deleteObject henv _ _)).mono fun _ c₃ h₃ => ⟨?_, ?_, fun k => ?_⟩
  · exact h₃.apart.trans (h₂.apart.trans h₁.apart)
  · exact (h₃.others _ _ (.inl (by decide))).trans ((h₂.others _ _ (.inl (by decide))).trans h₁.gone)
  · exact (h₃.others _ _ (.inl (by decide))).trans
      ((h₂.others _ _ (.inl (by decide))).trans (h₁.others _ _ (.inl (by decide))))

/-- There is a legacy release, and an engine to look for it. -/
def InstanceController.legacyRelease (r : InstanceController) (app : ManagedInstance)
    (release : ReleaseSpec) (c : InstanceCluster) : Bool :=
  r.engine.isSome && (c.releases.get ⟨app.metadata.ns, release.name⟩).isSome

theorem returns_legacyReleaseExists {release : ReleaseSpec}
    (hrelease : app.spec.release = some release) (hname : release.name ≠ "") (again : Bool)
    {Q : Bool → InstanceCluster → Prop} (h : Q (r.legacyRelease app release c) c) :
    Returns env c (r.legacyReleaseExists again app) Q := by
  unfold InstanceController.legacyRelease at h
  unfold InstanceController.legacyReleaseExists
  split
  · next hnone =>
    rw [hnone] at h
    exact .pure h
  · next hsome =>
    unfold FluxEngine.releaseExists
    rw [hrelease]
    simp only [if_neg hname]
    rw [hsome] at h
    exact .mapError (.mapError (returns_read henv h))

theorem returns_removeSeaweed {release : ReleaseSpec} (hrelease : app.spec.release = some release)
    (hname : release.name ≠ "") (hc : Stored c app) :
    Returns env c (r.removeSeaweed app) fun _ => Released app := by
  have hvalid : validateReleaseRef app.toApplicationInstance = .ok release := by
    rw [validateReleaseRef, hrelease]
    exact if_neg hname
  let k : ObjectKey := ⟨releaseNamespace app.toApplicationInstance, release.name⟩
  have hrest : ∀ c', Stored c' app → (c'.objects .seaweed).get k = none →
      r.legacyRelease app release c' = false →
      Returns env c' (r.leaveIfGone app) fun _ => Released app := by
    intro c' hc' hseaweed hlegacy
    refine .seq (.seq (.ofExcept hvalid (.mapError (returns_read henv ?_))))
    have hnone : c'.seaweeds.get ⟨releaseNamespace app.toApplicationInstance, release.name⟩ = none :=
      hseaweed
    rw [hnone]
    refine .seq (returns_legacyReleaseExists henv hrelease hname true ?_)
    rw [hlegacy]
    exact returns_dropFinalizer henv hc'
  refine .seq (.seq (.ofExcept hvalid (.mapError
    ((returns_deleteObject henv .seaweed k).mono fun _ c₁ h₁ => ?_))))
  refine .seq (returns_legacyReleaseExists henv hrelease hname false ?_)
  have hstored := hc.congr h₁.apart
  cases hlegacy : r.legacyRelease app release c₁ with
  | false => exact hrest c₁ hstored h₁.gone hlegacy
  | true =>
    simp only [hrelease]
    refine .bind (returns_deleteRelease henv _ _) fun _ c₂ h₂ => ?_
    refine hrest c₂ (hstored.congr h₂.1) ((h₂.2.2 k).trans h₁.gone) ?_
    simp [InstanceController.legacyRelease, h₂.2.1]

theorem returns_proceed (hengine : r.seaweedEngine.isSome = true)
    (hdeleting : app.metadata.deletionTimestamp.isSome = true)
    (hname : ∀ release, app.spec.release = some release → release.name ≠ "")
    (h : app.spec.isPlaceholder = true ∨ app.spec.release ≠ none)
    (hget : c.instances.get app.metadata.key = some app) :
    Returns env c (r.reconciler.proceed app) fun _ => Released app := by
  have hc : Stored c app := ⟨app, hget, rfl⟩
  unfold ApplicationInstanceReconciler.proceed
  rw [if_pos hdeleting]
  split
  · next hseaweed =>
    simp only [Bool.and_eq_true, Bool.not_eq_true'] at hseaweed
    have hmanaged : ¬app.spec.isPlaceholder = true := by simp [hseaweed.1]
    obtain ⟨release, hrelease⟩ := Option.ne_none_iff_exists'.mp (h.resolve_left hmanaged)
    refine .seq (returns_now (.bind (.mapError (returns_updateStatus_marked henv hc rfl))
      fun _ c₁ h₁ => .bind (returns_report_marked h₁) fun _ c₂ h₂ => ?_))
    split
    · next hnone => exact absurd (hnone ▸ hengine) (by simp)
    · exact returns_removeSeaweed henv hrelease (hname release hrelease) h₂.1
  · unfold finalize
    split
    · exact .bind (returns_markDeleting henv hc _ _) fun _ _ h => returns_dropFinalizer henv h.1
    · next hmanaged =>
      refine .bind (returns_markDeleting henv hc _ _) fun _ c₁ h₁ => ?_
      obtain ⟨release, hrelease⟩ := Option.ne_none_iff_exists'.mp (h.resolve_left hmanaged)
      rw [hrelease]
      split
      · exact returns_dropFinalizer henv h₁.1
      · next heq => exact absurd heq (by simp)
      · refine .bind (returns_deleteRelease henv _ _) fun _ c₂ h₂ => ?_
        exact returns_dropFinalizer henv (h₁.1.congr h₂.1)

end returns

def alone (app : ManagedInstance) : InstanceCluster where
  instances := Store.empty.put app
  workloads := Workloads.empty

theorem get_alone (app : ManagedInstance) :
    (alone app).instances.get app.metadata.key = some app := Store.get_put_self Store.empty app

theorem stored_alone (app : ManagedInstance) : Stored (alone app) app := ⟨app, get_alone app, rfl⟩

theorem untouched_alone (app : ManagedInstance) : Untouched (alone app) app := by
  intro kind o ho
  cases kind <;> exact absurd ho List.not_mem_nil

section without

variable (hdeleting : app.metadata.deletionTimestamp.isSome = true)
  (hmanaged : app.spec.isPlaceholder = false) (hrelease : app.spec.release = none)

include hdeleting hmanaged hrelease

theorem result_proceed_of_helm (henv : env.Faultless) (hc : Stored c app)
    (hengine : r.engine.isSome = true)
    (hhelm : isSeaweedWorkload app.toApplicationInstance = false) :
    ((r.reconciler.proceed app).run env c).result = .error nilDereference := by
  obtain ⟨engine, hengine⟩ := Option.isSome_iff_exists.mp hengine
  have hreconciler : r.reconciler.engine = some engine := hengine
  unfold ApplicationInstanceReconciler.proceed finalize
  rw [if_pos hdeleting, hhelm, Bool.and_false, if_neg Bool.false_ne_true, hmanaged,
    if_neg Bool.false_ne_true, hreconciler, hrelease]
  exact (returns_markDeleting henv hc _ _).result_bind fun _ _ _ => rfl

omit hdeleting hmanaged in
theorem result_removeSeaweed :
    ((r.removeSeaweed app).run env c).result =
      .error { msg := "spec.release is required for Seaweed workload" } := by
  have hvalid : ((Prog.ofExcept (validateReleaseRef app.toApplicationInstance) :
      InstanceM ReleaseSpec).run env c).result =
      .error { msg := "spec.release is required for Seaweed workload" } := by
    rw [run_ofExcept, validateReleaseRef, hrelease]
  have hdelete : ((SeaweedEngine.deleteSeaweed app.toApplicationInstance).run env c).result =
      .error { msg := "spec.release is required for Seaweed workload" } := by
    rw [SeaweedEngine.deleteSeaweed, run_bind_of_error hvalid]
  rw [InstanceController.removeSeaweed, run_bind_of_error hdelete]

theorem result_proceed_of_seaweed (henv : env.Faultless) (hc : Stored c app)
    (hengine : r.seaweedEngine.isSome = true)
    (hseaweed : isSeaweedWorkload app.toApplicationInstance = true) :
    ((r.reconciler.proceed app).run env c).result =
      .error { msg := "spec.release is required for Seaweed workload" } := by
  obtain ⟨engine, hengine⟩ := Option.isSome_iff_exists.mp hengine
  have hproceed : r.reconciler.proceed app = r.finalizeSeaweed app := by
    unfold ApplicationInstanceReconciler.proceed
    rw [if_pos hdeleting]
    exact if_pos (by simp [hmanaged, hseaweed])
  rw [hproceed, InstanceController.finalizeSeaweed]
  refine Returns.result_bind (P := fun _ c' => c' = c) (returns_now rfl) fun t _ h => ?_
  subst h
  refine Returns.result_bind (.mapError (returns_updateStatus_marked henv hc rfl)) fun _ c₁ h₁ => ?_
  refine Returns.result_bind (returns_report_marked h₁) fun _ c₂ _ => ?_
  rw [hengine]
  exact result_removeSeaweed hrelease

end without

theorem deletable_iff (r : InstanceController) (app : ManagedInstance)
    (hengine : r.engine.isSome = true) (hseaweed : r.seaweedEngine.isSome = true)
    (hadmitted : app.spec.Admitted) (hdeleting : app.metadata.deletionTimestamp.isSome = true) :
    Deletable r app ↔ app.spec.isPlaceholder = true ∨ app.spec.release ≠ none := by
  refine ⟨fun h => ?_, fun h => ⟨fun env c hpanic => ?_, fun env c henv hget _ => ?_⟩⟩
  · by_contra hnot
    rw [not_or, Bool.not_eq_true, not_not] at hnot
    obtain ⟨hmanaged, hrelease⟩ := hnot
    cases hworkload : isSeaweedWorkload app.toApplicationInstance with
    | false =>
      exact h.noPanic { now := 0 } (alone app) (result_proceed_of_helm hdeleting hmanaged hrelease
        (fun _ => rfl) (stored_alone app) hengine hworkload)
    | true =>
      obtain ⟨_, hok, -⟩ := h.removed { now := 0 } (alone app) (fun _ => rfl) (get_alone app)
        (untouched_alone app)
      rw [result_proceed_of_seaweed hdeleting hmanaged hrelease (fun _ => rfl) (stored_alone app)
        hseaweed hworkload] at hok
      exact absurd hok (by simp)
  · exact raises_proceed hdeleting h env c _ hpanic rfl
  · exact returns_proceed henv hseaweed hdeleting (fun release hrelease =>
      (hadmitted.release release hrelease).1) h hget

def leaving (catalogId : String) (release : Option ReleaseSpec) : ManagedInstance where
  metadata :=
    { ns := "team-a", name := "shop", uid := "u1", deletionTimestamp := some 4
      finalizers := [applicationInstanceFinalizer] }
  spec := { catalogId, mode := .managed, release }

theorem admitted_leaving {catalogId : String} {release : Option ReleaseSpec} (hid : catalogId ≠ "")
    (hrelease : ∀ r, release = some r → r.name ≠ "" ∧ r.ns ≠ "") :
    (leaving catalogId release).spec.Admitted :=
  ⟨hid, fun _ h => absurd h (by simp [leaving]), hrelease, fun _ h => absurd h (by simp [leaving])⟩

theorem sample_deletable_iff :
    Deletable plainController (leaving "shop" (some ⟨"shop", "team-a"⟩)) :=
  (deletable_iff plainController (leaving "shop" (some ⟨"shop", "team-a"⟩)) rfl rfl
    (admitted_leaving (by decide) (by rintro _ ⟨⟩; decide)) rfl).mpr (.inr (by simp [leaving]))

theorem undeletable_without_release :
    (leaving "shop" none).spec.Admitted ∧ Untouched (alone (leaving "shop" none)) (leaving "shop" none) ∧
      ((plainController.reconcile ⟨"team-a", "shop"⟩).run { now := 5 }
        (alone (leaving "shop" none))).result = .error nilDereference ∧
      (leaving catalogIdSeaweedFS none).spec.Admitted ∧
      ((plainController.reconcile ⟨"team-a", "shop"⟩).run { now := 5 }
        (alone (leaving catalogIdSeaweedFS none))).result =
          .error { msg := "spec.release is required for Seaweed workload" } :=
  ⟨admitted_leaving (by decide) fun _ h => absurd h (by simp), untouched_alone _, by decide +kernel,
    admitted_leaving (by decide) fun _ h => absurd h (by simp), by decide +kernel⟩

end VWorkspace
