import VWorkspaceOperator.Controller.Runs
import VWorkspaceOperator.Engines.Repeat
import VWorkspaceOperator.Instance.Reconcile
import VWorkspaceOperator.Kit.Run

/-!
# Upgrades and the spec of the instance

Two controllers write the version and the values of a `HelmRelease`.  The Helm engine of an
Upgrade patches them; the instance controller writes them anew from the spec of the
instance, in every reconcile.  What the upgrade wrote outlives the next reconcile only
where the spec asks for the same.
-/

namespace VWorkspace

open Kit Prog InstanceM

/-- The cluster after the Helm engine was called for an operation. -/
def afterMaterialize (env : EngineEnv) (op : Operation) (target : ApplicationInstance)
    (c : InstanceCluster) : InstanceCluster :=
  { c with workloads := ((helmMaterialize op target).run env c.workloads).state }

def HelmParameters.patched (params : HelmParameters) : Fields :=
  copyFields [] (params.valuesPatch.getD [])

def HasPatch (params : HelmParameters) (values : Fields) : Prop :=
  ∀ key v, params.patched.lookup key = some v → values.lookup key = some v

/-- The release has the version and the values of the upgrade. -/
structure Carries (params : HelmParameters) (hr : Unstructured) : Prop where
  version : params.targetVersion ≠ "" →
    nested ["spec", "chart", "spec", "version"] hr.body = some (.str params.targetVersion)
  values : HasPatch params ((nestedMap ["spec", "values"] hr.body).getD [])

/-- The release is there and has the version and the values of the upgrade. -/
def Upgraded (params : HelmParameters) (k : ObjectKey) (c : InstanceCluster) : Prop :=
  ∃ hr, c.releases.get k = some hr ∧ Carries params hr

/-- The spec of an instance asks for the version and the values of the upgrade. -/
structure Agrees (e : FluxEngine) (c : InstanceCluster) (params : HelmParameters)
    (app : ApplicationInstance) : Prop where
  version : params.targetVersion ≠ "" →
    ∀ chart, app.spec.chart = some chart → chart.version = params.targetVersion
  values : ∀ spec values, app.spec.values = some spec →
    e.declaredValues c app.metadata.ns spec = some values → HasPatch params values

def Manages (app : ApplicationInstance) (k : ObjectKey) : Prop :=
  ∃ release, app.spec.release = some release ∧ (⟨app.metadata.ns, release.name⟩ : ObjectKey) = k

/-- The spec of the release at `k` is the same in both clusters. -/
def SameRelease (k : ObjectKey) (c c' : InstanceCluster) : Prop :=
  (c'.releases.get k).map (fun hr => hr.body.lookup "spec") =
    (c.releases.get k).map fun hr => hr.body.lookup "spec"

/-- A step that cannot take the upgrade back: others leave the spec of the release, so does
the path of native SeaweedFS workloads, and an instance of the release that is reconciled is
not being deleted and asks for the upgrade, if its spec is valid. -/
def AgreeingAt (r : ApplicationInstanceReconciler) (params : HelmParameters) (k : ObjectKey)
    (c : InstanceCluster) : InstanceStep → Prop
  | .reconcile env k' => ∀ app, c.instances.get k' = some app →
      applicationInstanceFinalizer ∈ app.metadata.finalizers → app.spec.isPlaceholder = false →
      if isSeaweedWorkload app.toApplicationInstance then
        SameRelease k c ((r.reconcile k').run env c).state
      else Manages app.toApplicationInstance k → app.metadata.deletionTimestamp = none ∧
        (validateApplicationInstanceSpec app.toApplicationInstance = .ok () →
          ∀ e, r.engine = some e → Agrees e c params app.toApplicationInstance)
  | .outside c' => SameRelease k c c'

theorem hasPatch_copyFields (params : HelmParameters) (values : Fields) :
    HasPatch params (copyFields values (params.valuesPatch.getD [])) := by
  intro key v h
  rw [lookup_copyFields]
  exact (congrArg (Option.or · _) h).trans rfl

theorem hasPatch_of_nil {params : HelmParameters} (h : params.valuesPatch.getD [] = [])
    (values : Fields) : HasPatch params values := by
  intro key v hv
  rw [HelmParameters.patched, h] at hv
  exact absurd hv (by simp [copyFields])

theorem carries_of_patchHelmRelease {params : HelmParameters} {hr hr' : Unstructured}
    (h : patchHelmRelease params hr = .ok hr') : Carries params hr' := by
  obtain ⟨hversion, hvalues, -⟩ := of_patchHelmRelease h
  refine ⟨hversion, ?_⟩
  by_cases hpatch : params.valuesPatch.getD [] = []
  · exact hasPatch_of_nil hpatch _
  · obtain ⟨values, hread⟩ := hvalues hpatch
    rw [nestedMap, hread]
    exact hasPatch_copyFields params values

theorem upgraded_of_helmMaterialize {op : Operation} {target : ApplicationInstance}
    {env : EngineEnv} {c : InstanceCluster} {params : HelmParameters} {release : ReleaseSpec}
    (hparams : parseHelmParameters op = .ok params) (hrelease : target.spec.release = some release)
    (hok : ((helmMaterialize op target).run env c.workloads).result = .ok ()) :
    Upgraded params ⟨target.metadata.ns, release.name⟩ (afterMaterialize env op target c) := by
  obtain ⟨hr, hpatch, hget⟩ := patched_of_helmMaterialize hparams hrelease hok
  exact ⟨hr, hget, carries_of_patchHelmRelease hpatch⟩

section steps

variable {r : ApplicationInstanceReconciler} {params : HelmParameters} {k : ObjectKey}
  {c c₀ : InstanceCluster} {env : InstanceEnv}

theorem upgraded_of_sameRelease {c' : InstanceCluster} (h : SameRelease k c c')
    (hc : Upgraded params k c) : Upgraded params k c' := by
  obtain ⟨hr, hget, hcarries⟩ := hc
  rw [SameRelease, hget] at h
  obtain ⟨hr', hget', hspec⟩ := Option.map_eq_some_iff.mp h
  have hread : ∀ ks, nested ("spec" :: ks) hr'.body = nested ("spec" :: ks) hr.body :=
    fun ks => nested_congr hspec
  refine ⟨hr', hget', fun hne => ?_, ?_⟩
  · rw [hread]
    exact hcarries.version hne
  · rw [nestedMap, hread]
    exact hcarries.values

/-- While a reconcile runs: the upgrade is there, and the Secrets and ConfigMaps are those
it started with. -/
structure Standing (params : HelmParameters) (k : ObjectKey) (c₀ c : InstanceCluster) : Prop where
  upgraded : Upgraded params k c
  secrets : c.secrets = c₀.secrets
  configMaps : c.configMaps = c₀.configMaps

theorem standing_instances (c : InstanceCluster) (instances : Store ManagedInstance)
    (h : Standing params k c₀ c) : Standing params k c₀ { c with instances } :=
  ⟨h.upgraded, h.secrets, h.configMaps⟩

theorem statusClosed_standing : StatusClosed (Standing params k c₀) :=
  .of_objects standing_instances fun _ _ h => ⟨h.upgraded, h.secrets, h.configMaps⟩

theorem standing_setObjects {kind : OwnedKind} (s : Store Unstructured)
    (hkind : kind ≠ .helmRelease) (h : Standing params k c₀ c) :
    Standing params k c₀ (c.setObjects kind s) := by
  obtain ⟨hr, hget, hcarries⟩ := h.upgraded
  refine ⟨⟨hr, ?_, hcarries⟩, ?_, ?_⟩
  · rw [InstanceCluster.releases, InstanceCluster.objects_setObjects_of_ne hkind.symm]
    exact hget
  · rw [InstanceCluster.secrets_setObjects, h.secrets]
  · rw [InstanceCluster.configMaps_setObjects, h.configMaps]

theorem standing_put {o : Unstructured} (ho : o.metadata.key = k → Carries params o)
    (h : Standing params k c₀ c) :
    Standing params k c₀ (c.setObjects .helmRelease (c.releases.put o)) := by
  refine ⟨?_, by rw [InstanceCluster.secrets_setObjects, h.secrets],
    by rw [InstanceCluster.configMaps_setObjects, h.configMaps]⟩
  rw [Upgraded, InstanceCluster.releases, InstanceCluster.objects_setObjects_self]
  by_cases hkey : o.metadata.key = k
  · exact ⟨o, hkey ▸ Store.get_put_self _ o, ho hkey⟩
  · obtain ⟨hr, hget, hcarries⟩ := h.upgraded
    exact ⟨hr, (Store.get_put_of_ne (Ne.symm hkey)).trans hget, hcarries⟩

theorem standing_erase {k' : ObjectKey} (hne : k' ≠ k) (h : Standing params k c₀ c) :
    Standing params k c₀ (c.setObjects .helmRelease (c.releases.erase k')) := by
  obtain ⟨hr, hget, hcarries⟩ := h.upgraded
  refine ⟨⟨hr, ?_, hcarries⟩, by rw [InstanceCluster.secrets_setObjects, h.secrets],
    by rw [InstanceCluster.configMaps_setObjects, h.configMaps]⟩
  rw [InstanceCluster.releases, InstanceCluster.objects_setObjects_self,
    Store.get_erase_of_ne hne.symm]
  exact hget

theorem declaredValues_of_standing (e : FluxEngine) (ns : String) (values : ValuesSpec)
    (h : Standing params k c₀ c) : e.declaredValues c ns values = e.declaredValues c₀ ns values := by
  unfold FluxEngine.declaredValues
  rw [h.secrets, h.configMaps]

theorem carries_of_mutateHelmRelease {e : FluxEngine} {app : ApplicationInstance} {spec : HelmSpec}
    {hr hr' : Unstructured} (hspec : app.spec.helm = some spec) (hagrees : Agrees e c params app)
    (hcarries : Carries params hr)
    (h : ((e.mutateHelmRelease app spec hr).run env c).result = .ok hr') : Carries params hr' := by
  obtain ⟨-, hversion, hvalues⟩ := FluxEngine.of_mutateHelmRelease h
  obtain ⟨hchart, -, hdeclares⟩ := of_helm hspec
  constructor
  · intro hne
    rw [hversion, hagrees.version hne _ hchart]
  · rw [nestedMap, hvalues]
    cases hdeclared : e.declaredValues c app.metadata.ns spec.values with
    | none => exact hcarries.values
    | some values => exact hagrees.values _ _ hdeclares hdeclared

theorem keeps_ensureRelease {e : FluxEngine} {app : ApplicationInstance} {spec : HelmSpec}
    (hspec : app.spec.helm = some spec)
    (hagrees : (⟨app.metadata.ns, spec.release.name⟩ : ObjectKey) = k → Agrees e c₀ params app) :
    Keeps env (Standing params k c₀) (e.ensureRelease app spec) := by
  refine .bind (.mapError (keeps_ensureChartSource (fun _ _ => standing_setObjects) app spec)) fun _ =>
    keeps_createOrUpdate (e.idle_mutateHelmRelease app spec) fun c o hc ho c' hc' =>
      standing_put (fun hkey => ?_) hc'
  obtain ⟨hr, hget, hcarries⟩ := hc.upgraded
  have hplace : (⟨app.metadata.ns, spec.release.name⟩ : ObjectKey) = k := by
    rw [← hkey, (FluxEngine.of_mutateHelmRelease ho).1, InstanceM.key_mutated]
  have hmutated : InstanceM.mutated c .helmRelease ⟨app.metadata.ns, spec.release.name⟩ = hr := by
    rw [InstanceM.mutated, hplace, hget, Option.getD_some]
  rw [hmutated] at ho
  have hagrees' : Agrees e c params app := by
    refine ⟨(hagrees hplace).version, fun values => ?_⟩
    rw [declaredValues_of_standing e _ _ hc]
    exact (hagrees hplace).values values
  exact carries_of_mutateHelmRelease hspec hagrees' hcarries ho

theorem keeps_deleteRelease {ns : String} {release : ReleaseSpec}
    (hne : (⟨ns, release.name⟩ : ObjectKey) ≠ k) :
    Keeps env (Standing params k c₀) (FluxEngine.deleteRelease ns release) :=
  .bind (.mapError (keeps_deleteObject fun _ h => standing_erase hne h)) fun _ =>
    .bind (.mapError (keeps_deleteObject fun _ h => standing_setObjects _ (by decide) h)) fun _ =>
      .mapError (keeps_deleteObject fun _ h => standing_setObjects _ (by decide) h)

theorem standing_proceed {app : ManagedInstance}
    (hpath : app.spec.isPlaceholder = true ∨ isSeaweedWorkload app.toApplicationInstance = false)
    (hagreeing : app.spec.isPlaceholder = false → Manages app.toApplicationInstance k →
      app.metadata.deletionTimestamp = none ∧
        (validateApplicationInstanceSpec app.toApplicationInstance = .ok () →
          ∀ e, r.engine = some e → Agrees e c₀ params app.toApplicationInstance)) :
    Keeps env (Standing params k c₀) (r.proceed app) := by
  unfold ApplicationInstanceReconciler.proceed
  split
  · next hdeleting =>
    split
    · next hseaweed =>
      rw [Bool.and_eq_true, Bool.not_eq_true'] at hseaweed
      rcases hpath with hmode | hother
      · exact absurd hmode (by simp [hseaweed.1])
      · exact absurd hother (by simp [hseaweed.2])
    · refine keeps_finalize (statusClosed_standing.at _) (keeps_dropFinalizer standing_instances app)
        fun release hmode hrelease => ?_
      refine keeps_deleteRelease fun hplace => ?_
      rw [(hagreeing hmode ⟨release, hrelease, hplace⟩).1] at hdeleting
      exact absurd hdeleting (by simp)
  · split
    · exact keeps_setBlocked (statusClosed_standing.at _) _ _
    · next hvalid =>
      split
      · exact keeps_reconcilePlaceholder (statusClosed_standing.at _)
      · next hmode =>
        rw [Bool.not_eq_true] at hmode
        split
        · next hseaweed =>
          rcases hpath with hmode' | hother
          · exact absurd hmode' (by simp [hmode])
          · exact absurd hother (by simp [hseaweed])
        · refine keeps_reconcileHelm (statusClosed_standing.at _) fun e spec hengine hspec => ?_
          refine keeps_ensureRelease hspec fun hplace => ?_
          exact (hagreeing hmode ⟨spec.release, (of_helm hspec).2.1, hplace⟩).2 hvalid e hengine

theorem upgraded_step (s : InstanceStep) (hagreeing : AgreeingAt r params k c s)
    (hc : Upgraded params k c) : Upgraded params k (instanceStep r c s) := by
  cases s with
  | outside c' => exact upgraded_of_sameRelease hagreeing hc
  | reconcile env k' =>
    have hstanding : Standing params k c c := ⟨hc, rfl, rfl⟩
    by_cases hseaweed : ∃ app, c.instances.get k' = some app ∧
        applicationInstanceFinalizer ∈ app.metadata.finalizers ∧ app.spec.isPlaceholder = false ∧
        isSeaweedWorkload app.toApplicationInstance = true
    · obtain ⟨app, hget, hfinalizer, hmode, hseaweed⟩ := hseaweed
      have hsame := hagreeing app hget hfinalizer hmode
      rw [if_pos hseaweed] at hsame
      exact upgraded_of_sameRelease hsame hc
    · refine (keeps_reconcile hstanding (fun _ _ _ _ => standing_instances c _ hstanding)
        fun app hget hfinalizer => ?_).upgraded
      refine standing_proceed ?_ (fun hmode => ?_) c hstanding
      · by_contra hpath
        rw [not_or, Bool.not_eq_true, Bool.not_eq_false] at hpath
        exact hseaweed ⟨app, hget, hfinalizer, hpath.1, hpath.2⟩
      · have hother : ¬isSeaweedWorkload app.toApplicationInstance = true :=
          fun h => hseaweed ⟨app, hget, hfinalizer, hmode, h⟩
        have hagrees := hagreeing app hget hfinalizer hmode
        rw [if_neg hother] at hagrees
        exact hagrees

end steps

theorem upgraded_of_agreeing (r : ApplicationInstanceReconciler) (op : Operation)
    (target : ApplicationInstance) (env : EngineEnv) (c : InstanceCluster)
    (params : HelmParameters) (release : ReleaseSpec) (hparams : parseHelmParameters op = .ok params)
    (hrelease : target.spec.release = some release)
    (hok : ((helmMaterialize op target).run env c.workloads).result = .ok ())
    (run : List InstanceStep)
    (hrun : Along (instanceStep r) (AgreeingAt r params ⟨target.metadata.ns, release.name⟩)
      (afterMaterialize env op target c) run) :
    Upgraded params ⟨target.metadata.ns, release.name⟩
      (exec (instanceStep r) (afterMaterialize env op target c) run) :=
  exec_of_along hrun (fun _ s hs hc => upgraded_step s hs hc)
    (upgraded_of_helmMaterialize hparams hrelease hok)

/-- A reconciler with the Flux engine, in which no value document is YAML. -/
def fluxReconciler : ApplicationInstanceReconciler where
  engine := some ⟨fun _ => .error "no YAML"⟩
  reconcileSeaweed _ := pure {}
  finalizeSeaweed _ := pure {}

def releasePlace : ObjectKey := ⟨"team-a", "app"⟩

/-- An instance of a chart version, with a number of replicas among its values. -/
def chartInstance (version replicas : String) : ManagedInstance where
  metadata := { ns := "team-a", name := "app", finalizers := [applicationInstanceFinalizer] }
  spec :=
    { catalogId := "app"
      chart := some ⟨.helm, "https://charts.example.com", "app", version⟩
      release := some ⟨"app", "team-a"⟩
      values := some
        { source := .inline, inline := some (bytesOf ("\x7b\"replicas\":" ++ replicas ++ "\x7d")) } }

/-- The cluster after the first reconcile of the instance, which makes its release. -/
def installed (version replicas : String) : InstanceCluster :=
  ((fluxReconciler.reconcile releasePlace).run { now := 10 }
    { instances := Store.empty.put (chartInstance version replicas)
      workloads := Workloads.empty }).state

def upgradeOperation : Operation :=
  let base := submitted releasePlace "uid-1" "app" .upgrade .helm
  let parameters :=
    bytesOf "\x7b\"targetVersion\":\"2.0.0\",\"valuesPatch\":\x7b\"replicas\":3\x7d\x7d"
  { base with spec := { base.spec with parameters := some parameters } }

def upgradeParameters : HelmParameters where
  targetVersion := "2.0.0"
  valuesPatch := some [("replicas", .num "3")]

def quietEngine : EngineEnv := { fault := fun _ => none, instances := Store.empty }

def upgradedCluster (version replicas : String) : InstanceCluster :=
  afterMaterialize quietEngine upgradeOperation (chartInstance version replicas).toApplicationInstance
    (installed version replicas)

theorem parse_upgradeOperation : parseHelmParameters upgradeOperation = .ok upgradeParameters := by
  decide +kernel

theorem agrees_chartInstance (e : FluxEngine) (c : InstanceCluster) :
    Agrees e c upgradeParameters (chartInstance "2.0.0" "3").toApplicationInstance := by
  have hvalues : unmarshalAnyMap (bytesOf ("\x7b\"replicas\":" ++ "3" ++ "\x7d")) =
      .ok (some upgradeParameters.patched) := by decide +kernel
  refine ⟨fun _ chart hchart => ?_, fun spec values hspec hdeclared => ?_⟩
  · rw [← Option.some.inj hchart]
    rfl
  · rw [← Option.some.inj hspec] at hdeclared
    simp only [FluxEngine.declaredValues, Option.bind_some, hvalues, Except.toOption,
      Option.join_some, Option.some.injEq] at hdeclared
    rw [← hdeclared]
    exact fun _ _ h => h

theorem upgraded_of_agreeing_reconciled :
    Upgraded upgradeParameters releasePlace
      (exec (instanceStep fluxReconciler) (upgradedCluster "2.0.0" "3")
        [.reconcile { now := 20 } releasePlace]) := by
  have hstored : ((upgradedCluster "2.0.0" "3").instances.get releasePlace).map
      ManagedInstance.toApplicationInstance =
        some (chartInstance "2.0.0" "3").toApplicationInstance := by decide +kernel
  have hok : ((helmMaterialize upgradeOperation
      (chartInstance "2.0.0" "3").toApplicationInstance).run quietEngine
        (installed "2.0.0" "3").workloads).result = .ok () := by decide +kernel
  have hagreeing : AgreeingAt fluxReconciler upgradeParameters releasePlace
      (upgradedCluster "2.0.0" "3") (.reconcile { now := 20 } releasePlace) := by
    intro app hget _ _
    rw [hget, Option.map_some, Option.some.injEq] at hstored
    rw [hstored, if_neg (by decide)]
    exact fun _ => ⟨rfl, fun _ e _ => agrees_chartInstance e _⟩
  unfold upgradedCluster at hagreeing ⊢
  exact upgraded_of_agreeing fluxReconciler upgradeOperation
    (chartInstance "2.0.0" "3").toApplicationInstance quietEngine (installed "2.0.0" "3")
    upgradeParameters ⟨"app", "team-a"⟩ parse_upgradeOperation rfl hok
    [.reconcile { now := 20 } releasePlace] ⟨hagreeing, trivial⟩


theorem upgrade_taken_back :
    ((helmMaterialize upgradeOperation (chartInstance "1.0.0" "1").toApplicationInstance).run
        quietEngine (installed "1.0.0" "1").workloads).result = .ok () ∧
      Upgraded upgradeParameters releasePlace (upgradedCluster "1.0.0" "1") ∧
      ((fluxReconciler.reconcile releasePlace).run { now := 20 }
        (upgradedCluster "1.0.0" "1")).result = .ok { requeueAfter := 30 } ∧
      ¬Upgraded upgradeParameters releasePlace
        (exec (instanceStep fluxReconciler) (upgradedCluster "1.0.0" "1")
          [.reconcile { now := 20 } releasePlace]) := by
  have hversion : ((exec (instanceStep fluxReconciler) (upgradedCluster "1.0.0" "1")
      [.reconcile { now := 20 } releasePlace]).releases.get releasePlace).map
        (fun hr => nested ["spec", "chart", "spec", "version"] hr.body) =
          some (some (.str "1.0.0")) := by decide +kernel
  have hok : ((helmMaterialize upgradeOperation
      (chartInstance "1.0.0" "1").toApplicationInstance).run quietEngine
        (installed "1.0.0" "1").workloads).result = .ok () := by decide +kernel
  have hupgraded : Upgraded upgradeParameters releasePlace (upgradedCluster "1.0.0" "1") := by
    have hrelease : (chartInstance "1.0.0" "1").toApplicationInstance.spec.release =
        some ⟨"app", "team-a"⟩ := rfl
    have hupgraded := upgraded_of_helmMaterialize parse_upgradeOperation hrelease hok
    exact hupgraded
  refine ⟨hok, hupgraded, by decide +kernel, ?_⟩
  rintro ⟨hr, hget, hcarries⟩
  rw [hget, Option.map_some, hcarries.version (by decide)] at hversion
  exact absurd hversion (by decide)

end VWorkspace
