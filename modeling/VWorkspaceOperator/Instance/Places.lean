import VWorkspaceOperator.Instance.Annotations
import VWorkspaceOperator.Instance.Controller

/-!
# The places of an instance

A reconcile finds the objects of an instance by their names, which come from the release of the
instance: its `HelmRelease`, the sources of its chart and its `Seaweed`.  It writes and deletes
objects at these places only.  A release and a `Seaweed` it writes are controlled by the instance
from then on; a chart source has no owner, and the release refers to it by name.
-/

namespace VWorkspace

open Kit Prog InstanceM

/-- Where an instance with that release has its object of a kind. -/
def OwnedKind.place (kind : OwnedKind) (app : ApplicationInstance) (release : ReleaseSpec) :
    ObjectKey :=
  match kind with
  | .helmRelease => ⟨app.metadata.ns, release.name⟩
  | .helmRepository | .ociRepository => ⟨app.metadata.ns, chartSourceName release⟩
  | .seaweed => ⟨releaseNamespace app, release.name⟩

def ApplicationInstance.Occupies (app : ApplicationInstance) (kind : OwnedKind) (k : ObjectKey) :
    Prop := app.spec.release.map (kind.place app) = some k

/-- `metav1.IsControlledBy`. -/
def Unstructured.controlledBy (o : Unstructured) (uid : String) : Bool :=
  (o.metadata.ownerReferences.find? fun ref => ref.controller).any fun ref => ref.uid = uid

/-- The chart source that a release refers to. -/
def Unstructured.sourceRef (hr : Unstructured) : Option (OwnedKind × ObjectKey) := do
  let ref ← nestedMap ["spec", "chart", "spec", "sourceRef"] hr.body
  let kind ← [OwnedKind.helmRepository, .ociRepository].find? fun kind =>
    kind.text = nestedString ["kind"] ref
  let ns := nestedString ["namespace"] ref
  pure (kind, ⟨if ns = "" then hr.metadata.ns else ns, nestedString ["name"] ref⟩)

/-- The kinds of objects that get an owner. -/
def controlledKinds : List OwnedKind := [.helmRelease, .seaweed]

/-- An object is at one of these places, and so is the source of a release. -/
def WellPlaced (places : OwnedKind → ObjectKey → Prop) (kind : OwnedKind) (o : Unstructured) :
    Prop :=
  places kind o.metadata.key ∧
    (kind = .helmRelease → ∀ ref ∈ o.sourceRef, places ref.1 ref.2)

/-- An object as a reconcile writes it for an instance. -/
structure WrittenFor (app : ApplicationInstance) (kind : OwnedKind) (o : Unstructured) : Prop where
  placed : WellPlaced app.Occupies kind o
  controlled : kind ∈ controlledKinds → ∀ uid, o.controlledBy uid → app.metadata.uid = uid

/-- What is kept by all that a reconcile may do to the objects at the places of an instance. -/
structure PlaceClosed (app : ApplicationInstance) (P : InstanceCluster → Prop) : Prop where
  rest : ∀ c c', c'.objects = c.objects → P c → P c'
  put : ∀ c kind o, WrittenFor app kind o → P c → P (c.setObjects kind ((c.objects kind).put o))
  erase : ∀ c kind k, app.Occupies kind k → P c →
    P (c.setObjects kind ((c.objects kind).erase k))

section written

variable {app : ApplicationInstance} {spec : HelmSpec} {o o' : Unstructured}

theorem controlledBy_of_setControllerReference {m m' : ObjectMeta} {uid : String}
    (h : setControllerReference app m = .ok m') {labels : List (String × String)} {body : Fields}
    (huid : Unstructured.controlledBy { metadata := { m' with labels }, body } uid) :
    app.metadata.uid = uid := by
  unfold Unstructured.controlledBy at huid
  rw [find?_setControllerReferenceTo rfl h] at huid
  simpa [controllerReference] using huid

theorem writtenFor_source {kind : OwnedKind} (hkind : kind = .helmRepository ∨ kind = .ociRepository)
    (hspec : app.spec.helm = some spec)
    (hkey : o.metadata.key = ⟨app.metadata.ns, chartSourceName spec.release⟩) :
    WrittenFor app kind o := by
  have hplace : app.Occupies kind o.metadata.key := by
    rw [ApplicationInstance.Occupies, (of_helm hspec).2.1, hkey]
    rcases hkind with rfl | rfl <;> rfl
  refine ⟨⟨hplace, fun hrelease => ?_⟩, fun hmem => ?_⟩
  · rcases hkind with rfl | rfl <;> exact absurd hrelease (by decide)
  · rcases hkind with rfl | rfl <;> exact absurd hmem (by decide)

theorem sourceRef_of_releaseBody {values : Option Fields} {m : ObjectMeta} {body body₁ body₂ : Fields}
    (hchart : chartBody spec body = .ok body₁) (hvalues : valuesBody values body₁ = .ok body₂) :
    Unstructured.sourceRef { metadata := m, body := body₂ } =
      some (if spec.chart.sourceType = .oci then .ociRepository else .helmRepository,
        ⟨m.ns, chartSourceName spec.release⟩) := by
  obtain ⟨b₁, -, h⟩ := exists_of_bind_ok hchart
  obtain ⟨b₂, -, h⟩ := exists_of_bind_ok h
  obtain ⟨b₃, -, hsource⟩ := exists_of_bind_ok h
  have hnested : nested ["spec", "chart", "spec", "sourceRef"] body₂ =
      some (.obj [("kind", .str (sourceKind spec.chart)),
        ("name", .str (chartSourceName spec.release))]) := by
    cases values with
    | none =>
      obtain rfl := Except.ok.inj hvalues
      exact nested_setBody hsource
    | some values =>
      rw [← nested_setBody hsource]
      exact nested_setNested_of_ne (by decide) ["spec"] [] ["spec", "sourceRef"]
        (setNested_of_setBody hvalues)
  have hmap : nestedMap ["spec", "chart", "spec", "sourceRef"] body₂ =
      some [("kind", .str (sourceKind spec.chart)), ("name", .str (chartSourceName spec.release))] := by
    rw [nestedMap, hnested]
  rw [Unstructured.sourceRef, hmap]
  by_cases hoci : spec.chart.sourceType = .oci
  · rw [sourceKind, if_pos hoci, if_pos hoci]
    rfl
  · rw [sourceKind, if_neg hoci, if_neg hoci]
    rfl

end written

section keeps

variable {env : InstanceEnv} {P : InstanceCluster → Prop} {app : ManagedInstance}

theorem PlaceClosed.keeps_ensureRelease (h : PlaceClosed app.toApplicationInstance P)
    (e : FluxEngine) {spec : HelmSpec} (hspec : app.spec.helm = some spec) :
    Keeps env P (e.ensureRelease app.toApplicationInstance spec) := by
  have hsource : Keeps env P (ensureChartSource app.toApplicationInstance spec) := by
    unfold ensureChartSource
    simp only
    split
    · refine keeps_createOrUpdate (fun _ => .ofExcept _) fun c o _ ho c' hc' => h.put c' _ o ?_ hc'
      obtain ⟨b₁, -, ho⟩ := exists_of_bind_ok ho
      obtain ⟨b₂, -, ho⟩ := exists_of_bind_ok ho
      obtain rfl := Except.ok.inj ho
      exact writtenFor_source (.inl rfl) hspec (InstanceM.key_mutated c _ _)
    · refine keeps_createOrUpdate (fun _ => .ofExcept _) fun c o _ ho c' hc' => h.put c' _ o ?_ hc'
      obtain ⟨b₁, -, ho⟩ := exists_of_bind_ok ho
      obtain ⟨b₂, -, ho⟩ := exists_of_bind_ok ho
      obtain ⟨b₃, -, ho⟩ := exists_of_bind_ok ho
      obtain rfl := Except.ok.inj ho
      exact writtenFor_source (.inr rfl) hspec (InstanceM.key_mutated c _ _)
    · exact .of_idle (.throw _)
  refine .bind (.mapError hsource) fun _ =>
    keeps_createOrUpdate (e.idle_mutateHelmRelease _ spec) fun c o _ ho c' hc' => h.put c' _ o ?_ hc'
  obtain ⟨owned, howned, ho⟩ := exists_of_result_bind ho
  obtain ⟨body₁, hchart, ho⟩ := exists_of_result_bind ho
  obtain ⟨values, -, ho⟩ := exists_of_result_bind ho
  obtain ⟨body₂, hbody, ho⟩ := exists_of_result_bind ho
  obtain rfl := Except.ok.inj ho
  have hkey : owned.key = ⟨app.metadata.ns, spec.release.name⟩ :=
    (key_setControllerReference howned).trans (InstanceM.key_mutated c _ _)
  have hrelease := (of_helm hspec).2.1
  refine ⟨⟨?_, fun _ ref href => ?_⟩, fun _ uid => controlledBy_of_setControllerReference howned⟩
  · rw [ApplicationInstance.Occupies, hrelease]
    exact congrArg some hkey.symm
  · rw [sourceRef_of_releaseBody hchart hbody] at href
    obtain rfl := Option.mem_some.mp href
    have hns : owned.ns = app.metadata.ns := congrArg ObjectKey.ns hkey
    rw [ApplicationInstance.Occupies, hrelease, Option.map_some, hns]
    split <;> rfl

theorem PlaceClosed.keeps_ensureSeaweed (h : PlaceClosed app.toApplicationInstance P)
    (e : SeaweedEngine) : Keeps env P (e.ensureSeaweed app.toApplicationInstance) := by
  intro c hc
  refine Idle.state_bind (.ofExcept _) hc fun release hrelease => ?_
  obtain ⟨hrelease, -⟩ := of_validateReleaseRef hrelease
  refine Idle.state_bind (.mapError (e.idle_loadValues _)) hc fun loaded _ =>
    Idle.state_bind (.ofExcept _) hc fun values _ => ?_
  simp only
  split
  · exact hc
  · refine keeps_createOrUpdate (fun _ => .ofExcept _) (fun c o _ ho c' hc' => h.put c' _ o ?_ hc') c hc
    obtain ⟨owned, howned, ho⟩ := exists_of_bind_ok ho
    simp only at ho
    split at ho
    · exact absurd ho (by simp)
    · obtain ⟨body, -, ho⟩ := exists_of_bind_ok ho
      obtain rfl := Except.ok.inj ho
      refine ⟨⟨?_, fun hkind => absurd hkind (by decide)⟩,
        fun _ uid => controlledBy_of_setControllerReference howned⟩
      rw [ApplicationInstance.Occupies, hrelease]
      exact congrArg some ((key_setControllerReference howned).trans (InstanceM.key_mutated c _ _)).symm

theorem PlaceClosed.objectsKept (h : PlaceClosed app.toApplicationInstance P) :
    InstanceController.ObjectsKept env P app where
  release e _ hspec := h.keeps_ensureRelease e hspec
  seaweed e := h.keeps_ensureSeaweed e
  deleteRelease release hrelease := by
    have hdelete : ∀ kind : OwnedKind,
        Keeps env P (deleteObject kind (kind.place app.toApplicationInstance release)) := by
      refine fun kind => keeps_deleteObject fun c => h.erase c kind _ ?_
      rw [ApplicationInstance.Occupies, hrelease]
      rfl
    exact .bind (.mapError (hdelete .helmRelease)) fun _ =>
      .bind (.mapError (hdelete .helmRepository)) fun _ => .mapError (hdelete .ociRepository)
  deleteSeaweed := by
    intro c hc
    refine Idle.state_bind (.ofExcept _) hc fun release hrelease => ?_
    refine Keeps.mapError (keeps_deleteObject fun c => h.erase c .seaweed _ ?_) c hc
    rw [ApplicationInstance.Occupies, (of_validateReleaseRef hrelease).1]
    rfl

theorem PlaceClosed.state_reconcile (r : InstanceController) {k : ObjectKey} {c : InstanceCluster}
    (h : ∀ app, c.instances.get k = some app → PlaceClosed app.toApplicationInstance P) (hc : P c) :
    P ((r.reconcile k).run env c).state := by
  refine keeps_reconcile hc (fun app _ hget _ => (h app hget).rest c _ rfl hc) fun app hget _ => ?_
  have hclosed := h app hget
  have hstatus : StatusClosed P := .of_objects (fun c _ => hclosed.rest c _ rfl)
    fun c _ => hclosed.rest c _ rfl
  refine InstanceController.state_proceed (hstatus.at _) hclosed.objectsKept hc (fun _ => id)
    (fun c' status hc' _ => ?_) (keeps_dropFinalizer (fun c _ => hclosed.rest c _ rfl) app)
  have hnoted := ((r.annotatesAt_reconcileSeaweedManagedStorage { app with status }).1 env c').1
  have hobjects := congrArg InstanceCluster.objects hnoted.rest
  exact hclosed.rest c' _ hobjects hc'

theorem placeClosed_get {app : ApplicationInstance} {kind : OwnedKind} {k : ObjectKey}
    (hk : ¬app.Occupies kind k) {found : Option Unstructured} :
    PlaceClosed app fun c => (c.objects kind).get k = found where
  rest c c' h hc := h ▸ hc
  put c kind' o ho hc := by
    by_cases hkind : kind = kind'
    · subst hkind
      have hne : k ≠ o.metadata.key := fun heq => hk (heq ▸ ho.placed.1)
      rw [InstanceCluster.objects_setObjects_self]
      exact (Store.get_put_of_ne hne).trans hc
    · rw [InstanceCluster.objects_setObjects_of_ne hkind]
      exact hc
  erase c kind' k' hk' hc := by
    by_cases hkind : kind = kind'
    · subst hkind
      have hne : k ≠ k' := fun heq => hk (heq ▸ hk')
      rw [InstanceCluster.objects_setObjects_self]
      exact (Store.get_erase_of_ne hne).trans hc
    · rw [InstanceCluster.objects_setObjects_of_ne hkind]
      exact hc

end keeps

end VWorkspace
