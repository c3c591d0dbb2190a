import VWorkspaceOperator.Instance.Licences
import VWorkspaceOperator.Instance.Places
import VWorkspaceOperator.Properties.ReadyStatus

/-!
# Instances of one namespace

The release and the `Seaweed` of an instance are protected while they are ensured: an object
that another instance controls is not taken over.  They are not protected when an instance ends,
since its objects are deleted by their names, and a chart source has no owner at all.  So an
instance may damage another one whose release has the same name.

Instances whose releases have different names leave each other alone, in every interleaving of
their reconciles.
-/

namespace VWorkspace

open Kit

/-- The instance with that UID controls the object, or the release that refers to it. -/
def Belongs (c : InstanceCluster) (uid : String) (kind : OwnedKind) (o : Unstructured) : Prop :=
  match kind with
  | .helmRelease | .seaweed => o.controlledBy uid
  | .helmRepository | .ociRepository =>
      ∃ hr ∈ c.releases.items, hr.controlledBy uid ∧ hr.sourceRef = some (kind, o.metadata.key)

/-- What the instance controls is at its places. -/
def Housed (app : ApplicationInstance) (c : InstanceCluster) : Prop :=
  ∀ kind ∈ controlledKinds, ∀ o ∈ (c.objects kind).items, o.controlledBy app.metadata.uid →
    WellPlaced app.Occupies kind o

/-- The instance is still the one it was, if it is still there. -/
def Unaltered (app : ManagedInstance) (c : InstanceCluster) : Prop :=
  ∀ stored, c.instances.get app.metadata.key = some stored →
    stored.metadata.uid = app.metadata.uid ∧ stored.spec = app.spec

section places

variable {app other : ApplicationInstance} {c : InstanceCluster} {kind : OwnedKind}

theorem occupies_congr (hkey : app.metadata.key = other.metadata.key)
    (hspec : app.spec = other.spec) : app.Occupies = other.Occupies := by
  have hns : app.metadata.ns = other.metadata.ns := congrArg ObjectKey.ns hkey
  have hplace : ∀ kind : OwnedKind, kind.place app = kind.place other := by
    intro kind
    funext release
    cases kind <;> simp only [OwnedKind.place, releaseNamespace, hns, hspec]
  funext kind k
  rw [ApplicationInstance.Occupies, ApplicationInstance.Occupies, hplace, hspec]

theorem not_occupies_of_ne {k : ObjectKey}
    (hne : ∀ a ∈ app.spec.release, ∀ b ∈ other.spec.release, a.name ≠ b.name)
    (h : app.Occupies kind k) : ¬other.Occupies kind k := by
  intro h'
  obtain ⟨a, ha, hplace⟩ := Option.map_eq_some_iff.mp h
  obtain ⟨b, hb, hplace'⟩ := Option.map_eq_some_iff.mp h'
  have hname := congrArg ObjectKey.name (hplace.trans hplace'.symm)
  refine hne a ha b hb ?_
  cases kind with
  | helmRelease | seaweed => exact hname
  | helmRepository | ociRepository => exact String.append_left_inj _ |>.mp hname

theorem Housed.occupies (h : Housed app c) {o : Unstructured} (ho : o ∈ (c.objects kind).items)
    (hbelongs : Belongs c app.metadata.uid kind o) : app.Occupies kind o.metadata.key := by
  cases kind with
  | helmRelease => exact (h .helmRelease (by decide) o ho hbelongs).1
  | seaweed => exact (h .seaweed (by decide) o ho hbelongs).1
  | helmRepository | ociRepository =>
    obtain ⟨hr, hmem, huid, href⟩ := hbelongs
    exact (h .helmRelease (by decide) hr hmem huid).2 rfl _ href

theorem placeClosed_housed
    (h : app.metadata.uid = other.metadata.uid → app.Occupies = other.Occupies) :
    PlaceClosed app (Housed other) where
  rest c c' hobjects hc := by
    unfold Housed
    rw [hobjects]
    exact hc
  put c kind o ho hc kind' hkind' o' ho' huid := by
    by_cases hkind : kind' = kind
    · subst hkind
      rw [InstanceCluster.objects_setObjects_self, Store.mem_put] at ho'
      rcases ho' with rfl | ⟨hold, -⟩
      · exact h (ho.controlled hkind' _ huid) ▸ ho.placed
      · exact hc _ hkind' o' hold huid
    · rw [InstanceCluster.objects_setObjects_of_ne hkind] at ho'
      exact hc kind' hkind' o' ho' huid
  erase c kind k _ hc kind' hkind' o' ho' huid := by
    by_cases hkind : kind' = kind
    · subst hkind
      rw [InstanceCluster.objects_setObjects_self, Store.mem_erase] at ho'
      exact hc _ hkind' o' ho'.1 huid
    · rw [InstanceCluster.objects_setObjects_of_ne hkind] at ho'
      exact hc kind' hkind' o' ho' huid

end places

section runs

variable {r : InstanceController} {a b app other : ManagedInstance} {c : InstanceCluster}
  {env : InstanceEnv}

/-- The instance is the one it was, if it is still there, and has its objects at its places. -/
structure Stands (app : ManagedInstance) (c : InstanceCluster) : Prop where
  unaltered : Unaltered app c
  placed : Housed app.toApplicationInstance c

theorem Stands.occupies (h : Stands app c) {stored : ManagedInstance}
    (hget : c.instances.get app.metadata.key = some stored) :
    stored.metadata.uid = app.metadata.uid ∧ stored.Occupies = app.Occupies :=
  ⟨(h.unaltered stored hget).1, occupies_congr (Store.key_of_get hget) (h.unaltered stored hget).2⟩

theorem Stands.reconcile (h : Stands other c) (happ : Stands app c)
    (hne : app = other ∨ app.metadata.uid ≠ other.metadata.uid) :
    Stands other ((r.reconcile app.metadata.key).run env c).state where
  unaltered stored' hget' := by
    obtain ⟨stored, hget, hevolved⟩ :=
      (InstanceController.moves_reconcile env c app.metadata.key).get hget'
    obtain ⟨huid, hspec⟩ := h.unaltered stored hget
    exact ⟨hevolved.uid.trans huid, hevolved.spec.trans hspec⟩
  placed := by
    refine PlaceClosed.state_reconcile r (fun stored hget => placeClosed_housed fun huid => ?_) h.placed
    obtain ⟨hstored, hoccupies⟩ := happ.occupies hget
    rcases hne with rfl | hne
    · exact hoccupies
    · exact absurd (hstored.symm.trans huid) hne

theorem Stands.untouched (h : Stands other c) (happ : Stands app c)
    (hne : ∀ x ∈ other.spec.release, ∀ y ∈ app.spec.release, x.name ≠ y.name) {kind : OwnedKind}
    {o : Unstructured} (ho : o ∈ (c.objects kind).items)
    (hbelongs : Belongs c other.metadata.uid kind o) :
    o ∈ (((r.reconcile app.metadata.key).run env c).state.objects kind).items := by
  have hplace := not_occupies_of_ne hne (h.placed.occupies ho hbelongs)
  refine Store.mem_of_get (k := o.metadata.key) ?_
  refine PlaceClosed.state_reconcile r (fun stored hget => placeClosed_get ?_) (Store.get_of_mem ho)
  exact (happ.occupies hget).2 ▸ hplace

/-- A step of the two: one of them is reconciled, or others leave their specs and all objects as
they are. -/
def Turn (a b : ManagedInstance) (c : InstanceCluster) : InstanceStep → Prop
  | .reconcile _ k => k = a.metadata.key ∨ k = b.metadata.key
  | .outside c' => c'.objects = c.objects ∧ Unaltered a c' ∧ Unaltered b c'

/-- The reconcile of one of them leaves what belongs to the other. -/
def Harmless (r : InstanceController) (a b : ManagedInstance) (c : InstanceCluster) :
    InstanceStep → Prop
  | .reconcile env k => ∀ app, app = a ∨ app = b → k ≠ app.metadata.key →
      ∀ kind, ∀ o ∈ (c.objects kind).items, Belongs c app.metadata.uid kind o →
        o ∈ (((r.reconcile k).run env c).state.objects kind).items
  | .outside _ => True

theorem neighbours_unharmed (ha : a ∈ c.instances.items) (hb : b ∈ c.instances.items)
    (huid : a.metadata.uid ≠ b.metadata.uid)
    (hne : ∀ x ∈ a.spec.release, ∀ y ∈ b.spec.release, x.name ≠ y.name)
    (hplaced : Housed a.toApplicationInstance c) (hplaced' : Housed b.toApplicationInstance c)
    {steps : List InstanceStep} (hsteps : Along (instanceStep r.reconciler) (Turn a b) c steps) :
    Along (instanceStep r.reconciler) (Harmless r a b) c steps := by
  have hstart : ∀ {app : ManagedInstance}, app ∈ c.instances.items → Unaltered app c := by
    intro app happ stored hget
    obtain rfl : app = stored := Option.some.inj ((Store.get_of_mem happ).symm.trans hget)
    exact ⟨rfl, rfl⟩
  refine hsteps.of_invariant (I := fun c => Stands a c ∧ Stands b c) (fun c s hturn ⟨hsa, hsb⟩ => ?_)
    ⟨⟨hstart ha, hplaced⟩, hstart hb, hplaced'⟩
  cases s with
  | outside c' =>
    obtain ⟨hobjects, hunaltered, hunaltered'⟩ := hturn
    have hplaced : ∀ app : ApplicationInstance, Housed app c → Housed app c' := fun app =>
      (placeClosed_housed fun _ => rfl : PlaceClosed app _).rest c c' hobjects
    exact ⟨trivial, ⟨hunaltered, hplaced _ hsa.placed⟩, hunaltered', hplaced _ hsb.placed⟩
  | reconcile env k =>
    rcases hturn with rfl | rfl
    · refine ⟨?_, hsa.reconcile hsa (.inl rfl), hsb.reconcile hsa (.inr huid)⟩
      rintro app (rfl | rfl) hk kind o ho hbelongs
      · exact absurd rfl hk
      · exact hsb.untouched hsa (fun y hy x hx => (hne x hx y hy).symm) ho hbelongs
    · refine ⟨?_, hsa.reconcile hsb (.inr huid.symm), hsb.reconcile hsb (.inl rfl)⟩
      rintro app (rfl | rfl) hk kind o ho hbelongs
      · exact hsa.untouched hsb hne ho hbelongs
      · exact absurd rfl hk

end runs

/-! #### Two shops -/

/-- Another instance of the namespace of the shop, which is being deleted. -/
def leavingNeighbour (release : String) : ManagedInstance :=
  let shop := shopInstance []
  { shop with
    metadata := { shop.metadata with name := "site", uid := "u2", deletionTimestamp := some 7 }
    spec := { shop.spec with release := some ⟨release, "team-a"⟩ } }

/-- The two, before the shop is installed. -/
def sharedNamespace (release : String) : InstanceCluster where
  instances := (Store.empty.put (shopInstance [])).put (leavingNeighbour release)
  workloads := Workloads.empty

/-- The shop is installed, and then its neighbour is finalized. -/
def neighbourSteps : List InstanceStep :=
  [.reconcile { now := 5 } ⟨"team-a", "shop"⟩, .reconcile { now := 8 } ⟨"team-a", "site"⟩]

theorem housed_sharedNamespace (app : ApplicationInstance) (release : String) :
    Housed app (sharedNamespace release) := by
  intro kind _ o ho
  have hnone : ((sharedNamespace release).objects kind).items = [] := by cases kind <;> rfl
  exact absurd (hnone ▸ ho) List.not_mem_nil

theorem turn_neighbourSteps (release : String) :
    Along (instanceStep plainController.reconciler)
      (Turn (shopInstance []) (leavingNeighbour release)) (sharedNamespace release) neighbourSteps :=
  ⟨.inl rfl, .inr rfl, trivial⟩

theorem shop_unharmed :
    Along (instanceStep plainController.reconciler)
      (Harmless plainController (shopInstance []) (leavingNeighbour "site"))
      (sharedNamespace "site") neighbourSteps :=
  neighbours_unharmed (by decide +kernel) (by decide +kernel) (by decide) (by decide)
    (housed_sharedNamespace _ _) (housed_sharedNamespace _ _) (turn_neighbourSteps "site")

theorem shop_damaged :
    (shopInstance []).Valid ∧ (leavingNeighbour "shop").Valid ∧
      Housed (shopInstance []).toApplicationInstance (sharedNamespace "shop") ∧
      Housed (leavingNeighbour "shop").toApplicationInstance (sharedNamespace "shop") ∧
      Along (instanceStep plainController.reconciler)
        (Turn (shopInstance []) (leavingNeighbour "shop")) (sharedNamespace "shop") neighbourSteps ∧
      ¬Along (instanceStep plainController.reconciler)
        (Harmless plainController (shopInstance []) (leavingNeighbour "shop"))
        (sharedNamespace "shop") neighbourSteps := by
  have hvalid : (shopInstance []).Valid ∧ (leavingNeighbour "shop").Valid := by
    unfold ManagedInstance.Valid
    decide +kernel
  have hlost : ∃ hr ∈ (exec (instanceStep plainController.reconciler) (sharedNamespace "shop")
      (neighbourSteps.take 1)).releases.items, hr.controlledBy "u1" ∧
      hr ∉ (exec (instanceStep plainController.reconciler) (sharedNamespace "shop")
        neighbourSteps).releases.items := by decide +kernel
  obtain ⟨hr, hmem, huid, hgone⟩ := hlost
  refine ⟨hvalid.1, hvalid.2, housed_sharedNamespace _ _, housed_sharedNamespace _ _,
    turn_neighbourSteps "shop", ?_⟩
  rintro ⟨-, hharmless, -⟩
  exact hgone (hharmless _ (.inl rfl) (by decide) .helmRelease hr hmem huid)

end VWorkspace
