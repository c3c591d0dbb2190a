import VWorkspaceOperator.Controller.Runs
import VWorkspaceOperator.Engines.Placement

/-!
# One workload for an operation

The operator calls `Materialize` before it records that the operation runs, so a
failed status write makes it call again.  The engines are made for that: a second
call changes nothing, and no call puts the workload anywhere but at the place the
names of the operation and of the target's namespace determine.  Over a whole run
an operation therefore has one workload at most, as long as nobody changes that
place or labels another workload with the UID of the operation.
-/

namespace VWorkspace

open Kit Prog

structure SameWork (op op' : Operation) : Prop where
  key : op'.key = op.key
  engine : op'.spec.engine = op.spec.engine
  type : op'.spec.type = op.spec.type
  target : op'.spec.targetRef.name = op.spec.targetRef.name

/-- Only one operation has the UID, the workloads of its target are in `ns`, and
every workload with the UID is at its place. -/
structure Settled (veleroNs : String) (op : Operation) (ns : String) (c : Cluster) : Prop where
  operations : ∀ op' ∈ c.operations.items, op'.metadata.uid = op.metadata.uid → SameWork op op'
  target : ∀ t, c.instances.get ⟨op.metadata.ns, op.spec.targetRef.name⟩ = some t →
    targetNamespace t = ns
  workloads : ∀ x ∈ c.workloads, x.ownedBy op = true →
    x.place = workloadPlace veleroNs op.spec.engine op ns

/-- The rest of the world keeps the identity and the work of the operation, and
the namespace of its target, and labels no other workload with the UID. -/
def KeepsWork (op : Operation) (ns : String) (c : Cluster) : Action → Prop
  | .reconcile _ _ => True
  | .environment change =>
      (∀ op' ∈ (change c).operations.items, op'.metadata.uid = op.metadata.uid → SameWork op op') ∧
      (∀ t, (change c).instances.get ⟨op.metadata.ns, op.spec.targetRef.name⟩ = some t →
        targetNamespace t = ns) ∧
      ∀ x ∈ (change c).workloads, x.ownedBy op = true →
        ∃ y ∈ c.workloads, y.ownedBy op = true ∧ y.place = x.place

section step

variable {hmac : String → String → String} {secret veleroNs : String} {op : Operation}
  {ns : String} {env : Env} {c : Cluster} {k : ObjectKey}

theorem workloadPlace_of_sameWork {op' : Operation} (h : SameWork op op')
    (huid : op'.metadata.uid = op.metadata.uid) :
    workloadPlace veleroNs op'.spec.engine op' ns = workloadPlace veleroNs op.spec.engine op ns := by
  have hns : op'.metadata.ns = op.metadata.ns := congrArg ObjectKey.ns h.key
  have hname : op'.metadata.name = op.metadata.name := congrArg ObjectKey.name h.key
  simp only [workloadPlace, materializedName, veleroKind, veleroKey, h.engine, h.type, hns, hname,
    huid]

theorem instances_step_reconcile (r : OperationReconciler) :
    (step r c (.reconcile env k)).instances = c.instances := by
  have h := journaled_reconcile r k env c
  rw [replay_apply] at h
  exact congrArg Prod.snd h

theorem exists_of_mem_step_reconcile {r : OperationReconciler} {op' : Operation}
    (h : op' ∈ (step r c (.reconcile env k)).operations.items) :
    ∃ op₀ ∈ c.operations.items, op₀.key = op'.key ∧ op₀.metadata.uid = op'.metadata.uid ∧
      op₀.spec = op'.spec := by
  rw [operations_step_reconcile] at h
  have hget : (storedAfter ((reconcile r k).run env c).trace c.operations).get op'.key = some op' :=
    Store.get_of_mem h
  by_cases hk : op'.key = k
  · rw [hk] at hget
    obtain ⟨op₀, hop₀, huid, hspec, -⟩ := get_storedAfter_self (List.prefix_refl _) hget
    exact ⟨op₀, Store.mem_of_get hop₀, (Store.key_of_get hop₀).trans hk.symm, huid.symm, hspec.symm⟩
  · rw [get_storedAfter_of_ne (List.prefix_refl _) hk] at hget
    exact ⟨op', Store.mem_of_get hget, rfl, rfl, rfl⟩

theorem place_of_placed {name : OperationEngine} {op₁ : Operation} {ns₁ : String}
    {w w' : Workloads} (h : Placed veleroNs name op₁ ns₁ w w') {x : Workload} (hx : x ∈ w')
    (hown : x.ownedBy op = true) :
    (∃ y ∈ w, y.ownedBy op = true ∧ y.place = x.place) ∨
      op₁.metadata.uid = op.metadata.uid ∧ x.place = workloadPlace veleroNs name op₁ ns₁ := by
  cases h with
  | unchanged => exact .inl ⟨x, hx, hown, rfl⟩
  | own z hplace hz hnew =>
    rcases mem_put_workload.mp hx with rfl | ⟨hx, -⟩
    · -- a workload has one label for the UID
      have huid : some op₁.metadata.uid = some op.metadata.uid :=
        (of_decide_eq_true hz).symm.trans (of_decide_eq_true hown)
      exact .inr ⟨Option.some.inj huid, hplace⟩
    · exact .inl ⟨x, hx, hown, rfl⟩
  | patched z y hname hy hplace hmeta =>
    rcases mem_put_workload.mp hx with rfl | ⟨hx, -⟩
    · refine .inl ⟨y, hy, ?_, hplace.symm⟩
      rwa [Workload.ownedBy, ← hmeta]
    · exact .inl ⟨x, hx, hown, rfl⟩

theorem settled_reconcile (h : Settled veleroNs op ns c) :
    Settled veleroNs op ns
      (step (operatorReconciler hmac secret veleroNs) c (.reconcile env k)) := by
  refine ⟨fun op' hop' huid => ?_, fun t ht => ?_, fun x hx hown => ?_⟩
  · obtain ⟨op₀, hop₀, hkey, huid₀, hspec⟩ := exists_of_mem_step_reconcile hop'
    have hsame := h.operations op₀ hop₀ (huid₀.trans huid)
    exact ⟨hkey ▸ hsame.key, hspec ▸ hsame.engine, hspec ▸ hsame.type, hspec ▸ hsame.target⟩
  · rw [instances_step_reconcile] at ht
    exact h.target t ht
  · rcases workloads_reconcile hmac secret veleroNs env c k with
      hw | ⟨op₁, engine, -, hengine, hw⟩ | ⟨op₁, target, engine, hgate, hopen, -, hw⟩
    · exact h.workloads x (hw ▸ hx) hown
    · exact h.workloads x (mem_of_cancel hengine (hw ▸ hx)) hown
    · have hopen' := openGate_of_admission hopen
      have hplaced := placed_materialize (Registry.mem_of_get hopen'.engine) op₁ target
        ⟨env.fault, c.instances⟩ c.workloads
      rw [← hw] at hplaced
      rcases place_of_placed hplaced hx hown with ⟨y, hy, hyown, hyplace⟩ | ⟨huid, hplace⟩
      · exact hyplace ▸ h.workloads y hy hyown
      · have hop₁ := hgate.stored
        have hsame := h.operations op₁ (Store.mem_of_get hop₁) huid
        have htarget : targetNamespace target = ns := by
          refine h.target target ?_
          have hns : op₁.metadata.ns = op.metadata.ns := congrArg ObjectKey.ns hsame.key
          rw [← hopen'.target, hns, hsame.target]
        rw [hplace, htarget, Registry.name_of_get hopen'.engine]
        exact workloadPlace_of_sameWork hsame huid

theorem settled_step {a : Action} (ha : KeepsWork op ns c a) (h : Settled veleroNs op ns c) :
    Settled veleroNs op ns (step (operatorReconciler hmac secret veleroNs) c a) := by
  cases a with
  | reconcile env k => exact settled_reconcile h
  | environment change =>
    obtain ⟨hops, htarget, hworkloads⟩ := ha
    refine ⟨hops, htarget, fun x hx hown => ?_⟩
    obtain ⟨y, hy, hyown, hplace⟩ := hworkloads x hx hown
    exact hplace ▸ h.workloads y hy hyown

end step

theorem materialize_idempotent (hmac : String → String → String) (secret veleroNs : String) :
    (∀ engine ∈ (builtinRegistry veleroNs).engines, ∀ op target w env,
      (∀ s, env.fault s = none) →
        let first := (engine.materialize op target).run env w
        let second := (engine.materialize op target).run env first.state
        second.state = first.state ∧ (second.result = .ok () ↔ first.result = .ok ())) ∧
    (∀ engine ∈ (builtinRegistry veleroNs).engines, supportsEngineRef engine.name = true →
      ∀ op target w env, ∀ x ∈ w, x.ownedBy op = false →
        x ∈ ((engine.materialize op target).run env w).state) ∧
    ∀ c as op ns, Settled veleroNs op ns c →
      Along (step (operatorReconciler hmac secret veleroNs)) (KeepsWork op ns) c as →
      ∀ x ∈ (exec (step (operatorReconciler hmac secret veleroNs)) c as).workloads,
        ∀ y ∈ (exec (step (operatorReconciler hmac secret veleroNs)) c as).workloads,
          x.ownedBy op = true → y.ownedBy op = true → x = y := by
  refine ⟨fun engine hengine op target w env hfault => ?_,
    fun engine hengine href op target w env x hx hforeign => ?_,
    fun c as op ns hsettled hrun x hx y hy hxown hyown => ?_⟩
  · obtain ⟨hstate, hresult⟩ := repeatable_materialize_builtin hfault hengine op target w
    exact ⟨hstate, by rw [hresult]⟩
  · have hplaced := placed_materialize hengine op target env w
    generalize ((engine.materialize op target).run env w).state = w' at hplaced ⊢
    cases hplaced with
    | unchanged => exact hx
    | own z hplace hown hnew => exact mem_put_workload.mpr (.inr ⟨hx, hnew href x hx⟩)
    | patched z y hname hy hplace hmeta => exact absurd href (by simp [hname, supportsEngineRef])
  · have hend : Settled veleroNs op ns
        (exec (step (operatorReconciler hmac secret veleroNs)) c as) :=
      exec_of_along hrun (fun _ _ ha h => settled_step ha h) hsettled
    exact workload_eq_of_place hx hy
      ((hend.workloads x hx hxown).trans (hend.workloads y hy hyown).symm)

def unrecordedBackup : Operation :=
  submitted ⟨"team-a", "nightly"⟩ "uid-1" "app" .backup .velero

def beforeUnrecorded : Cluster :=
  clusterOf [unrecordedBackup] [placeholderInstance ⟨"team-a", "app"⟩]

/-- The backup gets its finalizer; then its start fails to be recorded, twice. -/
def unrecordedStarts : List Action :=
  let k : ObjectKey := ⟨"team-a", "nightly"⟩
  let unwritable : Site → Option String := fun s => if s = .updateRunning then some "timeout" else none
  [.reconcile { now := 100 } k, .reconcile { now := 101, fault := unwritable } k,
    .reconcile { now := 102, fault := unwritable } k]

theorem settled_beforeUnrecorded : Settled "velero" unrecordedBackup "team-a" beforeUnrecorded := by
  refine ⟨fun op' hop' _ => ?_, fun t ht => ?_, fun x hx _ => ?_⟩
  · obtain rfl := List.mem_singleton.mp hop'
    exact ⟨rfl, rfl, rfl, rfl⟩
  · obtain rfl : placeholderInstance ⟨"team-a", "app"⟩ = t := Option.some.inj ht
    rfl
  · cases x with
    | job j => exact absurd hx List.not_mem_nil
    | object kind o => exact absurd hx List.not_mem_nil

theorem one_backup_after_failed_writes :
    let c := exec (step plainOperator) beforeUnrecorded unrecordedStarts
    phaseAt c ⟨"team-a", "nightly"⟩ = some .unset ∧
      (c.workloads.objectList .backup).any (·.ownedBy unrecordedBackup) = true ∧
      ∀ x ∈ c.workloads, ∀ y ∈ c.workloads, x.ownedBy unrecordedBackup = true →
        y.ownedBy unrecordedBackup = true → x = y :=
  ⟨by decide +kernel, by decide +kernel,
    (materialize_idempotent (fun _ _ => "") "" "velero").2.2 beforeUnrecorded unrecordedStarts
      unrecordedBackup "team-a" settled_beforeUnrecorded ⟨trivial, trivial, trivial, trivial⟩⟩

end VWorkspace
