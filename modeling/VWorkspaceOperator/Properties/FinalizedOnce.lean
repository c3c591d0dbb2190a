import VWorkspaceOperator.Controller.Runs
import VWorkspaceOperator.Instance.Annotations
import VWorkspaceOperator.Instance.Licences
import VWorkspaceOperator.Kit.Run

/-!
# Finalization happens once

An object that is being deleted stays as long as another party has a finalizer on it.  The
operator has removed its own by then, and reconciles go on.  Both reconcilers look for their
finalizer before they look at the deletion, and try to put it back.  It is the API server that
ends this: it takes no new finalizer for an object that is being deleted, so that the update
fails and the reconcile ends there, before the engine is asked for anything.

## Main definitions and results

* `Departed`: what is left of the object then.
* `ServerRefuses`, `InstanceServerRefuses`: the rule of the API server.
* `finalized_once`: what reconciles do to such an object under this rule.
-/

namespace VWorkspace

open Kit Prog

/-- The object is being deleted, and this finalizer is not on it. -/
structure Departed (finalizer : String) (m : ObjectMeta) : Prop where
  deleting : m.deletionTimestamp.isSome
  released : finalizer ∉ m.finalizers

/-- What the API server lets others do to an object: a deletion is not taken back, and puts an
end to new finalizers. -/
def Withers (m m' : ObjectMeta) : Prop :=
  m.deletionTimestamp.isSome → m'.deletionTimestamp.isSome ∧ ∀ f ∈ m'.finalizers, f ∈ m.finalizers

theorem Departed.withers {finalizer : String} {m m' : ObjectMeta} (h : Departed finalizer m)
    (hw : Withers m m') : Departed finalizer m' :=
  ⟨(hw h.deleting).1, fun hmem => h.released ((hw h.deleting).2 _ hmem)⟩

theorem answerUpdate_of_departed {finalizer : String} {m : ObjectMeta} (h : Departed finalizer m) :
    ∃ err, answerUpdate false m { m with finalizers := m.finalizers ++ [finalizer] } =
      .refused err := by
  have hlive : m.deletionTimestamp.isNone = false := by simpa using h.deleting
  have hall : ((m.finalizers ++ [finalizer]).all fun f => f ∈ m.finalizers) = false := by
    simp [h.released]
  exact ⟨_, by simp only [answerUpdate, hlive, hall, Bool.false_or, Bool.false_eq_true, if_false]; rfl⟩

section operations

open Ctl

variable {r : OperationReconciler} {env : Env} {c : Cluster} {k : ObjectKey} {op : Operation}
  {uid : String}

theorem run_reconcile_of_departed (hserver : env.takesFinalizers = false)
    (hget : c.operations.get k = some op) (h : Departed operationFinalizer op.metadata) :
    ∃ e, ∀ r : OperationReconciler, (reconcile r k).run env c = ⟨.error e, c, []⟩ := by
  obtain rfl : op.key = k := Store.key_of_get hget
  cases hread : env.fault .getOperation with
  | some msg =>
    refine ⟨{ msg }, fun r => ?_⟩
    rw [reconcile, run_bind, run_getOperation, hread]
  | none =>
    have hupdate : ∃ e, (updateMetadata .addFinalizer { op with metadata := { op.metadata with
        finalizers := op.metadata.finalizers ++ [operationFinalizer] } }).run env c =
        ⟨.error e, c, []⟩ := by
      rw [updateMetadata, run_bind]
      cases hfault : env.fault .addFinalizer with
      | some msg => exact ⟨{ msg }, by rw [run_call_of_some hfault]⟩
      | none =>
        have hstored : c.operations.get ({ op with metadata := { op.metadata with finalizers :=
            op.metadata.finalizers ++ [operationFinalizer] } } : Operation).key = some op := hget
        obtain ⟨err, hrefused⟩ := answerUpdate_of_departed h
        rw [run_call_of_none hfault]
        simp only [run_bind, run_ask, run_get, Outcome.after, hstored, hserver, hrefused,
          run_throw, List.append_nil]
        exact ⟨_, rfl⟩
    obtain ⟨e, hupdate⟩ := hupdate
    refine ⟨e.wrap "add finalizer", fun r => ?_⟩
    rw [run_reconcile_of_stored hread hget, if_pos h.released, addFinalizer, run_bind, run_mapError,
      hupdate]
    rfl

theorem get_reconcile_of_ne {k' : ObjectKey} (hne : k' ≠ k) :
    ((reconcile r k).run env c).state.operations.get k' = c.operations.get k' := by
  have hstate : ((reconcile r k).run env c).state.operations = _ := operations_step_reconcile
  rw [hstate]
  exact get_storedAfter_of_ne (List.prefix_refl _) hne

/-- In a reconcile of an operation, the API server takes no new finalizers for objects that are
being deleted. -/
def ServerRefuses : Action → Prop
  | .reconcile env _ => env.takesFinalizers = false
  | .environment _ => True

/-- Others keep to the rules for the operation of this UID, and do not bring it back. -/
def OperationWithers (k : ObjectKey) (uid : String) (c : Cluster) : Action → Prop
  | .reconcile _ _ => True
  | .environment change => ∀ op', (change c).operations.get k = some op' →
      op'.metadata.uid = uid →
      ∃ op, c.operations.get k = some op ∧ op.metadata.uid = uid ∧ Withers op.metadata op'.metadata

/-- While the operation of this UID is there, a reconcile does not write to it; and its own
reconcile does nothing at all, and would do so with any engines. -/
def OperationUntouched (r : OperationReconciler) (k : ObjectKey) (uid : String) (c : Cluster) :
    Action → Prop
  | .reconcile env k' => ∀ op, c.operations.get k = some op → op.metadata.uid = uid →
      ((reconcile r k').run env c).state.operations.get k = some op ∧
      (k' = k → ((reconcile r k').run env c).trace = [] ∧
        ∀ r', (reconcile r' k').run env c = (reconcile r k').run env c)
  | .environment _ => True

/-- The operation of this UID, if it is still there, has departed. -/
def OperationDeparted (k : ObjectKey) (uid : String) (c : Cluster) : Prop :=
  ∀ op, c.operations.get k = some op → op.metadata.uid = uid →
    Departed operationFinalizer op.metadata

theorem operationUntouched_step {a : Action} (hserver : ServerRefuses a)
    (hothers : OperationWithers k uid c a) (hc : OperationDeparted k uid c) :
    OperationUntouched r k uid c a ∧ OperationDeparted k uid (step r c a) := by
  cases a with
  | environment change =>
    refine ⟨trivial, fun op' hget' huid' => ?_⟩
    obtain ⟨op, hget, huid, hwithers⟩ := hothers op' hget' huid'
    exact (hc op hget huid).withers hwithers
  | reconcile env k' =>
    have hframe : ∀ op, c.operations.get k = some op → op.metadata.uid = uid →
        ((reconcile r k').run env c).state.operations.get k = some op := by
      intro op hget huid
      by_cases hk : k' = k
      · subst hk
        obtain ⟨e, hrun⟩ := run_reconcile_of_departed hserver hget (hc op hget huid)
        rw [hrun r]
        exact hget
      · exact (get_reconcile_of_ne fun heq => hk heq.symm).trans hget
    refine ⟨fun op hget huid => ⟨hframe op hget huid, ?_⟩, fun op' hget' huid' => ?_⟩
    · rintro rfl
      obtain ⟨e, hrun⟩ := run_reconcile_of_departed hserver hget (hc op hget huid)
      exact ⟨by rw [hrun r], fun r' => by rw [hrun r', hrun r]⟩
    · obtain ⟨op, hget, huid⟩ : ∃ op, c.operations.get k = some op ∧ op.metadata.uid = uid := by
        by_cases hk : k' = k
        · subst hk
          obtain ⟨op, hget, huid, -⟩ := get_storedAfter_self (List.prefix_refl _)
            (operations_step_reconcile ▸ hget')
          exact ⟨op, hget, huid.symm.trans huid'⟩
        · exact ⟨op', (get_reconcile_of_ne fun heq => hk heq.symm).symm.trans hget', huid'⟩
      obtain rfl := Option.some.inj ((hframe op hget huid).symm.trans hget')
      exact hc op hget huid

end operations

section instances

variable {r : InstanceController} {env : InstanceEnv} {c : InstanceCluster} {k : ObjectKey}
  {app : ManagedInstance} {uid : String}

theorem InstanceController.run_reconcile_of_departed (hserver : env.takesFinalizers = false)
    (hget : c.instances.get k = some app) (h : Departed applicationInstanceFinalizer app.metadata) :
    ∃ e, ∀ r : InstanceController, (r.reconcile k).run env c = ⟨.error e, c, []⟩ := by
  obtain rfl : app.metadata.key = k := Store.key_of_get hget
  cases hread : env.fault .getInstance with
  | some msg =>
    refine ⟨{ msg }, fun r => ?_⟩
    rw [InstanceController.reconcile, ApplicationInstanceReconciler.reconcile, run_bind,
      InstanceM.getInstance, InstanceM.run_read_eq, hread]
  | none =>
    have hupdate : ∃ e, (InstanceM.updateMetadata .addFinalizer { app with metadata :=
        { app.metadata with finalizers :=
          app.metadata.finalizers ++ [applicationInstanceFinalizer] } }).run env c =
        ⟨.error e, c, []⟩ := by
      unfold InstanceM.updateMetadata InstanceM.call
      simp only [run_bind]
      cases env.fault .addFinalizer with
      | some msg => exact ⟨{ msg }, rfl⟩
      | none =>
        have hstored : c.instances.get ({ app.metadata with finalizers :=
            app.metadata.finalizers ++ [applicationInstanceFinalizer] } : ObjectMeta).key =
            some app := hget
        obtain ⟨err, hrefused⟩ := answerUpdate_of_departed h
        simp only [run_ask, run_get, Outcome.after, hstored, hserver, hrefused, run_throw,
          List.append_nil]
        exact ⟨_, rfl⟩
    obtain ⟨e, hupdate⟩ := hupdate
    refine ⟨e.wrap "add finalizer", fun r => ?_⟩
    rw [InstanceController.reconcile, ApplicationInstanceReconciler.reconcile, run_bind,
      InstanceM.getInstance, InstanceM.run_read_eq, hread, hget]
    simp only [if_pos h.released, run_bind, run_mapError, hupdate]
    rfl

/-- In a reconcile of an instance, the API server takes no new finalizers for objects that are
being deleted. -/
def InstanceServerRefuses : InstanceStep → Prop
  | .reconcile env _ => env.takesFinalizers = false
  | .outside _ => True

/-- Others keep to the rules for the instance of this UID, and do not bring it back. -/
def InstanceWithers (k : ObjectKey) (uid : String) (c : InstanceCluster) : InstanceStep → Prop
  | .reconcile _ _ => True
  | .outside c' => ∀ app', c'.instances.get k = some app' → app'.metadata.uid = uid →
      ∃ app, c.instances.get k = some app ∧ app.metadata.uid = uid ∧
        Withers app.metadata app'.metadata

/-- While the instance of this UID is there, a reconcile does not write to it; and its own
reconcile does nothing at all, and would do so with any engines. -/
def InstanceUntouched (r : InstanceController) (k : ObjectKey) (uid : String)
    (c : InstanceCluster) : InstanceStep → Prop
  | .reconcile env k' => ∀ app, c.instances.get k = some app → app.metadata.uid = uid →
      ((r.reconcile k').run env c).state.instances.get k = some app ∧
      (k' = k → ((r.reconcile k').run env c).trace = [] ∧
        ∀ r' : InstanceController, (r'.reconcile k').run env c = (r.reconcile k').run env c)
  | .outside _ => True

/-- The instance of this UID, if it is still there, has departed. -/
def InstanceDeparted (k : ObjectKey) (uid : String) (c : InstanceCluster) : Prop :=
  ∀ app, c.instances.get k = some app → app.metadata.uid = uid →
    Departed applicationInstanceFinalizer app.metadata

theorem instanceUntouched_step {a : InstanceStep} (hserver : InstanceServerRefuses a)
    (hothers : InstanceWithers k uid c a) (hc : InstanceDeparted k uid c) :
    InstanceUntouched r k uid c a ∧ InstanceDeparted k uid (instanceStep r.reconciler c a) := by
  cases a with
  | outside c' =>
    refine ⟨trivial, fun app' hget' huid' => ?_⟩
    obtain ⟨app, hget, huid, hwithers⟩ := hothers app' hget' huid'
    exact (hc app hget huid).withers hwithers
  | reconcile env k' =>
    have hframe : ∀ app, c.instances.get k = some app → app.metadata.uid = uid →
        ((r.reconcile k').run env c).state.instances.get k = some app := by
      intro app hget huid
      by_cases hk : k' = k
      · subst hk
        obtain ⟨e, hrun⟩ := InstanceController.run_reconcile_of_departed hserver hget (hc app hget huid)
        rw [hrun r]
        exact hget
      · exact (r.get_reconcile_of_ne c fun heq => hk heq.symm).trans hget
    refine ⟨fun app hget huid => ⟨hframe app hget huid, ?_⟩, fun app' hget' huid' => ?_⟩
    · rintro rfl
      obtain ⟨e, hrun⟩ := InstanceController.run_reconcile_of_departed hserver hget (hc app hget huid)
      exact ⟨by rw [hrun r], fun r' => by rw [hrun r', hrun r]⟩
    · obtain ⟨app, hget, hevolved⟩ := (r.moves_reconcile env c k').get hget'
      have huid := hevolved.uid.symm.trans huid'
      obtain rfl := Option.some.inj ((hframe app hget huid).symm.trans hget')
      exact hc app hget huid

end instances

theorem finalized_once :
    (∀ (r : OperationReconciler) (c : Cluster) (op : Operation) (run : List Action),
      c.operations.get op.key = some op → Departed operationFinalizer op.metadata →
      Along (step r) (fun c a => ServerRefuses a ∧ OperationWithers op.key op.metadata.uid c a) c
        run →
      Along (step r) (OperationUntouched r op.key op.metadata.uid) c run) ∧
    ∀ (r : InstanceController) (c : InstanceCluster) (app : ManagedInstance)
      (run : List InstanceStep),
      c.instances.get app.metadata.key = some app →
      Departed applicationInstanceFinalizer app.metadata →
      Along (instanceStep r.reconciler) (fun c a => InstanceServerRefuses a ∧
        InstanceWithers app.metadata.key app.metadata.uid c a) c run →
      Along (instanceStep r.reconciler) (InstanceUntouched r app.metadata.key app.metadata.uid) c
        run := by
  constructor
  · intro r c op run hget hdeparted hothers
    refine hothers.of_invariant (fun c a h => operationUntouched_step h.1 h.2) ?_
    intro op' hget' _
    obtain rfl := Option.some.inj (hget.symm.trans hget')
    exact hdeparted
  · intro r c app run hget hdeparted hothers
    refine hothers.of_invariant (fun c a h => instanceUntouched_step h.1 h.2) ?_
    intro app' hget' _
    obtain rfl := Option.some.inj (hget.symm.trans hget')
    exact hdeparted

/-- A backup that was deleted, and that an auditor holds. -/
def heldBackup : Operation :=
  let op := submitted ⟨"team-a", "backup"⟩ "u1" "shop" .backup .velero
  { op with metadata :=
    { op.metadata with finalizers := ["audit.example.org/hold"], deletionTimestamp := some 3 } }

theorem held_backup_untouched :
    Along (step plainOperator) (OperationUntouched plainOperator heldBackup.key "u1")
      (clusterOf [heldBackup] [])
      [.reconcile { now := 4 } heldBackup.key, .reconcile { now := 5 } heldBackup.key] := by
  have hget : (clusterOf [heldBackup] []).operations.get heldBackup.key = some heldBackup := by
    decide +kernel
  exact finalized_once.1 plainOperator _ heldBackup _ hget ⟨rfl, by decide⟩
    ⟨⟨rfl, trivial⟩, ⟨rfl, trivial⟩, trivial⟩

-- under a server without this rule the finalizer is back after one reconcile
example : ((exec (step plainOperator) (clusterOf [heldBackup] [])
      [.reconcile { now := 4, takesFinalizers := true } heldBackup.key]).operations.get
        heldBackup.key).map (fun op => op.metadata.finalizers) =
    some ["audit.example.org/hold", operationFinalizer] := by
  decide +kernel

end VWorkspace
