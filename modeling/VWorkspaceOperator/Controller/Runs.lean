import VWorkspaceOperator.Controller.Effects
import VWorkspaceOperator.Kit.Run

/-!
# Runs of the operator

A run interleaves reconciles, of any operation, at any time and with any faults,
with changes the rest of the world makes to the cluster: users, other
controllers, the API server.  Reconciles are serialized, as the one worker of
the controller serializes them.
-/

namespace VWorkspace

open Kit Prog

inductive Action where
  /-- A reconcile of the operation under a key. -/
  | reconcile (env : Env) (k : ObjectKey)
  /-- The rest of the world changes the cluster. -/
  | environment (change : Cluster → Cluster)

def step (r : OperationReconciler) (c : Cluster) : Action → Cluster
  | .reconcile env k => ((reconcile r k).run env c).state
  | .environment change => change c

def Action.trace (r : OperationReconciler) (c : Cluster) : Action → List Event
  | .reconcile env k => ((VWorkspace.reconcile r k).run env c).trace
  | .environment _ => []

def storedAfter (t : List Event) (s : Store Operation) : Store Operation :=
  replay Event.applyOperations t s

/-- The stores of operations that ever exist in a run: between two steps, or
between two writes of one reconcile. -/
def Persisted (r : OperationReconciler) (c : Cluster) (as : List Action) (s : Store Operation) :
    Prop :=
  s = (exec (step r) c as).operations ∨
    ∃ pre a post t, as = pre ++ a :: post ∧ t <+: a.trace r (exec (step r) c pre) ∧
      s = storedAfter t (exec (step r) c pre).operations

/-- An operation as it is submitted: without a finalizer and without a status. -/
def submitted (k : ObjectKey) (uid target : String) (type : OperationType)
    (engine : OperationEngine) : Operation where
  metadata := { ns := k.ns, name := k.name, uid := uid }
  spec := ⟨⟨appsGroupVersion, "ApplicationInstance", target⟩, type, engine, none, none⟩

def placeholderInstance (k : ObjectKey) : ApplicationInstance where
  metadata := { ns := k.ns, name := k.name }
  spec := { catalogId := "cluster-ops", mode := .placeholder }

/-- A cluster with the given operations and instances, and no workloads. -/
def clusterOf (ops : List Operation) (apps : List ApplicationInstance) : Cluster :=
  ⟨ops.foldl Store.put Store.empty, apps.foldl Store.put Store.empty, Workloads.empty⟩

def setBackupPhase (phase : String) (k : ObjectKey) (c : Cluster) : Cluster :=
  match (c.workloads.objects .backup).get k with
  | none => c
  | some o =>
      let o' := { o with body := setField "status" (.obj [("phase", .str phase)]) o.body }
      { c with workloads := c.workloads.setObjects .backup ((c.workloads.objects .backup).put o') }

abbrev plainOperator : OperationReconciler := operatorReconciler (fun _ _ => "") "" "velero"

def statusAt (c : Cluster) (k : ObjectKey) : Option OperationStatus :=
  (c.operations.get k).map fun op => op.status

def phaseAt (c : Cluster) (k : ObjectKey) : Option OperationPhase :=
  (statusAt c k).map fun st => st.phase

theorem statusAt_eq_some_iff {c : Cluster} {k : ObjectKey} {st : OperationStatus} :
    statusAt c k = some st ↔ ∃ op, c.operations.get k = some op ∧ op.status = st := by
  simp [statusAt, Option.map_eq_some_iff]

section journal

variable {r : OperationReconciler} {env : Env} {c : Cluster} {k k' : ObjectKey}

theorem replay_apply (t : List Event) (s : Store Operation × Store ApplicationInstance) :
    replay Event.apply t s = (storedAfter t s.1, s.2) := by
  induction t generalizing s with
  | nil => rfl
  | cons e t ih => rw [replay_cons, ih]; rfl

theorem operations_step_reconcile :
    (step r c (.reconcile env k)).operations =
      storedAfter ((reconcile r k).run env c).trace c.operations := by
  have h := journaled_reconcile r k env c
  rw [replay_apply] at h
  exact congrArg Prod.fst h

theorem get_storedAfter (t : List Event) (s : Store Operation) (k : ObjectKey) :
    (storedAfter t s).get k = s.get k ∧ (∀ op, .statusWritten op ∈ t → op.key ≠ k) ∨
      (∃ op, op.key = k ∧ (.statusWritten op ∈ t ∨ .metadataWritten op ∈ t) ∧
        (storedAfter t s).get k = some op) ∨
      .removed k ∈ t ∧ (storedAfter t s).get k = none := by
  induction t generalizing s with
  | nil => exact .inl ⟨rfl, by simp⟩
  | cons e t ih =>
    have hcons : storedAfter (e :: t) s = storedAfter t (e.applyOperations s) := rfl
    rw [hcons]
    rcases ih (e.applyOperations s) with ⟨hsame, hnone⟩ | ⟨op, hkey, hmem, hget⟩ | ⟨hmem, hget⟩
    · rw [hsame]
      cases e with
      | statusWritten op =>
        by_cases hk : op.key = k
        · subst hk
          exact .inr (.inl ⟨op, rfl, .inl List.mem_cons_self, Store.get_put_self s op⟩)
        · refine .inl ⟨Store.get_put_of_ne (fun h => hk h.symm), fun op' hop' => ?_⟩
          rcases List.mem_cons.mp hop' with h | h
          · exact Event.statusWritten.inj h ▸ hk
          · exact hnone op' h
      | metadataWritten op =>
        by_cases hk : op.key = k
        · subst hk
          exact .inr (.inl ⟨op, rfl, .inr List.mem_cons_self, Store.get_put_self s op⟩)
        · exact .inl ⟨Store.get_put_of_ne (fun h => hk h.symm), by simpa using hnone⟩
      | removed k'' =>
        by_cases hk : k = k''
        · subst hk
          exact .inr (.inr ⟨List.mem_cons_self, Store.get_erase_self s k⟩)
        · exact .inl ⟨Store.get_erase_of_ne hk, by simpa using hnone⟩
      | _ => exact .inl ⟨rfl, by simpa using hnone⟩
    · exact .inr (.inl ⟨op, hkey, hmem.imp (List.mem_cons_of_mem _) (List.mem_cons_of_mem _), hget⟩)
    · exact .inr (.inr ⟨List.mem_cons_of_mem _ hmem, hget⟩)

variable {t : List Event} (ht : t <+: ((reconcile r k).run env c).trace)

include ht

theorem get_storedAfter_of_ne (hk : k' ≠ k) :
    (storedAfter t c.operations).get k' = c.operations.get k' := by
  rcases get_storedAfter t c.operations k' with ⟨h, -⟩ | ⟨op, hkey, hst | hmeta, -⟩ | ⟨hrem, -⟩
  · exact h
  · obtain ⟨op₀, st, hgate, rfl, -⟩ := statusWritten_reconcile (ht.subset hst)
    exact absurd (hkey.symm.trans hgate.key_eq) hk
  · obtain ⟨op₀, -, -, hkey', -⟩ := metadataWritten_reconcile (ht.subset hmeta)
    exact absurd (hkey.symm.trans hkey') hk
  · exact absurd (removed_reconcile (ht.subset hrem)).1 hk

theorem get_storedAfter_self {op' : Operation}
    (h : (storedAfter t c.operations).get k = some op') :
    ∃ op, c.operations.get k = some op ∧ op'.metadata.uid = op.metadata.uid ∧
      op'.spec = op.spec ∧
      (op'.status = op.status ∧ (∀ op'', .statusWritten op'' ∉ t) ∨ .statusWritten op' ∈ t) := by
  rcases get_storedAfter t c.operations k with
    ⟨hsame, hnone⟩ | ⟨op, hkey, hst | hmeta, hget⟩ | ⟨-, hnone⟩
  · refine ⟨op', hsame ▸ h, rfl, rfl, .inl ⟨rfl, fun op'' hop'' => ?_⟩⟩
    obtain ⟨op₀, st, hgate, rfl, -⟩ := statusWritten_reconcile (ht.subset hop'')
    exact hnone _ hop'' hgate.key_eq
  · rw [h, Option.some.injEq] at hget
    subst hget
    obtain ⟨op₀, st, hgate, hop, -⟩ := statusWritten_reconcile (ht.subset hst)
    exact ⟨op₀, hgate.stored, by rw [hop]; rfl, by rw [hop]; rfl, .inr hst⟩
  · rw [h, Option.some.injEq] at hget
    subst hget
    obtain ⟨op₀, hop₀, hgate, -, huid, hspec, hstatus⟩ :=
      metadataWritten_reconcile (ht.subset hmeta)
    refine ⟨op₀, hop₀, huid, hspec, .inl ⟨hstatus, fun op'' hop'' => ?_⟩⟩
    obtain ⟨op₁, st, hgate₁, -, -⟩ := statusWritten_reconcile (ht.subset hop'')
    rw [hgate₁.stored, Option.some.injEq] at hop₀
    exact hgate (hop₀ ▸ hgate₁)
  · exact absurd (h.symm.trans hnone) (by simp)

theorem get_storedAfter_none (h : (storedAfter t c.operations).get k = none) :
    c.operations.get k = none ∨
      ∃ op, c.operations.get k = some op ∧ op.metadata.deletionTimestamp.isSome := by
  rcases get_storedAfter t c.operations k with ⟨hsame, -⟩ | ⟨op, -, -, hget⟩ | ⟨hrem, -⟩
  · exact .inl (hsame ▸ h)
  · exact absurd (h.symm.trans hget) (by simp)
  · exact .inr (removed_reconcile (ht.subset hrem)).2

end journal

end VWorkspace
