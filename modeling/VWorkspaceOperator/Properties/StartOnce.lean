import VWorkspaceOperator.Controller.Runs

/-!
# How often an operation is started

An operation is started in the phases that say it has not been: `Pending` and
the empty one.  The gate stands in front of every reconcile, and a gate that
holds back an operation that runs writes `Pending` over its phase; when the gate
opens again, `Materialize` is called once more.  So an operation is started once
exactly as long as no gate closes on it after its start.
-/

namespace VWorkspace

open Kit Prog

def isObject (k : ObjectKey) (u : String) (op : Operation) : Bool :=
  op.key = k && op.metadata.uid = u

def starts (k : ObjectKey) (u : String) : Event → Bool
  | .statusWritten op => isObject k u op && op.status.phase = .running
  | _ => false

/-- `Pending` or the empty phase is persisted for the object, or `Materialize` is
called for it. -/
def regresses (k : ObjectKey) (u : String) : Event → Bool
  | .statusWritten op => isObject k u op && unstarted op
  | .materialize op => isObject k u op
  | _ => false

def statusOf (c : Cluster) (k : ObjectKey) (u : String) : Option OperationStatus :=
  ((c.operations.get k).filter fun op => op.metadata.uid = u).map fun op => op.status

/-- The rest of the world does not write the status of the object, and does not
bring an object that is gone back under its UID. -/
def KeepsObject (k : ObjectKey) (u : String) (c : Cluster) : Action → Prop
  | .reconcile _ _ => True
  | .environment change => ∀ st ∈ statusOf (change c) k u, statusOf c k u = some st

instance (k : ObjectKey) (u : String) (c : Cluster) : ∀ a, Decidable (KeepsObject k u c a)
  | .reconcile _ _ => inferInstanceAs (Decidable True)
  | .environment change =>
      inferInstanceAs (Decidable (∀ st ∈ statusOf (change c) k u, statusOf c k u = some st))

/-- Nothing goes back behind a start: after a reconcile that persisted
`Running`, no later one persists `Pending` or the empty phase, or calls
`Materialize`. -/
def StartedOnce (r : OperationReconciler) (k : ObjectKey) (u : String) (c : Cluster)
    (as : List Action) : Prop :=
  ∀ pre a mid b post, as = pre ++ a :: (mid ++ b :: post) →
    (a.trace r (exec (step r) c pre)).any (starts k u) = true →
      (b.trace r (exec (step r) c (pre ++ a :: mid))).any (regresses k u) = false

/-- The gate holds the object back, and the write of `Pending` takes effect. -/
def Reblocks (r : OperationReconciler) (k : ObjectKey) (u : String) (c : Cluster) : Action → Prop
  | .reconcile env k' => k' = k ∧ ∃ op, AtGate env c k op ∧ op.metadata.uid = u ∧
      (∃ reason message, admission r env c op = .ok (.blocked reason message)) ∧
      env.fault .updateBlocked = none
  | .environment _ => False

def NeverReblocked (r : OperationReconciler) (k : ObjectKey) (u : String) (c : Cluster)
    (as : List Action) : Prop :=
  ∀ pre a mid b post, as = pre ++ a :: (mid ++ b :: post) →
    (a.trace r (exec (step r) c pre)).any (starts k u) = true →
      ¬ Reblocks r k u (exec (step r) c (pre ++ a :: mid)) b

section steps

variable {hmac : String → String → String} {secret veleroNs : String} {k : ObjectKey} {u : String}
  {c : Cluster} {a : Action}

def Engaged (k : ObjectKey) (u : String) (c : Cluster) : Prop :=
  ∀ op, c.operations.get k = some op → op.metadata.uid = u → unstarted op = false

theorem statusOf_eq_some_iff {st : OperationStatus} :
    statusOf c k u = some st ↔
      ∃ op, c.operations.get k = some op ∧ op.metadata.uid = u ∧ op.status = st := by
  simp [statusOf, Option.map_eq_some_iff, Option.filter_eq_some_iff, and_assoc]

theorem unstarted_of_engaged {op : Operation} (h : op.status.phase.engaged = true) :
    unstarted op = false := by
  unfold unstarted
  cases hp : op.status.phase <;> simp_all [OperationPhase.engaged]

theorem unstarted_of_statusWritten {env : Env} {op op' : Operation} {target : ApplicationInstance}
    {engine : Engine} (hgate : AtGate env c k op)
    (hopen : admission (operatorReconciler hmac secret veleroNs) env c op =
      .ok (.proceed target engine))
    (he : .statusWritten op' ∈
      ((reconcile (operatorReconciler hmac secret veleroNs) k).run env c).trace) :
    unstarted op' = false := by
  obtain ⟨op₁, st, hgate₁, rfl, ⟨_, _, hblocked, -⟩ | ⟨target₁, engine₁, hopen₁, hphase⟩⟩ :=
    statusWritten_reconcile he
  · have hsame : op₁ = op := Option.some.inj (hgate₁.stored.symm.trans hgate.stored)
    rw [hsame, hopen] at hblocked
    exact absurd hblocked (by simp)
  · have hengine := (openGate_of_admission hopen₁).engine
    exact unstarted_of_engaged (engaged_of_reports hengine hphase)

theorem engaged_step (hkeeps : KeepsObject k u c a) (hinv : Engaged k u c)
    (hopen : ¬ Reblocks (operatorReconciler hmac secret veleroNs) k u c a) :
    Engaged k u (step (operatorReconciler hmac secret veleroNs) c a) ∧
      (a.trace (operatorReconciler hmac secret veleroNs) c).any (regresses k u) = false := by
  cases a with
  | environment change =>
    refine ⟨fun op hop hu => ?_, rfl⟩
    have hst := hkeeps op.status (statusOf_eq_some_iff.mpr ⟨op, hop, hu, rfl⟩)
    obtain ⟨op₀, hop₀, hu₀, hstatus⟩ := statusOf_eq_some_iff.mp hst
    have := hinv op₀ hop₀ hu₀
    rwa [unstarted, hstatus] at this
  | reconcile env k' =>
    have hev : ∀ e ∈ ((reconcile (operatorReconciler hmac secret veleroNs) k').run env c).trace,
        regresses k u e = false := by
      intro e he
      cases e with
      | statusWritten op' =>
        simp only [regresses, isObject, Bool.and_eq_false_iff, decide_eq_false_iff_not]
        by_contra hn
        push Not at hn
        obtain ⟨⟨hkey, huid⟩, hun⟩ := hn
        obtain ⟨op, st, hgate, hop', hcase⟩ := statusWritten_reconcile he
        have hk : k' = k := by rw [← hkey, hop']; exact hgate.key_eq.symm
        subst hk
        rcases hcase with ⟨reason, message, hans, hf, -⟩ | ⟨target, engine, hans, -⟩
        · exact hopen ⟨rfl, op, hgate, by rw [← huid, hop']; rfl, ⟨reason, message, hans⟩, hf⟩
        · exact hun (unstarted_of_statusWritten hgate hans he)
      | materialize op' =>
        simp only [regresses, isObject, Bool.and_eq_false_iff, decide_eq_false_iff_not]
        by_contra hn
        push Not at hn
        obtain ⟨hkey, huid⟩ := hn
        obtain ⟨target, engine, hgate, -, hun⟩ := materialize_reconcile he
        have hk : k' = k := hgate.key_eq.symm.trans hkey
        subst hk
        rw [hinv op' hgate.stored huid] at hun
        exact absurd hun (by simp)
      | _ => rfl
    refine ⟨fun op' hop' hu => ?_, by simpa [Action.trace] using hev⟩
    rw [operations_step_reconcile] at hop'
    by_cases hk : k' = k
    · subst hk
      obtain ⟨op, hop, huid, -, ⟨hst, -⟩ | hwritten⟩ :=
        get_storedAfter_self (List.prefix_refl _) hop'
      · have := hinv op hop (huid ▸ hu)
        rwa [unstarted, ← hst] at this
      · have hkey : op'.key = k' := Store.key_of_get hop'
        simpa [regresses, isObject, hkey, hu] using hev _ hwritten
    · rw [get_storedAfter_of_ne (List.prefix_refl _) (Ne.symm hk)] at hop'
      exact hinv op' hop' hu

theorem engaged_of_starts
    (h : (a.trace (operatorReconciler hmac secret veleroNs) c).any (starts k u) = true) :
    Engaged k u (step (operatorReconciler hmac secret veleroNs) c a) := by
  cases a with
  | environment change => exact absurd h (by simp [Action.trace])
  | reconcile env k' =>
    obtain ⟨e, he, hstarts⟩ := List.any_eq_true.mp h
    cases e with
    | statusWritten op₁ =>
      simp only [starts, isObject, Bool.and_eq_true, decide_eq_true_eq] at hstarts
      obtain ⟨⟨hkey, -⟩, hrunning⟩ := hstarts
      obtain ⟨op, st, hgate, rfl, hcase⟩ := statusWritten_reconcile he
      have hk : k' = k := hgate.key_eq.symm.trans hkey
      subst hk
      rcases hcase with ⟨reason, message, -, -, rfl⟩ | ⟨target, engine, hans, -⟩
      · exact absurd hrunning (by simp [blockedStatus])
      · intro op' hop' hu
        rw [operations_step_reconcile] at hop'
        obtain ⟨-, -, -, -, ⟨-, hnone⟩ | hwritten⟩ :=
          get_storedAfter_self (List.prefix_refl _) hop'
        · exact absurd he (hnone _)
        · exact unstarted_of_statusWritten hgate hans hwritten
    | _ => exact absurd hstarts (by simp [starts])

theorem regresses_of_reblocks {r : OperationReconciler} (h : Reblocks r k u c a) :
    (a.trace r c).any (regresses k u) = true := by
  cases a with
  | environment change => exact h.elim
  | reconcile env k' =>
    obtain ⟨rfl, op, hgate, huid, ⟨reason, message, hans⟩, hf⟩ := h
    have hget : c.operations.get op.key = some op := hgate.key_eq ▸ hgate.stored
    refine List.any_eq_true.mpr
      ⟨.statusWritten (op.withStatus (blockedStatus env.now reason message op.status)), ?_, ?_⟩
    · rw [Action.trace, run_reconcile_of_atGate hgate, hans]
      simp only [carryOut, run_blockOperation hget, hf, Outcome.trace_after]
      simp
    · simp [regresses, isObject, hgate.key_eq, huid, unstarted, blockedStatus]

end steps

theorem startedOnce_iff (hmac : String → String → String) (secret veleroNs : String)
    (k : ObjectKey) (u : String) (c : Cluster) (as : List Action)
    (hrun : Along (step (operatorReconciler hmac secret veleroNs)) (KeepsObject k u) c as) :
    StartedOnce (operatorReconciler hmac secret veleroNs) k u c as ↔
      NeverReblocked (operatorReconciler hmac secret veleroNs) k u c as := by
  constructor
  · intro honce pre a mid b post has hstarts hre
    exact absurd (regresses_of_reblocks hre) (by simp [honce pre a mid b post has hstarts])
  · intro hnever pre a mid b post has hstarts
    subst has
    set r := operatorReconciler hmac secret veleroNs
    have hkeeps : Along (step r) (KeepsObject k u) (step r (exec (step r) c pre) a) mid :=
      (along_append.mp (along_append.mp hrun).2.2).1
    have hopen : Along (step r) (fun c b => ¬ Reblocks r k u c b)
        (step r (exec (step r) c pre) a) mid := by
      rw [along_iff_forall_split]
      rintro pre' b' post' rfl
      have := hnever pre a pre' b' (post' ++ b :: post) (by simp) hstarts
      rwa [exec_append] at this
    have hengaged : Engaged k u (exec (step r) c (pre ++ a :: mid)) := by
      rw [exec_append, exec_cons]
      exact exec_of_along (along_and.mpr ⟨hkeeps, hopen⟩)
        (fun c b hb hinv => (engaged_step hb.1 hinv hb.2).1) (engaged_of_starts hstarts)
    have hkeeps_b : KeepsObject k u (exec (step r) c (pre ++ a :: mid)) b :=
      along_iff_forall_split.mp hrun (pre ++ a :: mid) b post (by simp)
    exact (engaged_step hkeeps_b hengaged (hnever pre a mid b post rfl hstarts)).2

/-- A cluster with a backup that is submitted. -/
def beforeRecreation : Cluster :=
  clusterOf [submitted ⟨"team-a", "nightly"⟩ "uid-1" "app" .backup .velero]
    [placeholderInstance ⟨"team-a", "app"⟩]

/-- The gate holds the operation back. -/
def heldBack (r : OperationReconciler) (env : Env) (c : Cluster) (op : Operation) : Bool :=
  match admission r env c op with
  | .ok (.blocked _ _) => true
  | _ => false

theorem not_reblocks {r : OperationReconciler} {env : Env} {c : Cluster} {k k' : ObjectKey}
    {u : String} (h : ∀ op ∈ c.operations.get k, heldBack r env c op = false) :
    ¬ Reblocks r k u c (.reconcile env k') := by
  rintro ⟨-, op, hgate, -, ⟨reason, message, hblocked⟩, -⟩
  exact absurd (h op hgate.stored) (by simp [heldBack, hblocked])

theorem backup_started_once :
    let r := operatorReconciler (fun _ _ => "") "" "velero"
    let k : ObjectKey := ⟨"team-a", "nightly"⟩
    let as : List Action :=
      [.reconcile { now := 100 } k, .reconcile { now := 101 } k, .reconcile { now := 110 } k]
    phaseAt (exec (step r) beforeRecreation as) k = some .running ∧
      NeverReblocked r k "uid-1" beforeRecreation as ∧
      StartedOnce r k "uid-1" beforeRecreation as := by
  intro r k as
  have hopen : Along (step r) (fun c b => ¬ Reblocks r k "uid-1" c b) beforeRecreation as :=
    ⟨not_reblocks (by decide +kernel), not_reblocks (by decide +kernel),
      not_reblocks (by decide +kernel), trivial⟩
  have hnever : NeverReblocked r k "uid-1" beforeRecreation as := fun pre a mid b post has _ =>
    along_iff_forall_split.mp hopen (pre ++ a :: mid) b post (by simp [has])
  exact ⟨by decide +kernel, hnever, (startedOnce_iff (fun _ _ => "") "" "velero" k "uid-1"
    beforeRecreation as (by decide +kernel)).mpr hnever⟩

/-- A backup is submitted and started; its target is deleted and comes back. -/
def recreatedTarget : List Action :=
  let k : ObjectKey := ⟨"team-a", "nightly"⟩
  let app : ObjectKey := ⟨"team-a", "app"⟩
  [.reconcile { now := 100 } k, .reconcile { now := 101 } k,
    .environment fun c => { c with instances := c.instances.erase app },
    .reconcile { now := 110 } k,
    .environment fun c => { c with instances := c.instances.put (placeholderInstance app) },
    .reconcile { now := 120 } k]

theorem not_startedOnce_recreatedTarget :
    ¬ StartedOnce (operatorReconciler (fun _ _ => "") "" "velero") ⟨"team-a", "nightly"⟩ "uid-1"
      beforeRecreation recreatedTarget := by
  intro h
  have hregress := h (recreatedTarget.take 1) (.reconcile { now := 101 } ⟨"team-a", "nightly"⟩)
    ((recreatedTarget.drop 2).take 3) (.reconcile { now := 120 } ⟨"team-a", "nightly"⟩) [] rfl
    (by decide +kernel)
  exact absurd hregress (by decide +kernel)

theorem target_recreation_starts_twice :
    let r := operatorReconciler (fun _ _ => "") "" "velero"
    let k : ObjectKey := ⟨"team-a", "nightly"⟩
    Along (step r) (KeepsObject k "uid-1") beforeRecreation recreatedTarget ∧
      phaseAt (exec (step r) beforeRecreation (recreatedTarget.take 2)) k = some .running ∧
      phaseAt (exec (step r) beforeRecreation (recreatedTarget.take 4)) k = some .pending ∧
      ¬ StartedOnce r k "uid-1" beforeRecreation recreatedTarget :=
  ⟨by decide +kernel, by decide +kernel, by decide +kernel, not_startedOnce_recreatedTarget⟩

end VWorkspace
