import VWorkspaceOperator.Controller.Runs

/-!
# Which operations run at the same time

An operation enters the phase `Running` only behind a gate that found no
conflict, and the gate reads the current store.  For types that conflict in both
orders of arrival, two upgrades, or a backup and a restore, this makes them
exclusive on one target.  A restore and an upgrade conflict in one order only:
an upgrade does not wait for a restore, so the two are exclusive in the runs in
which no upgrade passes the gate during a restore.
-/

namespace VWorkspace

open Kit Prog

def sameTarget (a b : Operation) : Bool :=
  a.metadata.ns = b.metadata.ns && a.spec.targetRef.name = b.spec.targetRef.name

def running (op : Operation) : Bool := op.status.phase = .running

/-- Two different operations on one target are in the phase `ph`, and their types are in `P`. -/
def Clash (ph : OperationPhase) (P : OperationType → OperationType → Prop) (s : Store Operation) :
    Prop :=
  ∃ a ∈ s.items, ∃ b ∈ s.items, a.key ≠ b.key ∧ sameTarget a b = true ∧ a.status.phase = ph ∧
    b.status.phase = ph ∧ P a.spec.type b.spec.type

/-- The rest of the world starts no operation, and leaves the type and the target
of one that runs as they are. -/
def StartsNothing (c : Cluster) : Action → Prop
  | .reconcile _ _ => True
  | .environment change => ∀ op' ∈ (change c).operations.items, running op' = true →
      ∃ op ∈ c.operations.items, op.key = op'.key ∧ op.spec.type = op'.spec.type ∧
        op.spec.targetRef = op'.spec.targetRef ∧ running op = true

instance (c : Cluster) : ∀ a, Decidable (StartsNothing c a)
  | .reconcile _ _ => inferInstanceAs (Decidable True)
  | .environment change => inferInstanceAs (Decidable (∀ op' ∈ (change c).operations.items,
      running op' = true → ∃ op ∈ c.operations.items, op.key = op'.key ∧
        op.spec.type = op'.spec.type ∧ op.spec.targetRef = op'.spec.targetRef ∧ running op = true))

section exclusion

variable {r : OperationReconciler} {env : Env} {c : Cluster} {k : ObjectKey} {ph : OperationPhase}
  {P : OperationType → OperationType → Prop}

/-- An operation that a reconcile brings into the phase clashes with none that is there, and the
rest of the world brings none. -/
def EntersApart (r : OperationReconciler) (ph : OperationPhase)
    (P : OperationType → OperationType → Prop) (c : Cluster) : Action → Prop
  | .reconcile env k => ∀ op, .statusWritten op ∈ ((reconcile r k).run env c).trace →
      op.status.phase = ph → ∀ b ∈ c.operations.items, b.key ≠ op.key → sameTarget b op = true →
        b.status.phase = ph → ¬ P b.spec.type op.spec.type ∧ ¬ P op.spec.type b.spec.type
  | .environment change => ∀ op' ∈ (change c).operations.items, op'.status.phase = ph →
      ∃ op ∈ c.operations.items, op.key = op'.key ∧ op.spec.type = op'.spec.type ∧
        op.spec.targetRef = op'.spec.targetRef ∧ op.status.phase = ph

theorem sameTarget_comm {a b : Operation} (h : sameTarget a b = true) : sameTarget b a = true := by
  simp only [sameTarget, Bool.and_eq_true, decide_eq_true_eq] at h ⊢
  exact ⟨h.1.symm, h.2.symm⟩

theorem sameTarget_congr {a b a' b' : Operation} (ha : a.key = a'.key) (hb : b.key = b'.key)
    (hta : a.spec.targetRef = a'.spec.targetRef) (htb : b.spec.targetRef = b'.spec.targetRef) :
    sameTarget a b = sameTarget a' b' := by
  have hans : a.metadata.ns = a'.metadata.ns := congrArg ObjectKey.ns ha
  have hbns : b.metadata.ns = b'.metadata.ns := congrArg ObjectKey.ns hb
  rw [sameTarget, sameTarget, hans, hbns, hta, htb]

theorem phase_storedAfter {t : List Event} (ht : t <+: ((reconcile r k).run env c).trace)
    {b : Operation} (hb : b ∈ (storedAfter t c.operations).items) :
    ∃ b₀ ∈ c.operations.items, b₀.key = b.key ∧ b₀.spec = b.spec ∧
      (b₀.status.phase = b.status.phase ∨
        b.key = k ∧ .statusWritten b ∈ ((reconcile r k).run env c).trace) := by
  have hget := Store.get_of_mem hb
  by_cases hk : b.key = k
  · rw [Operation.keyed_key, hk] at hget
    obtain ⟨b₀, hb₀, -, hspec, hcase⟩ := get_storedAfter_self ht hget
    refine ⟨b₀, Store.mem_of_get hb₀, (Store.key_of_get hb₀).trans hk.symm, hspec.symm, ?_⟩
    exact hcase.imp (fun hst => by rw [hst.1]) fun hwritten => ⟨hk, ht.subset hwritten⟩
  · rw [Operation.keyed_key, get_storedAfter_of_ne ht hk] at hget
    exact ⟨b, Store.mem_of_get hget, rfl, rfl, .inl rfl⟩

theorem not_clash_storedAfter {t : List Event} (ht : t <+: ((reconcile r k).run env c).trace)
    (henters : EntersApart r ph P c (.reconcile env k)) (h : ¬ Clash ph P c.operations) :
    ¬ Clash ph P (storedAfter t c.operations) := by
  rintro ⟨a, ha, b, hb, hne, hsame, hpa, hpb, hP⟩
  obtain ⟨a₀, ha₀, hakey, haspec, hacase⟩ := phase_storedAfter ht ha
  obtain ⟨b₀, hb₀, hbkey, hbspec, hbcase⟩ := phase_storedAfter ht hb
  rw [hpa] at hacase
  rw [hpb] at hbcase
  rcases hacase with hpa₀ | ⟨hak, hwritten⟩
  · rcases hbcase with hpb₀ | ⟨-, hwritten⟩
    · refine h ⟨a₀, ha₀, b₀, hb₀, by rwa [hakey, hbkey], ?_, hpa₀, hpb₀, by rwa [haspec, hbspec]⟩
      rwa [sameTarget_congr hakey hbkey (by rw [haspec]) (by rw [hbspec])]
    · refine (henters b hwritten hpb a₀ ha₀ (by rwa [hakey]) ?_ hpa₀).1 (by rwa [haspec])
      rwa [sameTarget_congr hakey rfl (by rw [haspec]) rfl]
  · rcases hbcase with hpb₀ | ⟨hbk, -⟩
    · refine (henters a hwritten hpa b₀ hb₀ (by rwa [hbkey, ne_comm]) ?_ hpb₀).2 (by rwa [hbspec])
      rw [sameTarget_congr hbkey rfl (by rw [hbspec]) rfl]
      exact sameTarget_comm hsame
    · exact hne (hak.trans hbk.symm)

theorem not_clash_step {a : Action} (henters : EntersApart r ph P c a)
    (h : ¬ Clash ph P c.operations) : ¬ Clash ph P (step r c a).operations := by
  cases a with
  | reconcile env k =>
    rw [operations_step_reconcile]
    exact not_clash_storedAfter (List.prefix_refl _) henters h
  | environment change =>
    rintro ⟨a, ha, b, hb, hne, hsame, hpa, hpb, hP⟩
    obtain ⟨a₀, ha₀, hakey, hatype, hatarget, hpa₀⟩ := henters a ha hpa
    obtain ⟨b₀, hb₀, hbkey, hbtype, hbtarget, hpb₀⟩ := henters b hb hpb
    refine h ⟨a₀, ha₀, b₀, hb₀, by rwa [hakey, hbkey], ?_, hpa₀, hpb₀, by rwa [hatype, hbtype]⟩
    rwa [sameTarget_congr hakey hbkey hatarget hbtarget]

theorem not_clash_exec {as : List Action} (hstart : ∀ op ∈ c.operations.items, op.status.phase ≠ ph)
    (hrun : Along (step r) (EntersApart r ph P) c as) :
    ¬ Clash ph P (exec (step r) c as).operations := by
  refine exec_of_along (I := fun c => ¬ Clash ph P c.operations) hrun
    (fun _ _ ha h => not_clash_step ha h) ?_
  rintro ⟨a, ha, -, -, -, -, hpa, -⟩
  exact hstart a ha hpa

theorem not_clash_of_persisted {as : List Action} {s : Store Operation}
    (hstart : ∀ op ∈ c.operations.items, op.status.phase ≠ ph)
    (hrun : Along (step r) (EntersApart r ph P) c as) (hs : Persisted r c as s) :
    ¬ Clash ph P s := by
  rcases hs with rfl | ⟨pre, a, post, t, rfl, ht, rfl⟩
  · exact not_clash_exec hstart hrun
  · have hpre := not_clash_exec hstart (along_append.mp hrun).1
    have hstep := (along_append.mp hrun).2.1
    cases a with
    | reconcile env k => exact not_clash_storedAfter ht hstep hpre
    | environment change =>
      rw [List.prefix_nil.mp ht]
      exact hpre

/-- The gate lets an operation pass only if it cannot clash with one that runs. -/
def GateClears (r : OperationReconciler) (P : OperationType → OperationType → Prop) (c : Cluster) :
    Action → Prop
  | .reconcile env k => ∀ op target engine, AtGate env c k op →
      admission r env c op = .ok (.proceed target engine) →
        ∀ b ∈ c.operations.items, b.key ≠ op.key → sameTarget b op = true → running b = true →
          ¬ P b.spec.type op.spec.type ∧ ¬ P op.spec.type b.spec.type
  | .environment _ => True

theorem entersApart_running {a : Action} (hstarts : StartsNothing c a)
    (hclear : GateClears r P c a) : EntersApart r .running P c a := by
  cases a with
  | environment change =>
    intro op' hop' hrun
    obtain ⟨op, hop, hkey, htype, htarget, hrun₀⟩ := hstarts op' hop' (decide_eq_true hrun)
    exact ⟨op, hop, hkey, htype, htarget, of_decide_eq_true hrun₀⟩
  | reconcile env k =>
    intro op' hwritten hrun b hb hne hsame hrunb
    obtain ⟨op, st, hgate, rfl, ⟨_, _, _, _, rfl⟩ | ⟨target, engine, hopen, -⟩⟩ :=
      statusWritten_reconcile hwritten
    · exact absurd hrun (by simp [blockedStatus])
    · exact hclear op target engine hgate hopen b hb hne hsame (decide_eq_true hrunb)

end exclusion

/-- Whichever of the two operations comes second waits for the other. -/
def ConflictBothWays (s t : OperationType) : Prop := conflicts s t = true ∧ conflicts t s = true

theorem listed_of_sameTarget {c : Cluster} {op b : Operation} (hb : b ∈ c.operations.items)
    (hne : b.key ≠ op.key) (hsame : sameTarget b op = true) :
    b ∈ operationsIn c op.metadata.ns ∧ b.metadata.name ≠ op.metadata.name ∧
      b.spec.targetRef.name = op.spec.targetRef.name := by
  simp only [sameTarget, Bool.and_eq_true, decide_eq_true_eq] at hsame
  obtain ⟨hns, htarget⟩ := hsame
  refine ⟨List.mem_filter.mpr ⟨hb, by simpa using hns⟩, fun hname => hne ?_, htarget⟩
  rw [Operation.key, Operation.key, ObjectMeta.key, ObjectMeta.key, hns, hname]

theorem conflicts_eq_false_of_open {r : OperationReconciler} {env : Env} {c : Cluster}
    {op b : Operation} {target : ApplicationInstance} {engine : Engine}
    (hopen : admission r env c op = .ok (.proceed target engine)) (hb : b ∈ c.operations.items)
    (hne : b.key ≠ op.key) (hsame : sameTarget b op = true) (hrun : running b = true) :
    conflicts b.spec.type op.spec.type = false := by
  obtain ⟨hlisted, hname, htarget⟩ := listed_of_sameTarget hb hne hsame
  have hflight : inFlight b = true := inFlight_of_running (of_decide_eq_true hrun)
  have hfree := (openGate_of_admission hopen).free
  exact conflicts_of_findConflict hfree hlisted hname htarget hflight

theorem gateClears_conflictBothWays (r : OperationReconciler) (c : Cluster) (a : Action) :
    GateClears r ConflictBothWays c a := by
  cases a with
  | environment change => trivial
  | reconcile env k =>
    intro op target engine hgate hopen b hb hne hsame hrun
    have hfree := conflicts_eq_false_of_open hopen hb hne hsame hrun
    exact ⟨fun h => absurd (h.1.symm.trans hfree) (by simp),
      fun h => absurd (h.2.symm.trans hfree) (by simp)⟩

theorem conflicting_never_both_running (r : OperationReconciler) (c : Cluster) (as : List Action)
    (hstart : ∀ op ∈ c.operations.items, running op = false)
    (hrun : Along (step r) StartsNothing c as) (s : Store Operation) (hs : Persisted r c as s)
    (a b : Operation) (ha : a ∈ s.items) (hb : b ∈ s.items) (hne : a.key ≠ b.key)
    (hsame : sameTarget a b = true) (hra : running a = true) (hrb : running b = true) :
    ¬ (a.spec.type = .upgrade ∧ b.spec.type = .upgrade) ∧
      ¬ (a.spec.type = .backup ∧ b.spec.type = .restore) := by
  have hclash : ¬ Clash .running ConflictBothWays s :=
    not_clash_of_persisted (fun op hop => of_decide_eq_false (hstart op hop))
      (hrun.mono fun c a h => entersApart_running h (gateClears_conflictBothWays r c a)) hs
  have hra := of_decide_eq_true hra
  have hrb := of_decide_eq_true hrb
  constructor
  · rintro ⟨hta, htb⟩
    exact hclash ⟨a, ha, b, hb, hne, hsame, hra, hrb, by rw [hta, htb]; exact ⟨rfl, rfl⟩⟩
  · rintro ⟨hta, htb⟩
    exact hclash ⟨a, ha, b, hb, hne, hsame, hra, hrb, by rw [hta, htb]; exact ⟨rfl, rfl⟩⟩

/-- Two backups of one target, both submitted and reconciled until they run. -/
def twoBackups : List Action :=
  [.reconcile { now := 100 } ⟨"team-a", "daily"⟩, .reconcile { now := 101 } ⟨"team-a", "daily"⟩,
    .reconcile { now := 102 } ⟨"team-a", "hourly"⟩, .reconcile { now := 103 } ⟨"team-a", "hourly"⟩]

def beforeTwoBackups : Cluster :=
  clusterOf [submitted ⟨"team-a", "daily"⟩ "uid-1" "app" .backup .velero,
    submitted ⟨"team-a", "hourly"⟩ "uid-2" "app" .backup .velero]
    [placeholderInstance ⟨"team-a", "app"⟩]

theorem two_backups_both_running :
    let r := operatorReconciler (fun _ _ => "") "" "velero"
    let s := (exec (step r) beforeTwoBackups twoBackups).operations
    ∃ a ∈ s.items, ∃ b ∈ s.items, running a = true ∧ running b = true ∧
      ¬ (a.spec.type = .upgrade ∧ b.spec.type = .upgrade) ∧
        ¬ (a.spec.type = .backup ∧ b.spec.type = .restore) := by
  intro r s
  let a := (s.get ⟨"team-a", "daily"⟩).get (by decide +kernel)
  let b := (s.get ⟨"team-a", "hourly"⟩).get (by decide +kernel)
  have ha : a ∈ s.items := Store.mem_of_get (Option.some_get _).symm
  have hb : b ∈ s.items := Store.mem_of_get (Option.some_get _).symm
  have hra : running a = true := by decide +kernel
  have hrb : running b = true := by decide +kernel
  exact ⟨a, ha, b, hb, hra, hrb, conflicting_never_both_running r beforeTwoBackups twoBackups
    (by decide +kernel) (by decide +kernel) s (.inl rfl) a b ha hb (by decide +kernel)
    (by decide +kernel) hra hrb⟩

/-- No upgrade passes the gate while a restore of its target runs. -/
def UpgradeWaits (r : OperationReconciler) (c : Cluster) : Action → Prop
  | .reconcile env k => ∀ op target engine, AtGate env c k op → op.spec.type = .upgrade →
      admission r env c op = .ok (.proceed target engine) →
        ∀ b ∈ c.operations.items, b.spec.type = .restore → sameTarget b op = true →
          running b = false
  | .environment _ => True

/-- If the step is for an upgrade, no restore of its target runs; a check of `UpgradeWaits`
that does not look at the gate. -/
def restoresIdle (c : Cluster) : Action → Bool
  | .reconcile _ k => (c.operations.get k).all fun op => op.spec.type = .upgrade →
      ∀ b ∈ c.operations.items, b.spec.type = .restore → sameTarget b op = true → running b = false
  | .environment _ => true

theorem upgradeWaits_of_restoresIdle {r : OperationReconciler} {c : Cluster} {a : Action}
    (h : restoresIdle c a = true) : UpgradeWaits r c a := by
  cases a with
  | environment change => trivial
  | reconcile env k =>
    intro op target engine hgate hupgrade _
    simp only [restoresIdle, hgate.stored, Option.all_some, decide_eq_true_eq] at h
    exact h hupgrade

theorem gateClears_restore_upgrade {r : OperationReconciler} {c : Cluster} {a : Action}
    (h : UpgradeWaits r c a) :
    GateClears r (fun s t => s = .restore ∧ t = .upgrade) c a := by
  cases a with
  | environment change => trivial
  | reconcile env k =>
    intro op target engine hgate hopen b hb hne hsame hrun
    constructor
    · rintro ⟨hrestore, hupgrade⟩
      exact absurd (hrun.symm.trans (h op target engine hgate hupgrade hopen b hb hrestore hsame))
        (by simp)
    · -- in this order the gate itself sees the conflict
      rintro ⟨hrestore, hupgrade⟩
      have hfree := conflicts_eq_false_of_open hopen hb hne hsame hrun
      rw [hrestore, hupgrade] at hfree
      exact absurd hfree (by decide)

theorem restore_upgrade_never_both_running (r : OperationReconciler) (c : Cluster)
    (as : List Action) (hstart : ∀ op ∈ c.operations.items, running op = false)
    (hrun : Along (step r) (fun c a => StartsNothing c a ∧ UpgradeWaits r c a) c as)
    (s : Store Operation) (hs : Persisted r c as s) (a b : Operation) (ha : a ∈ s.items)
    (hb : b ∈ s.items) (hsame : sameTarget a b = true) (hta : a.spec.type = .restore)
    (htb : b.spec.type = .upgrade) : ¬ (running a = true ∧ running b = true) := by
  rintro ⟨hra, hrb⟩
  have hne : a.key ≠ b.key := by
    intro hkey
    rw [Store.eq_of_mem ha hb hkey, htb] at hta
    exact absurd hta (by simp)
  exact not_clash_of_persisted (fun op hop => of_decide_eq_false (hstart op hop))
    (hrun.mono fun c a h => entersApart_running h.1 (gateClears_restore_upgrade h.2)) hs
    ⟨a, ha, b, hb, hne, hsame, of_decide_eq_true hra, of_decide_eq_true hrb, hta, htb⟩

def sampleHMAC (_secret _body : String) : String := "digest"

/-- A restore of the instance `app`, approved until second 1000. -/
def approvedRestore : Operation :=
  let base := submitted ⟨"team-a", "rollback"⟩ "uid-1" "app" .restore .velero
  let claim := "vws1.eyJ2IjoxLCJvcCI6InJvbGxiYWNrIiwiZXhwIjoxMDAwfQ.digest"
  { base with spec := { base.spec with
      parameters := some (bytesOf "\x7b\"backupName\":\"nightly\"\x7d")
      approvals := some { required := true, claim := claim } } }

def releasedInstance : ApplicationInstance where
  metadata := { ns := "team-a", name := "app" }
  spec := { catalogId := "app", release := some ⟨"app", "team-a"⟩ }

/-- A cluster with the given operations, the instance `app` and its Helm release. -/
def releasedCluster (ops : List Operation) : Cluster :=
  let c := clusterOf ops [releasedInstance]
  let hr : Unstructured := { metadata := { ns := "team-a", name := "app" } }
  { c with
    workloads := c.workloads.setObjects .helmRelease ((c.workloads.objects .helmRelease).put hr) }

/-- A restore and an upgrade of one instance are submitted. -/
def beforeRestore : Cluster :=
  releasedCluster [approvedRestore, submitted ⟨"team-a", "bump"⟩ "uid-2" "app" .upgrade .helm]

/-- The upgrade is reconciled until it runs, then the restore, which is blocked. -/
def upgradeThenRestore : List Action :=
  [.reconcile { now := 100 } ⟨"team-a", "bump"⟩, .reconcile { now := 101 } ⟨"team-a", "bump"⟩,
    .reconcile { now := 102 } ⟨"team-a", "rollback"⟩,
    .reconcile { now := 103 } ⟨"team-a", "rollback"⟩,
    .reconcile { now := 104 } ⟨"team-a", "bump"⟩]

theorem restore_waits_for_upgrade :
    let r := operatorReconciler sampleHMAC "secret" "velero"
    let s := (exec (step r) beforeRestore upgradeThenRestore).operations
    ∃ a ∈ s.items, ∃ b ∈ s.items, a.spec.type = .restore ∧ a.status.phase = .pending ∧
      b.spec.type = .upgrade ∧ running b = true ∧ ¬ (running a = true ∧ running b = true) := by
  intro r s
  let a := (s.get ⟨"team-a", "rollback"⟩).get (by decide +kernel)
  let b := (s.get ⟨"team-a", "bump"⟩).get (by decide +kernel)
  have ha : a ∈ s.items := Store.mem_of_get (Option.some_get _).symm
  have hb : b ∈ s.items := Store.mem_of_get (Option.some_get _).symm
  have hab : a.spec.type = .restore ∧ a.status.phase = .pending ∧ b.spec.type = .upgrade ∧
      running b = true ∧ sameTarget a b = true := by decide +kernel
  obtain ⟨hta, hpa, htb, hrb, hsame⟩ := hab
  have hrun : Along (step r) (fun c a => StartsNothing c a ∧ restoresIdle c a = true)
      beforeRestore upgradeThenRestore := by decide +kernel
  exact ⟨a, ha, b, hb, hta, hpa, htb, hrb,
    restore_upgrade_never_both_running r beforeRestore upgradeThenRestore (by decide +kernel)
      (hrun.mono fun _ _ h => ⟨h.1, upgradeWaits_of_restoresIdle h.2⟩) s (.inl rfl) a b ha hb
      hsame hta htb⟩

/-- The restore is reconciled until it runs, then the upgrade. -/
def restoreThenUpgrade : List Action :=
  [.reconcile { now := 100 } ⟨"team-a", "rollback"⟩,
    .reconcile { now := 101 } ⟨"team-a", "rollback"⟩,
    .reconcile { now := 102 } ⟨"team-a", "bump"⟩, .reconcile { now := 103 } ⟨"team-a", "bump"⟩]

theorem upgrade_starts_during_restore :
    (∀ op ∈ beforeRestore.operations.items, running op = false) ∧
      Along (step (operatorReconciler sampleHMAC "secret" "velero")) StartsNothing beforeRestore
        restoreThenUpgrade ∧
      ∃ s, Persisted (operatorReconciler sampleHMAC "secret" "velero") beforeRestore
          restoreThenUpgrade s ∧
        ∃ a ∈ s.items, ∃ b ∈ s.items, sameTarget a b = true ∧ running a = true ∧
          running b = true ∧ a.spec.type = .restore ∧ b.spec.type = .upgrade := by
  refine ⟨by decide +kernel, ⟨trivial, trivial, trivial, trivial, trivial⟩, _, .inl rfl, ?_⟩
  decide +kernel

end VWorkspace
