import VWorkspaceOperator.Properties.Exclusion

/-!
# When blocked operations wait for each other

A blocked operation is `Pending`, and a pending operation counts as in flight:
it holds others back although it does nothing.  Two pending upgrades of one
target hold each other back, and since the gate is asked again for an operation
that runs, an upgrade that runs is sent back to `Pending` by the one waiting for
it.

The runs without deadlocks are those in which no operation is sent to wait while
another one waits that conflicts with it in both orders.  Restores and upgrades
conflict in one order: a restore waits for the upgrade, so that the upgrade must be
able to start.

## Main definitions and results

* `BlocksApart`: what a step must not do.
* `some_free_of_blocksApart`: no deadlocks in runs of such steps.
* `restore_free_after_upgrade`: a run of this kind with a blocked operation.
* `two_upgrades_deadlock`: a run that is not of this kind, and its deadlock.
-/

namespace VWorkspace

open Kit Prog

def pending (op : Operation) : Bool := op.status.phase = .pending

/-- An operation that only a conflict can hold back: the spec is valid, the target
exists, the approval is satisfied and the engine is registered. -/
def startable (r : OperationReconciler) (now : ℕ) (c : Cluster) (op : Operation) : Bool :=
  (validateOperationSpec op).isOk &&
    (c.instances.get ⟨op.metadata.ns, op.spec.targetRef.name⟩).isSome &&
    (heldForApproval r now op).isNone && (r.engine op.spec.engine).isSome

/-- The operation is on the target `name` in the namespace `ns`. -/
def onTarget (ns name : String) (op : Operation) : Bool :=
  op.metadata.ns = ns && op.spec.targetRef.name = name

/-- The rest of the world submits operations without a status, and leaves the
statuses, types and targets of the others alone. -/
def KeepsStatuses (c : Cluster) : Action → Prop
  | .reconcile _ _ => True
  | .environment change => ∀ op' ∈ (change c).operations.items, op'.status = {} ∨
      ∃ op ∈ c.operations.items, op.key = op'.key ∧ op.status = op'.status ∧
        op.spec.type = op'.spec.type ∧ op.spec.targetRef = op'.spec.targetRef

instance (c : Cluster) : ∀ a, Decidable (KeepsStatuses c a)
  | .reconcile _ _ => inferInstanceAs (Decidable True)
  | .environment change => inferInstanceAs (Decidable (∀ op' ∈ (change c).operations.items,
      op'.status = {} ∨ ∃ op ∈ c.operations.items, op.key = op'.key ∧ op.status = op'.status ∧
        op.spec.type = op'.spec.type ∧ op.spec.targetRef = op'.spec.targetRef))

/-- No operation is sent to wait while one waits on its target that conflicts with it in both
orders: of two such operations each would hold the other back. -/
def BlocksApart (r : OperationReconciler) (c : Cluster) : Action → Prop
  | .reconcile env k => ∀ op reason message, AtGate env c k op →
      admission r env c op = .ok (.blocked reason message) →
        ∀ b ∈ c.operations.items, b.key ≠ op.key → sameTarget b op = true → pending b = true →
          ¬ ConflictBothWays b.spec.type op.spec.type
  | .environment _ => True

/-- A check of `BlocksApart` that does not look at the gate. -/
def waitsApart (c : Cluster) : Action → Bool
  | .reconcile _ k => (c.operations.get k).all fun op => c.operations.items.all fun b =>
      b.key = op.key || !sameTarget b op || !pending b ||
        !(conflicts b.spec.type op.spec.type && conflicts op.spec.type b.spec.type)
  | .environment _ => true

theorem blocksApart_of_waitsApart {r : OperationReconciler} {c : Cluster} {a : Action}
    (h : waitsApart c a = true) : BlocksApart r c a := by
  cases a with
  | environment change => trivial
  | reconcile env k =>
    intro op reason message hgate _ b hb hne hsame hpending hboth
    simp only [waitsApart, hgate.stored, Option.all_some, List.all_eq_true] at h
    simpa [hne, hsame, hpending, hboth.1, hboth.2] using h b hb

section reachable

variable {hmac : String → String → String} {secret veleroNs : String}

/-- What has no phase is not in flight. -/
def UnsetIdle (c : Cluster) : Prop :=
  ∀ op ∈ c.operations.items, op.status.phase = .unset → inFlight op = false

theorem inFlight_of_status_eq {a b : Operation} (h : a.status = b.status) :
    inFlight a = inFlight b := by
  rw [inFlight, inFlight, h]

theorem phase_of_statusWritten {env : Env} {c : Cluster} {k : ObjectKey} {op' : Operation}
    (h : .statusWritten op' ∈
      ((reconcile (operatorReconciler hmac secret veleroNs) k).run env c).trace) :
    (∃ op st reason message, AtGate env c k op ∧ op' = op.withStatus st ∧ st.phase = .pending ∧
      admission (operatorReconciler hmac secret veleroNs) env c op =
        .ok (.blocked reason message)) ∨ op'.status.phase.engaged = true := by
  obtain ⟨op, st, hgate, rfl, ⟨reason, message, hblocked, -, rfl⟩ | ⟨target, engine, hopen, hphase⟩⟩ :=
    statusWritten_reconcile h
  · exact .inl ⟨op, _, reason, message, hgate, rfl, rfl, hblocked⟩
  · exact .inr (engaged_of_reports (openGate_of_admission hopen).engine hphase)

theorem unsetIdle_step {c : Cluster} {a : Action} (hkeeps : KeepsStatuses c a)
    (h : UnsetIdle c) : UnsetIdle (step (operatorReconciler hmac secret veleroNs) c a) := by
  intro op hop hunset
  cases a with
  | environment change =>
    rcases hkeeps op hop with hfresh | ⟨op₀, hop₀, -, hst, -⟩
    · simp [inFlight, hfresh]
    · rw [← inFlight_of_status_eq hst]
      exact h op₀ hop₀ (by rw [hst, hunset])
  | reconcile env k =>
    rw [operations_step_reconcile] at hop
    have hget := Store.get_of_mem hop
    by_cases hk : op.key = k
    · rw [Operation.keyed_key, hk] at hget
      obtain ⟨op₀, hop₀, -, -, ⟨hst, -⟩ | hwritten⟩ :=
        get_storedAfter_self (List.prefix_refl _) hget
      · rw [inFlight_of_status_eq hst]
        exact h op₀ (Store.mem_of_get hop₀) (by rw [← hst, hunset])
      · rcases phase_of_statusWritten hwritten with ⟨_, st, _, _, -, rfl, hphase, -⟩ | hengaged
        · exact absurd (hunset.symm.trans hphase) (by simp)
        · simp [hunset, OperationPhase.engaged] at hengaged
    · rw [Operation.keyed_key, get_storedAfter_of_ne (List.prefix_refl _) hk] at hget
      exact h op (Store.mem_of_get hget) hunset

theorem unsetIdle_of_run {c : Cluster} {as : List Action}
    (hfresh : ∀ op ∈ c.operations.items, op.status = {})
    (hrun : Along (step (operatorReconciler hmac secret veleroNs)) KeepsStatuses c as) :
    UnsetIdle (exec (step (operatorReconciler hmac secret veleroNs)) c as) :=
  exec_of_along hrun (fun _ _ ha h => unsetIdle_step ha h)
    fun op hop _ => by simp [inFlight, hfresh op hop]

theorem entersApart_pending {c : Cluster} {a : Action} (hkeeps : KeepsStatuses c a)
    (hapart : BlocksApart (operatorReconciler hmac secret veleroNs) c a) :
    EntersApart (operatorReconciler hmac secret veleroNs) .pending ConflictBothWays c a := by
  cases a with
  | environment change =>
    intro op' hop' hphase
    rcases hkeeps op' hop' with hfresh | ⟨op, hop, hkey, hst, htype, htarget⟩
    · simp [hfresh] at hphase
    · exact ⟨op, hop, hkey, htype, htarget, by rw [hst, hphase]⟩
  | reconcile env k =>
    intro op' hwritten hphase b hb hne hsame hpending
    rcases phase_of_statusWritten hwritten with ⟨op, _, _, _, hgate, rfl, -, hblocked⟩ | hengaged
    · have h := hapart op _ _ hgate hblocked b hb hne hsame (decide_eq_true hpending)
      exact ⟨h, fun hboth => h ⟨hboth.2, hboth.1⟩⟩
    · simp [hphase, OperationPhase.engaged] at hengaged

end reachable

section target

variable {r : OperationReconciler} {now : ℕ} {c : Cluster} {ns name : String} {op : Operation}

theorem inFlight_eq_pending (hidle : UnsetIdle c)
    (hnone : ∀ b ∈ c.operations.items, onTarget ns name b = true → running b = false)
    {b : Operation} (hb : b ∈ c.operations.items) (htarget : onTarget ns name b = true) :
    inFlight b = pending b := by
  have hnotrunning := hnone b hb htarget
  have hunset := hidle b hb
  unfold running at hnotrunning
  unfold pending
  cases hp : b.status.phase with
  | unset => rw [hunset hp]; rfl
  | running => simp [hp] at hnotrunning
  | pending => simp [inFlight, hp]
  | succeeded => simp [inFlight, hp]
  | failed => simp [inFlight, hp]
  | cancelled => simp [inFlight, hp]

theorem findConflict_iff_pending (hidle : UnsetIdle c)
    (hnone : ∀ b ∈ c.operations.items, onTarget ns name b = true → running b = false)
    (htarget : onTarget ns name op = true) :
    findConflict (operationsIn c op.metadata.ns) op = none ↔
      ∀ b ∈ c.operations.items, b.key ≠ op.key → sameTarget b op = true → pending b = true →
        conflicts b.spec.type op.spec.type = false := by
  have hon : ∀ b, sameTarget b op = true → onTarget ns name b = true := by
    intro b hb
    simp only [sameTarget, onTarget, Bool.and_eq_true, decide_eq_true_eq] at hb htarget ⊢
    exact ⟨hb.1.trans htarget.1, hb.2.trans htarget.2⟩
  constructor
  · intro hfree b hb hne hsame hpending
    obtain ⟨hlisted, hname, htgt⟩ := listed_of_sameTarget hb hne hsame
    refine conflicts_of_findConflict hfree hlisted hname htgt ?_
    rw [inFlight_eq_pending hidle hnone hb (hon b hsame), hpending]
  · intro hclear
    rw [findConflict_eq_none_iff]
    intro b hb
    obtain ⟨hb, hns⟩ := List.mem_filter.mp hb
    simp only [blocks, Bool.and_eq_false_iff, decide_eq_false_iff_not, not_not]
    by_contra hn
    push Not at hn
    obtain ⟨⟨⟨hname, htgt⟩, hflight⟩, hconf⟩ := hn
    have hsame : sameTarget b op = true := by
      simp only [sameTarget, Bool.and_eq_true, decide_eq_true_eq]
      exact ⟨by simpa using hns, htgt⟩
    have hpending : pending b = true := by
      rw [← inFlight_eq_pending hidle hnone hb (hon b hsame)]
      simpa using hflight
    exact hconf (hclear b hb (fun hkey => hname (congrArg ObjectKey.name hkey)) hsame hpending)

end target

/-- A startable operation waits on the target. -/
def SomeWaiting (r : OperationReconciler) (now : ℕ) (ns name : String) (c : Cluster) : Prop :=
  ∃ op ∈ c.operations.items, onTarget ns name op = true ∧ pending op = true ∧
    startable r now c op = true

/-- A startable operation waits on the target, and the gate finds no conflict. -/
def SomeFree (r : OperationReconciler) (now : ℕ) (ns name : String) (c : Cluster) : Prop :=
  ∃ op ∈ c.operations.items, onTarget ns name op = true ∧ pending op = true ∧
    startable r now c op = true ∧ findConflict (operationsIn c op.metadata.ns) op = none

/-- No operation runs on the target. -/
def NoneRunning (ns name : String) (c : Cluster) : Prop :=
  ∀ op ∈ c.operations.items, onTarget ns name op = true → running op = false

/-- The upgrades that pending restores of the target wait for can be started. -/
def UpgradesStartable (r : OperationReconciler) (now : ℕ) (ns name : String) (c : Cluster) : Prop :=
  ∀ u ∈ c.operations.items, ∀ w ∈ c.operations.items, onTarget ns name u = true →
    onTarget ns name w = true → pending u = true → pending w = true → u.spec.type = .upgrade →
      w.spec.type = .restore → startable r now c u = true

theorem conflicts_one_way {s t : OperationType} (h : conflicts s t = true)
    (hn : ¬ ConflictBothWays s t) : s = .upgrade ∧ t = .restore := by
  cases s <;> cases t <;> simp_all [ConflictBothWays, conflicts]

theorem some_free_of_not_clash {r : OperationReconciler} {now : ℕ} {ns name : String} {c : Cluster}
    (hidle : UnsetIdle c) (hclash : ¬ Clash .pending ConflictBothWays c.operations)
    (hnone : NoneRunning ns name c) (hupgrades : UpgradesStartable r now ns name c)
    (hwaiting : SomeWaiting r now ns name c) : SomeFree r now ns name c := by
  have hway : ∀ a ∈ c.operations.items, pending a = true → ∀ b ∈ c.operations.items,
      b.key ≠ a.key → sameTarget b a = true → pending b = true →
        conflicts b.spec.type a.spec.type = true →
          b.spec.type = .upgrade ∧ a.spec.type = .restore :=
    fun a ha hpa b hb hne hsame hpb hconflict => conflicts_one_way hconflict fun hboth =>
      hclash ⟨b, hb, a, ha, hne, hsame, of_decide_eq_true hpb, of_decide_eq_true hpa, hboth⟩
  obtain ⟨w, hw, htarget, hpending, hstart⟩ := hwaiting
  by_cases hfree : findConflict (operationsIn c w.metadata.ns) w = none
  · exact ⟨w, hw, htarget, hpending, hstart, hfree⟩
  rw [findConflict_iff_pending hidle hnone htarget] at hfree
  push Not at hfree
  obtain ⟨u, hu, hne, hsame, hpu, hconflict⟩ := hfree
  obtain ⟨hupgrade, hrestore⟩ := hway w hw hpending u hu hne hsame hpu (by simpa using hconflict)
  have hutarget : onTarget ns name u = true := by
    simp only [sameTarget, onTarget, Bool.and_eq_true, decide_eq_true_eq] at hsame htarget ⊢
    exact ⟨hsame.1.trans htarget.1, hsame.2.trans htarget.2⟩
  refine ⟨u, hu, hutarget, hpu,
    hupgrades u hu w hw hutarget htarget hpu hpending hupgrade hrestore,
    (findConflict_iff_pending hidle hnone hutarget).mpr fun b hb hne' hsame' hpb => ?_⟩
  by_contra hconf
  have hagain := (hway u hu hpu b hb hne' hsame' hpb (by simpa using hconf)).2
  exact absurd (hupgrade.symm.trans hagain) (by simp)

theorem some_free_of_blocksApart (hmac : String → String → String) (secret veleroNs : String)
    (c : Cluster) (as : List Action) (hfresh : ∀ op ∈ c.operations.items, op.status = {})
    (hrun : Along (step (operatorReconciler hmac secret veleroNs))
      (fun c a => KeepsStatuses c a ∧ BlocksApart (operatorReconciler hmac secret veleroNs) c a) c as)
    (now : ℕ) (ns name : String)
    (hnone : NoneRunning ns name (exec (step (operatorReconciler hmac secret veleroNs)) c as))
    (hupgrades : UpgradesStartable (operatorReconciler hmac secret veleroNs) now ns name
      (exec (step (operatorReconciler hmac secret veleroNs)) c as))
    (hwaiting : SomeWaiting (operatorReconciler hmac secret veleroNs) now ns name
      (exec (step (operatorReconciler hmac secret veleroNs)) c as)) :
    SomeFree (operatorReconciler hmac secret veleroNs) now ns name
      (exec (step (operatorReconciler hmac secret veleroNs)) c as) :=
  some_free_of_not_clash (unsetIdle_of_run hfresh (hrun.mono fun _ _ h => h.1))
    (not_clash_exec (fun op hop => by simp [hfresh op hop])
      (hrun.mono fun _ _ h => entersApart_pending h.1 h.2)) hnone hupgrades hwaiting

/-- A user deletes the upgrade. -/
def deleteUpgrade (c : Cluster) : Cluster :=
  match c.operations.get ⟨"team-a", "bump"⟩ with
  | none => c
  | some op =>
      let deleted := { op with metadata := { op.metadata with deletionTimestamp := some 105 } }
      { c with operations := c.operations.put deleted }

/-- The upgrade starts, the restore is blocked by it, and then the upgrade is deleted and leaves. -/
def restoreAfterUpgrade : List Action :=
  upgradeThenRestore ++
    [.environment deleteUpgrade, .reconcile { now := 106 } ⟨"team-a", "bump"⟩]

theorem restore_free_after_upgrade :
    let r := operatorReconciler sampleHMAC "secret" "velero"
    phaseAt (exec (step r) beforeRestore upgradeThenRestore) ⟨"team-a", "bump"⟩ = some .running ∧
      phaseAt (exec (step r) beforeRestore upgradeThenRestore) ⟨"team-a", "rollback"⟩ =
        some .pending ∧
      SomeFree r 110 "team-a" "app" (exec (step r) beforeRestore restoreAfterUpgrade) := by
  intro r
  have hphases : phaseAt (exec (step r) beforeRestore upgradeThenRestore) ⟨"team-a", "bump"⟩ =
      some .running ∧ phaseAt (exec (step r) beforeRestore upgradeThenRestore)
        ⟨"team-a", "rollback"⟩ = some .pending := by decide +kernel
  have hrun : Along (step r) (fun c a => KeepsStatuses c a ∧ waitsApart c a = true)
      beforeRestore restoreAfterUpgrade := by decide +kernel
  refine ⟨hphases.1, hphases.2, ?_⟩
  refine some_free_of_blocksApart sampleHMAC "secret" "velero" beforeRestore restoreAfterUpgrade
    (by decide +kernel) (hrun.mono fun _ _ h => ⟨h.1, blocksApart_of_waitsApart h.2⟩)
    110 "team-a" "app" ?_ ?_ ?_
  · unfold NoneRunning
    decide +kernel
  · unfold UpgradesStartable
    decide +kernel
  · unfold SomeWaiting
    decide +kernel

def beforeTwoUpgrades : Cluster :=
  releasedCluster [submitted ⟨"team-a", "bump-1"⟩ "uid-1" "app" .upgrade .helm,
    submitted ⟨"team-a", "bump-2"⟩ "uid-2" "app" .upgrade .helm]

/-- The first upgrade starts, the second is blocked by it, and then the first is
reconciled again. -/
def twoUpgrades : List Action :=
  [.reconcile { now := 100 } ⟨"team-a", "bump-1"⟩, .reconcile { now := 101 } ⟨"team-a", "bump-1"⟩,
    .reconcile { now := 102 } ⟨"team-a", "bump-2"⟩, .reconcile { now := 103 } ⟨"team-a", "bump-2"⟩,
    .reconcile { now := 106 } ⟨"team-a", "bump-1"⟩]

theorem not_someFree_twoUpgrades :
    ¬ SomeFree plainOperator 110 "team-a" "app"
      (exec (step plainOperator) beforeTwoUpgrades twoUpgrades) := by
  unfold SomeFree
  decide +kernel

theorem noneRunning_twoUpgrades :
    NoneRunning "team-a" "app" (exec (step plainOperator) beforeTwoUpgrades twoUpgrades) := by
  unfold NoneRunning
  decide +kernel

theorem two_upgrades_deadlock :
    (∀ op ∈ beforeTwoUpgrades.operations.items, op.status = {}) ∧
      Along (step plainOperator) KeepsStatuses beforeTwoUpgrades twoUpgrades ∧
      NoneRunning "team-a" "app" (exec (step plainOperator) beforeTwoUpgrades twoUpgrades) ∧
      SomeWaiting plainOperator 110 "team-a" "app"
        (exec (step plainOperator) beforeTwoUpgrades twoUpgrades) ∧
      ¬ SomeFree plainOperator 110 "team-a" "app"
        (exec (step plainOperator) beforeTwoUpgrades twoUpgrades) := by
  refine ⟨by decide +kernel, by decide +kernel, noneRunning_twoUpgrades, ?_,
    not_someFree_twoUpgrades⟩
  unfold SomeWaiting
  decide +kernel

end VWorkspace
