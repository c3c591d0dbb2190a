import VWorkspaceOperator.Kit.Run
import VWorkspaceOperator.Properties.Deletion
import VWorkspaceOperator.Webhook.Instance

/-!
# A placeholder owns nothing

An instance in placeholder mode is not installed, and its finalizer uninstalls nothing.  So
nothing may ever have been installed for it.  The reconciler does not install placeholders; the
webhook lets no managed instance with a release become a placeholder, and it admits no managed
instance without a release.
-/

namespace VWorkspace

open Kit Prog InstanceM

section offObjects

variable {env : InstanceEnv} {P : InstanceCluster → Prop} {app : ManagedInstance}

def OffObjects (e : InstanceEvent) : Prop := e.ofObject = false

theorem triple_updateStatus_off (s : InstanceSite) :
    Triple env P (updateStatus s app) OffObjects fun _ _ => True := by
  refine .bind (InstanceM.idle_call s).triple fun _ => .bind Idle.get.triple fun c => ?_
  split
  · exact .throw
  · exact .write rfl fun _ _ => trivial

theorem triple_updateMetadata_off (s : InstanceSite) :
    Triple env P (updateMetadata s app) OffObjects fun _ _ => True := by
  refine .bind (InstanceM.idle_call s).triple fun _ => .bind Idle.ask.triple fun env' =>
    .bind Idle.get.triple fun c => ?_
  split
  · exact .throw
  · split
    · exact .throw
    · exact .write rfl fun _ _ => trivial
    · exact .write rfl fun _ _ => trivial

theorem triple_reportConditions_off (prev : List Condition) :
    Triple env P (InstanceM.reportConditions app prev) OffObjects fun _ _ => True :=
  .bind InstanceM.idle_now.triple fun _ => .write rfl fun _ _ => trivial

theorem triple_writeStatus_report_off {α : Type} {s : InstanceSite} {f : GoError → GoError}
    {prev : List Condition} {a : α} :
    Triple env P (do
      (updateStatus s app).mapError f
      InstanceM.reportConditions app prev
      pure a) OffObjects fun _ _ => True :=
  .bind (.mapError (triple_updateStatus_off s)) fun _ =>
    .bind (triple_reportConditions_off prev) fun _ => .pure fun _ _ => trivial

theorem triple_dropFinalizer_off :
    Triple env P (dropFinalizer app) OffObjects fun _ _ => True :=
  .bind (.mapError (triple_updateMetadata_off _)) fun _ => .pure fun _ _ => trivial

theorem triple_proceed_of_placeholder {r : ApplicationInstanceReconciler}
    (hmode : app.spec.isPlaceholder = true) :
    Triple env P (r.proceed app) OffObjects fun _ _ => True := by
  unfold ApplicationInstanceReconciler.proceed
  simp only [hmode, Bool.not_true, Bool.false_and, Bool.false_eq_true, if_false, if_true]
  split
  · unfold finalize
    rw [if_pos hmode]
    refine .bind (Q := fun _ _ => True) ?_ fun _ => triple_dropFinalizer_off
    exact .bind InstanceM.idle_now.triple fun _ =>
      .bind (.mapError (triple_updateStatus_off _)) fun _ => triple_reportConditions_off _
  · split
    · exact .bind InstanceM.idle_now.triple fun _ => triple_writeStatus_report_off
    · exact .bind InstanceM.idle_now.triple fun _ => triple_writeStatus_report_off

theorem off_of_reconcile {r : InstanceController} {c : InstanceCluster} {k : ObjectKey}
    {e : InstanceEvent} (happ : c.instances.get k = some app)
    (hmode : app.spec.isPlaceholder = true) (he : e ∈ ((r.reconcile k).run env c).trace) :
    OffObjects e := by
  have htriple : Triple env (· = c) (r.reconcile k) OffObjects fun _ _ => True := by
    refine .bind (InstanceM.triple_read _ _) fun found => ?_
    cases found with
    | none => exact .pure fun _ _ => trivial
    | some app' =>
      intro c' hc'
      obtain ⟨rfl, hfound⟩ := hc'
      obtain rfl : app' = app := Option.some.inj (hfound.trans happ)
      have hbody : Triple env (fun _ => True) (if applicationInstanceFinalizer ∉
          app'.metadata.finalizers then do
            (updateMetadata .addFinalizer { app' with metadata :=
              { app'.metadata with finalizers :=
                app'.metadata.finalizers ++ [applicationInstanceFinalizer] } }).mapError
              (·.wrap "add finalizer")
            pure { requeue := true }
          else r.reconciler.proceed app') OffObjects fun _ _ => True := by
        split
        · exact .bind (.mapError (triple_updateMetadata_off _)) fun _ => .pure fun _ _ => trivial
        · exact triple_proceed_of_placeholder hmode
      exact hbody c' trivial
  exact (htriple c rfl).1 e he

end offObjects

/-- Nothing was done to an object in a reconcile of an instance that is a placeholder now. -/
def Unworked (w : AdmittedWorld) : Prop :=
  ∀ k app, w.cluster.instances.get k = some app → app.spec.isPlaceholder = true →
    ∀ e, (app.metadata.uid, e) ∈ w.history → OffObjects e

section runs

variable {r : InstanceController} {w w' : AdmittedWorld}

theorem Unworked.inherit (h : Unworked w) (hinherits : Inherits w.cluster w'.cluster)
    (hhistory : w'.history = w.history) : Unworked w' := by
  intro k app' happ' hmode e he
  obtain ⟨app, happ, huid, hspec⟩ := hinherits k app' happ'
  rw [hspec] at hmode
  rw [hhistory, huid] at he
  exact h k app happ hmode e he

theorem Unworked.step (h : Unworked w) (hw : w.WellFormed) (a : AdmittedStep) :
    Unworked (admittedStep r w a) := by
  cases a with
  | create app =>
    simp only [admittedStep]
    split
    · next hadmitted =>
      intro k app' happ' hmode e he
      rcases Store.of_get_put happ' with ⟨rfl, -⟩ | hold
      · -- a new UID is in no history
        exact absurd (hw.attributed _ e he) hadmitted.2.1
      · exact h k app' hold hmode e he
    · exact h
  | update app =>
    simp only [admittedStep]
    split
    · exact h
    · next oldApp hold =>
      split
      · next hadmitted =>
        intro k app' happ' hmode e he
        rcases Store.of_get_put happ' with ⟨rfl, -⟩ | hother
        · -- it was a placeholder before, as it has no release
          have hmode' := isPlaceholder_of_validateModeTransition (of_validateUpdate hadmitted.2).1
            (hw.released _ oldApp hold) hmode
          exact h _ oldApp hold hmode' e (hadmitted.1 ▸ he)
        · exact h k app' hother hmode e he
      · exact h
  | delete k t =>
    exact h.inherit (AdmittedWorld.inherits_modify (fun _ => rfl) (fun _ => rfl) fun _ => rfl)
      (AdmittedWorld.history_modify _ _ _)
  | remove k => exact h.inherit inherits_erase rfl
  | writeStatus k status =>
    exact h.inherit (AdmittedWorld.inherits_modify (fun _ => rfl) (fun _ => rfl) fun _ => rfl)
      (AdmittedWorld.history_modify _ _ _)
  | reconcile env k =>
    intro k' app' happ' hmode e he
    obtain ⟨app, happ, huid, hspec⟩ := inherits_reconcile r env k' app' happ'
    rw [hspec] at hmode
    rw [huid] at he
    rcases List.mem_append.mp he with he | he
    · exact h k' app happ hmode e he
    · obtain ⟨worked, hworked, heq, hevent⟩ := AdmittedWorld.mem_credited he
      obtain rfl := hw.distinct k k' worked app hworked happ heq
      obtain rfl := Option.some.inj (hworked.symm.trans happ)
      exact off_of_reconcile hworked hmode hevent
  | outside c => exact h.inherit (fun k app' happ' => ⟨app', happ', rfl, rfl⟩) rfl

theorem placeholder_owns_nothing (r : InstanceController) (c : InstanceCluster)
    (steps : List AdmittedStep) :
    Unworked (exec (admittedStep r) { cluster := { c with instances := Store.empty } } steps) := by
  have hrun : Along (admittedStep r) (fun _ _ => True)
      { cluster := { c with instances := Store.empty } } steps := along_of_forall fun _ _ => trivial
  refine (exec_of_along (I := fun w => w.WellFormed ∧ Unworked w) hrun ?_ ⟨?_, ?_⟩).2
  · rintro w a - ⟨hw, hunworked⟩
    exact ⟨hw.step r a, hunworked.step hw a⟩
  · exact .start _ rfl
  · intro k app happ
    exact absurd happ (by simp [Store.get])

end runs

def reservedShop : ManagedInstance where
  metadata :=
    { ns := "team-a", name := "shop", uid := "u1", finalizers := [applicationInstanceFinalizer] }
  spec := { catalogId := "shop", mode := .placeholder }

def reservation : AdmittedWorld :=
  exec (admittedStep plainController)
    { cluster := { alone reservedShop with instances := Store.empty } }
    [.create reservedShop, .reconcile { now := 3 } ⟨"team-a", "shop"⟩,
      .delete ⟨"team-a", "shop"⟩ 4]

theorem reserved_shop_owns_nothing :
    ∃ app e, reservation.cluster.instances.get ⟨"team-a", "shop"⟩ = some app ∧
      app.spec.isPlaceholder = true ∧ ("u1", e) ∈ reservation.history ∧ OffObjects e := by
  have hmode : (reservation.cluster.instances.get ⟨"team-a", "shop"⟩).map (fun app =>
      (app.metadata.uid, app.spec.isPlaceholder)) = some ("u1", true) := by decide +kernel
  have huids : (reservation.history.map Prod.fst).head? = some "u1" := by decide +kernel
  obtain ⟨app, happ, heq⟩ := Option.map_eq_some_iff.mp hmode
  obtain ⟨huid, hmode⟩ := Prod.mk.inj heq
  obtain ⟨⟨u, e⟩, hmem, rfl⟩ := List.mem_map.mp (List.mem_of_head? huids)
  exact ⟨app, e, happ, hmode, hmem,
    placeholder_owns_nothing plainController _ _ _ app happ hmode e (by rw [huid]; exact hmem)⟩

end VWorkspace
