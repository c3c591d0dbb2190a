import VWorkspaceOperator.Agent.Fleet
import VWorkspaceOperator.Properties.Replay

/-!
# Who changes an object

Agents that work on many jobs at a time write namespaces, the ConfigMap of the keys and the objects
their jobs name.  Every change of another object can be traced back to its job.
-/

namespace VWorkspace.Agent

open Kit Prog

variable {ι : Type} [DecidableEq ι] {a : ι → Applier} {store : IdempotencyStore} {f : Fleet ι}
  {id : ResourceId}

/-- The step carries out a job that names the object, or somebody else changes the object. -/
def Touches (a : ι → Applier) (id : ResourceId) (f : Fleet ι) : FleetStep ι → Prop
  | .act i _ => ∃ job, (f.members i).task = .checked job ∧ (a i).targetId job = some id
  | .outside change => (change f.objects).get id ≠ f.objects.get id
  | _ => False

theorem get_step_of_not_touches (hstore : ∀ i, (a i).idempotency = some store)
    (hns : ¬Applier.IsNamespace id) (hmap : id ≠ store.configMap) {x : FleetStep ι}
    (h : ¬Touches a id f x) : (Fleet.step a f x).objects.get id = f.objects.get id := by
  cases x with
  | take i env job =>
    rw [Fleet.step]
    split
    · exact congrArg (Store.get · id) (Applier.precheck_frame env (f.view i) job (hstore i)).1
    · rfl
  | act i env =>
    rw [Fleet.step]
    split
    · rename_i job htask
      refine (Applier.actsOn_carryOut (a i) job).get ?_
      rintro (htarget | hid)
      · exact h ⟨job, htask, htarget⟩
      · exact hns hid
    · rfl
  | finish i env =>
    rw [Fleet.step]
    split
    · exact Applier.get_remember_of_ne (hstore i) hmap
    · rfl
  | restart i => rfl
  | outside change => exact not_not.mp h

theorem touched_of_changed (a : ι → Applier) (store : IdempotencyStore)
    (hstore : ∀ i, (a i).idempotency = some store) (id : ResourceId)
    (hns : ¬Applier.IsNamespace id) (hmap : id ≠ store.configMap) (f : Fleet ι)
    (run : List (FleetStep ι))
    (hchanged : (exec (Fleet.step a) f run).objects.get id ≠ f.objects.get id) :
    Sometime (Fleet.step a) (Touches a id) f run := by
  by_contra hnever
  have halong : Along (Fleet.step a) (fun f x => ¬Touches a id f x) f run :=
    along_iff_forall_split.mpr fun pre x post heq hx => hnever ⟨pre, x, post, heq, hx⟩
  exact hchanged (exec_of_along
    (I := fun f' : Fleet ι => f'.objects.get id = f.objects.get id) halong
    (fun f' x hx h => (get_step_of_not_touches hstore hns hmap hx).trans h) rfl)

theorem service_touched :
    Sometime (Fleet.step fun _ : Bool => systemAgent)
      (Touches (fun _ => systemAgent) ⟨"", "Service", "", "web"⟩) Fleet.fresh
      [.take true calm serviceJob, .take false calm serviceJob, .act true calm] := by
  refine touched_of_changed _ systemStore (fun _ => rfl) _ (by simp [Applier.IsNamespace])
    (by decide) _ _ fun h => ?_
  exact absurd (congrArg Option.isSome h) (by decide +kernel)

end VWorkspace.Agent
