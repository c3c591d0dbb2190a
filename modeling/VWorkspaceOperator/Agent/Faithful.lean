import VWorkspaceOperator.Agent.Events
import VWorkspaceOperator.Kit.Rules
import VWorkspaceOperator.Kit.Run

/-!
# Reports that reproduce conditions

A controller writes the conditions of an object and reports which of them have changed,
against those it had read.  The control plane sees nothing but those reports, and replays them
as upserts by condition type.
-/

namespace VWorkspace

open Kit Prog
open Agent (ConditionMap conditionMap replayed DistinctTypes conditionTransitions)

/-- What was replayed is the map of the stored conditions, if there are any; their types are
distinct. -/
def Faithful (m : ConditionMap) (stored : Option (List Condition)) : Prop :=
  ∀ cs, stored = some cs → DistinctTypes cs ∧ m = conditionMap cs

/-- Conditions that come about from others by setting conditions: none of them goes. -/
structure Grows (cs cs' : List Condition) : Prop where
  distinct : DistinctTypes cs → DistinctTypes cs'
  types : cs.map Condition.type ⊆ cs'.map Condition.type

theorem Grows.refl (cs : List Condition) : Grows cs cs := ⟨id, fun _ h => h⟩

theorem Grows.set {cs cs' : List Condition} {now : ℕ} {type : String} {status : ConditionStatus}
    {reason message : String} (h : Grows cs cs') :
    Grows cs (setCondition now type status reason message cs') := by
  refine ⟨fun hcs => Agent.distinct_setCondition (h.distinct hcs), fun t ht => ?_⟩
  rw [types_setCondition]
  split
  · exact h.types ht
  · exact List.mem_append_left _ (h.types ht)

theorem Faithful.none {m : ConditionMap} : Faithful m Option.none :=
  fun _ h => absurd h (by simp)

theorem faithful_nil : Faithful (fun _ => Option.none) (some []) := by
  rintro cs ⟨⟩
  exact ⟨List.nodup_nil, rfl⟩

theorem Faithful.grow {m : ConditionMap} {prev next : List Condition} (h : Faithful m (some prev))
    (hgrow : Grows prev next) (now : ℕ) (ref : Agent.AppliedRef) :
    Faithful (replayed (conditionTransitions now ref prev next) m) (some next) := by
  rintro cs ⟨⟩
  obtain ⟨hdistinct, rfl⟩ := h prev rfl
  have hnext := hgrow.distinct hdistinct
  exact ⟨hnext, Agent.replayed_transitions now ref hdistinct hnext hgrow.types⟩

section machine

variable {σ α ω : Type} {step : σ → α → σ} {conds : σ → Option (List Condition)}
  {out : σ → α → List Agent.Event}

/-- A step whose reports `out` follow the conditions of the object. -/
def FaithfulStep (step : σ → α → σ) (conds : σ → Option (List Condition))
    (out : σ → α → List Agent.Event) (s : σ) (a : α) : Prop :=
  ∀ m, Faithful m (conds s) → Faithful (replayed (out s a) m) (conds (step s a))

theorem faithful_of_run {s : σ} {run : List α} {m : ConditionMap}
    (hrun : Along step (FaithfulStep step conds out) s run) (hs : Faithful m (conds s)) :
    Faithful (replayed (gathered step out s run) m) (conds (exec step s run)) := by
  induction run generalizing s m with
  | nil => exact hs
  | cons a run ih =>
    rw [gathered_cons, Agent.replayed_append]
    exact ih hrun.2 (hrun.1 m hs)

theorem faithfulStep_of_silent {s : σ} {a : α} (hout : out s a = [])
    (hconds : ∀ cs, conds (step s a) = some cs → conds s = some cs) :
    FaithfulStep step conds out s a := by
  intro m hm cs hcs
  rw [hout]
  exact hm cs (hconds cs hcs)

theorem replayed_flatMap (reports : ω → List Agent.Event) (trace : List ω) (m : ConditionMap) :
    replayed (trace.flatMap reports) m = replay (fun e m => replayed (reports e) m) trace m := by
  induction trace generalizing m with
  | nil => rfl
  | cons e trace ih => rw [List.flatMap_cons, Agent.replayed_append, ih]; rfl

end machine

end VWorkspace
