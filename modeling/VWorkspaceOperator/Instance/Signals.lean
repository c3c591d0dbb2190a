import Mathlib.Data.List.Perm.Basic
import VWorkspaceOperator.Instance.Seaweed

/-!
# What the conditions of a downstream object come to

Both engines sum up the conditions of the object they keep in one pass: a decided `Ready`
takes the reason and the message, whatever was there; of the other conditions the first one
with a reason does, and all of them leave their mark.  The pass is the same for both, over
another vocabulary, so it is told once, over signals.

The marks do not depend on the order of the conditions.  The reason and the message do not
either if `Ready` is decided.  If it is not, two conditions compete for them, and the order
decides unless the two agree or exactly one of them has a reason.
-/

namespace VWorkspace

open Kit

inductive Slot where
  | ready
  | reconciling
  | degraded
  deriving DecidableEq, Repr

inductive Signal where
  | nothing
  /-- `Ready` is decided. -/
  | verdict (ready : Bool) (reason message : String)
  /-- The object is being worked on. -/
  | reconciling (reason message : String)
  /-- The object is degraded. -/
  | degraded (reason message : String)
  deriving DecidableEq, Repr

namespace Signal

def slot : Signal → Option Slot
  | .nothing => none
  | .verdict .. => some .ready
  | .reconciling .. => some .reconciling
  | .degraded .. => some .degraded

/-- The reason and the message of a summary that has no reason yet. -/
def suggest (s : ConditionSummary) (reason message : String) : ConditionSummary :=
  if s.reason = "" then { s with reason, message } else s

def add (s : ConditionSummary) : Signal → ConditionSummary
  | .nothing => s
  | .verdict ready reason message => { s with ready := s.ready || ready, reason, message }
  | .reconciling reason message => { suggest s reason message with reconciling := true }
  | .degraded reason message => { suggest s reason message with degraded := true }

end Signal

/-- The end of both passes: what is ready is not degraded, and work in progress has a reason. -/
def ConditionSummary.settle (fallback : String) (s : ConditionSummary) : ConditionSummary :=
  let s := if s.ready && s.degraded then { s with degraded := false } else s
  if s.reason = "" && s.reconciling then { s with reason := fallback } else s

section summary

variable {α : Type} (signal : α → Signal)

def gather (s : ConditionSummary) (l : List α) : ConditionSummary :=
  l.foldl (fun s a => (signal a).add s) s

def summary (fallback : String) (l : List α) : ConditionSummary :=
  (gather signal {} l).settle fallback

def Unrepeated (l : List α) : Prop := (l.filterMap fun a => (signal a).slot).Nodup

end summary

section marks

variable {α : Type} {signal : α → Signal} {s : ConditionSummary} {l l' : List α} {a : α}

@[simp] theorem gather_nil : gather signal s [] = s := rfl

@[simp] theorem gather_cons :
    gather signal s (a :: l) = gather signal ((signal a).add s) l := rfl

def Signal.isReady : Signal → Bool
  | .verdict ready _ _ => ready
  | _ => false

variable (signal) in
def marks (slot : Slot) (l : List α) : Bool := l.any fun a => (signal a).slot = some slot

theorem marks_gather (signal : α → Signal) (s : ConditionSummary) (l : List α) :
    (gather signal s l).ready = (s.ready || l.any fun a => (signal a).isReady) ∧
      (gather signal s l).reconciling = (s.reconciling || marks signal .reconciling l) ∧
      (gather signal s l).degraded = (s.degraded || marks signal .degraded l) := by
  induction l generalizing s with
  | nil => simp [marks]
  | cons a l ih =>
    obtain ⟨hready, hreconciling, hdegraded⟩ := ih (s := (signal a).add s)
    rw [gather_cons, hready, hreconciling, hdegraded]
    have hsuggest : ∀ reason message, (Signal.suggest s reason message).ready = s.ready ∧
        (Signal.suggest s reason message).reconciling = s.reconciling ∧
        (Signal.suggest s reason message).degraded = s.degraded := by
      intro reason message
      unfold Signal.suggest
      split <;> exact ⟨rfl, rfl, rfl⟩
    cases hsignal : signal a with
    | nothing => simp [marks, Signal.add, Signal.isReady, Signal.slot, hsignal]
    | verdict => simp [marks, Signal.add, Signal.isReady, Signal.slot, hsignal, Bool.or_assoc]
    | reconciling => simp [marks, Signal.add, Signal.isReady, Signal.slot, hsignal, hsuggest]
    | degraded => simp [marks, Signal.add, Signal.isReady, Signal.slot, hsignal, hsuggest]

theorem marks_perm (signal : α → Signal) (s : ConditionSummary) (h : l'.Perm l) :
    (gather signal s l').ready = (gather signal s l).ready ∧
      (gather signal s l').reconciling = (gather signal s l).reconciling ∧
      (gather signal s l').degraded = (gather signal s l).degraded := by
  obtain ⟨hready, hreconciling, hdegraded⟩ := marks_gather signal s l
  obtain ⟨hready', hreconciling', hdegraded'⟩ := marks_gather signal s l'
  rw [hready, hready', hreconciling, hreconciling', hdegraded, hdegraded', marks, marks, marks,
    marks, h.any_eq, h.any_eq, h.any_eq]
  exact ⟨rfl, rfl, rfl⟩

end marks

section verdict

variable {α : Type} {signal : α → Signal} {s : ConditionSummary} {l l' : List α} {a : α}

theorem Unrepeated.perm (h : l'.Perm l) (hl : Unrepeated signal l) : Unrepeated signal l' :=
  (h.filterMap _).nodup_iff.mpr hl

theorem Unrepeated.slot_ne (hl : Unrepeated signal (a :: l)) {slot : Slot}
    (ha : (signal a).slot = some slot) : ∀ b ∈ l, (signal b).slot ≠ some slot := by
  intro b hb hslot
  rw [Unrepeated, List.filterMap_cons, ha, List.nodup_cons] at hl
  exact hl.1 (List.mem_filterMap.mpr ⟨b, hb, hslot⟩)

theorem Unrepeated.of_cons (hl : Unrepeated signal (a :: l)) : Unrepeated signal l := by
  unfold Unrepeated at hl
  rw [List.filterMap_cons] at hl
  split at hl
  · exact hl
  · exact (List.nodup_cons.mp hl).2

theorem Unrepeated.eq_of_slot {b : α} (hl : Unrepeated signal l) {slot : Slot} (ha : a ∈ l)
    (hb : b ∈ l) (hslot : (signal a).slot = some slot) (hslot' : (signal b).slot = some slot) :
    a = b := by
  induction l with
  | nil => exact absurd ha List.not_mem_nil
  | cons c l ih =>
    rcases List.mem_cons.mp ha with rfl | ha'
    · rcases List.mem_cons.mp hb with rfl | hb'
      · rfl
      · exact absurd hslot' (hl.slot_ne hslot b hb')
    · rcases List.mem_cons.mp hb with rfl | hb'
      · exact absurd hslot (hl.slot_ne hslot' a ha')
      · exact ih hl.of_cons ha' hb'

theorem reason_gather_of_ne (hs : s.reason ≠ "") (hl : ∀ a ∈ l, (signal a).slot ≠ some .ready) :
    (gather signal s l).reason = s.reason ∧ (gather signal s l).message = s.message := by
  induction l generalizing s with
  | nil => exact ⟨rfl, rfl⟩
  | cons a l ih =>
    have hrest : ∀ b ∈ l, (signal b).slot ≠ some .ready :=
      fun b hb => hl b (List.mem_cons_of_mem a hb)
    have hkept : ((signal a).add s).reason = s.reason ∧ ((signal a).add s).message = s.message := by
      cases hsignal : signal a with
      | nothing => exact ⟨rfl, rfl⟩
      | verdict => exact absurd (by rw [hsignal]; rfl) (hl a List.mem_cons_self)
      | reconciling => simp [Signal.add, Signal.suggest, hs]
      | degraded => simp [Signal.add, Signal.suggest, hs]
    rw [gather_cons, ← hkept.1, ← hkept.2]
    exact ih (by rw [hkept.1]; exact hs) hrest

theorem reason_gather_of_verdict {ready : Bool} {reason message : String}
    (hl : Unrepeated signal l) (ha : a ∈ l) (hsignal : signal a = .verdict ready reason message)
    (hreason : reason ≠ "") :
    (gather signal s l).reason = reason ∧ (gather signal s l).message = message := by
  induction l generalizing s with
  | nil => exact absurd ha List.not_mem_nil
  | cons b l ih =>
    rcases List.mem_cons.mp ha with rfl | ha
    · -- no other verdict follows this one
      rw [gather_cons, hsignal]
      exact reason_gather_of_ne hreason (hl.slot_ne (by rw [hsignal]; rfl))
    · exact ih hl.of_cons ha

theorem gather_perm_of_verdict {ready : Bool} {reason message : String} (h : l'.Perm l)
    (hl : Unrepeated signal l) (ha : a ∈ l) (hsignal : signal a = .verdict ready reason message)
    (hreason : reason ≠ "") : gather signal s l' = gather signal s l := by
  obtain ⟨hready, hreconciling, hdegraded⟩ := marks_perm signal s h
  obtain ⟨hr, hm⟩ := reason_gather_of_verdict (s := s) hl ha hsignal hreason
  obtain ⟨hr', hm'⟩ :=
    reason_gather_of_verdict (s := s) (hl.perm h) (h.mem_iff.mpr ha) hsignal hreason
  rw [ConditionSummary.mk.injEq]
  exact ⟨hr'.trans hr.symm, hm'.trans hm.symm, hready, hreconciling, hdegraded⟩

end verdict

/-- Two hints compete for the reason and the message: both have a reason or neither has, and
they differ. -/
def Rivals (reason message reason' message' : String) : Prop :=
  (reason = "" ↔ reason' = "") ∧ (reason, message) ≠ (reason', message')

instance (reason message reason' message' : String) :
    Decidable (Rivals reason message reason' message') := by
  unfold Rivals; infer_instance

section rivals

variable {α : Type} {signal : α → Signal} {s : ConditionSummary} {l l' : List α} {a b : α}
  {reason message reason' message' : String}

theorem add_add_of_not_rivals (h : ¬Rivals reason message reason' message') :
    (Signal.degraded reason' message').add ((Signal.reconciling reason message).add s) =
      (Signal.reconciling reason message).add ((Signal.degraded reason' message').add s) := by
  unfold Rivals at h
  simp only [Signal.add, Signal.suggest]
  by_cases hs : s.reason = "" <;> by_cases hr : reason = "" <;> by_cases hr' : reason' = "" <;>
    simp_all

theorem settle_ne_of_rivals {fallback : String} (h : Rivals reason message reason' message') :
    ((Signal.degraded reason' message').add ((Signal.reconciling reason message).add {})).settle
        fallback ≠
      ((Signal.reconciling reason message).add ((Signal.degraded reason' message').add {})).settle
        fallback := by
  unfold Rivals at h
  simp only [Signal.add, Signal.suggest, ConditionSummary.settle]
  by_cases hr : reason = "" <;> by_cases hr' : reason' = "" <;> simp_all
  exact fun heq => h heq.symm

theorem add_comm_of_not_rivals (hl : Unrepeated signal l)
    (hready : ∀ a ∈ l, (signal a).slot ≠ some .ready)
    (hrivals : ∀ a ∈ l, ∀ b ∈ l, ∀ r m r' m', signal a = .reconciling r m →
      signal b = .degraded r' m' → ¬Rivals r m r' m')
    (ha : a ∈ l) (hb : b ∈ l) :
    (signal b).add ((signal a).add s) = (signal a).add ((signal b).add s) := by
  cases hsa : signal a with
  | nothing => rfl
  | verdict => exact absurd (by rw [hsa]; rfl) (hready a ha)
  | reconciling r m =>
    cases hsb : signal b with
    | nothing => rfl
    | verdict => exact absurd (by rw [hsb]; rfl) (hready b hb)
    | reconciling r' m' =>
      obtain rfl : a = b := hl.eq_of_slot ha hb (by rw [hsa]; rfl) (by rw [hsb]; rfl)
      rw [← hsa, ← hsb]
    | degraded r' m' => exact add_add_of_not_rivals (hrivals a ha b hb r m r' m' hsa hsb)
  | degraded r m =>
    cases hsb : signal b with
    | nothing => rfl
    | verdict => exact absurd (by rw [hsb]; rfl) (hready b hb)
    | reconciling r' m' =>
      exact (add_add_of_not_rivals (hrivals b hb a ha r' m' r m hsb hsa)).symm
    | degraded r' m' =>
      obtain rfl : a = b := hl.eq_of_slot ha hb (by rw [hsa]; rfl) (by rw [hsb]; rfl)
      rw [← hsa, ← hsb]

variable (signal) in
def Contested (l : List α) : Prop :=
  (∀ a ∈ l, (signal a).slot ≠ some .ready) ∧
    ∃ a ∈ l, ∃ b ∈ l, ∃ r m r' m', signal a = .reconciling r m ∧ signal b = .degraded r' m' ∧
      Rivals r m r' m'

theorem gather_rivals {r m r' m' : String} (hl : Unrepeated signal (a :: b :: l))
    (hready : ∀ c ∈ l, (signal c).slot ≠ some .ready) (ha : signal a = .reconciling r m)
    (hb : signal b = .degraded r' m') : gather signal s l = s := by
  induction l generalizing s with
  | nil => rfl
  | cons c l ih =>
    have hreconciling : (signal c).slot ≠ some .reconciling :=
      hl.slot_ne (by rw [ha]; rfl) c (by simp)
    have hdegraded : (signal c).slot ≠ some .degraded :=
      hl.of_cons.slot_ne (by rw [hb]; rfl) c (by simp)
    have hnothing : signal c = .nothing := by
      cases hc : signal c with
      | nothing => rfl
      | verdict => exact absurd (by rw [hc]; rfl) (hready c List.mem_cons_self)
      | reconciling => exact absurd (by rw [hc]; rfl) hreconciling
      | degraded => exact absurd (by rw [hc]; rfl) hdegraded
    have hrest : Unrepeated signal (a :: b :: l) := by
      have hperm : (a :: b :: c :: l).Perm (c :: a :: b :: l) :=
        ((List.Perm.swap c b l).cons a).trans (List.Perm.swap c a (b :: l))
      exact (hl.perm hperm.symm).of_cons
    rw [gather_cons, hnothing]
    exact ih hrest fun d hd => hready d (List.mem_cons_of_mem c hd)

theorem summary_perm_iff {fallback : String} (hl : Unrepeated signal l)
    (hverdict : ∀ a ready reason message, signal a = .verdict ready reason message → reason ≠ "") :
    (∀ l' : List α, l'.Perm l → summary signal fallback l' = summary signal fallback l) ↔
      ¬Contested signal l := by
  constructor
  · rintro h ⟨hready, a, ha, b, hb, r, m, r', m', hsa, hsb, hrivals⟩
    have hne : a ≠ b := by
      rintro rfl
      exact absurd (hsa.symm.trans hsb) (by simp)
    obtain ⟨rest, hrest⟩ : ∃ rest, l.Perm (a :: b :: rest) := by
      classical
      have hb' : b ∈ l.erase a := (List.mem_erase_of_ne hne.symm).mpr hb
      exact ⟨(l.erase a).erase b,
        (List.perm_cons_erase ha).trans ((List.perm_cons_erase hb').cons a)⟩
    have hready' : ∀ c ∈ rest, (signal c).slot ≠ some .ready :=
      fun c hc => hready c (hrest.mem_iff.mpr (by simp [hc]))
    have hunrepeated := hl.perm hrest.symm
    have hsame := (h _ hrest.symm).trans
      (h _ ((List.Perm.swap a b rest).trans hrest.symm)).symm
    simp only [summary, gather_cons, hsa, hsb,
      gather_rivals hunrepeated hready' hsa hsb] at hsame
    exact settle_ne_of_rivals hrivals hsame
  · intro hcontested l' h
    unfold summary
    by_cases hready : ∃ a ∈ l, (signal a).slot = some .ready
    · obtain ⟨a, ha, hslot⟩ := hready
      cases hsignal : signal a with
      | verdict ready reason message =>
        rw [gather_perm_of_verdict h hl ha hsignal (hverdict a ready reason message hsignal)]
      | nothing | reconciling | degraded =>
        rw [hsignal] at hslot
        exact absurd hslot (by simp [Signal.slot])
    · replace hready : ∀ a ∈ l, (signal a).slot ≠ some .ready :=
        fun a ha hslot => hready ⟨a, ha, hslot⟩
      have hswap : ∀ a ∈ l, ∀ b ∈ l, ∀ s,
          (signal b).add ((signal a).add s) = (signal a).add ((signal b).add s) := by
        intro a ha b hb s
        refine add_comm_of_not_rivals hl hready
          (fun a ha b hb r m r' m' hsa hsb hrivals => ?_) ha hb
        exact hcontested ⟨hready, a, ha, b, hb, r, m, r', m', hsa, hsb, hrivals⟩
      have hgather : gather signal {} l = gather signal {} l' :=
        h.symm.foldl_eq' (fun a ha b hb s => hswap a ha b hb s) {}
      rw [hgather]

end rivals

def conditionShows (type status : String) : Json → Prop
  | .obj cond => nestedString ["type"] cond = type ∧ nestedString ["status"] cond = status
  | _ => False

instance (type status : String) : DecidablePred (conditionShows type status) := fun j => by
  cases j <;> unfold conditionShows <;> infer_instance

def conditionText (field : String) : Json → String
  | .obj cond => nestedString [field] cond
  | _ => ""

/-- The type of a downstream condition; what is not an object is passed over. -/
def downstreamType : Json → Option String
  | .obj cond => some (nestedString ["type"] cond)
  | _ => none

def UniqueTypes (conditions : List Json) : Prop := (conditions.filterMap downstreamType).Nodup

instance (conditions : List Json) : Decidable (UniqueTypes conditions) := by
  unfold UniqueTypes; infer_instance

def helmSignal (j : Json) : Signal :=
  if conditionShows "Ready" "True" j then
    .verdict true "HelmReleaseReady" (conditionText "message" j)
  else if conditionShows "Ready" "False" j then
    .verdict false "HelmReleaseFailed" (conditionText "message" j)
  else if conditionShows "Released" "False" j then
    .degraded "HelmReleaseDegraded" (conditionText "message" j)
  else if conditionShows "Reconciling" "True" j then
    .reconciling (conditionText "reason" j) (conditionText "message" j)
  else .nothing

def seaweedSignal (j : Json) : Signal :=
  if conditionShows "Ready" "True" j then .verdict true "SeaweedReady" (conditionText "message" j)
  else if conditionShows "Ready" "False" j then
    .verdict false "SeaweedFailed" (conditionText "message" j)
  else if conditionShows "Progressing" "True" j then
    .reconciling (conditionText "reason" j) (conditionText "message" j)
  else if conditionShows "Degraded" "True" j then
    .degraded (conditionText "reason" j) (conditionText "message" j)
  else .nothing

theorem mapHelmReleaseCondition_eq (s : ConditionSummary) (j : Json) :
    mapHelmReleaseCondition s j = (helmSignal j).add s := by
  cases j with
  | obj cond =>
    simp only [mapHelmReleaseCondition, helmSignal, conditionShows, conditionText]
    split_ifs <;> simp_all [Signal.add, Signal.suggest]
  | _ => rfl

theorem mapHelmReleaseConditions_eq (conditions : List Json) :
    mapHelmReleaseConditions conditions =
      summary helmSignal "HelmReleaseInstalling" conditions := by
  have hstep : mapHelmReleaseCondition = fun s j => (helmSignal j).add s :=
    funext fun s => funext fun j => mapHelmReleaseCondition_eq s j
  unfold mapHelmReleaseConditions
  rw [hstep]
  rfl

theorem mapSeaweedCondition_eq (s : ConditionSummary) (j : Json) :
    mapSeaweedCondition s j = (seaweedSignal j).add s := by
  cases j with
  | obj cond =>
    simp only [mapSeaweedCondition, seaweedSignal, conditionShows, conditionText]
    split_ifs <;> simp_all [Signal.add, Signal.suggest]
  | _ => rfl

theorem mapSeaweedConditions_eq (conditions : List Json) :
    mapSeaweedConditions conditions = summary seaweedSignal "SeaweedReconciling" conditions := by
  have hstep : mapSeaweedCondition = fun s j => (seaweedSignal j).add s :=
    funext fun s => funext fun j => mapSeaweedCondition_eq s j
  unfold mapSeaweedConditions
  rw [hstep]
  rfl

theorem unrepeated_of_uniqueTypes {signal : Json → Signal} {conditions : List Json}
    (about : Slot → String)
    (habout : ∀ j slot, (signal j).slot = some slot → downstreamType j = some (about slot))
    (h : UniqueTypes conditions) : Unrepeated signal conditions := by
  unfold UniqueTypes at h
  unfold Unrepeated
  rw [List.Nodup, List.pairwise_filterMap] at h ⊢
  refine h.imp fun {i j} hij slot hslot slot' hslot' heq => ?_
  exact hij _ (habout i slot hslot) _ (habout j slot' hslot') (by rw [heq])

section vocabulary

variable {j : Json} {conditions : List Json} {type status : String}

theorem downstreamType_of_shows (h : conditionShows type status j) :
    downstreamType j = some type := by
  cases j with
  | obj cond => exact congrArg some h.1
  | _ => exact h.elim

theorem not_shows_of_ne {type' status' : String} (h : conditionShows type status j)
    (hne : type ≠ type') : ¬conditionShows type' status' j := fun h' =>
  hne (Option.some.inj ((downstreamType_of_shows h).symm.trans (downstreamType_of_shows h')))

theorem not_shows_of_status_ne {status' : String} (h : conditionShows type status j)
    (hne : status ≠ status') : ¬conditionShows type status' j := by
  cases j with
  | obj cond => exact fun h' => hne (h.2.symm.trans h'.2)
  | _ => exact h.elim

theorem unrepeated_helmSignal (h : UniqueTypes conditions) : Unrepeated helmSignal conditions := by
  refine unrepeated_of_uniqueTypes
    (fun | .ready => "Ready" | .reconciling => "Reconciling" | .degraded => "Released")
    (fun j slot hslot => ?_) h
  unfold helmSignal at hslot
  split_ifs at hslot with hready hfailed hreleased hreconciling
  · obtain rfl := Option.some.inj hslot
    exact downstreamType_of_shows hready
  · obtain rfl := Option.some.inj hslot
    exact downstreamType_of_shows hfailed
  · obtain rfl := Option.some.inj hslot
    exact downstreamType_of_shows hreleased
  · obtain rfl := Option.some.inj hslot
    exact downstreamType_of_shows hreconciling
  · exact absurd hslot (by simp [Signal.slot])

theorem unrepeated_seaweedSignal (h : UniqueTypes conditions) :
    Unrepeated seaweedSignal conditions := by
  refine unrepeated_of_uniqueTypes
    (fun | .ready => "Ready" | .reconciling => "Progressing" | .degraded => "Degraded")
    (fun j slot hslot => ?_) h
  unfold seaweedSignal at hslot
  split_ifs at hslot with hready hfailed hprogressing hdegraded
  · obtain rfl := Option.some.inj hslot
    exact downstreamType_of_shows hready
  · obtain rfl := Option.some.inj hslot
    exact downstreamType_of_shows hfailed
  · obtain rfl := Option.some.inj hslot
    exact downstreamType_of_shows hprogressing
  · obtain rfl := Option.some.inj hslot
    exact downstreamType_of_shows hdegraded
  · exact absurd hslot (by simp [Signal.slot])

theorem ne_empty_of_helmSignal {ready : Bool} {reason message : String}
    (h : helmSignal j = .verdict ready reason message) : reason ≠ "" := by
  unfold helmSignal at h
  split_ifs at h
  · injection h with _ h; rw [← h]; decide
  · injection h with _ h; rw [← h]; decide

theorem ne_empty_of_seaweedSignal {ready : Bool} {reason message : String}
    (h : seaweedSignal j = .verdict ready reason message) : reason ≠ "" := by
  unfold seaweedSignal at h
  split_ifs at h
  · injection h with _ h; rw [← h]; decide
  · injection h with _ h; rw [← h]; decide

end vocabulary

end VWorkspace
