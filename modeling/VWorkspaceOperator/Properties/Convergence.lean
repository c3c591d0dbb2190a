import VWorkspaceOperator.Agent.Events
import VWorkspaceOperator.Kit.Run

/-!
# What the control plane knows of conditions

The control plane stores only the first event of a key, and the key of a transition says
nothing of its reason and its message, nor whether the condition had that status before in the
same generation.  A condition that comes back to a status it has had in a generation, or that
only changes its reason or its message, is reported under a key that has been seen, and the
control plane stays with what it knows.
-/

namespace VWorkspace.Agent

open Kit

structure ConditionUpdate where
  type : String
  status : ConditionStatus
  reason : String
  message : String
  deriving DecidableEq, Repr

/-- The conditions a status update sets, one after the other, in a generation of the resource. -/
structure StatusChange where
  now : ℕ
  generation : ℕ
  updates : List ConditionUpdate
  deriving DecidableEq, Repr

def applyChange (cs : List Condition) (ch : StatusChange) : List Condition :=
  ch.updates.foldl (fun cs u => setCondition ch.now u.type u.status u.reason u.message cs) cs

/-- A resource and what the control plane has stored of it. -/
structure ReportedResource where
  conditions : List Condition := []
  plane : StoredEvents := {}
  deriving DecidableEq, Repr

def changeEvents (ref : AppliedRef) (cs : List Condition) (ch : StatusChange) : List Event :=
  conditionTransitions ch.now { ref with generation := ch.generation } cs (applyChange cs ch)

/-- An update whose transitions are reported and delivered. -/
def reportChange (ref : AppliedRef) (s : ReportedResource) (ch : StatusChange) :
    ReportedResource where
  conditions := applyChange s.conditions ch
  plane := s.plane.handleEvents (changeEvents ref s.conditions ch)

/-- The last event the control plane has stored of each type has the values of the resource. -/
def Converged (s : ReportedResource) : Prop :=
  ∀ c ∈ s.conditions, replayed s.plane.events (fun _ => none) c.type = some c.values

instance (s : ReportedResource) : Decidable (Converged s) :=
  inferInstanceAs (Decidable (∀ c ∈ s.conditions, _ = _))

def changedBy (cs : List Condition) (ch : StatusChange) : List Condition :=
  changedConditions cs (applyChange cs ch)

/-- The update changes the condition of a type, to a status and in a generation. -/
def Turns (type : String) (status : ConditionStatus) (generation : ℕ) (cs : List Condition)
    (ch : StatusChange) : Prop :=
  ch.generation = generation ∧ ∃ c ∈ changedBy cs ch, c.type = type ∧ c.status = status

abbrev conditionsAfter (run : List StatusChange) : List Condition := exec applyChange [] run

abbrev reportedAfter (ref : AppliedRef) (run : List StatusChange) : ReportedResource :=
  exec (reportChange ref) {} run

section conditions

variable {cs : List Condition} {ch : StatusChange} {run : List StatusChange}

theorem distinct_applyChange (h : DistinctTypes cs) : DistinctTypes (applyChange cs ch) := by
  unfold applyChange
  generalize ch.updates = updates
  induction updates generalizing cs with
  | nil => exact h
  | cons u updates ih => exact ih (distinct_setCondition h)

theorem types_subset_applyChange :
    cs.map Condition.type ⊆ (applyChange cs ch).map Condition.type := by
  unfold applyChange
  generalize ch.updates = updates
  induction updates generalizing cs with
  | nil => exact List.Subset.refl _
  | cons u updates ih => exact List.Subset.trans types_subset_setCondition ih

theorem distinct_changedBy (h : DistinctTypes cs) : DistinctTypes (changedBy cs ch) :=
  distinct_changedConditions (distinct_applyChange h)

theorem distinct_conditionsAfter (run : List StatusChange) : DistinctTypes (conditionsAfter run) :=
  exec_of_along (I := DistinctTypes) (along_of_forall (p := fun _ _ => True) fun _ _ => trivial)
    (fun _ _ _ h => distinct_applyChange h) List.nodup_nil

theorem conditions_reportedAfter (ref : AppliedRef) (run : List StatusChange) :
    (reportedAfter ref run).conditions = conditionsAfter run := by
  induction run using List.reverseRecOn with
  | nil => rfl
  | append_singleton run ch ih =>
    rw [reportedAfter, conditionsAfter, exec_append, exec_append]
    exact congrArg (applyChange · ch) ih

theorem plane_reportedAfter_snoc (ref : AppliedRef) (run : List StatusChange) (ch : StatusChange) :
    (reportedAfter ref (run ++ [ch])).plane =
      (reportedAfter ref run).plane.handleEvents (changeEvents ref (conditionsAfter run) ch) := by
  rw [← conditions_reportedAfter ref run, reportedAfter, exec_append]
  rfl

theorem mem_types_of_turned {type : String} {status : ConditionStatus} {generation : ℕ}
    (h : Sometime applyChange (Turns type status generation) [] run) :
    type ∈ (conditionsAfter run).map Condition.type := by
  induction run using List.reverseRecOn with
  | nil => exact absurd h not_sometime_nil
  | append_singleton run ch ih =>
    rw [conditionsAfter, exec_append, exec_cons, exec_nil]
    rcases sometime_snoc.mp h with h | ⟨-, c, hc, rfl, -⟩
    · exact types_subset_applyChange (ih h)
    · exact List.mem_map_of_mem (List.mem_of_mem_filter hc)

end conditions

section keys

variable {ref : AppliedRef} {run : List StatusChange}

theorem trimSpace_conditionEventKey (ref : AppliedRef) (c : Condition) :
    trimSpace (conditionEventKey ref c) = conditionEventKey ref c := by
  have hdigits : ref.generation.repr.toList = Nat.toDigits 10 ref.generation := by
    rw [Nat.repr, String.toList_ofList]
  obtain ⟨b, hb⟩ : ∃ b, (Nat.toDigits 10 ref.generation).getLast? = some b :=
    ⟨_, List.getLast?_eq_some_getLast Nat.toDigits_ne_nil⟩
  have hlast : (conditionEventKey ref c).toList.getLast? = some b := by
    unfold conditionEventKey
    rw [String.toList_append, String.toList_append, List.getLast?_append, List.getLast?_append,
      hdigits, hb]
    rfl
  have hhead : (conditionEventKey ref c).toList.head? = some 'c' := by
    obtain ⟨t, ht⟩ := exists_conditionEventKey ref c
    rw [ht, String.toList_append]
    rfl
  have hdigit : b.isDigit = true :=
    Nat.isDigit_of_mem_toDigits (by decide) (by decide) (List.mem_of_getLast? hb)
  exact trimSpace_eq_self hhead (by decide) hlast (isSpace_of_isDigit hdigit)

theorem conditionEventKey_ne_empty (ref : AppliedRef) (c : Condition) :
    conditionEventKey ref c ≠ "" := by
  obtain ⟨t, ht⟩ := exists_conditionEventKey ref c
  intro h
  have hlist := congrArg String.toList (ht.symm.trans h)
  rw [String.toList_append] at hlist
  exact absurd hlist nofun

theorem handleEvents_spec {es : List Event} (cp : StoredEvents)
    (hkeys : ∀ e ∈ es, trimSpace e.eventKey = e.eventKey ∧ e.eventKey ≠ "")
    (hdistinct : (es.map Event.eventKey).Nodup) :
    (cp.handleEvents es).events = cp.events ++ es.filter (fun e => e.eventKey ∉ cp.eventKeys) ∧
      ∀ key, key ∈ (cp.handleEvents es).eventKeys ↔
        key ∈ cp.eventKeys ∨ key ∈ es.map Event.eventKey := by
  induction es generalizing cp with
  | nil => simp [StoredEvents.handleEvents]
  | cons e es ih =>
    rw [List.map_cons, List.nodup_cons] at hdistinct
    obtain ⟨htrim, hne⟩ := hkeys e List.mem_cons_self
    obtain ⟨hevents, hseen⟩ := ih (cp.receive e)
      (fun e' he' => hkeys e' (List.mem_cons_of_mem _ he')) hdistinct.2
    rw [StoredEvents.handleEvents_cons]
    by_cases hmem : e.eventKey ∈ cp.eventKeys
    · have hskip : cp.receive e = cp := by
        simp [StoredEvents.receive, htrim, hne, hmem]
      rw [hskip] at hevents hseen ⊢
      refine ⟨by rw [hevents, List.filter_cons_of_neg (by simpa using hmem)], ?_⟩
      intro key
      rw [hseen key, List.map_cons, List.mem_cons]
      constructor
      · rintro (h | h)
        · exact .inl h
        · exact .inr (.inr h)
      · rintro (h | rfl | h)
        · exact .inl h
        · exact .inl hmem
        · exact .inr h
    · have hstore : cp.receive e =
          { eventKeys := cp.eventKeys ++ [e.eventKey], events := cp.events ++ [e] } := by
        simp [StoredEvents.receive, htrim, hne, hmem]
      rw [hstore] at hevents hseen ⊢
      have hrest : es.filter (fun e' => e'.eventKey ∉ cp.eventKeys ++ [e.eventKey]) =
          es.filter fun e' => e'.eventKey ∉ cp.eventKeys := by
        apply List.filter_congr
        intro e' he'
        have hother : e'.eventKey ≠ e.eventKey := by
          intro heq
          exact hdistinct.1 (List.mem_map.mpr ⟨e', he', heq⟩)
        simp [hother]
      constructor
      · rw [hevents, hrest, List.filter_cons_of_pos (by simpa using hmem), List.append_assoc,
          List.singleton_append]
      · intro key
        rw [hseen key, List.map_cons, List.mem_cons, List.mem_append, List.mem_singleton, or_assoc]

theorem keys_changeEvents (ref : AppliedRef) (cs : List Condition) (ch : StatusChange) :
    (changeEvents ref cs ch).map Event.eventKey =
      (changedBy cs ch).map (conditionEventKey { ref with generation := ch.generation }) := by
  rw [changeEvents, conditionTransitions, List.map_map]
  rfl

theorem distinct_changeEvents (ref : AppliedRef) {cs : List Condition} (h : DistinctTypes cs)
    (ch : StatusChange) :
    (∀ e ∈ changeEvents ref cs ch, trimSpace e.eventKey = e.eventKey ∧ e.eventKey ≠ "") ∧
      ((changeEvents ref cs ch).map Event.eventKey).Nodup := by
  constructor
  · intro e he
    obtain ⟨c, -, rfl⟩ := List.mem_map.mp he
    exact ⟨trimSpace_conditionEventKey _ c, conditionEventKey_ne_empty _ c⟩
  · have htypes : DistinctTypes (changedBy cs ch) := distinct_changedBy h
    rw [keys_changeEvents]
    refine List.Nodup.map_on ?_ htypes.of_map
    intro c hc c' hc' hkey
    have htype := (conditionEventKey_inj.mp hkey).1
    exact List.inj_on_of_nodup_map htypes hc hc' htype

theorem mem_eventKeys_iff (ref : AppliedRef) (run : List StatusChange) (c : Condition)
    (generation : ℕ) :
    conditionEventKey { ref with generation } c ∈ (reportedAfter ref run).plane.eventKeys ↔
      Sometime applyChange (Turns c.type c.status generation) [] run := by
  induction run using List.reverseRecOn with
  | nil => exact iff_of_false List.not_mem_nil not_sometime_nil
  | append_singleton run ch ih =>
    obtain ⟨hkeys, hdistinct⟩ := distinct_changeEvents ref (distinct_conditionsAfter run) ch
    have hseen := (handleEvents_spec (reportedAfter ref run).plane hkeys hdistinct).2
      (conditionEventKey { ref with generation } c)
    rw [sometime_snoc, ← ih, plane_reportedAfter_snoc, hseen, keys_changeEvents, List.mem_map]
    apply or_congr_right
    constructor
    · rintro ⟨c', hc', hkey⟩
      obtain ⟨htype, hstatus, hgeneration⟩ := conditionEventKey_inj.mp hkey
      exact ⟨hgeneration, c', hc', htype, hstatus⟩
    · rintro ⟨hgeneration, c', hc', htype, hstatus⟩
      exact ⟨c', hc', conditionEventKey_inj.mpr ⟨htype, hstatus, hgeneration⟩⟩

end keys

section stored

variable {ref : AppliedRef} {run : List StatusChange} {ch : StatusChange}

/-- The changes of an update that the control plane stores: those it has not seen the key of. -/
def storedOf (ref : AppliedRef) (run : List StatusChange) (ch : StatusChange) :
    List Condition :=
  (changedBy (conditionsAfter run) ch).filter fun c =>
    conditionEventKey { ref with generation := ch.generation } c ∉
      (reportedAfter ref run).plane.eventKeys

theorem replayed_reportedAfter_snoc (type : String) :
    replayed (reportedAfter ref (run ++ [ch])).plane.events (fun _ => none) type =
      (conditionMap (storedOf ref run ch) type).or
        (replayed (reportedAfter ref run).plane.events (fun _ => none) type) := by
  obtain ⟨hkeys, hdistinct⟩ := distinct_changeEvents ref (distinct_conditionsAfter run) ch
  have hevents := (handleEvents_spec (reportedAfter ref run).plane hkeys hdistinct).1
  have hstored : DistinctTypes (storedOf ref run ch) :=
    (distinct_changedBy (distinct_conditionsAfter run)).sublist
      (List.filter_sublist.map Condition.type)
  rw [plane_reportedAfter_snoc, hevents, replayed_append, ← foldl_upsert hstored, changeEvents, conditionTransitions,
    List.filter_map, replayed, List.foldl_map]
  rfl

end stored

theorem converged_iff_turns_new (ref : AppliedRef) (run : List StatusChange) :
    (∀ pre post, run = pre ++ post → Converged (reportedAfter ref pre)) ↔
      ∀ pre ch post, run = pre ++ ch :: post → ∀ c ∈ changedBy (conditionsAfter pre) ch,
        ¬Sometime applyChange (Turns c.type c.status ch.generation) [] pre := by
  constructor
  · rintro h pre ch post rfl c hc hturned
    have hprev := distinct_conditionsAfter pre
    obtain ⟨hnext, hchanged⟩ := (mem_changedConditions hprev).mp hc
    obtain ⟨c₀, hc₀, htype⟩ := List.mem_map.mp (mem_types_of_turned hturned)
    have hbefore := h pre (ch :: post) rfl c₀ (conditions_reportedAfter ref pre ▸ hc₀)
    have hafter := h (pre ++ [ch]) post (by simp) c (by
      rw [conditions_reportedAfter, conditionsAfter, exec_append]
      exact hnext)
    have hskipped : conditionMap (storedOf ref pre ch) c.type = none := by
      rw [conditionMap_eq_none_iff, List.mem_map]
      rintro ⟨c', hc', htype'⟩
      obtain ⟨hmem, hnew⟩ := List.mem_filter.mp hc'
      obtain rfl : c' = c := List.inj_on_of_nodup_map (distinct_changedBy hprev) hmem hc htype'
      have hseen := (mem_eventKeys_iff ref pre c' ch.generation).mpr hturned
      exact absurd hseen (by simpa using hnew)
    rw [replayed_reportedAfter_snoc, hskipped, Option.none_or, ← htype, hbefore,
      Option.some.injEq] at hafter
    rw [← htype, conditionMap_of_mem hprev hc₀, hafter] at hchanged
    exact hchanged rfl
  · intro h pre
    induction pre using List.reverseRecOn with
    | nil => exact fun _ _ c hc => absurd hc List.not_mem_nil
    | append_singleton pre ch ih =>
      rintro post rfl c hc
      have hprev := distinct_conditionsAfter pre
      have hnext : DistinctTypes (applyChange (conditionsAfter pre) ch) :=
        distinct_applyChange hprev
      have hc' : c ∈ applyChange (conditionsAfter pre) ch := by
        rwa [conditions_reportedAfter, conditionsAfter, exec_append] at hc
      have hall : storedOf ref pre ch = changedBy (conditionsAfter pre) ch := by
        refine List.filter_eq_self.mpr fun c' hmem => ?_
        have hnew := h pre ch post (by simp) c' hmem
        rw [← mem_eventKeys_iff ref] at hnew
        simpa using hnew
      rw [replayed_reportedAfter_snoc, hall]
      by_cases hsame : conditionMap (conditionsAfter pre) c.type = some c.values
      · have hunchanged : conditionMap (changedBy (conditionsAfter pre) ch) c.type = none := by
          rw [conditionMap_eq_none_iff, List.mem_map]
          rintro ⟨c₁, hc₁, htype⟩
          obtain ⟨hmem, hne⟩ := (mem_changedConditions hprev).mp hc₁
          obtain rfl : c₁ = c := List.inj_on_of_nodup_map hnext hmem hc' htype
          exact hne hsame
        obtain ⟨c₀, hc₀, htype⟩ := List.mem_map.mp (not_not.mp fun hmem =>
          absurd (conditionMap_eq_none_iff.mpr hmem) (by rw [hsame]; simp))
        have hknown := ih (ch :: post) (by simp) c₀ (conditions_reportedAfter ref pre ▸ hc₀)
        rw [← htype, conditionMap_of_mem hprev hc₀] at hsame
        rw [hunchanged, Option.none_or, ← htype, hknown, hsame]
      · have hmem : c ∈ changedBy (conditionsAfter pre) ch :=
          (mem_changedConditions hprev).mpr ⟨hc', hsame⟩
        rw [conditionMap_of_mem (distinct_changedBy hprev) hmem, Option.some_or]

def someInstance : AppliedRef where
  apiVersion := "apps.vworkspace.io/v1alpha1"
  kind := "ApplicationInstance"
  ns := "team-a"
  name := "app"
  uid := "uid-1"

/-- The instance is ready, fails, and is ready again, all in one generation. -/
def oscillation : List StatusChange :=
  [⟨1, 1, [⟨"Ready", .true, "HelmReleaseReady", "ok"⟩]⟩,
    ⟨2, 1, [⟨"Ready", .false, "HelmReleaseFailed", "timeout"⟩]⟩,
    ⟨3, 1, [⟨"Ready", .true, "HelmReleaseReady", "ok"⟩]⟩]

theorem oscillation_not_converged : ¬Converged (reportedAfter someInstance oscillation) := by
  decide +kernel

end VWorkspace.Agent
