import VWorkspaceOperator.Agent.Api
import VWorkspaceOperator.Api

/-!
# Status events

What the operator tells the control plane about the objects it keeps: the transitions of
their conditions and, for native SeaweedFS workloads, the endpoints and the credentials of
their storage.  Every event has a key, which the control plane tells repeated events by; the
keys of the two supplemental kinds also carry what the operator needs to acknowledge their
delivery.
-/

namespace VWorkspace

open Kit

def ConditionStatus.text : ConditionStatus → String
  | .true => "True"
  | .false => "False"
  | .unknown => "Unknown"

def Condition.values (c : Condition) : ConditionStatus × String × String :=
  (c.status, c.reason, c.message)

namespace Agent

structure EndpointPayload where
  name : String
  url : String
  deriving DecidableEq, Repr

structure ManagedStoragePayload where
  accessKeyID : String
  secretAccessKey : String
  bucketName : String
  deriving DecidableEq, Repr

structure Event where
  eventKey : String := ""
  kind : String
  resourceRef : AppliedRef
  conditions : List Condition := []
  endpoints : List EndpointPayload := []
  managedStorage : Option ManagedStoragePayload := none
  timestamp : Option ℕ := none
  deriving DecidableEq, Repr

def resourceRefFromMeta (groupVersion kind : String) (m : ObjectMeta) (generation : ℕ) :
    AppliedRef where
  apiVersion := groupVersion
  kind := kind
  ns := m.ns
  name := m.name
  uid := m.uid
  generation := generation

def conditionTransitionEvent (now : ℕ) (ref : AppliedRef) (conditions : List Condition) : Event where
  kind := "ConditionTransition"
  resourceRef := ref
  conditions := conditions
  timestamp := some now

def keyPart (s : String) : String := if trimSpace s = "" then "_" else trimSpace s

def conditionKeyStem (ref : AppliedRef) : String :=
  "condition/" ++ ref.apiVersion ++ "/" ++ ref.kind ++ "/" ++ keyPart ref.ns ++ "/" ++ ref.name ++
    "/" ++ keyPart ref.uid ++ "/"

/-- `ConditionEventKey`: neither the reason nor the message is part of it. -/
def conditionEventKey (ref : AppliedRef) (c : Condition) : String :=
  conditionKeyStem ref ++ (c.type ++ "/" ++ c.status.text ++ "@" ++ ref.generation.repr)

def managedStorageEventKeyPrefix : String := "managedStorage/"

def endpointsEventKeyPrefix : String := "endpoints/"

def managedStorageEventKey (ref : AppliedRef) (ready : Condition) (reportKey : String) : String :=
  managedStorageEventKeyPrefix ++ ref.ns ++ "/" ++ ref.name ++ "/" ++ ready.type ++ "/" ++
    ready.status.text ++ "/" ++ reportKey

/-- The last part of a key that has a given beginning and number of parts. -/
def reportKeyFromEventKey (pre : String) (parts : ℕ) (eventKey : String) : Option String :=
  if hasPrefix eventKey pre then
    if (splitOn '/' eventKey).length = parts then (splitOn '/' eventKey)[parts - 1]? else none
  else none

def managedStorageReportKeyFromEventKey (eventKey : String) : Option String :=
  reportKeyFromEventKey managedStorageEventKeyPrefix 6 eventKey

def endpointsEventKey (ref : AppliedRef) (reportKey : String) : String :=
  endpointsEventKeyPrefix ++ ref.ns ++ "/" ++ ref.name ++ "/" ++ reportKey

def endpointsReportKeyFromEventKey (eventKey : String) : Option String :=
  reportKeyFromEventKey endpointsEventKeyPrefix 4 eventKey

/-- The condition under a type in the map that `changedConditions` makes of the conditions
before: the last one of that type. -/
def prevByType (prev : List Condition) (type : String) : Option Condition :=
  prev.reverse.find? fun c => c.type = type

def changedConditions (prev next : List Condition) : List Condition :=
  next.filter fun c => (prevByType prev c.type).map Condition.values ≠ some c.values

def transitionEvent (now : ℕ) (ref : AppliedRef) (c : Condition) : Event :=
  { conditionTransitionEvent now ref [c] with eventKey := conditionEventKey ref c }

/-- The events that `ReportConditionTransitions` enqueues. -/
def conditionTransitions (now : ℕ) (ref : AppliedRef) (prev next : List Condition) : List Event :=
  (changedConditions prev next).map (transitionEvent now ref)

def seaweedEndpointsEvent (now : ℕ) (ref : AppliedRef) (ready : Condition)
    (endpoints : List EndpointPayload) (reportKey : String) : Event :=
  { conditionTransitionEvent now ref [ready] with
    eventKey := endpointsEventKey ref reportKey
    endpoints }

def managedStorageReadyEvent (now : ℕ) (ref : AppliedRef) (ready : Condition)
    (endpoints : List EndpointPayload) (managedStorage : ManagedStoragePayload)
    (reportKey : String) : Event :=
  { conditionTransitionEvent now ref [ready] with
    eventKey := managedStorageEventKey ref ready reportKey
    endpoints
    managedStorage := some managedStorage }

def auditEvent (now : ℕ) (ref : AppliedRef) (kind : String) (conditions : List Condition)
    (eventKey : String) : Event where
  kind := kind
  resourceRef := ref
  conditions := conditions
  timestamp := some now
  eventKey :=
    if eventKey ≠ "" then eventKey
    else
      match conditions with
      | [] => ""
      | c :: _ => kind ++ "/" ++ ref.uid ++ "/" ++ c.type

theorem splitOn_slash (s t : String) :
    splitOn '/' (s ++ "/" ++ t) = splitOn '/' s ++ splitOn '/' t := splitOn_append s t

def Unsplit (s : String) : Prop := splitOn '/' s = [s]

theorem flatMap_splitOn_of_unsplit {parts : List String} (h : ∀ p ∈ parts, Unsplit p) :
    parts.flatMap (splitOn '/') = parts := by
  induction parts with
  | nil => rfl
  | cons p parts ih =>
    rw [List.flatMap_cons, h p List.mem_cons_self, ih fun q hq => h q (List.mem_cons_of_mem _ hq),
      List.singleton_append]

theorem length_le_flatMap_splitOn (parts : List String) :
    parts.length ≤ (parts.flatMap (splitOn '/')).length := by
  induction parts with
  | nil => exact Nat.le_refl 0
  | cons p parts ih =>
    have hp : 0 < (splitOn '/' p).length := List.length_pos_iff.mpr (splitOn_ne_nil p)
    rw [List.flatMap_cons, List.length_append, List.length_cons]
    omega

theorem unsplit_of_length {parts : List String}
    (h : (parts.flatMap (splitOn '/')).length = parts.length) : ∀ p ∈ parts, Unsplit p := by
  induction parts with
  | nil => exact fun _ hp => absurd hp List.not_mem_nil
  | cons p parts ih =>
    have hp : 0 < (splitOn '/' p).length := List.length_pos_iff.mpr (splitOn_ne_nil p)
    have hrest := length_le_flatMap_splitOn parts
    rw [List.flatMap_cons, List.length_append, List.length_cons] at h
    intro q hq
    rcases List.mem_cons.mp hq with rfl | hq
    · obtain ⟨part, hpart⟩ := List.length_eq_one_iff.mp (by omega : (splitOn '/' q).length = 1)
      rw [Unsplit, hpart, eq_of_splitOn_eq_singleton hpart]
    · exact ih (by omega) q hq

theorem eq_of_join_eq {ns name ns' name' : String} (hns : Unsplit ns) (hname : Unsplit name)
    (h : ns ++ "/" ++ name = ns' ++ "/" ++ name') : ns' = ns ∧ name' = name := by
  have hsplit : [ns', name'].flatMap (splitOn '/') = [ns, name] := by
    rw [List.flatMap_cons, List.flatMap_singleton, ← splitOn_slash, ← h, splitOn_slash, hns, hname,
      List.singleton_append]
  have hunsplit : ∀ p ∈ [ns', name'], Unsplit p := unsplit_of_length (by rw [hsplit]; rfl)
  rw [flatMap_splitOn_of_unsplit hunsplit] at hsplit
  simpa using hsplit

section keys

variable {ref : AppliedRef} {ready c : Condition} {pre key reportKey reportKey' : String} {n : ℕ}

theorem of_reportKeyFromEventKey (h : reportKeyFromEventKey pre n key = some reportKey) :
    (splitOn '/' key).length = n ∧ (splitOn '/' key)[n - 1]? = some reportKey := by
  unfold reportKeyFromEventKey at h
  split at h
  · split at h
    · next hlength => exact ⟨hlength, h⟩
    · exact absurd h (by simp)
  · exact absurd h (by simp)

theorem splitOn_managedStorageEventKey : splitOn '/' (managedStorageEventKey ref ready reportKey) =
    ["managedStorage", ref.ns, ref.name, ready.type, ready.status.text, reportKey].flatMap
      (splitOn '/') := by
  have hfirst : splitOn '/' (managedStorageEventKeyPrefix ++ ref.ns) =
      splitOn '/' "managedStorage" ++ splitOn '/' ref.ns := splitOn_slash "managedStorage" ref.ns
  simp only [managedStorageEventKey, splitOn_slash, hfirst, List.flatMap_cons, List.flatMap_nil,
    List.append_assoc, List.append_nil]

theorem splitOn_endpointsEventKey : splitOn '/' (endpointsEventKey ref reportKey) =
    ["endpoints", ref.ns, ref.name, reportKey].flatMap (splitOn '/') := by
  have hfirst : splitOn '/' (endpointsEventKeyPrefix ++ ref.ns) =
      splitOn '/' "endpoints" ++ splitOn '/' ref.ns := splitOn_slash "endpoints" ref.ns
  simp only [endpointsEventKey, splitOn_slash, hfirst, List.flatMap_cons, List.flatMap_nil,
    List.append_assoc, List.append_nil]

theorem of_reportKey {parts : List String} (h : reportKeyFromEventKey pre n key = some reportKey)
    (hkey : splitOn '/' key = parts.flatMap (splitOn '/')) (hn : n = parts.length) :
    parts[n - 1]? = some reportKey ∧ ∀ p ∈ parts, Unsplit p := by
  obtain ⟨hlength, hlast⟩ := of_reportKeyFromEventKey h
  rw [hkey] at hlength hlast
  have hunsplit := unsplit_of_length (hlength.trans hn)
  rw [flatMap_splitOn_of_unsplit hunsplit] at hlast
  exact ⟨hlast, hunsplit⟩

theorem of_managedStorageReportKey
    (h : managedStorageReportKeyFromEventKey (managedStorageEventKey ref ready reportKey) =
      some reportKey') : reportKey' = reportKey ∧ Unsplit ref.ns ∧ Unsplit ref.name := by
  obtain ⟨hlast, hunsplit⟩ := of_reportKey h splitOn_managedStorageEventKey rfl
  exact ⟨(Option.some.inj hlast).symm, hunsplit _ (by simp), hunsplit _ (by simp)⟩

theorem of_endpointsReportKey
    (h : endpointsReportKeyFromEventKey (endpointsEventKey ref reportKey) = some reportKey') :
    reportKey' = reportKey ∧ Unsplit ref.ns ∧ Unsplit ref.name := by
  obtain ⟨hlast, hunsplit⟩ := of_reportKey h splitOn_endpointsEventKey rfl
  exact ⟨(Option.some.inj hlast).symm, hunsplit _ (by simp), hunsplit _ (by simp)⟩

theorem reportKeyFromEventKey_append {s : String} (t : String) (hs : s.toList ≠ [])
    (hpre : pre.toList ≠ []) (hne : s.toList.head? ≠ pre.toList.head?) :
    reportKeyFromEventKey pre n (s ++ t) = none := by
  rw [reportKeyFromEventKey, hasPrefix_append_eq_false t hs hpre hne]
  rfl

theorem exists_conditionEventKey (ref : AppliedRef) (c : Condition) :
    ∃ t, conditionEventKey ref c = "condition/" ++ t := by
  unfold conditionEventKey conditionKeyStem
  simp only [String.append_assoc]
  exact ⟨_, rfl⟩

theorem exists_managedStorageEventKey (ref : AppliedRef) (ready : Condition) (reportKey : String) :
    ∃ t, managedStorageEventKey ref ready reportKey = managedStorageEventKeyPrefix ++ t := by
  unfold managedStorageEventKey
  simp only [String.append_assoc]
  exact ⟨_, rfl⟩

theorem exists_endpointsEventKey (ref : AppliedRef) (reportKey : String) :
    ∃ t, endpointsEventKey ref reportKey = endpointsEventKeyPrefix ++ t := by
  unfold endpointsEventKey
  simp only [String.append_assoc]
  exact ⟨_, rfl⟩

theorem managedStorageReportKey_endpoints :
    managedStorageReportKeyFromEventKey (endpointsEventKey ref reportKey) = none := by
  obtain ⟨t, ht⟩ := exists_endpointsEventKey ref reportKey
  rw [ht, managedStorageReportKeyFromEventKey]
  exact reportKeyFromEventKey_append t (by decide) (by decide) (by decide)

theorem endpointsReportKey_managedStorage :
    endpointsReportKeyFromEventKey (managedStorageEventKey ref ready reportKey) = none := by
  obtain ⟨t, ht⟩ := exists_managedStorageEventKey ref ready reportKey
  rw [ht, endpointsReportKeyFromEventKey]
  exact reportKeyFromEventKey_append t (by decide) (by decide) (by decide)

end keys

theorem slash_notMem_text (st : ConditionStatus) : '/' ∉ st.text.toList := by
  cases st <;> decide

theorem text_injective {st st' : ConditionStatus} (h : st.text = st'.text) : st = st' := by
  cases st <;> cases st' <;> first | rfl | exact absurd h (by decide)

def statusPart (c : Condition) (generation : ℕ) : String :=
  c.status.text ++ "@" ++ generation.repr

theorem notMem_repr {ch : Char} (h : ch.isDigit = false) (k : ℕ) : ch ∉ k.repr.toList := by
  intro hk
  rw [Nat.repr, String.toList_ofList] at hk
  exact absurd (Nat.isDigit_of_mem_toDigits (by decide) (by decide) hk) (by simp [h])

theorem slash_notMem_statusPart (c : Condition) (g : ℕ) : '/' ∉ (statusPart c g).toList := by
  rw [statusPart, String.toList_append, String.toList_append, List.mem_append, List.mem_append]
  rintro ((h | h) | h)
  · exact slash_notMem_text _ h
  · exact absurd h (by decide)
  · exact notMem_repr (by decide) g h

theorem statusPart_injective {c c' : Condition} {g g' : ℕ} (h : statusPart c g = statusPart c' g') :
    c.status = c'.status ∧ g = g' := by
  have hlist := congrArg String.toList h
  have hat : ∀ (l : List Char) (k : ℕ), l ++ "@".toList ++ k.repr.toList =
      l ++ '@' :: k.repr.toList := fun l k => by rw [List.append_assoc]; rfl
  simp only [statusPart, String.toList_append] at hlist
  rw [hat, hat] at hlist
  obtain ⟨hstatus, hgeneration⟩ := append_cons_inj_of_notMem_right (notMem_repr (by decide) g)
    (notMem_repr (by decide) g') hlist
  rw [Nat.repr, Nat.repr, String.toList_ofList, String.toList_ofList] at hgeneration
  have hvalue := congrArg (Nat.ofDigitChars 10 · 0) hgeneration
  simp only [Nat.ofDigitChars_toDigits (b := 10) (by decide) (by decide)] at hvalue
  exact ⟨text_injective (String.toList_inj.mp hstatus), hvalue⟩

theorem conditionEventKey_inj {ref : AppliedRef} {g g' : ℕ} {c c' : Condition} :
    conditionEventKey { ref with generation := g } c =
        conditionEventKey { ref with generation := g' } c' ↔
      c.type = c'.type ∧ c.status = c'.status ∧ g = g' := by
  have hkey : ∀ k c, conditionEventKey { ref with generation := k } c =
      conditionKeyStem ref ++ (c.type ++ "/" ++ statusPart c k) := by
    intro k c
    unfold conditionEventKey conditionKeyStem statusPart
    simp only [String.append_assoc]
  constructor
  · intro h
    rw [hkey, hkey, String.append_right_inj] at h
    have hlist := congrArg String.toList h
    have hslash : ∀ l l' : List Char, l ++ "/".toList ++ l' = l ++ '/' :: l' :=
      fun l l' => by rw [List.append_assoc]; rfl
    simp only [String.toList_append, hslash] at hlist
    obtain ⟨htype, hstatus⟩ := append_cons_inj_of_notMem_right (slash_notMem_statusPart _ _)
      (slash_notMem_statusPart _ _) hlist
    exact ⟨String.toList_inj.mp htype, statusPart_injective (String.toList_inj.mp hstatus)⟩
  · rintro ⟨htype, hstatus, rfl⟩
    rw [hkey, hkey, htype, statusPart, statusPart, hstatus]

/-- A map from condition types to status, reason and message. -/
abbrev ConditionMap := String → Option (ConditionStatus × String × String)

def conditionMap (cs : List Condition) : ConditionMap := fun type =>
  (cs.find? fun c => c.type = type).map Condition.values

def upsert (m : ConditionMap) (c : Condition) : ConditionMap := fun type =>
  if c.type = type then some c.values else m type

/-- The map after the conditions of some events: the last event of a type counts. -/
def replayed (events : List Event) (m : ConditionMap) : ConditionMap :=
  events.foldl (fun m e => e.conditions.foldl upsert m) m

def DistinctTypes (cs : List Condition) : Prop := (cs.map Condition.type).Nodup

section replay

variable {prev next cs : List Condition} {c : Condition} {m : ConditionMap} {type : String}

theorem replayed_append (es es' : List Event) :
    replayed (es ++ es') m = replayed es' (replayed es m) := List.foldl_append

theorem distinct_setCondition {now : ℕ} {status : ConditionStatus} {reason message : String}
    (h : DistinctTypes cs) : DistinctTypes (setCondition now type status reason message cs) := by
  rw [DistinctTypes, types_setCondition]
  split
  · exact h
  · next hmem =>
    rw [List.nodup_append]
    refine ⟨h, List.nodup_singleton _, ?_⟩
    intro t ht t' ht' heq
    rw [List.mem_singleton] at ht'
    exact hmem (ht' ▸ heq ▸ ht)

theorem types_subset_setCondition {now : ℕ} {status : ConditionStatus} {reason message : String} :
    cs.map Condition.type ⊆
      (setCondition now type status reason message cs).map Condition.type := by
  rw [types_setCondition]
  split
  · exact List.Subset.refl _
  · exact List.subset_append_left _ _

theorem conditionMap_of_mem (h : DistinctTypes cs) (hc : c ∈ cs) :
    conditionMap cs c.type = some c.values := by
  have hfound : (cs.find? fun c' => c'.type = c.type) = some c := by
    induction cs with
    | nil => exact absurd hc (List.not_mem_nil)
    | cons c' cs ih =>
      rw [DistinctTypes, List.map_cons, List.nodup_cons] at h
      rcases List.mem_cons.mp hc with rfl | hrest
      · simp
      · have hne : c'.type ≠ c.type := by
          intro heq
          exact h.1 (heq ▸ List.mem_map_of_mem hrest)
        rw [List.find?_cons_of_neg (by simpa using hne)]
        exact ih h.2 hrest
  rw [conditionMap, hfound, Option.map_some]

theorem conditionMap_eq_none_iff : conditionMap cs type = none ↔ type ∉ cs.map Condition.type := by
  simp [conditionMap, List.find?_eq_none]

theorem prevByType_eq (h : DistinctTypes prev) :
    (prevByType prev type).map Condition.values = conditionMap prev type := by
  have hreverse : DistinctTypes prev.reverse := by
    rw [DistinctTypes, List.map_reverse, List.nodup_reverse]
    exact h
  cases hfound : prevByType prev type with
  | none =>
    symm
    rw [Option.map_none, conditionMap_eq_none_iff, List.mem_map]
    rintro ⟨c, hc, htype⟩
    exact absurd (List.find?_eq_none.mp hfound c (List.mem_reverse.mpr hc)) (by simpa using htype)
  | some c =>
    obtain rfl : c.type = type := by simpa using List.find?_some hfound
    have hc : c ∈ prev := List.mem_reverse.mp (List.mem_of_find?_eq_some hfound)
    rw [conditionMap_of_mem h hc, Option.map_some]

theorem mem_changedConditions (h : DistinctTypes prev) :
    c ∈ changedConditions prev next ↔ c ∈ next ∧ conditionMap prev c.type ≠ some c.values := by
  simp [changedConditions, prevByType_eq h]

theorem foldl_upsert (h : DistinctTypes cs) :
    cs.foldl upsert m type = (conditionMap cs type).or (m type) := by
  induction cs generalizing m with
  | nil => rfl
  | cons c cs ih =>
    rw [DistinctTypes, List.map_cons, List.nodup_cons] at h
    rw [List.foldl_cons, ih h.2]
    by_cases htype : c.type = type
    · have hnone : conditionMap cs type = none :=
        conditionMap_eq_none_iff.mpr fun hmem => h.1 (htype ▸ hmem)
      have hhead : conditionMap (c :: cs) type = some c.values := by simp [conditionMap, htype]
      rw [hnone, hhead, Option.none_or, Option.some_or, upsert, if_pos htype]
    · have hhead : conditionMap (c :: cs) type = conditionMap cs type := by
        simp [conditionMap, htype]
      rw [hhead, upsert, if_neg htype]

theorem replayed_conditionTransitions (now : ℕ) (ref : AppliedRef) (prev next : List Condition) :
    replayed (conditionTransitions now ref prev next) m =
      (changedConditions prev next).foldl upsert m := by
  rw [replayed, conditionTransitions, List.foldl_map]
  rfl

theorem distinct_changedConditions (h : DistinctTypes next) :
    DistinctTypes (changedConditions prev next) :=
  h.sublist (List.filter_sublist.map Condition.type)

theorem replayed_transitions (now : ℕ) (ref : AppliedRef) (hprev : DistinctTypes prev)
    (hnext : DistinctTypes next) (hgrow : prev.map Condition.type ⊆ next.map Condition.type) :
    replayed (conditionTransitions now ref prev next) (conditionMap prev) = conditionMap next := by
  funext type
  rw [replayed_conditionTransitions, foldl_upsert (distinct_changedConditions hnext)]
  cases hnew : conditionMap next type with
  | none =>
    have hmissing := conditionMap_eq_none_iff.mp hnew
    have hold : conditionMap prev type = none :=
      conditionMap_eq_none_iff.mpr fun hmem => hmissing (hgrow hmem)
    have hunchanged : conditionMap (changedConditions prev next) type = none :=
      conditionMap_eq_none_iff.mpr fun hmem =>
        hmissing ((List.filter_sublist.map Condition.type).subset hmem)
    rw [hold, hunchanged]
    rfl
  | some values =>
    obtain ⟨c, hc, rfl⟩ := List.mem_map.mp (not_not.mp fun hmem =>
      absurd (conditionMap_eq_none_iff.mpr hmem) (by rw [hnew]; simp))
    rw [conditionMap_of_mem hnext hc] at hnew
    by_cases hsame : conditionMap prev c.type = some c.values
    · have hunchanged : conditionMap (changedConditions prev next) c.type = none := by
        rw [conditionMap_eq_none_iff, List.mem_map]
        rintro ⟨c', hc', htype⟩
        obtain ⟨hmem, hne⟩ := (mem_changedConditions hprev).mp hc'
        have heq := conditionMap_of_mem hnext hmem
        rw [htype, conditionMap_of_mem hnext hc] at heq
        rw [htype, hsame, heq] at hne
        exact hne rfl
      rw [hunchanged, Option.none_or, hsame, hnew]
    · have hchanged : c ∈ changedConditions prev next :=
        (mem_changedConditions hprev).mpr ⟨hc, hsame⟩
      rw [conditionMap_of_mem (distinct_changedConditions hnext) hchanged, Option.some_or, hnew]

end replay

/-- What the control plane keeps of the events of a cluster. -/
structure StoredEvents where
  eventKeys : List String := []
  events : List Event := []
  deriving DecidableEq, Repr

/-- `handleEvents`, for one event: an event whose key has been seen is skipped. -/
def StoredEvents.receive (cp : StoredEvents) (e : Event) : StoredEvents :=
  let key := trimSpace e.eventKey
  if key = "" then { cp with events := cp.events ++ [e] }
  else if key ∈ cp.eventKeys then cp
  else { eventKeys := cp.eventKeys ++ [key], events := cp.events ++ [e] }

def StoredEvents.handleEvents (cp : StoredEvents) (events : List Event) : StoredEvents :=
  events.foldl receive cp

theorem StoredEvents.handleEvents_cons (cp : StoredEvents) (e : Event) (es : List Event) :
    cp.handleEvents (e :: es) = (cp.receive e).handleEvents es := by
  rw [handleEvents, List.foldl_cons, handleEvents]

end Agent
end VWorkspace
