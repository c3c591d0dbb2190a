import VWorkspaceOperator.Agent.Events
import VWorkspaceOperator.Instance.Storage

/-!
# The keys of events are unambiguous

The control plane tells repeated events by their keys, and the operator reads off a delivered
event what it has to acknowledge.  The keys are parts joined by slashes.  The parsers count the
parts and look at the first; an `apiVersion` may have a slash of its own, and a missing
namespace is spelled with an underscore.
-/

namespace VWorkspace

open Kit Agent

def Slashless (s : String) : Prop := '/' ∉ s.toList

instance (s : String) : Decidable (Slashless s) := by unfold Slashless; infer_instance

/-- What is used here of the values Kubernetes accepts: no slashes, no blanks around the
namespace and the UID, and no namespace of the name of an underscore.  The `apiVersion` is a
version, or a group and a version. -/
structure KubeRef (ref : AppliedRef) : Prop where
  apiVersion : Slashless ref.apiVersion ∨ ∃ group version, Slashless group ∧ Slashless version ∧
    ref.apiVersion = group ++ "/" ++ version
  kind : Slashless ref.kind
  ns : Slashless ref.ns
  nsTrimmed : trimSpace ref.ns = ref.ns
  nsNamed : ref.ns ≠ "_"
  name : Slashless ref.name
  uid : Slashless ref.uid
  uidTrimmed : trimSpace ref.uid = ref.uid
  uidNamed : ref.uid ≠ ""

section parts

variable {ref : AppliedRef} {c : Condition} {reportKey : String}

theorem splitOn_of_slashless {s : String} (h : Slashless s) : splitOn '/' s = [s] :=
  splitOn_of_notMem h

theorem slashless_text (st : ConditionStatus) : Slashless st.text := slash_notMem_text st

theorem keyPart_of_trimmed {s : String} (h : trimSpace s = s) :
    keyPart s = if s = "" then "_" else s := by
  rw [keyPart, h]

theorem slashless_keyPart {s : String} (hs : Slashless s) (h : trimSpace s = s) :
    Slashless (keyPart s) := by
  rw [keyPart_of_trimmed h]
  split
  · decide
  · exact hs

theorem eq_of_keyPart_eq {s s' : String} (h : trimSpace s = s) (h' : trimSpace s' = s')
    (hs : s ≠ "_") (hs' : s' ≠ "_") (heq : keyPart s = keyPart s') : s = s' := by
  rw [keyPart_of_trimmed h, keyPart_of_trimmed h'] at heq
  split_ifs at heq with hempty hempty'
  · rw [hempty, hempty']
  · exact absurd heq.symm hs'
  · exact absurd heq hs
  · exact heq

theorem splitOn_conditionEventKey (href : KubeRef ref) (hc : Slashless c.type) :
    splitOn '/' (conditionEventKey ref c) =
      "condition" :: splitOn '/' ref.apiVersion ++
        [ref.kind, keyPart ref.ns, ref.name, keyPart ref.uid, c.type,
          statusPart c ref.generation] := by
  have hkey : conditionEventKey ref c =
      "condition" ++ "/" ++ ref.apiVersion ++ "/" ++ ref.kind ++ "/" ++ keyPart ref.ns ++ "/" ++
        ref.name ++ "/" ++ keyPart ref.uid ++ "/" ++ c.type ++ "/" ++
          statusPart c ref.generation := by
    have hfirst : "condition/" = "condition" ++ "/" := by decide
    unfold conditionEventKey conditionKeyStem statusPart
    rw [hfirst]
    simp only [String.append_assoc]
  rw [hkey]
  simp only [splitOn_slash, splitOn_of_slashless href.kind, splitOn_of_slashless href.name,
    splitOn_of_slashless (slashless_keyPart href.ns href.nsTrimmed),
    splitOn_of_slashless (slashless_keyPart href.uid href.uidTrimmed), splitOn_of_slashless hc,
    splitOn_of_notMem (slash_notMem_statusPart c ref.generation),
    splitOn_of_slashless (s := "condition") (by decide)]
  simp

theorem parts_managedStorageEventKey (hns : Slashless ref.ns) (hname : Slashless ref.name)
    (hc : Slashless c.type) (hkey : Slashless reportKey) :
    splitOn '/' (managedStorageEventKey ref c reportKey) =
      ["managedStorage", ref.ns, ref.name, c.type, c.status.text, reportKey] := by
  rw [splitOn_managedStorageEventKey]
  refine flatMap_splitOn_of_unsplit fun p hp => splitOn_of_slashless ?_
  simp only [List.mem_cons, List.not_mem_nil, or_false] at hp
  rcases hp with rfl | rfl | rfl | rfl | rfl | rfl
  exacts [by decide, hns, hname, hc, slashless_text _, hkey]

theorem parts_endpointsEventKey (hns : Slashless ref.ns) (hname : Slashless ref.name)
    (hkey : Slashless reportKey) :
    splitOn '/' (endpointsEventKey ref reportKey) = ["endpoints", ref.ns, ref.name, reportKey] := by
  rw [splitOn_endpointsEventKey]
  refine flatMap_splitOn_of_unsplit fun p hp => splitOn_of_slashless ?_
  simp only [List.mem_cons, List.not_mem_nil, or_false] at hp
  rcases hp with rfl | rfl | rfl | rfl
  exacts [by decide, hns, hname, hkey]

theorem splitOn_auditKey {kind uid type : String} (hkind : Slashless kind) (huid : Slashless uid)
    (htype : Slashless type) :
    splitOn '/' (kind ++ "/" ++ uid ++ "/" ++ type) = [kind, uid, type] := by
  simp only [splitOn_slash, splitOn_of_slashless hkind, splitOn_of_slashless huid,
    splitOn_of_slashless htype]
  rfl

end parts

section reading

variable {pre key : String} {n : ℕ} {ref : AppliedRef} {c : Condition} {reportKey : String}

theorem reportKeyFromEventKey_of_length_ne (h : (splitOn '/' key).length ≠ n) :
    reportKeyFromEventKey pre n key = none := by
  rw [reportKeyFromEventKey, if_neg h, ite_self]

theorem managedStorageReportKey_self (hns : Slashless ref.ns) (hname : Slashless ref.name)
    (hc : Slashless c.type) (hkey : Slashless reportKey) :
    managedStorageReportKeyFromEventKey (managedStorageEventKey ref c reportKey) =
      some reportKey := by
  have hbegin :
      hasPrefix (managedStorageEventKey ref c reportKey) managedStorageEventKeyPrefix := by
    obtain ⟨t, ht⟩ := exists_managedStorageEventKey ref c reportKey
    rw [ht]
    exact hasPrefix_append_self _ _
  rw [managedStorageReportKeyFromEventKey, reportKeyFromEventKey, if_pos hbegin,
    parts_managedStorageEventKey hns hname hc hkey]
  rfl

theorem endpointsReportKey_self (hns : Slashless ref.ns) (hname : Slashless ref.name)
    (hkey : Slashless reportKey) :
    endpointsReportKeyFromEventKey (endpointsEventKey ref reportKey) = some reportKey := by
  have hbegin : hasPrefix (endpointsEventKey ref reportKey) endpointsEventKeyPrefix := by
    obtain ⟨t, ht⟩ := exists_endpointsEventKey ref reportKey
    rw [ht]
    exact hasPrefix_append_self _ _
  rw [endpointsReportKeyFromEventKey, reportKeyFromEventKey, if_pos hbegin,
    parts_endpointsEventKey hns hname hkey]
  rfl

theorem reportKeys_conditionEventKey :
    managedStorageReportKeyFromEventKey (conditionEventKey ref c) = none ∧
      endpointsReportKeyFromEventKey (conditionEventKey ref c) = none := by
  obtain ⟨t, ht⟩ := exists_conditionEventKey ref c
  rw [ht]
  exact ⟨reportKeyFromEventKey_append t (by decide) (by decide) (by decide),
    reportKeyFromEventKey_append t (by decide) (by decide) (by decide)⟩

theorem reportKeys_of_three {a b d : String} (ha : Slashless a) (hb : Slashless b)
    (hd : Slashless d) :
    managedStorageReportKeyFromEventKey (a ++ "/" ++ b ++ "/" ++ d) = none ∧
      endpointsReportKeyFromEventKey (a ++ "/" ++ b ++ "/" ++ d) = none := by
  have hlength : (splitOn '/' (a ++ "/" ++ b ++ "/" ++ d)).length = 3 := by
    rw [splitOn_auditKey ha hb hd]
    rfl
  exact ⟨reportKeyFromEventKey_of_length_ne (by omega),
    reportKeyFromEventKey_of_length_ne (by omega)⟩

theorem reportKeys_auditEvent {now : ℕ} {kind : String} {conditions : List Condition}
    (hkind : Slashless kind) (huid : Slashless ref.uid)
    (htypes : ∀ c ∈ conditions, Slashless c.type) :
    managedStorageReportKeyFromEventKey (auditEvent now ref kind conditions "").eventKey = none ∧
      endpointsReportKeyFromEventKey (auditEvent now ref kind conditions "").eventKey = none := by
  cases conditions with
  | nil => exact ⟨rfl, rfl⟩
  | cons c rest =>
    have hkey : (auditEvent now ref kind (c :: rest) "").eventKey =
        kind ++ "/" ++ ref.uid ++ "/" ++ c.type := by
      simp [auditEvent]
    rw [hkey]
    exact reportKeys_of_three hkind huid (htypes c (List.mem_cons_self ..))

theorem reportKeys_failedAuditKey {app : ManagedInstance} (huid : Slashless app.metadata.uid) :
    managedStorageReportKeyFromEventKey (InstanceController.failedAuditKey app) = none ∧
      endpointsReportKeyFromEventKey (InstanceController.failedAuditKey app) = none := by
  have hkey : InstanceController.failedAuditKey app =
      "ManagedStorageFailed" ++ "/" ++ app.metadata.uid ++ "/" ++ "Ready" := by
    have hfirst : "ManagedStorageFailed/" = "ManagedStorageFailed" ++ "/" := by decide
    have hlast : "/Ready" = "/" ++ "Ready" := by decide
    unfold InstanceController.failedAuditKey
    rw [hfirst, hlast]
    simp only [String.append_assoc]
  rw [hkey]
  exact reportKeys_of_three (by decide) huid (by decide)

end reading

section injective

variable {ref ref' : AppliedRef} {c c' : Condition} {reportKey reportKey' : String}

theorem apiVersion_of_splitOn (href : KubeRef ref) (href' : KubeRef ref')
    (h : splitOn '/' ref.apiVersion = splitOn '/' ref'.apiVersion) :
    ref.apiVersion = ref'.apiVersion := by
  rcases href.apiVersion with hone | ⟨group, version, hgroup, hversion, heq⟩ <;>
    rcases href'.apiVersion with hone' | ⟨group', version', hgroup', hversion', heq'⟩
  · rw [splitOn_of_slashless hone, splitOn_of_slashless hone', List.cons.injEq] at h
    exact h.1
  · rw [splitOn_of_slashless hone, heq', splitOn_slash, splitOn_of_slashless hgroup',
      splitOn_of_slashless hversion'] at h
    simp at h
  · rw [splitOn_of_slashless hone', heq, splitOn_slash, splitOn_of_slashless hgroup,
      splitOn_of_slashless hversion] at h
    simp at h
  · rw [heq, heq', splitOn_slash, splitOn_slash, splitOn_of_slashless hgroup,
      splitOn_of_slashless hversion, splitOn_of_slashless hgroup',
      splitOn_of_slashless hversion'] at h
    simp only [List.cons_append, List.nil_append, List.cons.injEq, and_true] at h
    rw [heq, heq', h.1, h.2]

theorem conditionEventKey_tells (href : KubeRef ref) (href' : KubeRef ref')
    (hc : Slashless c.type) (hc' : Slashless c'.type)
    (h : conditionEventKey ref c = conditionEventKey ref' c') :
    ref = ref' ∧ c.type = c'.type ∧ c.status = c'.status := by
  have hparts := congrArg (splitOn '/') h
  rw [splitOn_conditionEventKey href hc, splitOn_conditionEventKey href' hc', List.cons_append,
    List.cons_append, List.cons.injEq] at hparts
  obtain ⟨hversion, hrest⟩ :=
    List.append_inj' hparts.2 (by simp only [List.length_cons, List.length_nil])
  simp only [List.cons.injEq, and_true] at hrest
  obtain ⟨hkind, hns, hname, huid, htype, hstatus⟩ := hrest
  have hnamespace := eq_of_keyPart_eq href.nsTrimmed href'.nsTrimmed href.nsNamed href'.nsNamed hns
  have hidentity : ref.uid = ref'.uid := by
    rw [keyPart_of_trimmed href.uidTrimmed, if_neg href.uidNamed,
      keyPart_of_trimmed href'.uidTrimmed, if_neg href'.uidNamed] at huid
    exact huid
  obtain ⟨hstatus, hgeneration⟩ := statusPart_injective hstatus
  refine ⟨?_, htype, hstatus⟩
  cases ref
  cases ref'
  simp only [AppliedRef.mk.injEq]
  exact ⟨apiVersion_of_splitOn href href' hversion, hkind, hnamespace, hname, hidentity,
    hgeneration⟩

theorem managedStorageEventKey_tells (href : KubeRef ref) (href' : KubeRef ref')
    (hc : Slashless c.type) (hc' : Slashless c'.type) (hkey : Slashless reportKey)
    (hkey' : Slashless reportKey')
    (h : managedStorageEventKey ref c reportKey = managedStorageEventKey ref' c' reportKey') :
    ref.ns = ref'.ns ∧ ref.name = ref'.name ∧ reportKey = reportKey' := by
  have hparts := congrArg (splitOn '/') h
  rw [parts_managedStorageEventKey href.ns href.name hc hkey,
    parts_managedStorageEventKey href'.ns href'.name hc' hkey'] at hparts
  simp only [List.cons.injEq, and_true] at hparts
  exact ⟨hparts.2.1, hparts.2.2.1, hparts.2.2.2.2.2⟩

theorem endpointsEventKey_tells (href : KubeRef ref) (href' : KubeRef ref')
    (hkey : Slashless reportKey) (hkey' : Slashless reportKey')
    (h : endpointsEventKey ref reportKey = endpointsEventKey ref' reportKey') :
    ref.ns = ref'.ns ∧ ref.name = ref'.name ∧ reportKey = reportKey' := by
  have hparts := congrArg (splitOn '/') h
  rw [parts_endpointsEventKey href.ns href.name hkey,
    parts_endpointsEventKey href'.ns href'.name hkey'] at hparts
  simp only [List.cons.injEq, and_true, true_and] at hparts
  exact hparts

end injective

/-- The keys of the events about a resource that are not reports of managed storage or of
endpoints: transitions of conditions, and audit events of either kind of key. -/
inductive PlainKey (ref : AppliedRef) : String → Prop
  | condition {c : Condition} (htype : Slashless c.type) : PlainKey ref (conditionEventKey ref c)
  | audit {now : ℕ} {kind : String} {conditions : List Condition} (hkind : Slashless kind)
      (htypes : ∀ c ∈ conditions, Slashless c.type) :
      PlainKey ref (auditEvent now ref kind conditions "").eventKey
  | failed {app : ManagedInstance} (huid : app.metadata.uid = ref.uid) :
      PlainKey ref (InstanceController.failedAuditKey app)

theorem PlainKey.no_report {ref : AppliedRef} {key : String} (href : KubeRef ref)
    (h : PlainKey ref key) :
    managedStorageReportKeyFromEventKey key = none ∧ endpointsReportKeyFromEventKey key = none := by
  cases h with
  | condition => exact reportKeys_conditionEventKey
  | audit hkind htypes => exact reportKeys_auditEvent hkind href.uid htypes
  | failed huid => exact reportKeys_failedAuditKey (by rw [huid]; exact href.uid)

theorem event_keys_unambiguous {ref ref' : AppliedRef} {c c' : Condition}
    {reportKey reportKey' : String} (href : KubeRef ref) (href' : KubeRef ref')
    (hc : Slashless c.type) (hc' : Slashless c'.type) (hkey : Slashless reportKey)
    (hkey' : Slashless reportKey') :
    (managedStorageReportKeyFromEventKey (managedStorageEventKey ref c reportKey) =
        some reportKey ∧
      endpointsReportKeyFromEventKey (endpointsEventKey ref reportKey) = some reportKey) ∧
    ((∀ key, PlainKey ref key ∨ key = endpointsEventKey ref reportKey →
        managedStorageReportKeyFromEventKey key = none) ∧
      ∀ key, PlainKey ref key ∨ key = managedStorageEventKey ref c reportKey →
        endpointsReportKeyFromEventKey key = none) ∧
    (managedStorageEventKey ref c reportKey = managedStorageEventKey ref' c' reportKey' →
      ref.ns = ref'.ns ∧ ref.name = ref'.name ∧ reportKey = reportKey') ∧
    (endpointsEventKey ref reportKey = endpointsEventKey ref' reportKey' →
      ref.ns = ref'.ns ∧ ref.name = ref'.name ∧ reportKey = reportKey') ∧
    (conditionEventKey ref c = conditionEventKey ref' c' →
      ref = ref' ∧ c.type = c'.type ∧ c.status = c'.status) := by
  refine ⟨⟨managedStorageReportKey_self href.ns href.name hc hkey,
    endpointsReportKey_self href.ns href.name hkey⟩, ⟨?_, ?_⟩,
    managedStorageEventKey_tells href href' hc hc' hkey hkey',
    endpointsEventKey_tells href href' hkey hkey', conditionEventKey_tells href href' hc hc'⟩
  · rintro key (hplain | rfl)
    · exact (hplain.no_report href).1
    · exact managedStorageReportKey_endpoints
  · rintro key (hplain | rfl)
    · exact (hplain.no_report href).2
    · exact endpointsReportKey_managedStorage

theorem shop_event_keys :
    let shop : AppliedRef := ⟨"vworkspace.io/v1alpha1", "ApplicationInstance", "apps", "shop",
      "7f3a", 2⟩
    let node : AppliedRef := ⟨"v1", "Node", "", "worker", "91cc", 1⟩
    let ready : Condition := ⟨"Ready", .true, "Installed", "", 4⟩
    managedStorageReportKeyFromEventKey (managedStorageEventKey shop ready "k1") = some "k1" ∧
      (conditionEventKey shop ready = conditionEventKey node ready → shop = node) := by
  intro shop node ready
  have hshop : KubeRef shop :=
    ⟨Or.inr ⟨"vworkspace.io", "v1alpha1", by decide, by decide, by decide⟩, by decide, by decide,
      by decide, by decide, by decide, by decide, by decide, by decide⟩
  have hnode : KubeRef node :=
    ⟨Or.inl (by decide), by decide, by decide, by decide, by decide, by decide, by decide,
      by decide, by decide⟩
  have hkey : Slashless "k1" := by decide
  have htype : Slashless ready.type := by decide
  have h := event_keys_unambiguous hshop hnode htype htype hkey hkey
  exact ⟨h.1.1, fun heq => (h.2.2.2.2 heq).1⟩

end VWorkspace
