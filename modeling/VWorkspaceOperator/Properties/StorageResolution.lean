import Mathlib.Data.Set.Finite.Lemmas
import Mathlib.Data.Set.Finite.List
import Mathlib.Data.String.Basic
import VWorkspaceOperator.Controller.Validation
import VWorkspaceOperator.Instance.Seaweed

/-!
# Which credentials a native workload gets

`ResolveManagedStorageState` lists the `S3Credentials` of a namespace, keeps those of the release
in the order of their names, and walks over the ready ones until one has usable keys.  On the
way it remembers whether a Secret was missing.

Here its answer is specified without lists and orders, and the walk is shown to meet the
specification.  The specification has one answer, so the order in which the API server lists
the objects is of no consequence.
-/

namespace VWorkspace

open Kit InstanceM Prog

section specification

def secretNameOf (item : Unstructured) : String :=
  credentialField ["status", "secretName"] (nestedString ["spec", "secretRef", "name"] item.body)
    item

/-- The access key: that of the status, or that of the Secret under the field that is named. -/
def accessKeyOf (item : Unstructured) (secret : DataObject) : String :=
  credentialField ["status", "accessKey"] (textOf ((secret.data.lookup
    (credentialField ["spec", "secretRef", "accessKeyField"] "accessKey" item)).getD [])) item

/-- The secret key: that of the Secret under the field that is named. -/
def secretKeyOf (item : Unstructured) (secret : DataObject) : String :=
  textOf ((secret.data.lookup
    (credentialField ["spec", "secretRef", "secretKeyField"] "secretKey" item)).getD [])

variable (c : InstanceCluster) (ns releaseName : String)

structure RefersTo (item : Unstructured) : Prop where
  mem : item ∈ c.s3Credentials.items
  ns : item.metadata.ns = ns
  ref : nestedString ["spec", "seaweedRef", "name"] item.body = releaseName

def HoldsKeys (item : Unstructured) (access key : String) : Prop :=
  secretNameOf item ≠ "" ∧ ∃ secret, c.secrets.get ⟨ns, secretNameOf item⟩ = some secret ∧
    accessKeyOf item secret = access ∧ secretKeyOf item secret = key ∧ access ≠ "" ∧ key ≠ ""

def NamesMissing (item : Unstructured) : Prop :=
  secretNameOf item ≠ "" ∧ c.secrets.get ⟨ns, secretNameOf item⟩ = none

def UsableCredential (item : Unstructured) : Prop :=
  RefersTo c ns releaseName item ∧ credentialsPhase item = "Ready" ∧
    ∃ access key, HoldsKeys c ns item access key

/-- The one of the smallest name among those that can be used. -/
def Chosen (item : Unstructured) : Prop :=
  UsableCredential c ns releaseName item ∧
    ∀ item', UsableCredential c ns releaseName item' → item.metadata.name ≤ item'.metadata.name

/-- Some may still become ready, or the Secret of one that is ready may still come. -/
def Waiting : Prop :=
  ∃ item, RefersTo c ns releaseName item ∧
    (credentialsPhase item ≠ "Ready" ∧ credentialsPhase item ≠ "Failed" ∨
      credentialsPhase item = "Ready" ∧ NamesMissing c ns item)

structure Resolution (snapshot : Option ManagedStorageSnapshot) (pending failed : Bool) :
    Prop where
  unreferenced : (∀ item, ¬RefersTo c ns releaseName item) →
    snapshot = none ∧ pending = false ∧ failed = false
  exactlyOne : (∃ item, RefersTo c ns releaseName item) →
    [snapshot.isSome, pending, failed].count true = 1
  chosen : ∀ ms, snapshot = some ms ↔ ∃ item access key,
    Chosen c ns releaseName item ∧ HoldsKeys c ns item access key ∧ ms = ⟨access, key, releaseName⟩
  waiting : (∃ item, RefersTo c ns releaseName item) →
    (∀ item, ¬UsableCredential c ns releaseName item) →
    (pending = true ↔ Waiting c ns releaseName)
  hopeless : (∃ item, RefersTo c ns releaseName item) →
    (∀ item, ¬UsableCredential c ns releaseName item) →
    (failed = true ↔ ¬Waiting c ns releaseName)

end specification

def ManagedStorageState.snapshot : ManagedStorageState → Option ManagedStorageSnapshot
  | .resolved ms => some ms
  | .pending | .failed | .absent => none

def ManagedStorageState.isPending : ManagedStorageState → Bool
  | .pending => true
  | .resolved _ | .failed | .absent => false

def ManagedStorageState.isFailed : ManagedStorageState → Bool
  | .failed => true
  | .resolved _ | .pending | .absent => false

theorem ManagedStorageState.eq_of_answers {st st' : ManagedStorageState}
    (hsnapshot : st.snapshot = st'.snapshot) (hpending : st.isPending = st'.isPending)
    (hfailed : st.isFailed = st'.isFailed) : st = st' := by
  cases st <;> cases st' <;> simp_all [snapshot, isPending, isFailed]

section unique

variable {c c' : InstanceCluster} {ns releaseName : String}

theorem exists_chosen (h : ∃ item, UsableCredential c ns releaseName item) :
    ∃ item, Chosen c ns releaseName item := by
  have hfinite : {item | UsableCredential c ns releaseName item}.Finite :=
    (List.finite_toSet c.s3Credentials.items).subset fun item hitem => hitem.1.mem
  obtain ⟨item, hitem, hmin⟩ :=
    Set.exists_min_image _ (fun item : Unstructured => item.metadata.name) hfinite h
  exact ⟨item, hitem, hmin⟩

variable {snapshot snapshot' : Option ManagedStorageSnapshot}
  {pending failed pending' failed' : Bool}

theorem Resolution.unique (h : Resolution c ns releaseName snapshot pending failed)
    (h' : Resolution c ns releaseName snapshot' pending' failed') :
    snapshot = snapshot' ∧ pending = pending' ∧ failed = failed' := by
  have hsnapshot : snapshot = snapshot' :=
    Option.ext fun ms => (h.chosen ms).trans (h'.chosen ms).symm
  subst hsnapshot
  by_cases href : ∃ item, RefersTo c ns releaseName item
  · by_cases husable : ∃ item, UsableCredential c ns releaseName item
    · -- one of them is chosen, so the other two answers are no
      obtain ⟨item, hchosen⟩ := exists_chosen husable
      obtain ⟨access, key, hkeys⟩ := hchosen.1.2.2
      have hsome := (h.chosen _).mpr ⟨item, access, key, hchosen, hkeys, rfl⟩
      have hone := h.exactlyOne href
      have hone' := h'.exactlyOne href
      subst hsome
      cases pending <;> cases failed <;> cases pending' <;> cases failed' <;> simp_all
    · have hnone : ∀ item, ¬UsableCredential c ns releaseName item :=
        fun item hi => husable ⟨item, hi⟩
      exact ⟨rfl, Bool.eq_iff_iff.mpr ((h.waiting href hnone).trans (h'.waiting href hnone).symm),
        Bool.eq_iff_iff.mpr ((h.hopeless href hnone).trans (h'.hopeless href hnone).symm)⟩
  · have hnone : ∀ item, ¬RefersTo c ns releaseName item := fun item hi => href ⟨item, hi⟩
    obtain ⟨-, hpending, hfailed⟩ := h.unreferenced hnone
    obtain ⟨-, hpending', hfailed'⟩ := h'.unreferenced hnone
    exact ⟨rfl, hpending.trans hpending'.symm, hfailed.trans hfailed'.symm⟩

theorem Resolution.perm (hitems : c'.s3Credentials.items.Perm c.s3Credentials.items)
    (hsecrets : ∀ k, c'.secrets.get k = c.secrets.get k)
    (h : Resolution c' ns releaseName snapshot pending failed) :
    Resolution c ns releaseName snapshot pending failed := by
  have hrefers : ∀ item, RefersTo c' ns releaseName item ↔ RefersTo c ns releaseName item :=
    fun item => ⟨fun hi => ⟨hitems.mem_iff.mp hi.mem, hi.ns, hi.ref⟩,
      fun hi => ⟨hitems.mem_iff.mpr hi.mem, hi.ns, hi.ref⟩⟩
  have hholds : ∀ item access key,
      HoldsKeys c' ns item access key ↔ HoldsKeys c ns item access key := by
    intro item access key
    rw [HoldsKeys, HoldsKeys, hsecrets]
  have hmissing : ∀ item, NamesMissing c' ns item ↔ NamesMissing c ns item := by
    intro item
    rw [NamesMissing, NamesMissing, hsecrets]
  have husable : ∀ item,
      UsableCredential c' ns releaseName item ↔ UsableCredential c ns releaseName item := by
    intro item
    simp only [UsableCredential, hrefers, hholds]
  have hchosen : ∀ item, Chosen c' ns releaseName item ↔ Chosen c ns releaseName item := by
    intro item
    simp only [Chosen, husable]
  have hwaiting : Waiting c' ns releaseName ↔ Waiting c ns releaseName := by
    simp only [Waiting, hrefers, hmissing]
  obtain ⟨hnone, hone, hms, hpending, hfailed⟩ := h
  simp only [hrefers, hholds, husable, hchosen, hwaiting] at hnone hone hms hpending hfailed
  exact ⟨hnone, hone, hms, hpending, hfailed⟩

end unique

section walk

variable {c : InstanceCluster} {env : InstanceEnv} {ns releaseName : String}

inductive Examined (c : InstanceCluster) (ns releaseName : String) (item : Unstructured) :
    CredentialSnapshot → Prop
  | ok {access key : String} (h : HoldsKeys c ns item access key) :
      Examined c ns releaseName item (.ok ⟨access, key, releaseName⟩)
  | secretMissing (h : NamesMissing c ns item) : Examined c ns releaseName item .secretMissing
  | unusable (hkeys : ∀ access key, ¬HoldsKeys c ns item access key) (h : ¬NamesMissing c ns item) :
      Examined c ns releaseName item .unusable

theorem run_read_of_clear {α : Type} {s : InstanceSite} {f : InstanceCluster → α}
    (henv : ∀ s, env.fault s = none) : (InstanceM.read s f).run env c = ⟨.ok (f c), c, []⟩ := by
  rw [run_read_eq, henv]

theorem examined_snapshotFromS3Credentials (henv : ∀ s, env.fault s = none)
    (c : InstanceCluster) (ns releaseName : String) (i : ℕ) {item : Unstructured}
    (hready : credentialsPhase item = "Ready") :
    ∃ o, (snapshotFromS3Credentials i ns releaseName item).run env c = ⟨.ok o, c, []⟩ ∧
      Examined c ns releaseName item o := by
  have hphase : ¬(credentialsPhase item ≠ "" ∧ credentialsPhase item ≠ "Ready") := by
    simp [hready]
  have hread : ∀ k : ObjectKey, ((InstanceM.read (.getCredentialSecret i) fun c =>
      c.secrets.get k).mapError (·.wrap ("get S3Credentials secret " ++ ns ++ "/" ++
        secretNameOf item))).run env c = ⟨.ok (c.secrets.get k), c, []⟩ := by
    intro k
    rw [run_mapError, run_read_of_clear henv]
    rfl
  unfold snapshotFromS3Credentials
  rw [if_neg hphase]
  simp only [← secretNameOf.eq_1]
  by_cases hnamed : secretNameOf item = ""
  · rw [if_pos hnamed]
    exact ⟨.unusable, rfl, .unusable (fun _ _ h => h.1 hnamed) fun h => h.1 hnamed⟩
  rw [if_neg hnamed, Prog.run_bind, hread]
  cases hsecret : c.secrets.get ⟨ns, secretNameOf item⟩ with
  | none => exact ⟨.secretMissing, rfl, .secretMissing ⟨hnamed, hsecret⟩⟩
  | some secret =>
    have hmissing : ¬NamesMissing c ns item := fun h => by simp [NamesMissing, hsecret] at h
    by_cases hempty : accessKeyOf item secret = "" ∨ secretKeyOf item secret = ""
    · refine ⟨.unusable, ?_, .unusable ?_ hmissing⟩
      · simp only [← accessKeyOf.eq_1, ← secretKeyOf.eq_1, if_pos hempty]
        rfl
      · rintro access key ⟨-, secret', hsecret', rfl, rfl, haccess, hkey⟩
        rw [hsecret, Option.some.injEq] at hsecret'
        subst hsecret'
        exact hempty.elim haccess hkey
    · refine ⟨.ok ⟨accessKeyOf item secret, secretKeyOf item secret, releaseName⟩, ?_, .ok
        ⟨hnamed, secret, hsecret, rfl, rfl, fun h => hempty (.inl h), fun h => hempty (.inr h)⟩⟩
      simp only [← accessKeyOf.eq_1, ← secretKeyOf.eq_1, if_neg hempty]
      rfl

variable {stillPending secretMissing unusable : Bool}

/-- What the walk over ready `S3Credentials` comes to, after some without keys. -/
inductive Walked (c : InstanceCluster) (ns releaseName : String)
    (stillPending secretMissing unusable : Bool) (items : List Unstructured) :
    ManagedStorageState → Prop
  | found {pre post : List Unstructured} {item : Unstructured} {access key : String}
      (hsplit : items = pre ++ item :: post)
      (hpre : ∀ x ∈ pre, ∀ access key, ¬HoldsKeys c ns x access key)
      (hkeys : HoldsKeys c ns item access key) :
      Walked c ns releaseName stillPending secretMissing unusable items
        (.resolved ⟨access, key, releaseName⟩)
  | pending (hnone : ∀ x ∈ items, ∀ access key, ¬HoldsKeys c ns x access key)
      (h : stillPending = true ∨ secretMissing = true ∨ ∃ x ∈ items, NamesMissing c ns x) :
      Walked c ns releaseName stillPending secretMissing unusable items .pending
  | failed (hnone : ∀ x ∈ items, ∀ access key, ¬HoldsKeys c ns x access key)
      (hpending : stillPending = false) (hsecret : secretMissing = false)
      (hnamed : ∀ x ∈ items, ¬NamesMissing c ns x) :
      Walked c ns releaseName stillPending secretMissing unusable items .failed
  | absent (hitems : items = []) (h : unusable = false) (hpending : stillPending = false)
      (hsecret : secretMissing = false) :
      Walked c ns releaseName stillPending secretMissing unusable items .absent

theorem NamesMissing.not_holdsKeys {item : Unstructured} {access key : String}
    (h : NamesMissing c ns item) : ¬HoldsKeys c ns item access key := by
  rintro ⟨-, secret, hsecret, -⟩
  rw [h.2] at hsecret
  exact absurd hsecret (by simp)

namespace Walked

variable {item : Unstructured} {rest : List Unstructured} {st : ManagedStorageState}

theorem cons_missing (h : NamesMissing c ns item)
    (hw : Walked c ns releaseName stillPending true unusable rest st) :
    Walked c ns releaseName stillPending secretMissing unusable (item :: rest) st := by
  cases hw with
  | @found pre post x access key hsplit hpre hkeys =>
    have hcons : item :: rest = (item :: pre) ++ x :: post := congrArg (item :: ·) hsplit
    exact .found hcons (List.forall_mem_cons.mpr ⟨fun _ _ => h.not_holdsKeys, hpre⟩) hkeys
  | pending hnone _ =>
    exact .pending (List.forall_mem_cons.mpr ⟨fun _ _ => h.not_holdsKeys, hnone⟩)
      (.inr (.inr ⟨item, List.mem_cons_self, h⟩))
  | failed _ _ hsecret _ => exact absurd hsecret (by simp)
  | absent _ _ _ hsecret => exact absurd hsecret (by simp)

theorem cons_unusable (hkeys : ∀ access key, ¬HoldsKeys c ns item access key)
    (h : ¬NamesMissing c ns item)
    (hw : Walked c ns releaseName stillPending secretMissing true rest st) :
    Walked c ns releaseName stillPending secretMissing unusable (item :: rest) st := by
  cases hw with
  | @found pre post x access key hsplit hpre hholds =>
    have hcons : item :: rest = (item :: pre) ++ x :: post := congrArg (item :: ·) hsplit
    exact .found hcons (List.forall_mem_cons.mpr ⟨hkeys, hpre⟩) hholds
  | pending hnone hwait =>
    refine .pending (List.forall_mem_cons.mpr ⟨hkeys, hnone⟩) (hwait.imp_right (.imp_right ?_))
    rintro ⟨x, hx, hmissing⟩
    exact ⟨x, List.mem_cons_of_mem _ hx, hmissing⟩
  | failed hnone hpending hsecret hnamed =>
    exact .failed (List.forall_mem_cons.mpr ⟨hkeys, hnone⟩) hpending hsecret
      (List.forall_mem_cons.mpr ⟨h, hnamed⟩)
  | absent _ hunusable _ _ => exact absurd hunusable (by simp)

end Walked

theorem walked_firstSnapshot (henv : ∀ s, env.fault s = none) (c : InstanceCluster)
    (ns releaseName : String) (stillPending : Bool) (items : List Unstructured)
    (hready : ∀ x ∈ items, credentialsPhase x = "Ready") : ∀ i secretMissing unusable,
    ∃ st, ((firstSnapshot ns releaseName stillPending i items secretMissing unusable).run env
        c).result = .ok st ∧
      Walked c ns releaseName stillPending secretMissing unusable items st := by
  induction items with
  | nil =>
    intro i secretMissing unusable
    refine ⟨_, rfl, ?_⟩
    cases hp : stillPending <;> cases hm : secretMissing <;> cases hu : unusable
    all_goals first
      | exact .pending (by simp) (by simp)
      | exact .failed (by simp) rfl rfl (by simp)
      | exact .absent rfl rfl rfl rfl
  | cons item rest ih =>
    intro i secretMissing unusable
    obtain ⟨o, ho, hexamined⟩ := examined_snapshotFromS3Credentials henv c ns releaseName i
      (hready item List.mem_cons_self)
    have hrest := ih fun x hx => hready x (List.mem_cons_of_mem _ hx)
    unfold firstSnapshot
    rw [Prog.run_bind, ho]
    cases hexamined with
    | ok hkeys =>
      have hsplit : item :: rest = [] ++ item :: rest := rfl
      exact ⟨_, rfl, .found hsplit (by simp) hkeys⟩
    | secretMissing hmissing =>
      obtain ⟨st, hst, hwalked⟩ := hrest (i + 1) true unusable
      exact ⟨st, hst, hwalked.cons_missing hmissing⟩
    | unusable hkeys hmissing =>
      obtain ⟨st, hst, hwalked⟩ := hrest (i + 1) secretMissing true
      exact ⟨st, hst, hwalked.cons_unusable hkeys hmissing⟩

end walk

def matchingCredentials (c : InstanceCluster) (ns releaseName : String) : List Unstructured :=
  (c.s3Credentials.items.filter fun item => item.metadata.ns = ns ∧
    nestedString ["spec", "seaweedRef", "name"] item.body = releaseName).insertionSort
      fun a b => a.metadata.name ≤ b.metadata.name

section candidates

variable {c : InstanceCluster} {env : InstanceEnv} {ns releaseName : String}

theorem run_listMatchingS3Credentials (henv : ∀ s, env.fault s = none) :
    (listMatchingS3Credentials ns releaseName).run env c =
      ⟨.ok (matchingCredentials c ns releaseName), c, []⟩ := by
  rw [listMatchingS3Credentials, run_mapError, run_read_of_clear henv]
  rfl

theorem mem_matchingCredentials {item : Unstructured} :
    item ∈ matchingCredentials c ns releaseName ↔ RefersTo c ns releaseName item := by
  rw [matchingCredentials, List.mem_insertionSort, List.mem_filter, decide_eq_true_iff]
  exact ⟨fun h => ⟨h.1, h.2.1, h.2.2⟩, fun h => ⟨h.mem, h.ns, h.ref⟩⟩

theorem sorted_matchingCredentials : (matchingCredentials c ns releaseName).Pairwise
    fun a b => a.metadata.name ≤ b.metadata.name := by
  have : Std.Total fun a b : Unstructured => a.metadata.name ≤ b.metadata.name :=
    ⟨fun _ _ => le_total _ _⟩
  have : IsTrans Unstructured fun a b => a.metadata.name ≤ b.metadata.name :=
    ⟨fun _ _ _ => le_trans⟩
  exact List.pairwise_insertionSort _ _

def readyCredentials (c : InstanceCluster) (ns releaseName : String) : List Unstructured :=
  (splitS3CredentialsByPhase (matchingCredentials c ns releaseName)).1

theorem mem_readyCredentials {item : Unstructured} :
    item ∈ readyCredentials c ns releaseName ↔
      RefersTo c ns releaseName item ∧ credentialsPhase item = "Ready" := by
  rw [readyCredentials, splitS3CredentialsByPhase, List.mem_filter, mem_matchingCredentials,
    decide_eq_true_iff]

theorem usableCredential_iff {item : Unstructured} : UsableCredential c ns releaseName item ↔
    item ∈ readyCredentials c ns releaseName ∧ ∃ access key, HoldsKeys c ns item access key := by
  rw [UsableCredential, mem_readyCredentials, and_assoc]

theorem waiting_iff : Waiting c ns releaseName ↔
    (splitS3CredentialsByPhase (matchingCredentials c ns releaseName)).2 = true ∨
      ∃ x ∈ readyCredentials c ns releaseName, NamesMissing c ns x := by
  simp only [Waiting, splitS3CredentialsByPhase, List.any_eq_true, mem_matchingCredentials,
    mem_readyCredentials, decide_eq_true_iff]
  constructor
  · rintro ⟨item, href, hphase | ⟨hready, hmissing⟩⟩
    · exact .inl ⟨item, href, hphase⟩
    · exact .inr ⟨item, ⟨href, hready⟩, hmissing⟩
  · rintro (⟨item, href, hphase⟩ | ⟨item, ⟨href, hready⟩, hmissing⟩)
    · exact ⟨item, href, .inl hphase⟩
    · exact ⟨item, href, .inr ⟨hready, hmissing⟩⟩

theorem chosen_of_split {pre post : List Unstructured} {item : Unstructured} {access key : String}
    (hsplit : readyCredentials c ns releaseName = pre ++ item :: post)
    (hpre : ∀ x ∈ pre, ∀ access key, ¬HoldsKeys c ns x access key)
    (hkeys : HoldsKeys c ns item access key) : Chosen c ns releaseName item := by
  refine ⟨usableCredential_iff.mpr ⟨by simp [hsplit], access, key, hkeys⟩, ?_⟩
  intro item' husable
  obtain ⟨hmem, access', key', hkeys'⟩ := usableCredential_iff.mp husable
  have hsorted : (readyCredentials c ns releaseName).Pairwise
      fun a b => a.metadata.name ≤ b.metadata.name :=
    sorted_matchingCredentials.sublist List.filter_sublist
  rw [hsplit] at hmem hsorted
  rcases List.mem_append.mp hmem with hmem | hmem
  · exact absurd hkeys' (hpre item' hmem access' key')
  · rcases List.mem_cons.mp hmem with rfl | hmem
    · exact le_rfl
    · exact (List.pairwise_cons.mp (List.pairwise_append.mp hsorted).2.1).1 item' hmem

theorem Chosen.unique {item item' : Unstructured} (h : Chosen c ns releaseName item)
    (h' : Chosen c ns releaseName item') : item = item' := by
  refine Store.eq_of_mem h.1.1.mem h'.1.1.mem ?_
  have hname := le_antisymm (h.2 item' h'.1) (h'.2 item h.1)
  have hns := h.1.1.ns.trans h'.1.1.ns.symm
  change ObjectMeta.key _ = ObjectMeta.key _
  rw [ObjectMeta.key, ObjectMeta.key, hns, hname]

theorem HoldsKeys.unique {item : Unstructured} {access access' key key' : String}
    (h : HoldsKeys c ns item access key) (h' : HoldsKeys c ns item access' key') :
    access = access' ∧ key = key' := by
  obtain ⟨-, secret, hsecret, rfl, rfl, -⟩ := h
  obtain ⟨-, secret', hsecret', rfl, rfl, -⟩ := h'
  rw [hsecret, Option.some.injEq] at hsecret'
  subst hsecret'
  exact ⟨rfl, rfl⟩

theorem none_chosen
    (hnone : ∀ x ∈ readyCredentials c ns releaseName, ∀ access key, ¬HoldsKeys c ns x access key)
    (ms : ManagedStorageSnapshot) : none = some ms ↔ ∃ item access key,
      Chosen c ns releaseName item ∧ HoldsKeys c ns item access key ∧
        ms = ⟨access, key, releaseName⟩ := by
  constructor
  · exact fun h => absurd h (by simp)
  · rintro ⟨item, access, key, hchosen, hkeys, -⟩
    exact absurd hkeys (hnone item (usableCredential_iff.mp hchosen.1).1 access key)

variable {st : ManagedStorageState} {unusable : Bool}

theorem resolution_of_walked (href : ∃ item, RefersTo c ns releaseName item)
    (hsome : unusable = true ∨ readyCredentials c ns releaseName ≠ [])
    (hwalked : Walked c ns releaseName
      (splitS3CredentialsByPhase (matchingCredentials c ns releaseName)).2 false unusable
      (readyCredentials c ns releaseName) st) :
    Resolution c ns releaseName st.snapshot st.isPending st.isFailed := by
  have hnot : ¬∀ item, ¬RefersTo c ns releaseName item :=
    fun h => href.elim fun item hitem => h item hitem
  cases hwalked with
  | found hsplit hpre hkeys =>
    have hchosen := chosen_of_split hsplit hpre hkeys
    refine ⟨fun h => absurd h hnot, fun _ => rfl, ?_, fun _ h => absurd hchosen.1 (h _),
      fun _ h => absurd hchosen.1 (h _)⟩
    intro ms
    constructor
    · rintro ⟨⟩
      exact ⟨_, _, _, hchosen, hkeys, rfl⟩
    · rintro ⟨item', access', key', hchosen', hkeys', rfl⟩
      obtain rfl := hchosen.unique hchosen'
      obtain ⟨rfl, rfl⟩ := hkeys.unique hkeys'
      rfl
  | pending hnone hwait =>
    have hwaiting : Waiting c ns releaseName :=
      waiting_iff.mpr (hwait.imp_right fun h => h.resolve_left (by simp))
    exact ⟨fun h => absurd h hnot, fun _ => rfl, none_chosen hnone,
      fun _ _ => ⟨fun _ => hwaiting, fun _ => rfl⟩,
      fun _ _ => ⟨fun h => absurd h (by simp [ManagedStorageState.isFailed]),
        fun h => absurd hwaiting h⟩⟩
  | failed hnone hpending _ hnamed =>
    have hwaiting : ¬Waiting c ns releaseName := by
      rw [waiting_iff, hpending]
      rintro (h | ⟨x, hx, hmissing⟩)
      · exact absurd h (by simp)
      · exact hnamed x hx hmissing
    exact ⟨fun h => absurd h hnot, fun _ => rfl, none_chosen hnone,
      fun _ _ => ⟨fun h => absurd h (by simp [ManagedStorageState.isPending]),
        fun h => absurd h hwaiting⟩,
      fun _ _ => ⟨fun _ => hwaiting, fun _ => rfl⟩⟩
  | absent hitems hunusable =>
    rcases hsome with h | h
    · exact absurd (hunusable.symm.trans h) (by simp)
    · exact absurd hitems h

theorem resolution_absent (h : ∀ item, ¬RefersTo c ns releaseName item) :
    Resolution c ns releaseName none false false := by
  refine ⟨fun _ => ⟨rfl, rfl, rfl⟩, fun ⟨item, hitem⟩ => absurd hitem (h item),
    none_chosen fun x hx => absurd (mem_readyCredentials.mp hx).1 (h x),
    fun ⟨item, hitem⟩ => absurd hitem (h item), fun ⟨item, hitem⟩ => absurd hitem (h item)⟩

end candidates

section resolved

variable {app : ApplicationInstance} {release : ReleaseSpec} {env : InstanceEnv}

theorem resolution_resolveManagedStorageState (hrelease : app.spec.release = some release)
    (hname : release.name ≠ "") (henv : ∀ s, env.fault s = none) (c : InstanceCluster) :
    ∃ st, ((resolveManagedStorageState app).run env c).result = .ok st ∧
      Resolution c (releaseNamespace app) release.name st.snapshot st.isPending st.isFailed := by
  have hvalid : validateReleaseRef app = .ok release := by
    simp only [validateReleaseRef, hrelease, if_neg hname]
  unfold resolveManagedStorageState
  rw [Prog.run_bind, run_ofExcept, hvalid]
  simp only [Outcome.after, Prog.run_bind, run_listMatchingS3Credentials henv]
  by_cases hnone : matchingCredentials c (releaseNamespace app) release.name = []
  · rw [if_pos hnone]
    refine ⟨.absent, rfl, resolution_absent fun item hitem => ?_⟩
    have hmem := mem_matchingCredentials.mpr hitem
    rw [hnone] at hmem
    exact absurd hmem List.not_mem_nil
  have href : ∃ item, RefersTo c (releaseNamespace app) release.name item := by
    obtain ⟨item, hitem⟩ := List.exists_mem_of_ne_nil _ hnone
    exact ⟨item, mem_matchingCredentials.mp hitem⟩
  rw [if_neg hnone]
  change ∃ st, ((if readyCredentials c (releaseNamespace app) release.name = [] then _ else _ :
    InstanceM ManagedStorageState).run env c).result = .ok st ∧ _
  by_cases hready : readyCredentials c (releaseNamespace app) release.name = []
  · -- nothing to walk over: as if one had been of no use
    rw [if_pos hready]
    obtain ⟨st, hst, hwalked⟩ := walked_firstSnapshot henv c (releaseNamespace app) release.name
      (splitS3CredentialsByPhase (matchingCredentials c (releaseNamespace app) release.name)).2 []
      (by simp) 0 false true
    refine ⟨st, ?_, resolution_of_walked href (.inl rfl) (hready ▸ hwalked)⟩
    simpa [firstSnapshot] using hst
  · rw [if_neg hready]
    obtain ⟨st, hst, hwalked⟩ := walked_firstSnapshot henv c (releaseNamespace app) release.name
      (splitS3CredentialsByPhase (matchingCredentials c (releaseNamespace app) release.name)).2
      (readyCredentials c (releaseNamespace app) release.name)
      (fun x hx => (mem_readyCredentials.mp hx).2) 0 false false
    exact ⟨st, hst, resolution_of_walked href (.inr hready) hwalked⟩

theorem managed_storage_resolved (hrelease : app.spec.release = some release)
    (hname : release.name ≠ "") (henv : ∀ s, env.fault s = none) (c : InstanceCluster) :
    ∃ st, ((resolveManagedStorageState app).run env c).result = .ok st ∧
      Resolution c (releaseNamespace app) release.name st.snapshot st.isPending st.isFailed ∧
      ∀ c' : InstanceCluster, c'.s3Credentials.items.Perm c.s3Credentials.items →
        (∀ k, c'.secrets.get k = c.secrets.get k) →
        ((resolveManagedStorageState app).run env c').result = .ok st := by
  obtain ⟨st, hst, hspec⟩ := resolution_resolveManagedStorageState hrelease hname henv c
  refine ⟨st, hst, hspec, fun c' hitems hsecrets => ?_⟩
  obtain ⟨st', hst', hspec'⟩ := resolution_resolveManagedStorageState hrelease hname henv c'
  obtain ⟨hsnapshot, hpending, hfailed⟩ := (hspec'.perm hitems hsecrets).unique hspec
  rw [hst', ManagedStorageState.eq_of_answers hsnapshot hpending hfailed]

end resolved

def storeApp : ApplicationInstance where
  metadata := { ns := "team-a", name := "store", uid := "u1" }
  spec :=
    { catalogId := catalogIdSeaweedFS, mode := .managed
      release := some { name := "store", ns := "team-a" } }

def readyCredential (name : String) : Unstructured where
  metadata := { ns := "team-a", name }
  body := [("spec", .obj [("seaweedRef", .obj [("name", .str "store")])]),
    ("status", .obj [("phase", .str "Ready"), ("secretName", .str name)])]

def readySecret (name : String) : DataObject where
  key := ⟨"team-a", name⟩
  data := [("accessKey", bytesOf name), ("secretKey", bytesOf "secret")]

def twoCredentials (first second : String) : InstanceCluster where
  instances := Store.empty
  workloads := Workloads.empty
  secrets := (Store.empty.put (readySecret "chart")).put (readySecret "a-test")
  s3Credentials := (Store.empty.put (readyCredential first)).put (readyCredential second)

theorem two_credentials_resolved :
    ((resolveManagedStorageState storeApp).run { now := 0 }
        (twoCredentials "chart" "a-test")).result =
        .ok (.resolved ⟨"a-test", "secret", "store"⟩) ∧
      ((resolveManagedStorageState storeApp).run { now := 0 }
        (twoCredentials "a-test" "chart")).result =
        .ok (.resolved ⟨"a-test", "secret", "store"⟩) := by
  have hrelease : storeApp.spec.release = some { name := "store", ns := "team-a" } := rfl
  obtain ⟨st, hst, -, hperm⟩ := managed_storage_resolved hrelease (by decide)
    (fun s => (rfl : ({ now := 0 } : InstanceEnv).fault s = none)) (twoCredentials "chart" "a-test")
  have hresult : ((resolveManagedStorageState storeApp).run { now := 0 }
      (twoCredentials "chart" "a-test")).result =
      .ok (.resolved ⟨"a-test", "secret", "store"⟩) := by decide +kernel
  have hitems : (twoCredentials "a-test" "chart").s3Credentials.items.Perm
      (twoCredentials "chart" "a-test").s3Credentials.items := .swap _ _ []
  exact ⟨hresult, (hperm _ hitems fun _ => rfl).trans (hst.symm.trans hresult)⟩

end VWorkspace
