import VWorkspaceOperator.Agent.Poller
import VWorkspaceOperator.Agent.Quiet
import VWorkspaceOperator.Properties.Replay

/-!
# Reported conflicts

A job that sets a field another manager holds to another value should be reported
as a conflict, and nothing else should be.  The agent does neither: it applies
every document by force, which takes the field over, and it calls an error a
conflict if its text has the word in it, wherever the text comes from.

## Main results

* `surfaced_iff_of_quiet`: when conflicts are surfaced where nothing fails.
* `surfaced_iff`: that, and when they are surfaced whatever fails.
-/

namespace VWorkspace.Agent

open Kit Prog AgentM

/-- The document sets a field that another manager holds to another value. -/
def ContestedField (a : Applier) (job : Job) (st : AgentState) (id : ResourceId) (p : FieldPath) :
    Prop :=
  ∃ doc o v, a.document job = some (.ok (id, doc)) ∧ st.objects.get id = some o ∧
    Sets (configOf doc) p v ∧ contests fieldManager o.fields (p, v) = true

def Contested (a : Applier) (job : Job) (st : AgentState) : Prop :=
  ∃ id p, ContestedField a job st id p

def fieldValue (objects : Store ApiObject) (id : ResourceId) (p : FieldPath) : Option Json :=
  (objects.get id).bind fun o => o.fields.value p

def Reports (c : JobOutcome) (trace : List PollerEvent) : Prop :=
  ∃ id r, PollerEvent.posted id r ∈ trace ∧ r.outcome = c

/-- **Conflicts are surfaced exactly**: a conflict is reported if and only if the job
sets a field of another manager; such a field stays as it is; every other error is
reported as a failure. -/
structure Surfaced (a : Applier) (job : Job) (env : PollerEnv) (st : PollerState) : Prop where
  conflict : Reports .conflict ((processJob a job).run env st).trace ↔ Contested a job st.agent
  kept : ∀ id p, ContestedField a job st.agent id p →
    fieldValue ((processJob a job).run env st).state.agent.objects id p =
      fieldValue st.agent.objects id p
  failed : ¬Contested a job st.agent → (∃ e, ((processJob a job).run env st).result = .error e) →
    Reports .failed ((processJob a job).run env st).trace

/-- The job is answered without a call of the API: it is expired, its key is in the
cache, the store has no namespace, or the payload cannot be read, with a text that
does not have the word in it. -/
def AnsweredLocally (a : Applier) (store : IdempotencyStore) (job : Job) (st : AgentState)
    (now : ℕ) : Prop :=
  Applier.isExpired job now = true ∨
    (trimSpace job.idempotencyKey ≠ "" ∧
      match st.cache with
      | some keys => trimSpace job.idempotencyKey ∈ keys
      | none => store.ns = "") ∨
    ((trimSpace job.idempotencyKey = "" ∨ st.cache.isSome = true) ∧
      ∃ e, a.document job = some (.error e) ∧ isConflict e = false)

section reports

variable {a : Applier} {store : IdempotencyStore} {job : Job} {env : PollerEnv} {st : PollerState}

theorem reports_iff (hhttp : ∀ req, env.http req = none) {c : JobOutcome} :
    Reports c ((processJob a job).run env st).trace ↔
      (resultOf env.reportedAt ((a.applyJob job).run env.agent st.agent).result).outcome = c := by
  rw [Reports, (processJob_spec (result_ackJob (hhttp _) _)).2]
  constructor
  · rintro ⟨id, r, hmem, rfl⟩
    rcases List.mem_append.mp hmem with hmem | hmem
    · obtain ⟨e, -, he⟩ := List.mem_map.mp hmem
      exact absurd he (by simp)
    · rw [List.mem_singleton, PollerEvent.posted.injEq] at hmem
      rw [hmem.2]
  · exact fun h => ⟨_, _, List.mem_append_right _ (List.mem_singleton_self _), h⟩

end reports

section quiet

variable {a : Applier} {store : IdempotencyStore} {job : Job} {st : AgentState}

theorem not_contains_of_not_mem {s : String} (h : 'f' ∉ s.toList) :
    contains s "conflict" = false := by
  refine decide_eq_false fun hinside => h (hinside.subset ?_)
  simp

theorem not_contains_of_append {s t : String} (hs : 'f' ∉ s.toList) (ht : 'f' ∉ t.toList)
    (hl : ∀ cs, t.toList ≠ 'l' :: cs) : contains (s ++ "f" ++ t) "conflict" = false := by
  refine decide_eq_false ?_
  rintro ⟨pre, post, h⟩
  have hsplit : s.toList ++ 'f' :: t.toList =
      (pre ++ ['c', 'o', 'n']) ++ 'f' :: (['l', 'i', 'c', 't'] ++ post) := by
    simpa using h.symm
  obtain ⟨-, -, htail⟩ := (List.append_cons_inj_of_notMem hs ht).mp hsplit
  exact hl _ htail

def kindNames : List String := ["null", "bool", "number", "string", "array", "object"]

theorem kindName_mem (v : Json) : v.kindName ∈ kindNames := by
  cases v <;> simp [Json.kindName, kindNames]

theorem mismatch_of_decodeString {v : Json} {cur : String} {m : Mismatch}
    (h : decodeString v cur = .error m) : m = ⟨v.kindName, "string"⟩ := by
  cases v <;> first | exact (Except.error.inj h).symm | exact absurd h (by simp [decodeString])

theorem mismatch_of_decodeStrings {vs : List Json} {cur : List String} {m : Mismatch}
    (h : decodeStrings vs cur = .error m) : ∃ v : Json, m = ⟨v.kindName, "string"⟩ := by
  induction vs generalizing cur with
  | nil => exact absurd h (by simp [decodeStrings])
  | cons v vs ih =>
    rw [decodeStrings] at h
    cases hv : decodeString v (cur.headD "") with
    | error m' =>
      rw [hv] at h
      obtain rfl := Except.error.inj h
      exact ⟨v, mismatch_of_decodeString hv⟩
    | ok s =>
      rw [hv] at h
      dsimp only at h
      cases hvs : decodeStrings vs cur.tail with
      | error m' =>
        rw [hvs] at h
        obtain rfl := Except.error.inj h
        exact ih hvs
      | ok ss =>
        rw [hvs] at h
        exact absurd h (by simp [Except.map])

theorem mismatch_of_decodeStringSlice {v : Json} {cur : List String} {m : Mismatch}
    (h : decodeStringSlice v cur = .error m) :
    ∃ v' : Json, m = ⟨v'.kindName, "string"⟩ ∨ m = ⟨v'.kindName, "[]string"⟩ := by
  cases v with
  | null => exact absurd h (by simp [decodeStringSlice])
  | arr vs =>
    obtain ⟨v', hv'⟩ := mismatch_of_decodeStrings h
    exact ⟨v', .inl hv'⟩
  | str s => exact ⟨_, .inr (Except.error.inj h).symm⟩
  | bool b => exact ⟨_, .inr (Except.error.inj h).symm⟩
  | num lit => exact ⟨_, .inr (Except.error.inj h).symm⟩
  | obj fs => exact ⟨_, .inr (Except.error.inj h).symm⟩

theorem not_conflict_of_unmarshalStrings {raw : Bytes} {msg : String}
    (h : unmarshalStrings raw = .error msg) :
    contains ("check idempotency key: " ++ ("decode idempotency keys: " ++ msg)) "conflict" =
      false := by
  have htexts : ∀ k ∈ kindNames, ∀ t ∈ ["string", "[]string"],
      contains ("check idempotency key: " ++ ("decode idempotency keys: " ++
        ("json: cannot unmarshal " ++ k ++ " into Go value of type " ++ t))) "conflict" =
        false := by
    intro k hk t ht
    have hkind : 'f' ∉ k.toList := by
      revert k
      simp [kindNames]
    have htype : 'f' ∉ t.toList := by
      revert t
      simp
    have htext : "check idempotency key: " ++ ("decode idempotency keys: " ++
        ("json: cannot unmarshal " ++ k ++ " into Go value of type " ++ t)) =
        "check idempotency key: decode idempotency keys: json: cannot unmarshal " ++ k ++
          " into Go value o" ++ "f" ++ (" type " ++ t) := by
      rw [← String.toList_inj]
      simp
    rw [htext]
    exact not_contains_of_append (by simp [hkind]) (by simp [htype]) (by simp)
  rw [unmarshalStrings] at h
  cases hdoc : parseJson raw with
  | none =>
    rw [hdoc] at h
    obtain rfl := Except.error.inj h
    exact not_contains_of_not_mem (by simp)
  | some v =>
    rw [hdoc] at h
    dsimp only at h
    cases hv : decodeStringSlice v [] with
    | ok ss =>
      rw [hv] at h
      exact absurd h (by simp [Except.mapError])
    | error m =>
      rw [hv] at h
      obtain rfl := Except.error.inj h
      obtain ⟨v', rfl | rfl⟩ := mismatch_of_decodeStringSlice hv
      · exact htexts _ (kindName_mem v') _ (by simp)
      · exact htexts _ (kindName_mem v') _ (by simp)

theorem not_conflict_of_loaded (q : QuietEnv) {e : AgentError}
    (h : store.loaded q.env st = .error e) :
    isConflict (e.wrap "check idempotency key: ") = false := by
  rw [IdempotencyStore.loaded] at h
  cases hcache : st.cache with
  | some keys =>
    rw [hcache] at h
    exact absurd h (by simp)
  | none =>
    rw [hcache] at h
    dsimp only at h
    by_cases hns : store.ns = ""
    · rw [if_pos hns] at h
      obtain rfl := Except.error.inj h
      exact not_contains_of_not_mem (by simp [AgentError.wrap])
    · rw [if_neg hns, q.fault, IdempotencyStore.persisted] at h
      cases hget : st.objects.get store.configMap with
      | none =>
        rw [hget] at h
        exact absurd h (by simp [IdempotencyStore.decodeKeys])
      | some cm =>
        rw [hget] at h
        dsimp only [IdempotencyStore.decodeKeys] at h
        split at h
        · split at h
          · exact absurd h (by simp)
          · next msg hmsg =>
            obtain rfl := Except.error.inj h
            exact not_conflict_of_unmarshalStrings hmsg
        · exact absurd h (by simp)

theorem conflict_iff_of_quiet (q : QuietEnv) (hstore : a.idempotency = some store)
    (happlies : (a.document job).isSome = true) (now : ℕ) :
    (resultOf now ((a.applyJob job).run q.env st).result).outcome = .conflict ↔
      Applier.TakenUp store job q.env st ∧
        ∃ e, Applier.OwnError a job q.env e ∧ isConflict e = true := by
  have herror : ∀ e : AgentError,
      (resultOf now (.error e)).outcome = .conflict ↔ isConflict e = true := by
    intro e
    cases he : isConflict e <;> simp [resultOf, errorResult, he]
  rw [← Applier.precheck_eq_none_iff hstore]
  cases hpre : ((a.precheck job).run q.env st).result with
  | error e =>
    rw [Applier.run_applyJob_of_error hpre, herror]
    obtain ⟨e', hloaded, rfl⟩ := Applier.precheck_eq_error hstore hpre
    simp [not_conflict_of_loaded q hloaded]
  | ok answer =>
    cases answer with
    | some early =>
      rw [Applier.run_applyJob_of_some hpre]
      rcases Applier.precheck_eq_some hstore hpre with rfl | ⟨rfl, -⟩
      · simp [resultOf, Applier.expiredOutcome]
      · simp [resultOf, Applier.replayOutcome]
    | none =>
      have hown := Applier.carryOut_of_quiet q ((a.precheck job).run q.env st).state happlies
      rw [and_iff_right rfl]
      cases hact : ((a.carryOut job).run q.env ((a.precheck job).run q.env st).state).result with
      | error e =>
        rw [(Applier.applyJob_of_failed hpre hact).1, herror]
        constructor
        · exact fun hword => ⟨e, (hown e).mp hact, hword⟩
        · rintro ⟨e', he', hword⟩
          rwa [Except.error.inj (hact.symm.trans ((hown e').mpr he'))]
      | ok ref =>
        obtain ⟨outcome, hok, hdone⟩ := Applier.succeeded_of_quiet q hstore hpre hact
        rw [hok, resultOf, hdone]
        refine ⟨fun h => absurd h (by simp), ?_⟩
        rintro ⟨e, he, -⟩
        exact absurd (hact.symm.trans ((hown e).mpr he)) (by simp)

theorem taken_over_of_quiet (q : QuietEnv) (hstore : a.idempotency = some store) {id : ResourceId}
    {p : FieldPath} (hfield : ContestedField a job st id p)
    (htaken : Applier.TakenUp store job q.env st) {e : AgentError}
    (hown : Applier.OwnError a job q.env e) :
    fieldValue ((a.applyJob job).run q.env st).state.objects id p ≠
      fieldValue st.objects id p := by
  obtain ⟨doc, o, v, hdoc, hget, hsets, hcontests⟩ := hfield
  obtain ⟨hkind, -⟩ := hown.resolve_left fun hbad => absurd (hdoc.symm.trans hbad) (by simp)
  have hpre := (Applier.precheck_eq_none_iff hstore).mpr htaken
  have hact := (Applier.carryOut_of_quiet q ((a.precheck job).run q.env st).state
    (by rw [hdoc]; rfl) e).mpr hown
  have hold : fieldValue st.objects id p ≠ some v := by
    rw [fieldValue, hget]
    exact value_ne_of_contests hcontests
  have hcarry : a.carryOut job = a.applyManifest job := by rw [Applier.carryOut, hkind]
  rw [(Applier.applyJob_of_failed hpre hact).2, hcarry]
  cases Applier.applying_of_document hdoc with
  | manifest _ _ hmanifest =>
    obtain ⟨st', hstate, -⟩ :=
      Applier.applyManifest_of_quiet q ((a.precheck job).run q.env st).state hmanifest
    rw [hstate, fieldValue, get_patched, Option.bind_some, value_patchedObject hsets]
    exact hold.symm
  | ensureInstance hintent _ _ => exact absurd (hkind.symm.trans hintent) (by simp)
  | requestOperation hintent _ _ => exact absurd (hkind.symm.trans hintent) (by simp)

theorem surfaced_iff_of_quiet (q : QuietEnv) (hstore : a.idempotency = some store)
    (happlies : (a.document job).isSome = true) {env : PollerEnv} (henv : env.agent = q.env)
    (hhttp : ∀ req, env.http req = none) {st : PollerState} :
    Surfaced a job env st ↔ ¬Contested a job st.agent ∧
      (Applier.TakenUp store job q.env st.agent →
        ∀ e, Applier.OwnError a job q.env e → isConflict e = false) := by
  have hconflict : Reports .conflict ((processJob a job).run env st).trace ↔
      Applier.TakenUp store job q.env st.agent ∧
        ∃ e, Applier.OwnError a job q.env e ∧ isConflict e = true := by
    rw [reports_iff hhttp, henv, conflict_iff_of_quiet q hstore happlies]
  constructor
  · intro h
    have hnot : ¬Contested a job st.agent := by
      rintro ⟨id, p, hfield⟩
      obtain ⟨htaken, e, hown, -⟩ := hconflict.mp (h.conflict.mpr ⟨id, p, hfield⟩)
      have hkept := h.kept id p hfield
      rw [(processJob_spec (result_ackJob (hhttp _) _)).1, henv] at hkept
      exact taken_over_of_quiet q hstore hfield htaken hown hkept
    refine ⟨hnot, fun htaken e hown => Bool.eq_false_iff.mpr fun hword => hnot ?_⟩
    exact h.conflict.mp (hconflict.mpr ⟨htaken, e, hown, hword⟩)
  · rintro ⟨hnot, hword⟩
    have hquiet : ¬Reports .conflict ((processJob a job).run env st).trace := by
      rw [hconflict]
      rintro ⟨htaken, e, hown, he⟩
      exact absurd (he.symm.trans (hword htaken e hown)) (by simp)
    refine ⟨iff_of_false hquiet hnot, fun id p hfield => absurd ⟨id, p, hfield⟩ hnot, ?_⟩
    rintro - ⟨_, he⟩
    rw [result_processJob hhttp] at he
    rw [reports_iff hhttp] at hquiet ⊢
    cases hres : ((a.applyJob job).run env.agent st.agent).result with
    | ok outcome =>
      rw [hres] at he
      exact absurd he (by simp [Except.map])
    | error e =>
      rw [hres] at hquiet
      cases hisc : isConflict e <;> simp_all [resultOf, errorResult]

end quiet

section failing

variable {α β : Type} {text : String} {env : AgentEnv} {st : AgentState} {x : AgentM α}

def FailsWith (text : String) (env : AgentEnv) (st : AgentState) (x : AgentM α) : Prop :=
  ∃ e pre, (x.run env st).result = .error e ∧ e.msg = pre ++ text

theorem FailsWith.bind (h : FailsWith text env st x) (f : α → AgentM β) :
    FailsWith text env st (x >>= f) := by
  obtain ⟨e, pre, he, hmsg⟩ := h
  exact ⟨e, pre, by rw [run_bind_of_error he], hmsg⟩

theorem FailsWith.bind_of_ok {f : α → AgentM β} {v : α} (hx : (x.run env st).result = .ok v)
    (h : FailsWith text env (x.run env st).state (f v)) : FailsWith text env st (x >>= f) := by
  obtain ⟨e, pre, he, hmsg⟩ := h
  exact ⟨e, pre, by rw [run_bind_of_ok hx, Outcome.result_after, he], hmsg⟩

theorem FailsWith.ofExcept_bind {y : Except AgentError α} {f : α → AgentM β} {v : α}
    (hy : y = .ok v) (h : FailsWith text env st (f v)) :
    FailsWith text env st (Prog.ofExcept y >>= f) :=
  .bind_of_ok (by rw [run_ofExcept, hy]) h

theorem FailsWith.mapError {g : AgentError → AgentError} (h : FailsWith text env st x)
    (hg : ∀ e, ∃ pre, (g e).msg = pre ++ e.msg) : FailsWith text env st (x.mapError g) := by
  obtain ⟨e, pre, he, hmsg⟩ := h
  obtain ⟨pre', hwrap⟩ := hg e
  refine ⟨g e, pre' ++ pre, ?_, by rw [hwrap, hmsg, String.append_assoc]⟩
  rw [run_mapError, he]
  rfl

def failing (now : ℕ) (text : String) : AgentEnv where
  now := now
  fault _ := some { msg := text }

variable {now : ℕ}

theorem failsWith_call (s : Site) : FailsWith text (failing now text) st (call s) :=
  ⟨_, "", by rw [AgentM.run_call_of_some rfl], (String.empty_append).symm⟩

theorem failsWith_ensureTargetNamespace {ns : String} (h : trimSpace ns ≠ "") :
    FailsWith text (failing now text) st (ensureTargetNamespace ns) := by
  unfold ensureTargetNamespace
  dsimp only
  rw [if_neg h]
  exact (((failsWith_call _).bind _).mapError fun e => ⟨_, rfl⟩).bind _

theorem run_ensureTargetNamespace_of_blank {ns : String} (h : trimSpace ns = "") :
    (ensureTargetNamespace ns).run env st = ⟨.ok (), st, []⟩ := by
  simp [ensureTargetNamespace, h]

theorem failsWith_patchApply (id : ResourceId) (doc : Fields) :
    FailsWith text (failing now text) st (patchApply id doc) := by
  refine ((failsWith_call _).bind _).mapError fun e => ?_
  split
  · exact ⟨_, rfl⟩
  · exact ⟨_, rfl⟩

theorem failsWith_namespace_patch {ns : String} {id : ResourceId} {doc : Fields}
    (f : Unit → AgentM β) :
    FailsWith text (failing now text) st
      (ensureTargetNamespace ns >>= fun _ => patchApply id doc >>= f) := by
  by_cases hns : trimSpace ns = ""
  · exact .bind_of_ok (by rw [run_ensureTargetNamespace_of_blank hns])
      ((failsWith_patchApply id doc).bind f)
  · exact (failsWith_ensureTargetNamespace hns).bind _

theorem ensureNamespacesForInstance_failing (app : Fields) :
    FailsWith text (failing now text) st (Applier.ensureNamespacesForInstance app) ∨
      (Applier.ensureNamespacesForInstance app).run (failing now text) st = ⟨.ok (), st, []⟩ := by
  unfold Applier.ensureNamespacesForInstance
  by_cases hns : trimSpace (namespaceOf app) = ""
  · have hblank : (ensureTargetNamespace (namespaceOf app)).run (failing now text) st =
        ⟨.ok (), st, []⟩ := run_ensureTargetNamespace_of_blank hns
    by_cases hrelease : trimSpace (nestedString ["spec", "release", "namespace"] app) ≠ "" ∧
        trimSpace (nestedString ["spec", "release", "namespace"] app) ≠ namespaceOf app
    · refine .inl (.bind_of_ok (by rw [hblank]) ?_)
      simp only [if_pos hrelease]
      exact failsWith_ensureTargetNamespace (by rw [trimSpace_trimSpace]; exact hrelease.1)
    · refine .inr ?_
      rw [run_bind, hblank]
      simp only [if_neg hrelease]
      rfl
  · exact .inl ((failsWith_ensureTargetNamespace hns).bind _)

theorem failsWith_carryOut {a : Applier} {job : Job} {id : ResourceId} {doc : Fields}
    (h : a.document job = some (.ok (id, doc))) :
    FailsWith text (failing now text) st (a.carryOut job) := by
  cases Applier.applying_of_document h with
  | manifest hkind _ hdoc =>
    rw [Applier.carryOut, hkind]
    exact .ofExcept_bind hdoc (failsWith_namespace_patch _)
  | ensureInstance hkind _ happ =>
    rw [Applier.carryOut, hkind]
    refine .ofExcept_bind happ ?_
    rw [Applier.realize]
    rcases ensureNamespacesForInstance_failing doc with hfails | hrun
    · exact hfails.bind _
    · exact .bind_of_ok (by rw [hrun]) ((failsWith_patchApply _ _).bind _)
  | requestOperation hkind _ hop =>
    rw [Applier.carryOut, hkind]
    refine .ofExcept_bind hop ?_
    rw [Applier.realize]
    exact failsWith_namespace_patch _

theorem isConflict_of_append {e : AgentError} {pre : String} (h : e.msg = pre ++ "conflict") :
    isConflict e = true := by
  rw [isConflict, h]
  exact contains_append_self pre "conflict"

theorem conflict_of_failing {a : Applier} {store : IdempotencyStore} {job : Job}
    (hstore : a.idempotency = some store) (happlies : (a.document job).isSome = true)
    (hlocal : ¬AnsweredLocally a store job st now) :
    ∃ e, ((a.applyJob job).run (failing now "conflict") st).result = .error e ∧
      isConflict e = true := by
  rw [AnsweredLocally, not_or, not_or] at hlocal
  obtain ⟨hexp, hknown, hbad⟩ := hlocal
  rw [Bool.not_eq_true] at hexp
  have htaken : (trimSpace job.idempotencyKey = "" ∨ st.cache.isSome = true) →
      ((a.precheck job).run (failing now "conflict") st).result = .ok none →
      ∃ e, ((a.applyJob job).run (failing now "conflict") st).result = .error e ∧
        isConflict e = true := by
    intro hcached hpre
    obtain ⟨d, hd⟩ := Option.isSome_iff_exists.mp happlies
    cases d with
    | error e =>
      refine ⟨e, (Applier.applyJob_of_failed hpre (Applier.result_carryOut_of_unreadable hd)).1, ?_⟩
      by_contra hword
      exact hbad ⟨hcached, e, hd, Bool.eq_false_iff.mpr hword⟩
    | ok d =>
      obtain ⟨e, pre, he, hmsg⟩ : FailsWith "conflict" (failing now "conflict")
          ((a.precheck job).run (failing now "conflict") st).state (a.carryOut job) :=
        failsWith_carryOut hd
      exact ⟨e, (Applier.applyJob_of_failed hpre he).1, isConflict_of_append hmsg⟩
  by_cases hkey : trimSpace job.idempotencyKey = ""
  · exact htaken (.inl hkey) (by rw [Applier.run_precheck_of_blank hexp hkey])
  · cases hcache : st.cache with
    | some keys =>
      have hmem : trimSpace job.idempotencyKey ∉ keys := by
        intro hmem
        exact hknown ⟨hkey, by rw [hcache]; exact hmem⟩
      refine htaken (.inr (by rw [hcache]; rfl)) ?_
      rw [Applier.run_precheck_of_key hexp hstore hkey, IdempotencyStore.loaded_of_cache hcache]
      simp [hmem]
    | none =>
      have hns : store.ns ≠ "" := fun hns => hknown ⟨hkey, by rw [hcache]; exact hns⟩
      have hloaded : store.loaded (failing now "conflict") st = .error
          (AgentError.wrap ("get idempotency configmap " ++ store.place ++ ": ")
            { msg := "conflict" }) := by
        rw [IdempotencyStore.loaded, hcache]
        dsimp only
        rw [if_neg hns]
        rfl
      have hpre : ((a.precheck job).run (failing now "conflict") st).result = .error
          (AgentError.wrap "check idempotency key: "
            (AgentError.wrap ("get idempotency configmap " ++ store.place ++ ": ")
              { msg := "conflict" })) := by
        rw [Applier.run_precheck_of_key hexp hstore hkey, hloaded]
      have hmsg : "check idempotency key: " ++ ("get idempotency configmap " ++ store.place ++ ": " ++
          "conflict") = "check idempotency key: " ++ ("get idempotency configmap " ++ store.place ++
            ": ") ++ "conflict" := (String.append_assoc).symm
      exact ⟨_, by rw [Applier.run_applyJob_of_error hpre], isConflict_of_append hmsg⟩

end failing

theorem noop_or_failed_of_local {a : Applier} {store : IdempotencyStore} {job : Job}
    {st : AgentState} {env : AgentEnv} (hstore : a.idempotency = some store)
    (h : AnsweredLocally a store job st env.now) :
    (∃ outcome, ((a.applyJob job).run env st).result = .ok outcome ∧
        outcome.result.outcome = .noop) ∨
      ∃ e, ((a.applyJob job).run env st).result = .error e ∧ isConflict e = false := by
  by_cases hexp : Applier.isExpired job env.now = true
  · have hpre : ((a.precheck job).run env st).result = .ok (some (Applier.expiredOutcome env.now)) :=
      by rw [Applier.run_precheck_of_expired hexp]
    exact .inl ⟨_, by rw [Applier.run_applyJob_of_some hpre], rfl⟩
  · have h := h.resolve_left hexp
    rw [Bool.not_eq_true] at hexp
    have hreplay : ∀ keys, trimSpace job.idempotencyKey ≠ "" → st.cache = some keys →
        trimSpace job.idempotencyKey ∈ keys →
        ∃ outcome, ((a.applyJob job).run env st).result = .ok outcome ∧
          outcome.result.outcome = .noop := by
      intro keys hkey hcache hmem
      have hpre : ((a.precheck job).run env st).result = .ok (some (Applier.replayOutcome env.now)) := by
        rw [Applier.run_precheck_of_key hexp hstore hkey, IdempotencyStore.loaded_of_cache hcache]
        simp [hmem]
      exact ⟨_, by rw [Applier.run_applyJob_of_some hpre], rfl⟩
    rcases h with ⟨hkey, hknown⟩ | ⟨hcached, e, hdoc, hword⟩
    · cases hcache : st.cache with
      | some keys =>
        rw [hcache] at hknown
        exact .inl (hreplay keys hkey hcache hknown)
      | none =>
        rw [hcache] at hknown
        have hpre : ((a.precheck job).run env st).result = .error (AgentError.wrap
            "check idempotency key: " { msg := "idempotency store namespace is required" }) := by
          rw [Applier.run_precheck_of_key hexp hstore hkey, IdempotencyStore.loaded, hcache]
          simp only [hknown, if_true]
        exact .inr ⟨_, by rw [Applier.run_applyJob_of_error hpre],
          not_contains_of_not_mem (by simp [AgentError.wrap])⟩
    · have htaken : ((a.precheck job).run env st).result = .ok none →
          ∃ e, ((a.applyJob job).run env st).result = .error e ∧ isConflict e = false := fun hpre =>
        ⟨e, (Applier.applyJob_of_failed hpre (Applier.result_carryOut_of_unreadable hdoc)).1, hword⟩
      by_cases hkey : trimSpace job.idempotencyKey = ""
      · exact .inr (htaken (by rw [Applier.run_precheck_of_blank hexp hkey]))
      · obtain ⟨keys, hcache⟩ := Option.isSome_iff_exists.mp (hcached.resolve_left hkey)
        by_cases hmem : trimSpace job.idempotencyKey ∈ keys
        · exact .inl (hreplay keys hkey hcache hmem)
        · refine .inr (htaken ?_)
          rw [Applier.run_precheck_of_key hexp hstore hkey, IdempotencyStore.loaded_of_cache hcache]
          simp [hmem]

theorem surfaced_iff (a : Applier) (store : IdempotencyStore) (hstore : a.idempotency = some store)
    (job : Job) (happlies : (a.document job).isSome = true) (st : PollerState) (now : ℕ) :
    (∀ (q : QuietEnv) (env : PollerEnv), env.agent = q.env → (∀ req, env.http req = none) →
      (Surfaced a job env st ↔ ¬Contested a job st.agent ∧
        (Applier.TakenUp store job q.env st.agent →
          ∀ e, Applier.OwnError a job q.env e → isConflict e = false))) ∧
    ((∀ env : PollerEnv, env.agent.now = now → (∀ req, env.http req = none) →
      Surfaced a job env st) ↔
        ¬Contested a job st.agent ∧ AnsweredLocally a store job st.agent now) := by
  refine ⟨fun q env henv hhttp => surfaced_iff_of_quiet q hstore happlies henv hhttp, ?_⟩
  constructor
  · intro h
    let q : QuietEnv := ⟨{ now }, fun _ => rfl, fun _ => rfl⟩
    have hnot : ¬Contested a job st.agent :=
      ((surfaced_iff_of_quiet q hstore happlies rfl fun _ => rfl).mp
        (h { agent := q.env } rfl fun _ => rfl)).1
    refine ⟨hnot, ?_⟩
    by_contra hlocal
    obtain ⟨e, he, hword⟩ := conflict_of_failing hstore happlies hlocal
    refine hnot ((h { agent := failing now "conflict" } rfl fun _ => rfl).conflict.mp ?_)
    rw [reports_iff fun _ => rfl, he, resultOf, errorResult, hword]
    rfl
  · rintro ⟨hnot, hlocal⟩ env rfl hhttp
    rcases noop_or_failed_of_local hstore hlocal with ⟨outcome, hok, hnoop⟩ | ⟨e, he, hword⟩
    · refine ⟨?_, fun id p hfield => absurd ⟨id, p, hfield⟩ hnot, fun _ ⟨e, he⟩ => ?_⟩
      · rw [reports_iff hhttp, hok, resultOf, hnoop]
        simp [hnot]
      · rw [result_processJob hhttp, hok] at he
        exact absurd he (by simp [Except.map])
    · refine ⟨?_, fun id p hfield => absurd ⟨id, p, hfield⟩ hnot, fun _ _ => ?_⟩
      · rw [reports_iff hhttp, he, resultOf, errorResult, hword]
        simp [hnot]
      · rw [reports_iff hhttp, he, resultOf, errorResult, hword]
        rfl

def scaleJob : Job where
  id := "job-3"
  kind := .apply
  payload := bytesOf ("\x7b\"apiVersion\":\"apps/v1\",\"kind\":\"Deployment\"," ++
    "\"metadata\":\x7b\"name\":\"web\"\x7d,\"spec\":\x7b\"replicas\":3\x7d\x7d")
  idempotencyKey := "web@3"

def webDeployment : ResourceId := ⟨"apps", "Deployment", "", "web"⟩

def scaledByHand : PollerState where
  agent := ⟨Store.empty.put ⟨webDeployment, "uid-3", 1,
    Store.empty.put ⟨["spec", "replicas"], .num "5", ["kubectl"]⟩⟩, none⟩

def scaleDocument : Fields :=
  [("apiVersion", .str "apps/v1"), ("kind", .str "Deployment"),
    ("metadata", .obj [("name", .str "web"), ("labels", .obj
      [(managedByKey, .str "control-plane"), (clusterIDKey, .str "cluster-1")])]),
    ("spec", .obj [("replicas", .num "3")])]

def kindlessJob : Job where
  id := "job-4"
  kind := .apply
  payload := bytesOf "\x7b\"metadata\":\x7b\"name\":\"conflict\"\x7d\x7d"

def postedOutcomes (trace : List PollerEvent) : List JobOutcome :=
  trace.filterMap fun
    | .posted _ r => some r.outcome
    | .agent _ => none

theorem surfaced_applied_and_replayed :
    Surfaced systemAgent scaleJob { agent := calm } ⟨⟨Store.empty, none⟩, {}⟩ ∧
      postedOutcomes ((processJob systemAgent scaleJob).run { agent := calm }
        ⟨⟨Store.empty, none⟩, {}⟩).trace = [.succeeded] ∧
      Surfaced systemAgent scaleJob { agent := failing 100 "conflict" }
        ⟨⟨Store.empty, some (KeySet.ofList ["web@3"])⟩, {}⟩ := by
  have hnot : ∀ cache, ¬Contested systemAgent scaleJob ⟨Store.empty, cache⟩ := by
    rintro cache ⟨id, p, doc, o, v, -, hget, -⟩
    exact absurd hget (by simp [Store.get, Store.empty])
  have hdoc : systemAgent.document scaleJob = some (.ok (webDeployment, scaleDocument)) := by
    decide +kernel
  have happlies : (systemAgent.document scaleJob).isSome = true := by rw [hdoc]; rfl
  refine ⟨?_, by decide +kernel, ?_⟩
  · let q : QuietEnv := ⟨calm, fun _ => rfl, fun _ => rfl⟩
    refine ((surfaced_iff systemAgent systemStore rfl scaleJob happlies _ 100).1 q _ rfl
      fun _ => rfl).mpr ⟨hnot none, ?_⟩
    rintro - e (hbad | ⟨-, id, doc, hdoc', hwaits, -⟩)
    · exact absurd (hdoc.symm.trans hbad) (by simp)
    · obtain ⟨rfl, -⟩ := Prod.mk.inj (Except.ok.inj (Option.some.inj (hdoc.symm.trans hdoc')))
      exact absurd hwaits.1 (by decide)
  · refine (surfaced_iff systemAgent systemStore rfl scaleJob happlies _ 100).2.mpr
      ⟨hnot _, .inr (.inl ⟨by decide +kernel, ?_⟩)⟩ _ rfl fun _ => rfl
    exact show trimSpace "web@3" ∈ KeySet.ofList ["web@3"] by decide +kernel

theorem conflict_taken_over_and_misreported :
    (Contested systemAgent scaleJob scaledByHand.agent ∧
      fieldValue scaledByHand.agent.objects webDeployment ["spec", "replicas"] = some (.num "5") ∧
      postedOutcomes ((processJob systemAgent scaleJob).run { agent := calm } scaledByHand).trace =
        [.succeeded] ∧
      fieldValue ((processJob systemAgent scaleJob).run { agent := calm }
        scaledByHand).state.agent.objects webDeployment ["spec", "replicas"] = some (.num "3")) ∧
    (¬Contested systemAgent kindlessJob scaledByHand.agent ∧
      postedOutcomes ((processJob systemAgent kindlessJob).run { agent := calm }
        scaledByHand).trace = [.conflict]) := by
  have hdoc : systemAgent.document scaleJob = some (.ok (webDeployment, scaleDocument)) := by
    decide +kernel
  have hbad : ∀ d, systemAgent.document kindlessJob ≠ some (.ok d) := by
    have herror : (systemAgent.document kindlessJob).any Except.isOk = false := by decide +kernel
    intro d hd
    rw [hd] at herror
    exact absurd herror (by simp [Except.isOk, Except.toBool])
  refine ⟨⟨⟨webDeployment, ["spec", "replicas"], scaleDocument, _, .num "3", hdoc, rfl, ?_, ?_⟩,
    by decide +kernel, by decide +kernel, by decide +kernel⟩, ?_, by decide +kernel⟩
  · exact ⟨[(["metadata", "labels", managedByKey], .str "control-plane"),
      (["metadata", "labels", clusterIDKey], .str "cluster-1")], [], by decide +kernel, by simp⟩
  · decide +kernel
  · rintro ⟨id, p, doc, o, v, hdoc, -⟩
    exact hbad _ hdoc

end VWorkspace.Agent
