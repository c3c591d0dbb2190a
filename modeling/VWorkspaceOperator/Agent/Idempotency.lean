import VWorkspaceOperator.Agent.Api

/-!
# The idempotency store

The store remembers the idempotency keys of applied jobs in a ConfigMap, as one
JSON list, and in a cache that is loaded once in the life of a process.  `Record`
puts a key into the cache first and writes the whole cache out then; when writing
fails the key stays in the cache.
-/

namespace VWorkspace.Agent

open Kit Prog AgentM

def defaultIdempotencyConfigMap : String := "vworkspace-applied-jobs"

/-- The field that holds the keys: the entry `applied-keys.json` of the data. -/
def keysPath : FieldPath := ["data", "applied-keys.json"]

structure IdempotencyStore where
  ns : String
  name : String := ""
  deriving DecidableEq, Repr

namespace IdempotencyStore

def configMap (s : IdempotencyStore) : ResourceId where
  group := ""
  kind := "ConfigMap"
  ns := s.ns
  name := if s.name = "" then defaultIdempotencyConfigMap else s.name

/-- The namespace and the name of the ConfigMap, as errors print them. -/
def place (s : IdempotencyStore) : String := s.ns ++ "/" ++ s.configMap.name

/-- The keys a ConfigMap holds; an absent one holds none. -/
def decodeKeys : Option ApiObject → Except AgentError KeySet
  | none => .ok .empty
  | some cm =>
      let raw := cm.text keysPath
      if trimSpace raw ≠ "" then
        match unmarshalStrings (bytesOf raw) with
        | .ok keys => .ok (.ofList keys)
        | .error msg => .error { msg := "decode idempotency keys: " ++ msg }
      else .ok .empty

def ensureLoaded (s : IdempotencyStore) : AgentM KeySet := do
  let st ← Prog.get
  match st.cache with
  | some keys => pure keys
  | none =>
      if s.ns = "" then Prog.throw { msg := "idempotency store namespace is required" }
      else
        let cm ← (getObject .loadKeys s.configMap).mapError
          (·.wrap ("get idempotency configmap " ++ s.place ++ ": "))
        let keys ← Prog.ofExcept (decodeKeys cm)
        Prog.modify fun st => { st with cache := some keys }
        pure keys

/-- The `CreateOrUpdate` of `persistLocked`: an update only if the text changes. -/
def writeKeys (s : IdempotencyStore) (raw : String) : AgentM Unit := do
  match ← getObject .persistGet s.configMap with
  | none => createObject .persistCreate s.configMap [(keysPath, .str raw)]
  | some cm =>
      if cm.fields.value keysPath = some (.str raw) then pure ()
      else updateField .persistUpdate s.configMap keysPath (.str raw)

/-- `persistLocked`: write the keys out, in the order the map gives them. -/
def persistLocked (s : IdempotencyStore) (keys : KeySet) : AgentM Unit := do
  let env ← Prog.ask
  (s.writeKeys (marshalStrings (env.order.list keys.keys))).mapError
    (·.wrap ("persist idempotency configmap " ++ s.place ++ ": "))

def contains (s : IdempotencyStore) (key : String) : AgentM Bool := do
  if trimSpace key = "" then pure false
  else
    let keys ← s.ensureLoaded
    pure (decide (trimSpace key ∈ keys))

/-- `Record`: the key is in the cache before it is written. -/
def record (s : IdempotencyStore) (key : String) : AgentM Unit := do
  if trimSpace key = "" then pure ()
  else
    let keys ← s.ensureLoaded
    if trimSpace key ∈ keys then pure ()
    else
      Prog.modify fun st => { st with cache := some (keys.add key) }
      s.persistLocked (keys.add key)

variable {s : IdempotencyStore} {env : AgentEnv} {st : AgentState} {key : String} {keys : KeySet}
  {e : AgentError}

def persisted (s : IdempotencyStore) (objects : Store ApiObject) : Except AgentError KeySet :=
  decodeKeys (objects.get s.configMap)

def savedKeys (s : IdempotencyStore) (objects : Store ApiObject) : List String :=
  match s.persisted objects with
  | .ok saved => saved.keys
  | .error _ => []

theorem savedKeys_of_ok {objects : Store ApiObject} (h : s.persisted objects = .ok keys) :
    s.savedKeys objects = keys.keys := by
  rw [savedKeys, h]

/-- The keys a call of the store works with: the cache, or what it loads. -/
def loaded (s : IdempotencyStore) (env : AgentEnv) (st : AgentState) : Except AgentError KeySet :=
  match st.cache with
  | some keys => .ok keys
  | none =>
      if s.ns = "" then .error { msg := "idempotency store namespace is required" }
      else
        match env.fault .loadKeys with
        | some f => .error (f.error.wrap ("get idempotency configmap " ++ s.place ++ ": "))
        | none => s.persisted st.objects

theorem loaded_of_cache (h : st.cache = some keys) : s.loaded env st = .ok keys := by
  rw [loaded, h]

theorem persisted_of_loaded (hcache : st.cache = none) (h : s.loaded env st = .ok keys) :
    s.persisted st.objects = .ok keys := by
  rw [loaded, hcache] at h
  dsimp only at h
  split at h
  · exact absurd h (by simp)
  · split at h
    · exact absurd h (by simp)
    · exact h

theorem run_ensureLoaded :
    s.ensureLoaded.run env st =
      match s.loaded env st with
      | .ok keys => ⟨.ok keys, { st with cache := some keys }, []⟩
      | .error e => ⟨.error e, st, []⟩ := by
  obtain ⟨objects, cache⟩ := st
  cases cache with
  | some keys => rfl
  | none =>
    unfold ensureLoaded loaded
    simp only [run_bind, run_get]
    split
    · rfl
    · cases hf : env.fault .loadKeys with
      | some f =>
        simp only [run_bind, run_mapError, run_getObject_of_some hf]
        rfl
      | none =>
        simp only [run_bind, run_mapError, run_getObject_of_none hf, persisted]
        cases hkeys : decodeKeys (objects.get s.configMap) with
        | error e => simp [Except.mapError, hkeys, Outcome.after]
        | ok keys => simp [Except.mapError, hkeys, Outcome.after]

theorem run_ensureLoaded_of_ok (h : s.loaded env st = .ok keys) :
    s.ensureLoaded.run env st = ⟨.ok keys, { st with cache := some keys }, []⟩ := by
  rw [run_ensureLoaded, h]

theorem run_ensureLoaded_of_error (h : s.loaded env st = .error e) :
    s.ensureLoaded.run env st = ⟨.error e, st, []⟩ := by
  rw [run_ensureLoaded, h]

theorem run_contains_of_blank (hkey : trimSpace key = "") :
    (s.contains key).run env st = ⟨.ok false, st, []⟩ := by
  rw [contains, if_pos hkey]
  rfl

theorem run_contains_of_ok (hkey : trimSpace key ≠ "") (h : s.loaded env st = .ok keys) :
    (s.contains key).run env st =
      ⟨.ok (decide (trimSpace key ∈ keys)), { st with cache := some keys }, []⟩ := by
  rw [contains, if_neg hkey, run_bind, run_ensureLoaded_of_ok h]
  rfl

theorem run_contains_of_error (hkey : trimSpace key ≠ "") (h : s.loaded env st = .error e) :
    (s.contains key).run env st = ⟨.error e, st, []⟩ := by
  rw [contains, if_neg hkey, run_bind, run_ensureLoaded_of_error h]

theorem run_record_of_blank (hkey : trimSpace key = "") :
    (s.record key).run env st = ⟨.ok (), st, []⟩ := by
  rw [record, if_pos hkey]
  rfl

theorem run_record_of_error (hkey : trimSpace key ≠ "") (h : s.loaded env st = .error e) :
    (s.record key).run env st = ⟨.error e, st, []⟩ := by
  rw [record, if_neg hkey, run_bind, run_ensureLoaded_of_error h]

theorem run_record_of_mem (hkey : trimSpace key ≠ "") (h : s.loaded env st = .ok keys)
    (hmem : trimSpace key ∈ keys) :
    (s.record key).run env st = ⟨.ok (), { st with cache := some keys }, []⟩ := by
  rw [record, if_neg hkey, run_bind, run_ensureLoaded_of_ok h]
  dsimp only
  rw [if_pos hmem]
  rfl

theorem run_record_of_not_mem (hkey : trimSpace key ≠ "") (h : s.loaded env st = .ok keys)
    (hmem : trimSpace key ∉ keys) :
    (s.record key).run env st =
      (s.persistLocked (keys.add key)).run env { st with cache := some (keys.add key) } := by
  rw [record, if_neg hkey, run_bind, run_ensureLoaded_of_ok h]
  dsimp only
  rw [if_neg hmem]
  rfl

theorem decodeKeys_of_value {cm : ApiObject} {ks : List String}
    (h : cm.fields.value keysPath = some (.str (marshalStrings ks))) :
    decodeKeys (some cm) = .ok (.ofList ks) := by
  have htext : cm.text keysPath = marshalStrings ks := by rw [ApiObject.text, h]
  have hne : trimSpace (marshalStrings ks) ≠ "" := by
    rw [Ne, trimSpace_eq_empty_iff]
    intro hblank
    have hopen := hblank '[' (by rw [marshalStrings, String.toList_ofList]; simp)
    exact absurd hopen (by decide)
  simp only [decodeKeys, htext, if_pos hne, unmarshalStrings_marshalStrings]

theorem createObject_cases (env : AgentEnv) (st : AgentState) (raw : String) (id : ResourceId) :
    (∃ e, (createObject .persistCreate id [(keysPath, .str raw)]).run env st =
        ⟨.error e, st, []⟩) ∨
      ∃ cm r, cm.id = id ∧ cm.fields.value keysPath = some (.str raw) ∧
        (createObject .persistCreate id [(keysPath, .str raw)]).run env st =
          ⟨r, (AgentEvent.created cm).act st, [.created cm]⟩ := by
  unfold createObject
  cases hf : env.fault .persistCreate with
  | some f =>
    rw [run_bind, run_call_of_some hf]
    exact .inl ⟨_, rfl⟩
  | none =>
    simp only [run_bind, run_call_of_none hf, run_get, run_ask]
    cases hget : st.objects.get id with
    | some o => exact .inl ⟨_, rfl⟩
    | none => exact .inr ⟨_, _, rfl, value_applyField clientManager Store.empty _ _, rfl⟩

theorem updateField_cases (env : AgentEnv) (st : AgentState) (raw : String) (id : ResourceId) :
    (∃ e, (updateField .persistUpdate id keysPath (.str raw)).run env st = ⟨.error e, st, []⟩) ∨
      ∃ cm r, cm.id = id ∧ cm.fields.value keysPath = some (.str raw) ∧
        (updateField .persistUpdate id keysPath (.str raw)).run env st =
          ⟨r, (AgentEvent.updated cm).act st, [.updated cm]⟩ := by
  unfold updateField
  cases hf : env.fault .persistUpdate with
  | some f =>
    rw [run_bind, run_call_of_some hf]
    exact .inl ⟨_, rfl⟩
  | none =>
    simp only [run_bind, run_call_of_none hf, run_get]
    cases hget : st.objects.get id with
    | none => exact .inl ⟨_, rfl⟩
    | some o =>
      have hid : o.id = id := Store.key_of_get hget
      refine .inr ⟨o.withFields (applyField clientManager o.fields (keysPath, .str raw)), _, hid, ?_,
        rfl⟩
      exact value_applyField clientManager o.fields _ _

theorem writeKeys_cases (env : AgentEnv) (st : AgentState) (raw : String) :
    (∃ e, (s.writeKeys raw).run env st = ⟨.error e, st, []⟩) ∨
      ∃ r objects' t, (s.writeKeys raw).run env st = ⟨r, { st with objects := objects' }, t⟩ ∧
        ∃ cm, objects'.get s.configMap = some cm ∧
          cm.fields.value keysPath = some (.str raw) := by
  unfold writeKeys
  cases hf : env.fault .persistGet with
  | some f =>
    rw [run_bind, run_getObject_of_some hf]
    exact .inl ⟨_, rfl⟩
  | none =>
    rw [run_bind, run_getObject_of_none hf]
    cases hget : st.objects.get s.configMap with
    | none =>
      rcases createObject_cases env st raw s.configMap with ⟨e, he⟩ | ⟨cm, r, hid, hvalue, hrun⟩
      · exact .inl ⟨e, congrArg (Outcome.after []) he⟩
      · refine .inr ⟨r, _, _, congrArg (Outcome.after []) hrun, cm, ?_, hvalue⟩
        rw [← hid]
        exact Store.get_put_self _ _
    | some cm =>
      by_cases hsame : cm.fields.value keysPath = some (.str raw)
      · dsimp only
        rw [if_pos hsame]
        exact .inr ⟨_, st.objects, _, rfl, cm, hget, hsame⟩
      · dsimp only
        rw [if_neg hsame]
        rcases updateField_cases env st raw s.configMap with ⟨e, he⟩ | ⟨cm', r, hid, hvalue, hrun⟩
        · exact .inl ⟨e, congrArg (Outcome.after []) he⟩
        · refine .inr ⟨r, _, _, congrArg (Outcome.after []) hrun, cm', ?_, hvalue⟩
          rw [← hid]
          exact Store.get_put_self _ _

theorem persistLocked_cases (env : AgentEnv) (st : AgentState) (keys : KeySet) :
    (∃ e, (s.persistLocked keys).run env st = ⟨.error e, st, []⟩) ∨
      ∃ r objects' t, (s.persistLocked keys).run env st =
          ⟨r, { st with objects := objects' }, t⟩ ∧
        ∃ keys', s.persisted objects' = .ok keys' ∧ ∀ k, k ∈ keys' ↔ k ∈ keys := by
  have hrun : (s.persistLocked keys).run env st =
      ((s.writeKeys (marshalStrings (env.order.list keys.keys))).mapError
        (·.wrap ("persist idempotency configmap " ++ s.place ++ ": "))).run env st := rfl
  rw [hrun]
  rcases writeKeys_cases (s := s) env st (marshalStrings (env.order.list keys.keys)) with
    ⟨e, he⟩ | ⟨r, objects', t, hwrite, cm, hget, hvalue⟩
  · rw [run_mapError, he]
    exact .inl ⟨_, rfl⟩
  · rw [run_mapError, hwrite]
    refine .inr ⟨_, objects', t, rfl, .ofList (env.order.list keys.keys), ?_, fun k => ?_⟩
    · rw [persisted, hget, decodeKeys_of_value hvalue]
    · -- the order of the keys does not matter, and they are trimmed already
      have hperm := env.order.perm keys.keys
      rw [KeySet.mem_ofList_of_normal fun k hk => keys.normal k (hperm.mem_iff.mp hk)]
      exact hperm.mem_iff

theorem actsOn_persistLocked (keys : KeySet) : ActsOn (· = s.configMap) (s.persistLocked keys) := by
  refine .bind (.of_idle Idle.ask) fun env => ActsOn.mapError (.bind (actsOn_getObject _) fun cm => ?_)
  cases cm with
  | none => exact actsOn_createObject _ _
  | some cm =>
    dsimp only
    split
    · exact .of_idle (Idle.pure _)
    · exact actsOn_updateField _ _ _

theorem get_record_of_ne {id : ResourceId} (h : id ≠ s.configMap) :
    ((s.record key).run env st).state.objects.get id = st.objects.get id := by
  by_cases hkey : trimSpace key = ""
  · rw [run_record_of_blank hkey]
  · cases hloaded : s.loaded env st with
    | error e => rw [run_record_of_error hkey hloaded]
    | ok keys =>
      by_cases hmem : trimSpace key ∈ keys
      · rw [run_record_of_mem hkey hloaded hmem]
      · rw [run_record_of_not_mem hkey hloaded hmem]
        exact (actsOn_persistLocked _).get h

/-- What `Record` can do with a key: the keys cannot be loaded, and nothing happens;
the key is known, and nothing more happens; or it is new, and is in the cache from
then on whether or not it is written out, and whatever is answered. -/
inductive Recorded (s : IdempotencyStore) (env : AgentEnv) (st : AgentState) (key : String) :
    Outcome AgentState AgentEvent AgentError Unit → Prop
  | unreadable (e : AgentError) (hloaded : s.loaded env st = .error e) :
      Recorded s env st key ⟨.error e, st, []⟩
  | known (keys : KeySet) (hloaded : s.loaded env st = .ok keys) (hmem : trimSpace key ∈ keys) :
      Recorded s env st key ⟨.ok (), { st with cache := some keys }, []⟩
  | unsaved (keys : KeySet) (hloaded : s.loaded env st = .ok keys) (hnew : trimSpace key ∉ keys)
      (e : AgentError) :
      Recorded s env st key ⟨.error e, { st with cache := some (keys.add key) }, []⟩
  | saved (keys : KeySet) (hloaded : s.loaded env st = .ok keys) (hnew : trimSpace key ∉ keys)
      (r : Except AgentError Unit) (objects : Store ApiObject) (trace : List AgentEvent)
      (written : KeySet) (hwritten : s.persisted objects = .ok written)
      (hmem : ∀ k, k ∈ written ↔ k ∈ keys.add key) :
      Recorded s env st key ⟨r, ⟨objects, some (keys.add key)⟩, trace⟩

theorem record_spec (env : AgentEnv) (st : AgentState) (hkey : trimSpace key ≠ "") :
    Recorded s env st key ((s.record key).run env st) := by
  cases hloaded : s.loaded env st with
  | error e =>
    rw [run_record_of_error hkey hloaded]
    exact .unreadable e hloaded
  | ok keys =>
    by_cases hmem : trimSpace key ∈ keys
    · rw [run_record_of_mem hkey hloaded hmem]
      exact .known keys hloaded hmem
    · rw [run_record_of_not_mem hkey hloaded hmem]
      rcases persistLocked_cases env { st with cache := some (keys.add key) } (keys.add key) with
        ⟨e, he⟩ | ⟨r, objects, trace, hrun, written, hwritten, hiff⟩
      · rw [he]
        exact .unsaved keys hloaded hmem e
      · rw [hrun]
        exact .saved keys hloaded hmem r objects trace written hwritten hiff

end IdempotencyStore

end VWorkspace.Agent
