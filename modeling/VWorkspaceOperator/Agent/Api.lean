import VWorkspaceOperator.Kit.JsonEncode
import VWorkspaceOperator.Kit.Rules
import VWorkspaceOperator.Kit.ServerSideApply

/-!
# The cluster as the agent sees it

The agent applies jobs of any kind, so its API server is a store of objects of
arbitrary kinds, each a set of fields with their managers.  As in the controller's
cluster, every call site may fail on its own, a failed call has no effect, and
"not found" is the answer of an empty place in the store.

What an agent keeps in memory is the cache of its idempotency store, a set of keys
that are trimmed and not blank; a restart loses it.  The trace of a program lists
what it did to the cluster.
-/

namespace VWorkspace.Agent

open Kit

structure ResourceId where
  group : String
  kind : String
  ns : String
  name : String
  deriving DecidableEq, Repr

abbrev FieldPath := List String

abbrev ObjectFields := FieldSet FieldPath Json String

structure ApiObject where
  id : ResourceId
  uid : String
  generation : ℕ
  fields : ObjectFields

instance : Keyed ApiObject ResourceId := ⟨ApiObject.id⟩

def ApiObject.text (o : ApiObject) (path : FieldPath) : String :=
  match o.fields.value path with
  | some (.str s) => s
  | _ => ""

/-- The paths of the fields that name an object.  Nobody owns them. -/
def identityPaths : List FieldPath :=
  [["apiVersion"], ["kind"], ["metadata", "name"], ["metadata", "namespace"]]

def configOf (doc : Fields) : List (FieldPath × Json) :=
  (leavesOf [] doc).filter fun setting => setting.1 ∉ identityPaths

def desired (fields : ObjectFields) : List (FieldPath × Json) :=
  (fields.items.map fun f => (f.path, f.value)).filter fun setting =>
    setting.1.head? ≠ some "metadata" ∧ setting.1.head? ≠ some "status"

def ApiObject.withFields (o : ApiObject) (fields : ObjectFields) : ApiObject :=
  { o with
    fields := fields
    generation := if desired fields = desired o.fields then o.generation else o.generation + 1 }

@[simp] theorem ApiObject.id_withFields (o : ApiObject) (fields : ObjectFields) :
    (o.withFields fields).id = o.id := rfl

@[simp] theorem ApiObject.fields_withFields (o : ApiObject) (fields : ObjectFields) :
    (o.withFields fields).fields = fields := rfl

@[simp] theorem ApiObject.keyed_key (o : ApiObject) : (Keyed.key o : ResourceId) = o.id := rfl

inductive Reason where
  | notFound
  | alreadyExists
  | conflict
  | forbidden
  | other
  deriving DecidableEq, Repr

/-- An error: the reason of the API error it wraps, and its text. -/
structure AgentError where
  reason : Reason := .other
  msg : String
  deriving DecidableEq, Repr

/-- `fmt.Errorf` with a leading text and the error wrapped. -/
def AgentError.wrap (pre : String) (e : AgentError) : AgentError := { e with msg := pre ++ e.msg }

/-- The reasons for which a call fails whatever the store holds. -/
inductive FailureKind where
  | conflict
  | forbidden
  | other
  deriving DecidableEq, Repr

structure Failure where
  kind : FailureKind := .other
  msg : String
  deriving DecidableEq, Repr

def Failure.error (f : Failure) : AgentError where
  reason :=
    match f.kind with
    | .conflict => .conflict
    | .forbidden => .forbidden
    | .other => .other
  msg := f.msg

inductive JobKind where
  | apply
  | delete
  | intent
  | other (text : String)
  deriving DecidableEq, Repr

structure Job where
  id : String
  kind : JobKind
  payload : Bytes
  idempotencyKey : String := ""
  expiresAt : Option ℕ := none
  deriving DecidableEq, Repr

inductive JobOutcome where
  | succeeded
  | failed
  | noop
  | conflict
  deriving DecidableEq, Repr

structure AppliedRef where
  apiVersion : String
  kind : String
  ns : String
  name : String
  uid : String := ""
  generation : ℕ := 0
  deriving DecidableEq, Repr

structure JobResult where
  outcome : JobOutcome
  error : String := ""
  appliedRef : Option AppliedRef := none
  timestamp : ℕ
  deriving DecidableEq, Repr

structure ApplyOutcome where
  result : JobResult
  idempotent : Bool := false
  deriving DecidableEq, Repr

/-- A set of idempotency keys, as the store keeps them: trimmed, and none blank. -/
structure KeySet where
  keys : List String
  nodup : keys.Nodup
  normal : ∀ k ∈ keys, k ≠ "" ∧ trimSpace k = k

namespace KeySet

variable {k : String}

instance : Membership String KeySet := ⟨fun c k => k ∈ c.keys⟩

theorem mem_def {c : KeySet} : k ∈ c ↔ k ∈ c.keys := Iff.rfl

instance (k : String) (c : KeySet) : Decidable (k ∈ c) := inferInstanceAs (Decidable (k ∈ c.keys))

def empty : KeySet := ⟨[], List.nodup_nil, by simp⟩

@[simp] theorem not_mem_empty (k : String) : k ∉ empty := List.not_mem_nil

def add (c : KeySet) (key : String) : KeySet :=
  if h : trimSpace key = "" ∨ trimSpace key ∈ c.keys then c
  else
    { keys := c.keys ++ [trimSpace key]
      nodup := by
        rw [List.nodup_append]
        refine ⟨c.nodup, List.nodup_singleton _, ?_⟩
        rintro k hk _ hk' rfl
        rw [List.mem_singleton] at hk'
        exact h (.inr (hk' ▸ hk))
      normal := by
        intro k hk
        rcases List.mem_append.mp hk with hk | hk
        · exact c.normal k hk
        · rw [List.mem_singleton] at hk
          subst hk
          exact ⟨fun he => h (.inl he), trimSpace_trimSpace key⟩ }

theorem mem_add {c : KeySet} {key : String} :
    k ∈ c.add key ↔ k ∈ c ∨ k = trimSpace key ∧ k ≠ "" := by
  unfold add
  split
  · next h =>
    refine ⟨.inl, ?_⟩
    rintro (hk | ⟨rfl, hne⟩)
    · exact hk
    · exact h.resolve_left hne
  · next h =>
    simp only [mem_def, List.mem_append, List.mem_singleton, not_or] at h ⊢
    refine or_congr_right ⟨fun hk => ⟨hk, hk ▸ h.1⟩, And.left⟩

def ofList (keys : List String) : KeySet := keys.foldl add empty

theorem mem_ofList {keys : List String} :
    k ∈ ofList keys ↔ k ≠ "" ∧ ∃ key ∈ keys, trimSpace key = k := by
  have hfold : ∀ c : KeySet,
      k ∈ keys.foldl add c ↔ k ∈ c ∨ k ≠ "" ∧ ∃ key ∈ keys, trimSpace key = k := by
    induction keys with
    | nil => simp
    | cons key keys ih =>
      intro c
      rw [List.foldl_cons, ih, mem_add]
      simp only [List.mem_cons, exists_eq_or_imp]
      rw [or_assoc, and_or_left, and_comm, eq_comm]
  rw [ofList, hfold]
  simp

theorem mem_ofList_of_normal {keys : List String} (h : ∀ k ∈ keys, k ≠ "" ∧ trimSpace k = k) :
    k ∈ ofList keys ↔ k ∈ keys := by
  rw [mem_ofList]
  constructor
  · rintro ⟨-, key, hkey, rfl⟩
    rwa [(h key hkey).2]
  · exact fun hk => ⟨(h k hk).1, k, hk, (h k hk).2⟩

end KeySet

inductive Site where
  | loadKeys
  | persistGet
  | persistCreate
  | persistUpdate
  | getNamespace (name : String)
  | createNamespace (name : String)
  | patch
  | getApplied
  | getInstance
  | delete
  deriving DecidableEq, Repr

inductive AgentEvent where
  | created (o : ApiObject)
  | updated (o : ApiObject)
  | patched (o : ApiObject)
  | marked (o : ApiObject)
  | deleted (id : ResourceId)

/-- An order in which Go may walk through the keys of a map. -/
structure MapOrder where
  list : List String → List String
  perm : ∀ keys, (list keys).Perm keys

def MapOrder.insertion : MapOrder := ⟨id, fun _ => .refl _⟩

/-- One look of the agent at an object it waits for: what it reads, what the clock
shows then, and whether the agent is stopped before it looks again. -/
structure Poll where
  answer : Except Failure ApiObject
  now : ℕ
  cancelled : Bool := false

/-- What a program of the agent depends on besides its state. -/
structure AgentEnv where
  /-- The clock when the job is taken up. -/
  now : ℕ
  /-- The failure a call site meets, if any. -/
  fault : Site → Option Failure := fun _ => none
  /-- The failure a call site reports though the call took effect, if any. -/
  lost : Site → Option Failure := fun _ => none
  /-- The order in which the keys are written. -/
  order : MapOrder := .insertion
  /-- The UID the server gives to a new object. -/
  newUid : String := ""
  /-- The clock when the agent starts to wait for an object. -/
  waitFrom : ℕ := now
  /-- The looks at the object the agent waits for. -/
  polls : List Poll := []

structure AgentState where
  objects : Store ApiObject
  /-- The loaded keys of the idempotency store. -/
  cache : Option KeySet := none

def AgentState.cachedKeys (st : AgentState) : List String := (st.cache.map KeySet.keys).getD []

abbrev AgentM := Prog AgentEnv AgentState AgentEvent AgentError

def AgentEvent.apply : AgentEvent → Store ApiObject → Store ApiObject
  | .created o, s => s.put o
  | .updated o, s => s.put o
  | .patched o, s => s.put o
  | .marked o, s => s.put o
  | .deleted id, s => s.erase id

def AgentEvent.act (e : AgentEvent) (st : AgentState) : AgentState :=
  { st with objects := e.apply st.objects }

def AgentEvent.id : AgentEvent → ResourceId
  | .created o => o.id
  | .updated o => o.id
  | .patched o => o.id
  | .marked o => o.id
  | .deleted id => id

theorem get_apply_of_ne {e : AgentEvent} {id : ResourceId} (h : e.id ≠ id) (s : Store ApiObject) :
    (e.apply s).get id = s.get id := by
  cases e with
  | created o => exact Store.get_put_of_ne (Ne.symm h)
  | updated o => exact Store.get_put_of_ne (Ne.symm h)
  | patched o => exact Store.get_put_of_ne (Ne.symm h)
  | marked o => exact Store.get_put_of_ne (Ne.symm h)
  | deleted id' => exact Store.get_erase_of_ne (Ne.symm h)

/-- The trace of the program tells all it did: it changes the cluster by its events,
which are about the objects in `E` only, and the cache not at all. -/
structure ActsOn {α : Type} (E : ResourceId → Prop) (x : AgentM α) : Prop where
  journaled : Prog.Logged id AgentEvent.act x
  within : ∀ env st, ∀ e ∈ (x.run env st).trace, E e.id

namespace ActsOn

variable {α β : Type} {E E' : ResourceId → Prop} {x : AgentM α} {env : AgentEnv} {st : AgentState}

theorem of_idle (h : Prog.Idle x) : ActsOn E x :=
  ⟨.of_idle h, fun env st e he => absurd he (by simp [(h env st).2])⟩

theorem bind {f : α → AgentM β} (hx : ActsOn E x) (hf : ∀ a, ActsOn E (f a)) :
    ActsOn E (x >>= f) := by
  refine ⟨hx.journaled.bind fun a => (hf a).journaled, fun env st e he => ?_⟩
  rcases Prog.mem_trace_bind.mp he with he | ⟨a, -, he⟩
  · exact hx.within env st e he
  · exact (hf a).within env _ e he

theorem mapError {f : AgentError → AgentError} (hx : ActsOn E x) : ActsOn E (x.mapError f) :=
  ⟨hx.journaled.mapError, hx.within⟩

theorem attempt (hx : ActsOn E x) : ActsOn E x.attempt := ⟨hx.journaled.attempt, hx.within⟩

theorem ofExcept_bind {y : Except AgentError α} {f : α → AgentM β}
    (hf : ∀ a, y = .ok a → ActsOn E (f a)) : ActsOn E (Prog.ofExcept y >>= f) := by
  cases y with
  | error e => exact of_idle fun _ _ => ⟨rfl, rfl⟩
  | ok a => exact ⟨(hf a rfl).journaled, (hf a rfl).within⟩

theorem mono (hx : ActsOn E x) (h : ∀ id, E id → E' id) : ActsOn E' x :=
  ⟨hx.journaled, fun env st e he => h _ (hx.within env st e he)⟩

theorem cache (hx : ActsOn E x) : (x.run env st).state.cache = st.cache := by
  have hstate := hx.journaled env st
  rw [id_eq, id_eq] at hstate
  rw [hstate]
  exact Prog.replay_invariant (I := fun st' : AgentState => st'.cache = st.cache)
    (fun _ _ _ h => h) rfl

theorem get (hx : ActsOn E x) {id : ResourceId} (hid : ¬E id) :
    (x.run env st).state.objects.get id = st.objects.get id := by
  have hstate := hx.journaled env st
  rw [id_eq, id_eq] at hstate
  rw [hstate]
  refine Prog.replay_invariant (I := fun st' : AgentState => st'.objects.get id = st.objects.get id)
    (fun e he st' h => ?_) rfl
  have hne : e.id ≠ id := fun heq => hid (heq ▸ hx.within env st e he)
  exact (get_apply_of_ne hne st'.objects).trans h

end ActsOn

namespace AgentM

/-- An API call that does nothing yet: it fails if its site does. -/
def call (s : Site) : AgentM Unit where
  run env st :=
    match env.fault s with
    | none => ⟨.ok (), st, []⟩
    | some f => ⟨.error f.error, st, []⟩

def settle (s : Site) (e : AgentEvent) : AgentM Unit where
  run env st :=
    let answer := match env.lost s with
      | none => .ok ()
      | some f => .error f.error
    ⟨answer, e.act st, [e]⟩

def getObject (s : Site) (id : ResourceId) : AgentM (Option ApiObject) := do
  call s
  let st ← Prog.get
  pure (st.objects.get id)

def notFound (id : ResourceId) : AgentError where
  reason := .notFound
  msg := id.kind ++ " " ++ goQuote id.name ++ " not found"

def alreadyExists (id : ResourceId) : AgentError where
  reason := .alreadyExists
  msg := id.kind ++ " " ++ goQuote id.name ++ " already exists"

/-- The manager of the fields the client sets by creating or updating. -/
def clientManager : String := "manager"

def createObject (s : Site) (id : ResourceId) (settings : List (FieldPath × Json)) :
    AgentM Unit := do
  call s
  let st ← Prog.get
  let env ← Prog.ask
  match st.objects.get id with
  | some _ => Prog.throw (alreadyExists id)
  | none =>
      settle s (.created ⟨id, env.newUid, 1, settings.foldl (applyField clientManager) Store.empty⟩)

def updateField (s : Site) (id : ResourceId) (path : FieldPath) (v : Json) : AgentM Unit := do
  call s
  let st ← Prog.get
  match st.objects.get id with
  | none => Prog.throw (notFound id)
  | some o => settle s (.updated (o.withFields (applyField clientManager o.fields (path, v))))

/-- `Patch` with `client.Apply`: server-side apply of a configuration. -/
def applyObject (s : Site) (id : ResourceId) (force : Bool) (manager : String)
    (config : List (FieldPath × Json)) : AgentM Unit := do
  call s
  let st ← Prog.get
  let env ← Prog.ask
  let o := (st.objects.get id).getD ⟨id, env.newUid, 1, Store.empty⟩
  match applyConfig force manager config o.fields with
  | .ok fields =>
      settle s (.patched (if (st.objects.get id).isSome then o.withFields fields
        else { o with fields }))
  | .error contested =>
      let n := toString contested.length
      Prog.throw ⟨.conflict, "Apply failed with " ++ n ++ " conflicts"⟩

/-- `Delete`: an object with finalizers is marked, any other goes. -/
def deleteObject (s : Site) (id : ResourceId) : AgentM Unit := do
  call s
  let st ← Prog.get
  let env ← Prog.ask
  match st.objects.get id with
  | none => Prog.throw (notFound id)
  | some o =>
      match o.fields.value ["metadata", "finalizers"] with
      | some (.arr (_ :: _)) =>
          let marked := applyField clientManager o.fields
            (["metadata", "deletionTimestamp"], .num (toString env.now))
          settle s (.marked (o.withFields marked))
      | _ => settle s (.deleted id)

section calls

variable {env : AgentEnv} {st : AgentState} {s : Site} (id : ResourceId)

theorem run_call_of_none (h : env.fault s = none) : (call s).run env st = ⟨.ok (), st, []⟩ := by
  simp only [call, h]

theorem run_call_of_some {f : Failure} (h : env.fault s = some f) :
    (call s).run env st = ⟨.error f.error, st, []⟩ := by
  simp only [call, h]

theorem idle_call : Prog.Idle (call s) := by
  intro env st
  cases h : env.fault s with
  | none => rw [run_call_of_none h]; exact ⟨rfl, rfl⟩
  | some f => rw [run_call_of_some h]; exact ⟨rfl, rfl⟩

theorem idle_getObject : Prog.Idle (getObject s id) :=
  idle_call.bind fun _ => Prog.Idle.get.bind fun _ => Prog.Idle.pure _

theorem run_getObject_of_none (h : env.fault s = none) (id : ResourceId) :
    (getObject s id).run env st = ⟨.ok (st.objects.get id), st, []⟩ := by
  rw [getObject, Prog.run_bind_of_ok (congrArg Outcome.result (run_call_of_none h)),
    run_call_of_none h]
  rfl

theorem run_getObject_of_some {f : Failure} (h : env.fault s = some f) (id : ResourceId) :
    (getObject s id).run env st = ⟨.error f.error, st, []⟩ := by
  rw [getObject, Prog.run_bind_of_error (congrArg Outcome.result (run_call_of_some h)),
    run_call_of_some h]

theorem actsOn_settle {E : ResourceId → Prop} {e : AgentEvent} (h : E e.id) :
    ActsOn E (settle s e) := by
  refine ⟨fun _ _ => rfl, fun env st e' he' => ?_⟩
  rw [List.mem_singleton.mp he']
  exact h

theorem actsOn_getObject {E : ResourceId → Prop} : ActsOn E (getObject s id) :=
  .of_idle (idle_getObject id)

theorem actsOn_createObject (settings : List (FieldPath × Json)) :
    ActsOn (· = id) (createObject s id settings) := by
  refine .bind (.of_idle idle_call) fun _ => .bind (.of_idle Prog.Idle.get) fun st => ?_
  refine .bind (.of_idle Prog.Idle.ask) fun env => ?_
  cases st.objects.get id with
  | some o => exact .of_idle (Prog.Idle.throw _)
  | none => exact actsOn_settle rfl

theorem actsOn_updateField (path : FieldPath) (v : Json) :
    ActsOn (· = id) (updateField s id path v) := by
  refine .bind (.of_idle idle_call) fun _ => .bind (.of_idle Prog.Idle.get) fun st => ?_
  cases hget : st.objects.get id with
  | none => exact .of_idle (Prog.Idle.throw _)
  | some o => exact actsOn_settle (Store.key_of_get hget)

theorem actsOn_applyObject (force : Bool) (manager : String) (config : List (FieldPath × Json)) :
    ActsOn (· = id) (applyObject s id force manager config) := by
  refine .bind (.of_idle idle_call) fun _ => .bind (.of_idle Prog.Idle.get) fun st => ?_
  refine .bind (.of_idle Prog.Idle.ask) fun env => ?_
  have hid : ((st.objects.get id).getD ⟨id, env.newUid, 1, Store.empty⟩).id = id := by
    cases hget : st.objects.get id with
    | none => rfl
    | some o => exact Store.key_of_get hget
  dsimp only
  split
  · refine actsOn_settle ?_
    rw [AgentEvent.id]
    split
    · exact hid
    · exact hid
  · exact .of_idle (Prog.Idle.throw _)

theorem actsOn_deleteObject : ActsOn (· = id) (deleteObject s id) := by
  refine .bind (.of_idle idle_call) fun _ => .bind (.of_idle Prog.Idle.get) fun st => ?_
  refine .bind (.of_idle Prog.Idle.ask) fun env => ?_
  cases hget : st.objects.get id with
  | none => exact .of_idle (Prog.Idle.throw _)
  | some o =>
    dsimp only
    split
    · exact actsOn_settle (Store.key_of_get hget)
    · exact actsOn_settle rfl

end calls

end AgentM

end VWorkspace.Agent
