import VWorkspaceOperator.Engines.Helm

/-!
# The Velero engine

Runs a backup or a restore as a Velero object.  All of these objects live in
one namespace, Velero's own, under the bare name of the operation.
-/

namespace VWorkspace

open Kit EngineM

structure VeleroParameters where
  retention : String := ""
  ttl : String := ""
  snapshotClassName : String := ""
  csiSnapshotClassName : String := ""
  snapshotVolumes : Option Bool := none
  storageLocation : String := ""
  includedResources : List String := []
  excludedResources : List String := []
  backupName : String := ""
  namespaceMapping : Option (List (String × String)) := none
  restorePVs : Option Bool := none
  existingResourcePolicy : String := ""

def VeleroParameters.fields : List (StructField VeleroParameters) :=
  [.of "retention" decodeString retention fun x p => { p with retention := x },
    .of "ttl" decodeString ttl fun x p => { p with ttl := x },
    .of "snapshotClassName" decodeString snapshotClassName
      fun x p => { p with snapshotClassName := x },
    .of "csiSnapshotClassName" decodeString csiSnapshotClassName
      fun x p => { p with csiSnapshotClassName := x },
    .of "snapshotVolumes" decodeBoolPtr snapshotVolumes fun x p => { p with snapshotVolumes := x },
    .of "storageLocation" decodeString storageLocation fun x p => { p with storageLocation := x },
    .of "includedResources" decodeStringSlice includedResources
      fun x p => { p with includedResources := x },
    .of "excludedResources" decodeStringSlice excludedResources
      fun x p => { p with excludedResources := x },
    .of "backupName" decodeString backupName fun x p => { p with backupName := x },
    .of "namespaceMapping" decodeStringMap namespaceMapping
      fun x p => { p with namespaceMapping := x },
    .of "restorePVs" decodeBoolPtr restorePVs fun x p => { p with restorePVs := x },
    .of "existingResourcePolicy" decodeString existingResourcePolicy
      fun x p => { p with existingResourcePolicy := x }]

def parseVeleroParameters (op : Operation) : Except GoError VeleroParameters :=
  parseParameters "velero" "veleroParameters" VeleroParameters.fields {} op

def VeleroParameters.backupTTL (p : VeleroParameters) : String :=
  if p.retention ≠ "" then p.retention else p.ttl

def VeleroParameters.csiClass (p : VeleroParameters) : String :=
  if p.csiSnapshotClassName ≠ "" then p.csiSnapshotClassName else p.snapshotClassName

def defaultVeleroNamespace : String := "velero"

def veleroNamespace (ns : String) : String := if ns = "" then defaultVeleroNamespace else ns

def setSpecIf (given : Bool) (value : Json) (field : String) (body : Fields) :
    Except GoError Fields :=
  if given then setBody value ["spec", field] body else pure body

def stringArray (xs : List String) : Json := .arr (xs.map .str)

/-- The labels, and the owner where it may be one, of a Velero object. -/
def veleroMeta (op : Operation) (m : ObjectMeta) : ObjectMeta :=
  let labelled := { m with labels := applyOperationLabels m.labels op }
  if op.metadata.ns = m.ns then setOwnerReference op labelled else labelled

def mutateBackup (op : Operation) (includedNS : String) (params : VeleroParameters)
    (o : Unstructured) : Except GoError Unstructured := do
  let body ← setBody (stringArray [includedNS]) ["spec", "includedNamespaces"] o.body
  let location := if params.storageLocation = "" then "default" else params.storageLocation
  let body ← setBody (.str location) ["spec", "storageLocation"] body
  let body ← setSpecIf params.snapshotVolumes.isSome (.bool (params.snapshotVolumes.getD false))
    "snapshotVolumes" body
  let body ← setSpecIf (params.csiClass ≠ "") (.str params.csiClass) "csiSnapshotClassName" body
  let body ← setSpecIf (params.includedResources ≠ []) (stringArray params.includedResources)
    "includedResources" body
  let body ← setSpecIf (params.excludedResources ≠ []) (stringArray params.excludedResources)
    "excludedResources" body
  let body ← setSpecIf (params.backupTTL ≠ "") (.str params.backupTTL) "ttl" body
  pure ⟨veleroMeta op o.metadata, body⟩

def mutateRestore (op : Operation) (params : VeleroParameters) (o : Unstructured) :
    Except GoError Unstructured := do
  let body ← setBody (.str params.backupName) ["spec", "backupName"] o.body
  let body ← setSpecIf params.namespaceMapping.isSome
    (.obj ((params.namespaceMapping.getD []).map fun (k, v) => (k, .str v))) "namespaceMapping" body
  let body ← setSpecIf params.restorePVs.isSome (.bool (params.restorePVs.getD false))
    "restorePVs" body
  let body ← setSpecIf (params.existingResourcePolicy ≠ "") (.str params.existingResourcePolicy)
    "existingResourcePolicy" body
  let body ← setSpecIf (params.includedResources ≠ []) (stringArray params.includedResources)
    "includedResources" body
  let body ← setSpecIf (params.excludedResources ≠ []) (stringArray params.excludedResources)
    "excludedResources" body
  pure ⟨veleroMeta op o.metadata, body⟩

section mutations

variable {op : Operation} {params : VeleroParameters} {o o' : Unstructured}

@[simp] theorem key_veleroMeta (op : Operation) (m : ObjectMeta) :
    (veleroMeta op m).key = m.key := by
  unfold veleroMeta
  simp only
  split <;> rfl

@[simp] theorem labels_veleroMeta (op : Operation) (m : ObjectMeta) :
    (veleroMeta op m).labels = applyOperationLabels m.labels op := by
  unfold veleroMeta
  simp only
  split <;> rfl

theorem nested_setSpecIf_of_ne {given : Bool} {value : Json} {field other : String}
    {body body' : Fields} (h : setSpecIf given value field body = .ok body')
    (hne : field ≠ other) : nested ["spec", other] body' = nested ["spec", other] body := by
  unfold setSpecIf at h
  split at h
  · exact nested_spec_setBody_of_ne hne h
  · rw [Except.ok.inj h]

/-! The mutations set fields of the spec one after the other.  What holds of any
list of such settings is proved once and used for both. -/

/-- A field of the spec, its value, and whether the value is given. -/
structure Setting where
  given : Bool
  value : Json
  field : String

def setSpecs : List Setting → Fields → Except GoError Fields
  | [], body => pure body
  | s :: settings, body => do
      let body ← setSpecIf s.given s.value s.field body
      setSpecs settings body

section settings

variable {settings : List Setting} {body body' : Fields}

theorem nested_setSpecs_of_notMem {other : String} (h : setSpecs settings body = .ok body')
    (hother : other ∉ settings.map fun s => s.field) :
    nested ["spec", other] body' = nested ["spec", other] body := by
  induction settings generalizing body with
  | nil => rw [Except.ok.inj h]
  | cons s settings ih =>
    obtain ⟨body₁, h₁, h⟩ := exists_of_bind_ok h
    rw [List.map_cons, List.mem_cons, not_or] at hother
    rw [ih h hother.2, nested_setSpecIf_of_ne h₁ (Ne.symm hother.1)]

theorem nested_setSpecs (hnodup : (settings.map fun s => s.field).Nodup)
    (h : setSpecs settings body = .ok body') :
    ∀ s ∈ settings, s.given = true → nested ["spec", s.field] body' = some s.value := by
  induction settings generalizing body with
  | nil => simp
  | cons s settings ih =>
    obtain ⟨body₁, h₁, hrest⟩ := exists_of_bind_ok h
    rw [List.map_cons, List.nodup_cons] at hnodup
    intro s' hs' hgiven
    rcases List.mem_cons.mp hs' with rfl | hs'
    · rw [setSpecIf, if_pos hgiven] at h₁
      rw [nested_setSpecs_of_notMem hrest hnodup.1]
      exact nested_setBody h₁
    · exact ih hnodup.2 hrest s' hs' hgiven

theorem setSpecs_of_nested
    (h : ∀ s ∈ settings, s.given = true → nested ["spec", s.field] body = some s.value) :
    setSpecs settings body = .ok body := by
  induction settings with
  | nil => rfl
  | cons s settings ih =>
    have hs : setSpecIf s.given s.value s.field body = .ok body := by
      unfold setSpecIf
      split
      · next hgiven => exact setBody_of_nested (h s List.mem_cons_self hgiven)
      · rfl
    rw [setSpecs, hs]
    exact ih fun s' hs' => h s' (List.mem_cons_of_mem _ hs')

def SpecIsMap (body : Fields) : Prop := ∀ v, body.lookup "spec" = some v → ∃ fs, v = .obj fs

theorem exists_setBody_spec {body : Fields} (h : SpecIsMap body) (value : Json) (field : String) :
    ∃ body', setBody value ["spec", field] body = .ok body' ∧ SpecIsMap body' := by
  have hspec : ∀ fs, SpecIsMap (setField "spec" (.obj fs) body) := fun fs v hv => by
    rw [lookup_setField_self, Option.some.injEq] at hv
    exact ⟨fs, hv.symm⟩
  cases hlookup : body.lookup "spec" with
  | none =>
    exact ⟨_, by simp [setBody, setNested, hlookup, Except.mapError]; rfl, hspec _⟩
  | some v =>
    obtain ⟨fs, rfl⟩ := h v hlookup
    exact ⟨_, by simp [setBody, setNested, hlookup, Except.mapError]; rfl, hspec _⟩

theorem exists_setSpecIf {body : Fields} (h : SpecIsMap body) (given : Bool) (value : Json)
    (field : String) : ∃ body', setSpecIf given value field body = .ok body' ∧ SpecIsMap body' := by
  cases given with
  | false => exact ⟨body, rfl, h⟩
  | true => exact exists_setBody_spec h value field

theorem exists_setSpecs (h : SpecIsMap body) (settings : List Setting) :
    ∃ body', setSpecs settings body = .ok body' := by
  induction settings generalizing body with
  | nil => exact ⟨body, rfl⟩
  | cons s settings ih => exact exists_bind_ok (exists_setSpecIf h _ _ _) fun _ hmap => ih hmap

end settings

def backupSettings (includedNS : String) (params : VeleroParameters) : List Setting :=
  let location := if params.storageLocation = "" then "default" else params.storageLocation
  [⟨true, stringArray [includedNS], "includedNamespaces"⟩,
    ⟨true, .str location, "storageLocation"⟩,
    ⟨params.snapshotVolumes.isSome, .bool (params.snapshotVolumes.getD false), "snapshotVolumes"⟩,
    ⟨params.csiClass ≠ "", .str params.csiClass, "csiSnapshotClassName"⟩,
    ⟨params.includedResources ≠ [], stringArray params.includedResources, "includedResources"⟩,
    ⟨params.excludedResources ≠ [], stringArray params.excludedResources, "excludedResources"⟩,
    ⟨params.backupTTL ≠ "", .str params.backupTTL, "ttl"⟩]

def restoreSettings (params : VeleroParameters) : List Setting :=
  [⟨true, .str params.backupName, "backupName"⟩,
    ⟨params.namespaceMapping.isSome,
      .obj ((params.namespaceMapping.getD []).map fun (k, v) => (k, .str v)), "namespaceMapping"⟩,
    ⟨params.restorePVs.isSome, .bool (params.restorePVs.getD false), "restorePVs"⟩,
    ⟨params.existingResourcePolicy ≠ "", .str params.existingResourcePolicy,
      "existingResourcePolicy"⟩,
    ⟨params.includedResources ≠ [], stringArray params.includedResources, "includedResources"⟩,
    ⟨params.excludedResources ≠ [], stringArray params.excludedResources, "excludedResources"⟩]

/-- Set fields of the spec, and mark the object as the operation's. -/
def mutateBy (settings : List Setting) (op : Operation) (o : Unstructured) :
    Except GoError Unstructured := do
  let body ← setSpecs settings o.body
  pure ⟨veleroMeta op o.metadata, body⟩

theorem mutateBackup_eq (includedNS : String) :
    mutateBackup op includedNS params o = mutateBy (backupSettings includedNS params) op o := by
  simp only [mutateBackup, mutateBy, backupSettings, setSpecs, bind_assoc, pure_bind]
  rfl

theorem mutateRestore_eq : mutateRestore op params o = mutateBy (restoreSettings params) op o := by
  simp only [mutateRestore, mutateBy, restoreSettings, setSpecs, bind_assoc, pure_bind]
  rfl

section mutateBy

variable {settings : List Setting}

theorem of_mutateBy (h : mutateBy settings op o = .ok o') :
    setSpecs settings o.body = .ok o'.body ∧ o'.metadata = veleroMeta op o.metadata := by
  obtain ⟨body, hbody, h⟩ := exists_of_bind_ok h
  obtain rfl := Except.ok.inj h
  exact ⟨hbody, rfl⟩

theorem exists_mutateBy (settings : List Setting) (op : Operation) (m : ObjectMeta) :
    ∃ o, mutateBy settings op { metadata := m } = .ok o := by
  have hempty : SpecIsMap [] := fun v hv => absurd hv (by simp)
  obtain ⟨body, hbody⟩ := exists_setSpecs hempty settings
  exact ⟨_, by rw [mutateBy, hbody]; rfl⟩

end mutateBy

theorem of_mutateBackup {includedNS : String} (h : mutateBackup op includedNS params o = .ok o') :
    o'.metadata = veleroMeta op o.metadata ∧
      nested ["spec", "includedNamespaces"] o'.body = some (stringArray [includedNS]) := by
  rw [mutateBackup_eq] at h
  obtain ⟨hbody, hmeta⟩ := of_mutateBy h
  have hnodup : ((backupSettings includedNS params).map fun s => s.field).Nodup := by
    simp [backupSettings]
  exact ⟨hmeta, nested_setSpecs hnodup hbody _ List.mem_cons_self rfl⟩

theorem metadata_of_mutateRestore (h : mutateRestore op params o = .ok o') :
    o'.metadata = veleroMeta op o.metadata := by
  rw [mutateRestore_eq] at h
  exact (of_mutateBy h).2

theorem exists_mutateBackup (op : Operation) (includedNS : String) (params : VeleroParameters)
    (m : ObjectMeta) : ∃ o, mutateBackup op includedNS params { metadata := m } = .ok o := by
  rw [mutateBackup_eq]
  exact exists_mutateBy _ op m

theorem exists_mutateRestore (op : Operation) (params : VeleroParameters) (m : ObjectMeta) :
    ∃ o, mutateRestore op params { metadata := m } = .ok o := by
  rw [mutateRestore_eq]
  exact exists_mutateBy _ op m

end mutations

/-- Where the Velero object of an operation lives: all tenants share the
namespace, and the name is the operation's. -/
def veleroKey (ns : String) (op : Operation) : ObjectKey := ⟨veleroNamespace ns, op.metadata.name⟩

def materializeBackup (ns : String) (op : Operation) (target : ApplicationInstance)
    (params : VeleroParameters) : EngineM Unit :=
  createOrUpdate .backup (veleroKey ns op) (mutateBackup op (targetNamespace target) params)

def materializeRestore (ns : String) (op : Operation) (params : VeleroParameters) : EngineM Unit :=
  if params.backupName = "" then
    Prog.throw { msg := "parameters.backupName is required for restore operations" }
  else createOrUpdate .restore (veleroKey ns op) (mutateRestore op params)

def veleroMaterialize (ns : String) (op : Operation) (target : ApplicationInstance) :
    EngineM Unit := do
  let params ← Prog.ofExcept (parseVeleroParameters op)
  match op.spec.type with
  | .backup => materializeBackup ns op target params
  | .restore => materializeRestore ns op params
  | type =>
      let msg := "velero engine does not support operation type " ++ goQuote type.text
      Prog.throw { msg }

/-- The kind of the object `Status` and `Cancel` look for: a backup unless the
operation is a restore. -/
def veleroKind (op : Operation) : Kind := if op.spec.type = .restore then .restore else .backup

def outputKey (type : OperationType) : String :=
  if type = .restore then "restoreName" else "backupName"

def statusFromVelero (op : Operation) (o : Unstructured) : EngineStatus :=
  match nestedString ["status", "phase"] o.body with
  | "Completed" =>
      { phase := .succeeded, reason := "EngineCompleted", done := true,
        outputs := [(outputKey op.spec.type, op.metadata.name)] }
  | "Failed" | "PartiallyFailed" =>
      { phase := .failed, reason := "EngineFailed",
        message := nestedString ["status", "failureReason"] o.body, done := true, failed := true }
  | _ => { phase := .running, reason := "EngineStarted" }

/-- `VeleroEngine.Status`.  An object that is not there is an ordinary error
here, not a missing workload. -/
def veleroStatus (ns : String) (op : Operation) : EngineM EngineStatus := do
  let kind := veleroKind op
  match ← (getObject .statusGet kind (veleroKey ns op)).mapError
      (·.wrap "get velero resource") with
  | none => Prog.throw ((notFound kind.resource op.metadata.name).wrap "get velero resource")
  | some o => pure (statusFromVelero op o)

/-- `VeleroEngine.Cancel`: the object at its place, every object of the kind
with the operation's label, and the place older versions used. -/
def veleroCancel (ns : String) (op : Operation) : EngineM Unit := do
  let kind := veleroKind op
  (deleteObject .cancelDelete kind (veleroKey ns op)).mapError
    (·.wrap ("delete velero " ++ kind.text ++ " " ++ veleroNamespace ns ++ "/" ++ op.metadata.name))
  deleteVeleroCRsLabeledByOperation kind op
  (deleteObject .cancelLegacyDelete kind op.key).mapError
    (·.wrap ("delete legacy velero " ++ kind.text ++ " " ++ op.metadata.ns ++ "/" ++
      op.metadata.name))

def veleroEngine (ns : String) : Engine :=
  ⟨.velero, veleroMaterialize ns, veleroStatus ns, veleroCancel ns⟩

end VWorkspace
