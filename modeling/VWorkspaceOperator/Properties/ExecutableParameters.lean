import VWorkspaceOperator.Engines.Ready
import VWorkspaceOperator.Properties.Admission

/-!
# Parameters that pass admission, and what the engines make of them

A parameters document is described three times: by the input schema of the
template, by the structure `ValidateRuntimeParameters` decodes, and by the
structure the engine decodes.  The three were written apart.

The schema and the engine's structure know the members they share under the same
names and with the same shapes, but for `env`, an array in the schema and a map in
the structure.  Besides, a schema takes an integer however it is written and
however large it is, and of several values of one key it sees only the last,
where the decoder goes through all of them.  So a document that is admitted can be
executed exactly if it has no `env`, its integers are plain and fit, and its
shadowed values have the right shape.

Of the closed schema of `migration.helmHookJob` and the fields that
`ValidateRuntimeParameters` requires, no document satisfies both.
-/

namespace VWorkspace

open Kit

/-- An operation of the template, with the given parameters. -/
structure Template.Of (tpl : Template) (raw : Bytes) (op : Operation) : Prop where
  type : op.spec.type = tpl.type
  engine : op.spec.engine = tpl.engine
  parameters : op.spec.parameters = some raw

structure PassesAdmission (tpl : Template) (raw : Bytes) : Prop where
  schema : validateParameters tpl.type tpl.engine raw = .ok ()
  runtime : ∀ op, tpl.Of raw op → validateRuntimeParameters op = .ok ()

/-- Every operation of the template with these parameters is materialized wherever
nothing else is in the way. -/
def Materializes (veleroNs : String) (tpl : Template) (raw : Bytes) : Prop :=
  ∀ op, tpl.Of raw op → ∀ engine, (builtinRegistry veleroNs).get op.spec.engine = some engine →
    ∀ target env w, Ready veleroNs op target env w →
      ((engine.materialize op target).run env w).result = .ok ()

/-- The engine decodes the parameters, and they do not keep it from materializing
the operation. -/
structure Executable (veleroNs : String) (tpl : Template) (raw : Bytes) : Prop where
  decodes : ∀ op, tpl.Of raw op → decodesParameters op = true
  materializes : Materializes veleroNs tpl raw

def documentMembers : Json → Fields
  | .obj ms => ms
  | _ => []

/-- What a document must be for the engine's decoder, besides passing the checks. -/
structure Decodable (tpl : Template) (doc : Json) : Prop where
  /-- It has no `env`. -/
  noEnv : ∀ m ∈ documentMembers doc, m.1 ≠ "env"
  /-- Its integers are written plainly, and the Go type holds them. -/
  plain : ∀ m ∈ documentMembers doc, ∀ d ∈ decodedMembers tpl.engine, d.name = m.1 →
    fitsWidth d.bits m.2 = true
  /-- Whatever it gives to a member that is decoded, a shadowed value too, has the
  shape the schema asks for. -/
  shaped : ∀ m ∈ documentMembers doc, ∀ d ∈ decodedMembers tpl.engine, d.name = m.1 →
    ∀ p ∈ inputProperties tpl.ref, p.1 = m.1 → p.2.shape m.2 = true

/-- The members a schema and a structure share have the same name and, but for
`env`, the same shape. -/
def agree (properties : List (String × Schema)) (members : List Member) : Bool :=
  properties.all fun p => members.all fun d =>
    foldName d.name ≠ foldName p.1 || (d.name = p.1 && (p.1 = "env" || p.2.sameShape d.schema))

theorem agrees_builtin {tpl : Template} (h : tpl ∈ builtin) :
    agree (inputProperties tpl.ref) (decodedMembers tpl.engine) = true := by
  simp only [builtin, List.mem_cons, List.not_mem_nil, or_false] at h
  rcases h with rfl | rfl | rfl | rfl | rfl | rfl <;> decide +kernel

theorem of_agree {properties : List (String × Schema)} {members : List Member}
    (h : agree properties members = true) {p : String × Schema} (hp : p ∈ properties)
    {d : Member} (hd : d ∈ members) (hfold : foldName d.name = foldName p.1) :
    d.name = p.1 ∧ (p.1 ≠ "env" → d.schema.shape = p.2.shape) := by
  have hpair := List.all_eq_true.mp (List.all_eq_true.mp h p hp) d hd
  simp only [hfold, ne_eq, not_true_eq_false, decide_false, Bool.false_or, Bool.and_eq_true,
    Bool.or_eq_true, decide_eq_true_eq] at hpair
  exact ⟨hpair.1, fun hne => (Schema.shape_eq_of_sameShape (hpair.2.resolve_left hne)).symm⟩

theorem env_mem_inputProperties {tpl : Template} (h : tpl ∈ builtin)
    (henv : "env" ∈ (inputProperties tpl.ref).map Prod.fst) :
    tpl.engine = .job ∧ ("env", Schema.array envEntrySchema) ∈ inputProperties tpl.ref := by
  simp only [builtin, List.mem_cons, List.not_mem_nil, or_false] at h
  rcases h with rfl | rfl | rfl | rfl | rfl | rfl
  case inr.inr.inr.inr.inl =>
    exact ⟨rfl, by simp [inputProperties, inputSchema, inputSchemas, List.lookup_cons]⟩
  all_goals exact absurd henv (by decide +kernel)

section documents

variable {tpl : Template} {raw : Bytes} {ms : Fields}

def Template.operation (tpl : Template) (raw : Bytes) : Operation where
  metadata := { ns := "team-a", name := "op", uid := "uid-1" }
  spec := ⟨⟨appsGroupVersion, "ApplicationInstance", "app"⟩, tpl.type, tpl.engine, some raw, none⟩

theorem Template.of_operation (tpl : Template) (raw : Bytes) : tpl.Of raw (tpl.operation raw) :=
  ⟨rfl, rfl, rfl⟩

theorem PassesAdmission.conforms (h : PassesAdmission tpl raw) (htpl : tpl ∈ builtin) {doc : Json}
    (hdoc : parseJson raw = some doc) :
    ∃ ms, doc = .obj ms ∧ Conforms (inputProperties tpl.ref) (inputRequired tpl.ref) ms :=
  of_accepts_object (accepts_of_validateParameters htpl hdoc h.schema)

theorem takes_of_decodable (htpl : tpl ∈ builtin)
    (hconforms : Conforms (inputProperties tpl.ref) (inputRequired tpl.ref) ms)
    (hdecodable : Decodable tpl (.obj ms)) :
    ∀ m ∈ ms, ∀ d ∈ decodedMembers tpl.engine, foldName d.name = foldName m.1 →
      d.takes m.2 = true := by
  intro m hm d hd hfold
  obtain ⟨p, hp, hpm⟩ := hconforms.exists_property hm
  obtain ⟨hname, hshape⟩ := of_agree (agrees_builtin htpl) hp hd (by rw [hfold, hpm])
  rw [hpm] at hname hshape
  rw [Member.takes, hshape (hdecodable.noEnv m hm), hdecodable.shaped m hm d hd hname p hp hpm,
    hdecodable.plain m hm d hd hname]
  rfl

theorem decodable_of_takes (htpl : tpl ∈ builtin)
    (hconforms : Conforms (inputProperties tpl.ref) (inputRequired tpl.ref) ms)
    (htakes : ∀ m ∈ ms, ∀ d ∈ decodedMembers tpl.engine, foldName d.name = foldName m.1 →
      d.takes m.2 = true) : Decodable tpl (.obj ms) := by
  have hnoEnv : ∀ m ∈ ms, m.1 ≠ "env" := by
    intro m hm hname
    have hclosed := hconforms.closed m hm
    rw [hname] at hclosed
    obtain ⟨hengine, hproperty⟩ := env_mem_inputProperties htpl hclosed
    obtain ⟨v, hv⟩ : ∃ v, lastValue "env" ms = some v := exists_lastValue (v := m.2) (hname ▸ hm)
    obtain ⟨vs, rfl⟩ := of_accepts_array (hconforms.accepted _ hproperty v hv)
    have hmember : textMapMember "env" ∈ decodedMembers tpl.engine := by
      rw [hengine]
      simp [decodedMembers, JobParameters.members]
    exact absurd (htakes _ (mem_of_lastValue hv) _ hmember rfl)
      (by simp [Member.takes, textMapMember, Schema.shape])
  refine ⟨hnoEnv, fun m hm d hd hname => ?_, fun m hm d hd hname p hp hpm => ?_⟩
  · exact (Bool.and_eq_true_iff.mp (htakes m hm d hd (by rw [hname]))).2
  · obtain ⟨-, hshape⟩ := of_agree (agrees_builtin htpl) hp hd (by rw [hname, hpm])
    rw [← hshape (hpm ▸ hnoEnv m hm)]
    exact (Bool.and_eq_true_iff.mp (htakes m hm d hd (by rw [hname]))).1

theorem backupName_ne_of_conforms
    (hconforms : Conforms (inputProperties "restore.velero") (inputRequired "restore.velero") ms)
    (hdoc : parseJson raw = some (.obj ms)) {op : Operation} (hraw : op.spec.parameters = some raw)
    {params : VeleroParameters} (hparse : parseVeleroParameters op = .ok params) :
    params.backupName ≠ "" := by
  obtain ⟨v, hv⟩ := hconforms.complete "backupName" (by decide +kernel)
  have hproperty : ("backupName", someString) ∈ inputProperties "restore.velero" := by
    simp [inputProperties, inputSchema, inputSchemas, List.lookup_cons]
  obtain ⟨s, rfl, hlength⟩ := of_accepts_string (hconforms.accepted _ hproperty v hv)
  have hexact : ∀ m ∈ ms, foldName m.1 = foldName "backupName" → m.1 = "backupName" := by
    intro m hm
    have hkeys : ∀ k ∈ (inputProperties "restore.velero").map Prod.fst,
        foldName k = foldName "backupName" → k = "backupName" := by decide +kernel
    exact hkeys m.1 (hconforms.closed m hm)
  have hdec := unmarshal_of_parseParameters hraw hparse
  simp only [unmarshal, hdoc, decodeStruct] at hdec
  have hvalue : params.backupName = s :=
    (decodeMembers_effective VeleroParameters.reads_backupName ms _ params hdec).trans
      (effective_of_lastValue hexact hv _)
  rw [hvalue]
  rintro rfl
  exact absurd hlength (by decide)

theorem not_validate_migration
    (hconforms : Conforms (inputProperties "migration.helmHookJob")
      (inputRequired "migration.helmHookJob") ms)
    (hdoc : parseJson raw = some (.obj ms)) {op : Operation}
    (hengine : op.spec.engine = .helmHookJob) (hraw : op.spec.parameters = some raw) :
    validateRuntimeParameters op ≠ .ok () := by
  intro hvalid
  obtain ⟨rt, hrt, hrequired⟩ :=
    exists_of_validateRuntimeParameters (by rw [hengine]; rfl) hraw hvalid
  have hnone : ∀ m ∈ ms, foldName m.1 ≠ foldName "image" := by
    intro m hm
    have hkeys : ∀ k ∈ (inputProperties "migration.helmHookJob").map Prod.fst,
        foldName k ≠ foldName "image" := by decide +kernel
    exact hkeys m.1 (hconforms.closed m hm)
  simp only [unmarshal, hdoc, decodeStruct] at hrt
  have himage : rt.image = "" :=
    (decodeMembers_effective RuntimeParameters.reads_image ms _ rt hrt).trans
      (effective_of_notMem hnone _)
  rw [hengine] at hrequired
  simp only [validateRequiredRuntimeFields, himage, if_true] at hrequired
  split at hrequired <;> exact absurd hrequired (by simp)

theorem insists_of_passesAdmission (htpl : tpl ∈ builtin) (hpasses : PassesAdmission tpl raw)
    (hconforms : Conforms (inputProperties tpl.ref) (inputRequired tpl.ref) ms)
    (hdoc : parseJson raw = some (.obj ms)) {op : Operation} (hof : tpl.Of raw op) :
    Insists op := by
  have hvalid := hpasses.runtime op hof
  obtain ⟨htype, hengine, hraw⟩ := hof
  unfold Insists
  simp only [builtin, List.mem_cons, List.not_mem_nil, or_false] at htpl
  rcases htpl with rfl | rfl | rfl | rfl | rfl | rfl <;> rw [hengine]
  · exact .inl htype
  · exact .inr ⟨htype, fun params hparse => backupName_ne_of_conforms hconforms hdoc hraw hparse⟩
  · trivial
  · exact absurd hvalid (not_validate_migration hconforms hdoc hengine hraw)
  · exact fun params hparse => image_ne_of_validate hengine hraw hvalid hparse
  · exact fun params hparse => templateName_ne_of_validate hengine hraw hvalid hparse

theorem executable_of_takes (veleroNs : String) (htpl : tpl ∈ builtin)
    (hpasses : PassesAdmission tpl raw)
    (hconforms : Conforms (inputProperties tpl.ref) (inputRequired tpl.ref) ms)
    (hdoc : parseJson raw = some (.obj ms))
    (htakes : ∀ m ∈ ms, ∀ d ∈ decodedMembers tpl.engine, foldName d.name = foldName m.1 →
      d.takes m.2 = true) : Executable veleroNs tpl raw := by
  have hdecodes : ∀ op, tpl.Of raw op → decodesParameters op = true := fun op hof => by
    rw [decodesParameters_iff hof.parameters hdoc, hof.engine]
    exact htakes
  exact ⟨hdecodes, fun op hof engine hengine target env w hready =>
    materialize_of_ready hengine hready (hdecodes op hof)
      (insists_of_passesAdmission htpl hpasses hconforms hdoc hof)⟩

end documents

theorem executable_iff (veleroNs : String) {tpl : Template} (htpl : tpl ∈ builtin) {raw : Bytes}
    {doc : Json} (hdoc : parseJson raw = some doc) (hpasses : PassesAdmission tpl raw) :
    Executable veleroNs tpl raw ↔ Decodable tpl doc := by
  obtain ⟨ms, rfl, hconforms⟩ := hpasses.conforms htpl hdoc
  constructor
  · intro hexecutable
    refine decodable_of_takes htpl hconforms ?_
    exact (decodesParameters_iff rfl hdoc).mp
      (hexecutable.decodes _ (tpl.of_operation raw))
  · intro hdecodable
    exact executable_of_takes veleroNs htpl hpasses hconforms hdoc
      (takes_of_decodable htpl hconforms hdecodable)

def sampleDocument : OperationType → String
  | .restore => "\x7b\"backupName\":\"nightly\"\x7d"
  | .upgrade => "\x7b\"targetVersion\":\"1.2.3\"\x7d"
  | .runCommand => "\x7b\"image\":\"busybox\",\"backoffLimit\":2\x7d"
  | .runbook => "\x7b\"template\":\"rotate-keys\"\x7d"
  | _ => "\x7b\x7d"

/-- An instance with a release that offers all capabilities. -/
def capableInstance : ApplicationInstance where
  metadata := {
    ns := "team-a"
    name := "app"
    annotations := builtin.map fun tpl =>
      (capabilityAnnotationKey tpl.capabilityVerb, tpl.engine.text) }
  spec := { catalogId := "shop", release := some ⟨"app", "team-a"⟩ }

def releasedWorkloads : Workloads :=
  Workloads.empty.setObjects .helmRelease
    (Store.empty.put { metadata := { ns := "team-a", name := "app" } })

def calmEnv : EngineEnv := ⟨fun _ => none, Store.empty⟩

theorem ready_released (veleroNs : String) (op : Operation) :
    Ready veleroNs op capableInstance calmEnv releasedWorkloads where
  calls _ := rfl
  release := ⟨⟨"app", "team-a"⟩, { metadata := { ns := "team-a", name := "app" } }, rfl,
    by decide +kernel, mapsAlong_nil _⟩
  job job h := absurd (Store.mem_of_get h) List.not_mem_nil
  workflow wf h := absurd (Store.mem_of_get h) List.not_mem_nil
  velero kind o h := by
    have hbody : o.body = [] := by
      have hmem := Store.mem_of_get h
      by_cases hkind : kind = .helmRelease
      · subst hkind
        rw [releasedWorkloads, Workloads.objects_setObjects_self, Store.mem_put] at hmem
        rcases hmem with rfl | ⟨hmem, -⟩
        · rfl
        · exact absurd hmem (by simp)
      · exact absurd hmem
          (by simp [releasedWorkloads, Workloads.setObjects, Workloads.empty, hkind])
    intro v hv
    rw [hbody] at hv
    exact absurd hv (by simp)

theorem passesAdmission_of_create {tpl : Template} {raw : Bytes} {hook : OperationWebhook}
    {v : AdmissionView} {op : Operation} (hof : tpl.Of raw op)
    (h : hook.validateCreate v op = .ok ()) : PassesAdmission tpl raw := by
  obtain ⟨-, hnew, -⟩ := validateOperation_eq_ok_iff.mp h
  obtain ⟨u, hschema, hruntime⟩ := exists_of_bind_ok hnew
  refine ⟨?_, fun op' hof' => ?_⟩
  · rw [validateOperationParameters, hof.type, hof.engine, hof.parameters] at hschema
    exact hschema
  · rw [← hruntime]
    simp only [validateRuntimeParameters, hof.engine, hof'.engine, hof.parameters, hof'.parameters]

/-- Some document of the template is admitted on creation, and the engine executes
it. -/
def Usable (veleroNs : String) (tpl : Template) : Prop :=
  ∃ raw, Executable veleroNs tpl raw ∧
    ∃ hook v op target env w, tpl.Of raw op ∧
      OperationWebhook.validateCreate hook v op = .ok () ∧ Ready veleroNs op target env w

theorem usable_of_sample (veleroNs : String) {tpl : Template} (htpl : tpl ∈ builtin)
    (hdoc : (parseJson (bytesOf (sampleDocument tpl.type))).isSome = true)
    (hadmitted : plainWebhook.validateCreate (plainView (clusterOf [] [capableInstance]))
      (tpl.operation (bytesOf (sampleDocument tpl.type))) = .ok ())
    (hdecodes : decodesParameters (tpl.operation (bytesOf (sampleDocument tpl.type))) = true) :
    Usable veleroNs tpl := by
  have hof := tpl.of_operation (bytesOf (sampleDocument tpl.type))
  have hpasses := passesAdmission_of_create hof hadmitted
  obtain ⟨doc, hdoc⟩ := Option.isSome_iff_exists.mp hdoc
  obtain ⟨ms, rfl, hconforms⟩ := hpasses.conforms htpl hdoc
  have htakes := (decodesParameters_iff rfl hdoc).mp hdecodes
  exact ⟨_, executable_of_takes veleroNs htpl hpasses hconforms hdoc htakes, plainWebhook, _, _,
    capableInstance, calmEnv, releasedWorkloads, hof, hadmitted, ready_released veleroNs _⟩

def migrationTemplate : Template :=
  ⟨"migration.helmHookJob", .migration, .helmHookJob, "migration", false⟩

theorem not_passesAdmission_migration (raw : Bytes) : ¬PassesAdmission migrationTemplate raw := by
  intro hpasses
  have hof := migrationTemplate.of_operation raw
  have hvalid := hpasses.runtime _ hof
  obtain ⟨rt, hrt, -⟩ := exists_of_validateRuntimeParameters rfl hof.parameters hvalid
  cases hdoc : parseJson raw with
  | none => simp [unmarshal, hdoc] at hrt
  | some doc =>
    obtain ⟨ms, rfl, hconforms⟩ := hpasses.conforms (by decide) hdoc
    exact not_validate_migration hconforms hdoc rfl hof.parameters hvalid

def commandTemplate : Template := ⟨"runCommand.job", .runCommand, .job, "runcommand", false⟩

/-- The operation of a command with the given parameters, on an instance that
offers commands, as the webhook sees it. -/
def commandAdmission (raw : Bytes) : Except GoError Unit :=
  plainWebhook.validateCreate (plainView (clusterOf [] [capableInstance]))
    (commandTemplate.operation raw)

def commandRun (raw : Bytes) : Except GoError Unit :=
  ((jobEngine.materialize (commandTemplate.operation raw) capableInstance).run calmEnv
    releasedWorkloads).result

def retriedCommand : Bytes := bytesOf (sampleDocument .runCommand)

theorem retriedCommand_executable :
    PassesAdmission commandTemplate retriedCommand ∧
      Decodable commandTemplate (.obj [("image", .str "busybox"), ("backoffLimit", .num "2")]) ∧
      commandRun retriedCommand = .ok () := by
  have hof := commandTemplate.of_operation retriedCommand
  have hadmitted : commandAdmission retriedCommand = .ok () := by decide +kernel
  have hpasses := passesAdmission_of_create hof hadmitted
  have hdoc : parseJson retriedCommand =
      some (.obj [("image", .str "busybox"), ("backoffLimit", .num "2")]) := by decide +kernel
  have hdecodable : Decodable commandTemplate
      (.obj [("image", .str "busybox"), ("backoffLimit", .num "2")]) :=
    ⟨by decide +kernel, by decide +kernel, by decide +kernel⟩
  have hexecutable := (executable_iff "velero" (by decide) hdoc hpasses).mpr hdecodable
  exact ⟨hpasses, hdecodable, hexecutable.materializes _ hof jobEngine
    (get_builtinRegistry "velero" .job) _ _ _ (ready_released "velero" _)⟩

def envCommand : Bytes :=
  bytesOf "\x7b\"image\":\"busybox\",\"env\":[\x7b\"name\":\"MODE\",\"value\":\"fast\"\x7d]\x7d"

theorem envCommand_not_executable :
    PassesAdmission commandTemplate envCommand ∧
      commandRun envCommand = .error
        { msg := "decode job parameters: json: cannot unmarshal array into Go struct field " ++
            "jobParameters.env of type map[string]string" } ∧
      ¬Executable "velero" commandTemplate envCommand := by
  have hof := commandTemplate.of_operation envCommand
  have hadmitted : commandAdmission envCommand = .ok () := by decide +kernel
  have hundecoded : decodesParameters (commandTemplate.operation envCommand) = false := by
    decide +kernel
  refine ⟨passesAdmission_of_create hof hadmitted, by decide +kernel, fun hexecutable => ?_⟩
  rw [hexecutable.decodes _ hof] at hundecoded
  exact absurd hundecoded (by simp)

theorem usable_iff (veleroNs : String) {tpl : Template} (htpl : tpl ∈ builtin) :
    Usable veleroNs tpl ↔ tpl.ref ≠ "migration.helmHookJob" := by
  have hcases := htpl
  simp only [builtin, List.mem_cons, List.not_mem_nil, or_false] at hcases
  rcases hcases with rfl | rfl | rfl | rfl | rfl | rfl
  case inr.inr.inr.inl =>
    refine ⟨fun husable => ?_, fun h => absurd rfl h⟩
    obtain ⟨raw, -, hook, v, op, target, env, w, hof, hadmitted, -⟩ := husable
    exact absurd (passesAdmission_of_create hof hadmitted) (not_passesAdmission_migration raw)
  all_goals
    refine ⟨fun _ => by decide, fun _ => ?_⟩
    exact usable_of_sample veleroNs htpl (by decide +kernel) (by decide +kernel)
      (by decide +kernel)

theorem command_usable : Usable "velero" commandTemplate :=
  (usable_iff "velero" (by decide)).mpr (by decide)

theorem migration_not_usable :
    migrationTemplate ∈ builtin ∧ ¬Usable "velero" migrationTemplate ∧
      ∀ (raw : Bytes) (hook : OperationWebhook) (v : AdmissionView) (op : Operation),
        migrationTemplate.Of raw op → hook.validateCreate v op ≠ .ok () := by
  have hnever : ∀ (raw : Bytes) (hook : OperationWebhook) (v : AdmissionView) (op : Operation),
      migrationTemplate.Of raw op → hook.validateCreate v op ≠ .ok () :=
    fun raw _ _ _ hof hadmitted =>
      not_passesAdmission_migration raw (passesAdmission_of_create hof hadmitted)
  refine ⟨by decide, ?_, hnever⟩
  rintro ⟨raw, -, hook, v, op, -, -, -, hof, hadmitted, -⟩
  exact hnever raw hook v op hof hadmitted

end VWorkspace
