import VWorkspaceOperator.Engines.Validation
import VWorkspaceOperator.Engines.Velero
import VWorkspaceOperator.Kit.JsonMembers

/-!
# What the engines decode

The parameters of each engine in the terms of the schemas they are checked
against, and the members that `ValidateRuntimeParameters` and an engine both
decode.
-/

namespace VWorkspace

open Kit

def textMember (name : String) : Member := ⟨name, .string 0, none⟩

def textsMember (name : String) : Member := ⟨name, .array (.string 0), none⟩

def textMapMember (name : String) : Member := ⟨name, .mapOf (.string 0), none⟩

def boolMember (name : String) : Member := ⟨name, .boolean, none⟩

def intMember (name : String) (bits : ℕ) : Member := ⟨name, .integer 0, some bits⟩

def JobParameters.members : List Member :=
  [textMember "image", textsMember "command", textsMember "args", textMapMember "env",
    textMember "serviceAccountName", intMember "backoffLimit" 32,
    intMember "activeDeadlineSeconds" 64, intMember "ttlSecondsAfterFinished" 32]

def HelmHookJobParameters.members : List Member :=
  [textMember "hookName", textMember "image", textsMember "command", textsMember "args",
    textMember "serviceAccountName", intMember "backoffLimit" 32,
    intMember "activeDeadlineSeconds" 64, intMember "ttlSecondsAfterFinished" 32]

def WorkflowParameters.members : List Member :=
  [textMember "workflowTemplate", textMember "template",
    textMapMember "workflowTemplateParameters", textMember "serviceAccountName"]

def HelmParameters.members : List Member :=
  [textMember "targetVersion", ⟨"valuesPatch", .anyObject, none⟩]

def VeleroParameters.members : List Member :=
  [textMember "retention", textMember "ttl", textMember "snapshotClassName",
    textMember "csiSnapshotClassName", boolMember "snapshotVolumes", textMember "storageLocation",
    textsMember "includedResources", textsMember "excludedResources", textMember "backupName",
    textMapMember "namespaceMapping", boolMember "restorePVs", textMember "existingResourcePolicy"]

section describes

variable {σ : Type} {name : String}

theorem isMember_text {get : σ → String} {set : String → σ → σ} :
    (StructField.of name decodeString get set).IsMember (textMember name) :=
  .of_shape (isOk_decodeString 0)

theorem isMember_texts {get : σ → List String} {set : List String → σ → σ} :
    (StructField.of name decodeStringSlice get set).IsMember (textsMember name) :=
  .of_shape (isOk_decodeStringSlice 0)

theorem isMember_textMap {get : σ → Option (List (String × String))}
    {set : Option (List (String × String)) → σ → σ} :
    (StructField.of name decodeStringMap get set).IsMember (textMapMember name) :=
  .of_shape (isOk_decodeStringMap 0)

theorem isMember_bool {get : σ → Option Bool} {set : Option Bool → σ → σ} :
    (StructField.of name decodeBoolPtr get set).IsMember (boolMember name) :=
  .of_shape isOk_decodeBoolPtr

theorem isMember_int {bits : ℕ} {goType : String} {get : σ → Option ℤ}
    {set : Option ℤ → σ → σ} :
    (StructField.of name (decodeIntPtr bits goType) get set).IsMember (intMember name bits) :=
  .of (isOk_decodeIntPtr bits goType 0)

end describes

theorem JobParameters.describes : Describes JobParameters.fields JobParameters.members :=
  .cons isMember_text <| .cons isMember_texts <| .cons isMember_texts <| .cons isMember_textMap <|
    .cons isMember_text <| .cons isMember_int <| .cons isMember_int <| .cons isMember_int .nil

theorem HelmHookJobParameters.describes :
    Describes HelmHookJobParameters.fields HelmHookJobParameters.members :=
  .cons isMember_text <| .cons isMember_text <| .cons isMember_texts <| .cons isMember_texts <|
    .cons isMember_text <| .cons isMember_int <| .cons isMember_int <| .cons isMember_int .nil

theorem WorkflowParameters.describes :
    Describes WorkflowParameters.fields WorkflowParameters.members :=
  .cons isMember_text <| .cons isMember_text <| .cons isMember_textMap <| .cons isMember_text .nil

theorem HelmParameters.describes : Describes HelmParameters.fields HelmParameters.members :=
  .cons isMember_text <| .cons (.of_shape isOk_decodeAnyMap) .nil

theorem VeleroParameters.describes : Describes VeleroParameters.fields VeleroParameters.members :=
  .cons isMember_text <| .cons isMember_text <| .cons isMember_text <| .cons isMember_text <|
    .cons isMember_bool <| .cons isMember_text <| .cons isMember_texts <| .cons isMember_texts <|
    .cons isMember_text <| .cons isMember_textMap <| .cons isMember_bool <|
    .cons isMember_text .nil

theorem VeleroParameters.nodup_foldedNames : (foldedNames VeleroParameters.fields).Nodup := by
  decide +kernel

/-- The members an engine decodes; an executor without an engine decodes none. -/
def decodedMembers : OperationEngine → List Member
  | .velero => VeleroParameters.members
  | .workflow => WorkflowParameters.members
  | .job => JobParameters.members
  | .helm => HelmParameters.members
  | .helmHookJob => HelmHookJobParameters.members
  | .unset | .volsync => []

/-- The decoder of the engine of an operation accepts its parameters. -/
def decodesParameters (op : Operation) : Bool :=
  match op.spec.engine with
  | .velero => (parseVeleroParameters op).isOk
  | .workflow => (parseWorkflowParameters op).isOk
  | .job => (parseJobParameters op).isOk
  | .helm => (parseHelmParameters op).isOk
  | .helmHookJob => (parseHelmHookJobParameters op).isOk
  | .unset | .volsync => true

section decoding

variable {σ : Type} {fields : List (StructField σ)} {members : List Member}
  {what struct : String} {zero : σ} {op : Operation} {raw : Bytes} {ms : Fields}

theorem isOk_parseParameters_iff (h : Describes fields members)
    (hnd : (foldedNames fields).Nodup) (hraw : op.spec.parameters = some raw)
    (hdoc : parseJson raw = some (.obj ms)) :
    (parseParameters what struct fields zero op).isOk = true ↔
      ∀ m ∈ ms, ∀ d ∈ members, foldName d.name = foldName m.1 → d.takes m.2 = true := by
  rw [← isOk_decodeMembers_iff h hnd ms zero, parseParameters, hraw]
  simp only [unmarshal, hdoc, decodeStruct]
  cases decodeMembers struct fields ms zero <;> rfl

theorem decodesParameters_iff (hraw : op.spec.parameters = some raw)
    (hdoc : parseJson raw = some (.obj ms)) :
    decodesParameters op = true ↔
      ∀ m ∈ ms, ∀ d ∈ decodedMembers op.spec.engine,
        foldName d.name = foldName m.1 → d.takes m.2 = true := by
  obtain ⟨-, hjob, hhook, hworkflow⟩ := nodup_foldedNames
  unfold decodesParameters decodedMembers
  cases op.spec.engine with
  | velero =>
    exact isOk_parseParameters_iff VeleroParameters.describes VeleroParameters.nodup_foldedNames
      hraw hdoc
  | workflow =>
    exact isOk_parseParameters_iff WorkflowParameters.describes hworkflow hraw hdoc
  | job => exact isOk_parseParameters_iff JobParameters.describes hjob hraw hdoc
  | helm => exact isOk_parseParameters_iff HelmParameters.describes (by decide) hraw hdoc
  | helmHookJob => exact isOk_parseParameters_iff HelmHookJobParameters.describes hhook hraw hdoc
  | _ => simp

theorem unmarshal_of_parseParameters {params : σ} (hraw : op.spec.parameters = some raw)
    (h : parseParameters what struct fields zero op = .ok params) :
    unmarshal struct fields raw zero = .ok params := by
  rw [parseParameters, hraw] at h
  simp only at h
  cases hdec : unmarshal struct fields raw zero with
  | error e => rw [hdec] at h; exact absurd h (by simp)
  | ok p => rw [hdec] at h; exact congrArg Except.ok (Except.ok.inj h)

end decoding

def ReadsText {σ : Type} (fields : List (StructField σ)) (p : σ → String) (name : String) : Prop :=
  Reads fields p name updString

section reads

theorem RuntimeParameters.reads_image : ReadsText RuntimeParameters.fields image "image" :=
  .of_stores nodup_foldedNames.1 <|
    .store rfl <| .keep rfl <| .keep rfl <| .keep rfl <| .keep rfl .nil

theorem RuntimeParameters.reads_workflowTemplate :
    ReadsText RuntimeParameters.fields workflowTemplate "workflowTemplate" :=
  .of_stores nodup_foldedNames.1 <|
    .keep rfl <| .keep rfl <| .store rfl <| .keep rfl <| .keep rfl .nil

theorem RuntimeParameters.reads_template :
    ReadsText RuntimeParameters.fields template "template" :=
  .of_stores nodup_foldedNames.1 <|
    .keep rfl <| .keep rfl <| .keep rfl <| .store rfl <| .keep rfl .nil

theorem JobParameters.reads_image : ReadsText JobParameters.fields image "image" :=
  .of_stores nodup_foldedNames.2.1 <|
    .store rfl <| .keep rfl <| .keep rfl <| .keep rfl <| .keep rfl <| .keep rfl <| .keep rfl <|
    .keep rfl .nil

theorem WorkflowParameters.reads_workflowTemplate :
    ReadsText WorkflowParameters.fields workflowTemplate "workflowTemplate" :=
  .of_stores nodup_foldedNames.2.2.2 <|
    .store rfl <| .keep rfl <| .keep rfl <| .keep rfl .nil

theorem WorkflowParameters.reads_template :
    ReadsText WorkflowParameters.fields template "template" :=
  .of_stores nodup_foldedNames.2.2.2 <|
    .keep rfl <| .store rfl <| .keep rfl <| .keep rfl .nil

theorem VeleroParameters.reads_backupName :
    ReadsText VeleroParameters.fields backupName "backupName" :=
  .of_stores VeleroParameters.nodup_foldedNames <|
    .keep rfl <| .keep rfl <| .keep rfl <| .keep rfl <| .keep rfl <| .keep rfl <| .keep rfl <|
    .keep rfl <| .store rfl <| .keep rfl <| .keep rfl <| .keep rfl .nil

end reads

section requires

variable {op : Operation} {raw : Bytes}

theorem exists_of_validateRuntimeParameters (hengine : isRuntimeEngine op.spec.engine = true)
    (hraw : op.spec.parameters = some raw) (hvalid : validateRuntimeParameters op = .ok ()) :
    ∃ rt, unmarshal "runtimeParameters" RuntimeParameters.fields raw {} = .ok rt ∧
      validateRequiredRuntimeFields op.spec.engine rt = .ok () := by
  unfold validateRuntimeParameters at hvalid
  rw [hengine, hraw] at hvalid
  simp only [Bool.not_true, Bool.false_eq_true, if_false] at hvalid
  cases hrt : unmarshal "runtimeParameters" RuntimeParameters.fields raw {} with
  | error e => rw [hrt] at hvalid; exact absurd hvalid (by simp)
  | ok rt =>
    rw [hrt] at hvalid
    obtain ⟨u, hrequired, -⟩ := exists_of_bind_ok hvalid
    exact ⟨rt, rfl, hrequired⟩

theorem image_ne_of_validate (hengine : op.spec.engine = .job)
    (hraw : op.spec.parameters = some raw) (hvalid : validateRuntimeParameters op = .ok ())
    {params : JobParameters} (hparse : parseJobParameters op = .ok params) :
    params.image ≠ "" := by
  obtain ⟨rt, hrt, hrequired⟩ :=
    exists_of_validateRuntimeParameters (by rw [hengine]; rfl) hraw hvalid
  have hagree : rt.image = params.image :=
    unmarshal_agree RuntimeParameters.reads_image JobParameters.reads_image rfl hrt
      (unmarshal_of_parseParameters hraw hparse)
  rw [hengine] at hrequired
  rintro hempty
  simp [validateRequiredRuntimeFields, hagree, hempty] at hrequired

theorem templateName_ne_of_validate (hengine : op.spec.engine = .workflow)
    (hraw : op.spec.parameters = some raw) (hvalid : validateRuntimeParameters op = .ok ())
    {params : WorkflowParameters} (hparse : parseWorkflowParameters op = .ok params) :
    params.templateName ≠ "" := by
  obtain ⟨rt, hrt, hrequired⟩ :=
    exists_of_validateRuntimeParameters (by rw [hengine]; rfl) hraw hvalid
  have hdec := unmarshal_of_parseParameters hraw hparse
  have hnew : rt.workflowTemplate = params.workflowTemplate :=
    unmarshal_agree RuntimeParameters.reads_workflowTemplate
      WorkflowParameters.reads_workflowTemplate rfl hrt hdec
  have hold : rt.template = params.template :=
    unmarshal_agree RuntimeParameters.reads_template WorkflowParameters.reads_template rfl hrt hdec
  rw [hengine] at hrequired
  intro hempty
  have hboth : params.workflowTemplate = "" ∧ params.template = "" := by
    unfold WorkflowParameters.templateName at hempty
    split at hempty
    · next hne => exact absurd hempty hne
    · next hne => exact ⟨not_not.mp hne, hempty⟩
  simp [validateRequiredRuntimeFields, hnew, hold, hboth] at hrequired

end requires

end VWorkspace
