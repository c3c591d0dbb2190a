import VWorkspaceOperator.Kit.JsonSchema
import VWorkspaceOperator.Operations.Approvals

/-!
# The input schemas of the built-in templates

What the admission webhook lets pass as `spec.parameters` when an operation is
created, or when its parameters change.
-/

namespace VWorkspace

open Kit

def anyString : Schema := .string 0

def someString : Schema := .string 1

def stringList : Schema := .array anyString

def envEntrySchema : Schema :=
  .object [("name", someString), ("value", anyString), ("valueFrom", .anyObject)] ["name"]

def inputSchemas : List (String × Schema) :=
  [("backup.velero", .object
      [("retention", anyString), ("ttl", anyString), ("snapshotClassName", anyString),
        ("csiSnapshotClassName", anyString), ("snapshotVolumes", .boolean),
        ("storageLocation", anyString), ("includedResources", stringList),
        ("excludedResources", stringList)] []),
    ("restore.velero", .object
      [("backupName", someString), ("namespaceMapping", .mapOf anyString),
        ("restorePVs", .boolean), ("existingResourcePolicy", anyString),
        ("includedResources", stringList), ("excludedResources", stringList)] ["backupName"]),
    ("upgrade.helm", .object [("targetVersion", someString), ("valuesPatch", .anyObject)] []),
    ("migration.helmHookJob", .object
      [("hookName", someString), ("activeDeadlineSeconds", .integer 1),
        ("backoffLimit", .integer 0)] ["hookName"]),
    ("runCommand.job", .object
      [("image", someString), ("command", stringList), ("args", stringList),
        ("env", .array envEntrySchema), ("activeDeadlineSeconds", .integer 1),
        ("timeoutSeconds", .integer 1), ("backoffLimit", .integer 0),
        ("serviceAccountName", someString)] ["image"]),
    ("runbook.workflow", .object
      [("template", someString), ("targetChartVersion", anyString),
        ("snapshotClassName", anyString), ("timeoutSeconds", .integer 1),
        ("failureAction", anyString)] ["template"])]

def inputSchema (ref : String) : Option Schema := inputSchemas.lookup ref

def isBlankByte (b : UInt8) : Bool := (0x09 ≤ b && b ≤ 0x0D) || b == 0x20

/-- `bytes.TrimSpace`, for documents: their ends are ASCII. -/
def trimBytes (raw : Bytes) : Bytes := (raw.dropWhile isBlankByte).rdropWhile isBlankByte

theorem eq_false_of_dropWhile {α : Type} {p : α → Bool} {l rest : List α} {a : α}
    (h : l.dropWhile p = a :: rest) : p a = false := by
  have hhead := List.head?_dropWhile_not p l
  rw [h] at hhead
  exact hhead

theorem isBlankByte_of_trimBytes {raw : Bytes} (h : trimBytes raw = []) :
    ∀ b ∈ raw, isBlankByte b = true := by
  unfold trimBytes at h
  rw [List.rdropWhile_eq_nil_iff] at h
  rw [← List.dropWhile_eq_nil_iff]
  cases hdrop : raw.dropWhile isBlankByte with
  | nil => rfl
  | cons b rest =>
    have hb := h b (by rw [hdrop]; exact List.mem_cons_self)
    exact absurd hb (by simp [eq_false_of_dropWhile hdrop])

theorem parseJson_of_trimBytes {raw : Bytes} (h : trimBytes raw = []) : parseJson raw = none := by
  have hblank := isBlankByte_of_trimBytes h
  suffices hvalue : parseValue (2 * raw.length + 2) 0 raw = none by rw [parseJson, hvalue]
  rw [parseValue]
  cases hskip : skipSpace raw with
  | nil => rfl
  | cons b rest =>
    have hmem : b ∈ raw := by
      refine (List.dropWhile_sublist isJsonSpace).subset ?_
      rw [← skipSpace, hskip]
      exact List.mem_cons_self
    have hspace : isJsonSpace b = false := eq_false_of_dropWhile hskip
    have hb : b = 0x0B ∨ b = 0x0C := by
      have := hblank b hmem
      simp only [isBlankByte, isJsonSpace, Bool.or_eq_true, Bool.or_eq_false_iff, Bool.and_eq_true,
        decide_eq_true_eq, beq_iff_eq, beq_eq_false_iff_ne, UInt8.le_iff_toNat_le, ne_eq,
        ← UInt8.toNat_inj] at this hspace ⊢
      simp at this hspace ⊢
      omega
    rcases hb with rfl | rfl <;> rfl

/-- `templates.ValidateParameters`; parameters without content count as an empty
object. -/
def validateParameters (type : OperationType) (engine : OperationEngine) (raw : Bytes) :
    Except GoError Unit :=
  match lookupTemplate type engine with
  | none => .ok ()
  | some tpl =>
      match inputSchema tpl.ref with
      | none => .ok ()
      | some schema =>
          match unmarshalAny (if trimBytes raw = [] then bytesOf "\x7b\x7d" else raw) with
          | .error e => .error { msg := "decode parameters for template " ++ tpl.ref ++ ": " ++ e }
          | .ok doc =>
              if schema.accepts doc then .ok ()
              else .error { msg := "parameters invalid for template " ++ tpl.ref }

def inputProperties (ref : String) : List (String × Schema) :=
  match inputSchema ref with
  | some (.object properties _) => properties
  | _ => []

def inputRequired (ref : String) : List String :=
  match inputSchema ref with
  | some (.object _ required) => required
  | _ => []

section validate

variable {tpl : Template} {raw : Bytes}

theorem lookupTemplate_of_mem (h : tpl ∈ builtin) :
    lookupTemplate tpl.type tpl.engine = some tpl := by
  simp only [builtin, List.mem_cons, List.not_mem_nil, or_false] at h
  rcases h with rfl | rfl | rfl | rfl | rfl | rfl <;> rfl

theorem inputSchema_eq (h : tpl ∈ builtin) :
    inputSchema tpl.ref = some (.object (inputProperties tpl.ref) (inputRequired tpl.ref)) := by
  simp only [builtin, List.mem_cons, List.not_mem_nil, or_false] at h
  rcases h with rfl | rfl | rfl | rfl | rfl | rfl <;> rfl

theorem accepts_of_validateParameters (h : tpl ∈ builtin) {doc : Json}
    (hdoc : parseJson raw = some doc) (hvalid : validateParameters tpl.type tpl.engine raw = .ok ()) :
    (Schema.object (inputProperties tpl.ref) (inputRequired tpl.ref)).accepts
      (toAny doc.toFloats) = true := by
  have hcontent : trimBytes raw ≠ [] := fun hblank => by
    rw [parseJson_of_trimBytes hblank] at hdoc
    exact absurd hdoc (by simp)
  rw [validateParameters, lookupTemplate_of_mem h] at hvalid
  simp only [inputSchema_eq h, if_neg hcontent, unmarshalAny, hdoc] at hvalid
  by_contra haccepts
  cases hrange : doc.outOfRange with
  | some lit => simp [hrange] at hvalid
  | none => simp [hrange, haccepts] at hvalid

end validate

end VWorkspace
