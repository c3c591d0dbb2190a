import VWorkspaceOperator.Engines.Members
import VWorkspaceOperator.Kit.JsonTree
import VWorkspaceOperator.Properties.Upgrade

/-!
# What a values patch changes

The Helm engine copies the top-level entries of a values patch into the values of a release.  An
entry that is a map replaces the whole map under its key, with the settings the patch does not
mention.
-/

namespace VWorkspace

open Kit EngineM

/-- The values in the body of a release; a release without a map of values has none. -/
def bodyValues (body : Fields) : Fields := (nestedMap ["spec", "values"] body).getD []

def releaseValues (w : Workloads) (k : ObjectKey) : Fields :=
  match (w.objects .helmRelease).get k with
  | some hr => bodyValues hr.body
  | none => []

theorem releaseValues_eq_mutated (w : Workloads) (k : ObjectKey) :
    releaseValues w k = bodyValues (mutated w .helmRelease k).body := by
  unfold releaseValues mutated
  cases (w.objects .helmRelease).get k <;> rfl

theorem bodyValues_patchVersion {version : String} {body body' : Fields}
    (h : patchVersion version body = .ok body') : bodyValues body' = bodyValues body := by
  unfold patchVersion at h
  split at h
  · have hread : nested ["spec", "values"] body' = nested ["spec", "values"] body :=
      nested_setNested_of_ne (by decide) ["spec"] ["spec", "version"] [] (setNested_of_setBody h)
    rw [bodyValues, bodyValues, nestedMap, nestedMap, hread]
  · rw [← Except.ok.inj h]

theorem bodyValues_patchValues {patch body body' : Fields} (h : patchValues patch body = .ok body') :
    bodyValues body' = copyFields (bodyValues body) patch := by
  unfold patchValues at h
  split at h
  · rw [bodyValues, nestedMap, nested_setBody h]
    rfl
  · next hpatch =>
    rw [not_not] at hpatch
    rw [← Except.ok.inj h, hpatch]
    rfl

theorem lookup_values_of_patchHelmRelease {params : HelmParameters} {hr hr' : Unstructured}
    (h : patchHelmRelease params hr = .ok hr') (key : String) :
    (bodyValues hr'.body).lookup key =
      (params.patched.lookup key).or ((bodyValues hr.body).lookup key) := by
  rw [patchHelmRelease_eq] at h
  obtain ⟨body₁, hversion, h⟩ := exists_of_bind_ok h
  obtain ⟨body₂, hvalues, h⟩ := exists_of_bind_ok h
  obtain rfl := Except.ok.inj h
  rw [bodyValues_patchValues hvalues, bodyValues_patchVersion hversion, lookup_copyFields]
  rfl

/-- The values patch of an operation, with its numbers as they are written. -/
def submittedPatch (op : Operation) : Fields :=
  match op.spec.parameters.bind parseJson with
  | some doc => copyFields [] ((effectiveOf "valuesPatch" updMap none doc).getD [])
  | none => []

theorem HelmParameters.reads_valuesPatch :
    Kit.Reads HelmParameters.fields valuesPatch "valuesPatch" fun v => updMap v.toFloats where
  nodup := by decide
  mem := ⟨_, List.mem_cons_of_mem _ List.mem_cons_self, rfl⟩
  decode f hf v s s' h := by
    simp only [HelmParameters.fields, List.mem_cons, List.not_mem_nil, or_false] at hf
    rcases hf with rfl | rfl
    · obtain ⟨b, -, rfl⟩ := StructField.of_decode h
      rfl
    · obtain ⟨b, hb, rfl⟩ := StructField.of_decode h
      exact updMap_of_decodeAnyMap hb

theorem mapNumFields_copyFields (f : String → String) (dst src : Fields) :
    mapNumFields f (copyFields dst src) = copyFields (mapNumFields f dst) (mapNumFields f src) := by
  induction src generalizing dst with
  | nil => rfl
  | cons m src ih =>
    refine (ih _).trans ?_
    rw [mapNumFields_setField]
    rfl

theorem patched_eq {op : Operation} {params : HelmParameters}
    (h : parseHelmParameters op = .ok params) :
    params.patched = mapNumFields rounded (submittedPatch op) := by
  rw [HelmParameters.patched, submittedPatch]
  cases hraw : op.spec.parameters with
  | none =>
    rw [parseHelmParameters, parseParameters, hraw] at h
    obtain rfl := Except.ok.inj h
    rfl
  | some raw =>
    have hdec := unmarshal_of_parseParameters hraw h
    rw [unmarshal] at hdec
    rw [Option.bind_some]
    cases hdoc : parseJson raw with
    | none => rw [hdoc] at hdec; exact absurd hdec (by simp)
    | some doc =>
      rw [hdoc] at hdec
      have hvalue := decodeStruct_effective HelmParameters.reads_valuesPatch hdec
      have hround : effectiveOf "valuesPatch" (fun v => updMap v.toFloats) none doc =
          (effectiveOf "valuesPatch" updMap none doc).map (mapNumFields rounded) := by
        cases doc with
        | obj ms => exact effective_toFloats "valuesPatch" ms none
        | _ => rfl
      simp only
      rw [mapNumFields_copyFields, hvalue.trans hround]
      cases effectiveOf "valuesPatch" updMap none doc <;> rfl

theorem parses_of_helmMaterialize {op : Operation} {target : ApplicationInstance} {env : EngineEnv}
    {w : Workloads} (hok : ((helmMaterialize op target).run env w).result = .ok ()) :
    ∃ params, parseHelmParameters op = .ok params := by
  cases h : parseHelmParameters op with
  | ok params => exact ⟨params, rfl⟩
  | error e =>
    rw [helmMaterialize, h, Prog.run_bind_of_error (e := e) rfl] at hok
    exact absurd hok (by simp)

theorem values_patch_overlaid_iff {op : Operation} {target : ApplicationInstance} {env : EngineEnv}
    {w : Workloads} {release : ReleaseSpec} (hrelease : target.spec.release = some release)
    (hok : ((helmMaterialize op target).run env w).result = .ok ()) :
    Overlaid (releaseValues w ⟨target.metadata.ns, release.name⟩) (submittedPatch op)
      (releaseValues ((helmMaterialize op target).run env w).state
        ⟨target.metadata.ns, release.name⟩) ↔
      Covers (submittedPatch op) (releaseValues w ⟨target.metadata.ns, release.name⟩) ∧
        KeepsNumbers rounded (submittedPatch op) := by
  obtain ⟨params, hparams⟩ := parses_of_helmMaterialize hok
  obtain ⟨hr, hpatch, hget⟩ := patched_of_helmMaterialize hparams hrelease hok
  refine overlaid_iff_of_lookup fun key => ?_
  rw [releaseValues_eq_mutated w, releaseValues, hget, ← lookup_mapNumFields, ← patched_eq hparams]
  exact lookup_values_of_patchHelmRelease hpatch key

/-- A release whose values are the tag and the pull policy of an image. -/
def imageRelease : Unstructured where
  metadata := { ns := "team-a", name := "app" }
  body := [("spec", .obj [("values",
    .obj [("image", .obj [("tag", .str "1.0"), ("pullPolicy", .str "Always")])])])]

/-- The cluster with that release. -/
def imageWorkloads : Workloads :=
  Workloads.empty.setObjects .helmRelease (Store.empty.put imageRelease)

/-- An upgrade of the release. -/
def patchOperation (parameters : String) : Operation :=
  let base := submitted releasePlace "uid-1" "app" .upgrade .helm
  { base with spec := { base.spec with parameters := some (bytesOf parameters) } }

/-- The instance of the release. -/
def imageInstance : ApplicationInstance := (chartInstance "1.0.0" "1").toApplicationInstance

/-- What the upgrade makes of the values of the release. -/
def patchedValues (op : Operation) : Fields :=
  releaseValues ((helmMaterialize op imageInstance).run quietEngine imageWorkloads).state
    releasePlace

/-- An upgrade of both settings, with a number. -/
def imageOperation : Operation :=
  patchOperation ("\x7b\"valuesPatch\":\x7b\"image\":\x7b\"tag\":\"2.0\",\"pullPolicy\":" ++
    "\"Never\"\x7d,\"replicas\":3.0\x7d\x7d")

theorem image_patch_overlaid :
    Overlaid (releaseValues imageWorkloads releasePlace) (submittedPatch imageOperation)
      (patchedValues imageOperation) := by
  have hpatch : submittedPatch imageOperation =
      [("image", .obj [("tag", .str "2.0"), ("pullPolicy", .str "Never")]),
        ("replicas", .num "3.0")] := by decide +kernel
  have hold : releaseValues imageWorkloads releasePlace =
      [("image", .obj [("tag", .str "1.0"), ("pullPolicy", .str "Always")])] := by decide +kernel
  have hcovers : Covers (submittedPatch imageOperation)
      (releaseValues imageWorkloads releasePlace) := by
    rw [hpatch, hold]
    intro k inner hinner path v hleaf
    obtain rfl : k = "image" := by
      by_contra hk
      rw [lookup_cons_ne hk] at hinner
      by_cases hk' : k = "replicas"
      · subst hk'
        exact absurd hinner (by simp)
      · rw [lookup_cons_ne hk'] at hinner
        exact absurd hinner (by simp)
    cases path with
    | nil => exact .inl ⟨_, rfl⟩
    | cons k' path =>
      obtain ⟨w, hw⟩ := lookup_of_nested ((nested_cons_of_obj rfl).symm.trans hleaf.2.1)
      by_cases htag : k' = "tag"
      · subst htag
        exact .inr ⟨["image", "tag"], .str "2.0", ⟨path, rfl⟩, by simp, rfl, rfl⟩
      · rw [lookup_cons_ne htag] at hw
        by_cases hpolicy : k' = "pullPolicy"
        · subst hpolicy
          exact .inr ⟨["image", "pullPolicy"], .str "Never", ⟨path, rfl⟩, by simp, rfl, rfl⟩
        · rw [lookup_cons_ne hpolicy] at hw
          exact absurd hw (by simp)
  have hok : ((helmMaterialize imageOperation imageInstance).run quietEngine
      imageWorkloads).result = .ok () := by decide +kernel
  exact (values_patch_overlaid_iff (show imageInstance.spec.release = some ⟨"app", "team-a"⟩ from rfl)
    hok).mpr ⟨hcovers, keepsNumbers_of_forall (by decide +kernel)⟩

/-- An upgrade of the tag. -/
def tagOperation : Operation :=
  patchOperation "\x7b\"valuesPatch\":\x7b\"image\":\x7b\"tag\":\"2.0\"\x7d\x7d\x7d"

theorem tag_patch_loses_pullPolicy :
    ((helmMaterialize tagOperation imageInstance).run quietEngine imageWorkloads).result = .ok () ∧
    LeafAt (releaseValues imageWorkloads releasePlace) ["image", "pullPolicy"] (.str "Always") ∧
    ¬ Names (submittedPatch tagOperation) ["image", "pullPolicy"] ∧
    nested ["image", "pullPolicy"] (patchedValues tagOperation) = none := by
  refine ⟨by decide +kernel, ⟨by simp, by decide +kernel, rfl⟩, ?_, by decide +kernel⟩
  have hnone : nested ["image", "pullPolicy"] (submittedPatch tagOperation) = none := by
    decide +kernel
  have hmap : nested ["image"] (submittedPatch tagOperation) =
      some (.obj [("tag", .str "2.0")]) := by decide +kernel
  rintro (⟨v, hv⟩ | ⟨pre, v, hpre, hne, hv, hleaf⟩)
  · exact absurd (hnone.symm.trans hv) (by simp)
  · rcases pre with _ | ⟨a, _ | ⟨b, pre⟩⟩
    · exact hne rfl
    · obtain rfl : a = "image" := by simpa using hpre
      rw [← Option.some.inj (hmap.symm.trans hv)] at hleaf
      exact absurd hleaf (by decide)
    · obtain ⟨rfl, rfl, rfl⟩ : a = "image" ∧ b = "pullPolicy" ∧ pre = [] := by simpa using hpre
      exact absurd (hnone.symm.trans hv) (by simp)

end VWorkspace
