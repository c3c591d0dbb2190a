import VWorkspaceOperator.Engines.Workflow

/-!
# The Helm engine

Upgrades an instance by patching the chart version and the values of its
`HelmRelease`.  The release belongs to the instance, so the engine neither
creates nor deletes it, and its `Status` reports that work is going on without
looking at the release.
-/

namespace VWorkspace

open Kit EngineM

structure HelmParameters where
  targetVersion : String := ""
  valuesPatch : Option Fields := none
  deriving DecidableEq

def HelmParameters.fields : List (StructField HelmParameters) :=
  [.of "targetVersion" decodeString targetVersion fun x p => { p with targetVersion := x },
    .of "valuesPatch" decodeAnyMap valuesPatch fun x p => { p with valuesPatch := x }]

def parseHelmParameters (op : Operation) : Except GoError HelmParameters :=
  parseParameters "helm" "helmParameters" HelmParameters.fields {} op

/-- `maps.Copy`: the entries of the patch replace those of the map. -/
def copyFields (dst src : Fields) : Fields := src.foldl (fun m (k, v) => setField k v m) dst

/-- The mutation of the release: its chart version and its top-level values. -/
def patchHelmRelease (params : HelmParameters) (hr : Unstructured) :
    Except GoError Unstructured := do
  let body ←
    if params.targetVersion ≠ "" then
      setBody (.str params.targetVersion) ["spec", "chart", "spec", "version"] hr.body
    else pure hr.body
  let patch := params.valuesPatch.getD []
  let body ←
    if patch ≠ [] then
      let current := (nestedMap ["spec", "values"] body).getD []
      setBody (.obj (copyFields current patch)) ["spec", "values"] body
    else pure body
  pure { hr with body := body }

def helmMaterialize (op : Operation) (target : ApplicationInstance) : EngineM Unit := do
  let params ← Prog.ofExcept (parseHelmParameters op)
  match target.spec.release with
  | none => Prog.throw { msg := "target " ++ goQuote target.metadata.name ++
      " has no release (placeholder instances do not support helm upgrade)" }
  | some release =>
      let k : ObjectKey := ⟨target.metadata.ns, release.name⟩
      match ← (getObject .getExisting .helmRelease k).mapError (·.wrap "get helmrelease") with
      | none =>
          Prog.throw ((notFound Kind.helmRelease.resource release.name).wrap "get helmrelease")
      | some _ => createOrUpdate .helmRelease k (patchHelmRelease params)

def helmStatus (_op : Operation) : EngineM EngineStatus :=
  pure { phase := .running, reason := "EngineStarted" }

def helmCancel (_op : Operation) : EngineM Unit := pure ()

def helmEngine : Engine := ⟨.helm, helmMaterialize, helmStatus, helmCancel⟩

end VWorkspace
