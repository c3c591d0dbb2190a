import VWorkspaceOperator.Instance.Watches
import VWorkspaceOperator.Properties.StorageResolution

/-!
# The watch and the resolver agree

Whether an `S3Credentials` belongs to an instance is written twice: the watch starts from the
object and looks for instances, the resolver starts from an instance and looks for objects.  The
watch only lists instances in the namespace of the object and skips objects without a
reference; the resolver takes the namespace of the release, which may be another one.  For valid
specs the two come to the same.
-/

namespace VWorkspace

open Kit

theorem exists_release_of_valid {app : ApplicationInstance}
    (hvalid : validateApplicationInstanceSpec app = .ok ())
    (hmode : app.spec.isPlaceholder = false) :
    ∃ release, app.spec.release = some release ∧ release.name ≠ "" ∧
      releaseNamespace app = app.metadata.ns := by
  have hmanaged : app.spec.mode ≠ .placeholder := by
    simpa [ApplicationInstanceSpec.isPlaceholder] using hmode
  obtain ⟨release, values, hrelease, -, hreleaseValid, -⟩ :=
    of_validateReleaseAndValues (of_validateApplicationInstanceSpec hvalid hmanaged).1
  obtain ⟨hname, hns⟩ := of_validateRelease hreleaseValid
  refine ⟨release, hrelease, hname, ?_⟩
  simp only [releaseNamespace, hrelease, hns, ne_eq, ite_not]
  split
  · rfl
  · rfl

theorem watch_agrees_with_resolver {c : InstanceCluster} {env : InstanceEnv} {cred : Unstructured}
    {app : ManagedInstance} (hcred : cred ∈ c.s3Credentials.items) (happ : app ∈ c.instances.items)
    (hvalid : validateApplicationInstanceSpec app.toApplicationInstance = .ok ())
    (hmode : app.spec.isPlaceholder = false)
    (hseaweed : isSeaweedWorkload app.toApplicationInstance = true)
    (henv : ∀ s, env.fault s = none) :
    ∃ release candidates, app.spec.release = some release ∧
      ((listMatchingS3Credentials (releaseNamespace app.toApplicationInstance) release.name).run env
        c).result = .ok candidates ∧
      (app.metadata.key ∈
          mapS3CredentialsToApplicationInstance c.listInstances "S3Credentials" cred ↔
        cred ∈ candidates) := by
  obtain ⟨release, hrelease, hname, hns⟩ := exists_release_of_valid hvalid hmode
  refine ⟨release, _, hrelease, congrArg Outcome.result (run_listMatchingS3Credentials henv), ?_⟩
  rw [mem_mapS3CredentialsToApplicationInstance happ, wantsSeaweedRef_iff hrelease,
    mem_matchingCredentials]
  constructor
  · rintro ⟨-, -, -, href, hplace⟩
    exact ⟨hcred, hplace.symm, href.symm⟩
  · rintro ⟨-, hplace, href⟩
    rw [href]
    exact ⟨hname, hns.symm.trans hplace.symm, hseaweed, rfl, hplace.symm⟩

def watchedStore : ManagedInstance where
  metadata := { ns := "team-a", name := "my-store", uid := "u1" }
  spec :=
    { catalogId := catalogIdSeaweedFS, mode := .managed
      release := some { name := "store", ns := "team-a" }
      values := some { source := .inline, inline := some (bytesOf "\x7b\"filer\":\x7b\x7d\x7d") } }

def watchedCluster : InstanceCluster :=
  { twoCredentials "chart" "a-test" with instances := Store.empty.put watchedStore }

theorem chart_credentials_seen : ∃ release candidates, watchedStore.spec.release = some release ∧
    ((listMatchingS3Credentials (releaseNamespace watchedStore.toApplicationInstance)
      release.name).run { now := 0 } watchedCluster).result = .ok candidates ∧
    readyCredential "chart" ∈ candidates := by
  have hvalid : validateApplicationInstanceSpec watchedStore.toApplicationInstance = .ok () := by
    decide +kernel
  have hcred : readyCredential "chart" ∈ watchedCluster.s3Credentials.items := List.mem_cons_self
  have happ : watchedStore ∈ watchedCluster.instances.items := List.mem_cons_self
  have hrequest : watchedStore.metadata.key ∈ mapS3CredentialsToApplicationInstance
      watchedCluster.listInstances "S3Credentials" (readyCredential "chart") := by decide +kernel
  obtain ⟨release, candidates, hrelease, hrun, hiff⟩ := watch_agrees_with_resolver hcred happ hvalid
    rfl rfl (fun s => (rfl : ({ now := 0 } : InstanceEnv).fault s = none))
  exact ⟨release, candidates, hrelease, hrun, hiff.mp hrequest⟩

end VWorkspace
