import VWorkspaceOperator.Instance.Reconcile
import VWorkspaceOperator.Instance.Seaweed

/-!
# What the instance controller is woken by

Besides the instances themselves the controller watches `S3Credentials`.  A change of one is
mapped to requests for the instances of native SeaweedFS workloads it may belong to.
-/

namespace VWorkspace

open Kit

/-- The loop of `applicationInstancesForSeaweedRef`: whether an instance is asked for. -/
def wantsSeaweedRef (releaseName ns : String) (app : ManagedInstance) : Bool :=
  isSeaweedWorkload app.toApplicationInstance &&
    match app.spec.release with
    | none => false
    | some release =>
        release.name = releaseName &&
          (if release.ns = "" then app.metadata.ns else release.ns) = ns

def applicationInstancesForSeaweedRef (items : List ManagedInstance)
    (releaseName releaseNamespace : String) : List ObjectKey :=
  (items.filter (wantsSeaweedRef releaseName releaseNamespace)).map fun app => app.metadata.key

/-- `mapS3CredentialsToApplicationInstance`, of an object of a kind, with the answer to the list
of the instances of a namespace.  An error of the list is only logged. -/
def mapS3CredentialsToApplicationInstance
    (list : String → Except GoError (List ManagedInstance)) (kind : String) (cred : Unstructured) :
    List ObjectKey :=
  if kind ≠ "S3Credentials" then []
  else
    match nested ["spec", "seaweedRef", "name"] cred.body with
    | some (.str releaseName) =>
        if releaseName = "" then []
        else
          match list cred.metadata.ns with
          | .error _ => []
          | .ok items => applicationInstancesForSeaweedRef items releaseName cred.metadata.ns
    | _ => []

def InstanceCluster.listInstances (c : InstanceCluster) (ns : String) :
    Except GoError (List ManagedInstance) :=
  .ok (c.instances.items.filter fun app => app.metadata.ns = ns)

section requests

variable {items : List ManagedInstance} {app : ManagedInstance} {releaseName ns : String}
  {release : ReleaseSpec}

theorem wantsSeaweedRef_iff (hrelease : app.spec.release = some release) :
    wantsSeaweedRef releaseName ns app = true ↔ isSeaweedWorkload app.toApplicationInstance = true ∧
      release.name = releaseName ∧ releaseNamespace app.toApplicationInstance = ns := by
  have hnamespace : releaseNamespace app.toApplicationInstance =
      if release.ns = "" then app.metadata.ns else release.ns := by
    simp only [releaseNamespace, hrelease, ne_eq, ite_not]
  simp [wantsSeaweedRef, hrelease, hnamespace]

theorem mem_mapS3CredentialsToApplicationInstance {c : InstanceCluster} {cred : Unstructured}
    (happ : app ∈ c.instances.items) :
    app.metadata.key ∈ mapS3CredentialsToApplicationInstance c.listInstances "S3Credentials" cred ↔
      nestedString ["spec", "seaweedRef", "name"] cred.body ≠ "" ∧
        app.metadata.ns = cred.metadata.ns ∧
        wantsSeaweedRef (nestedString ["spec", "seaweedRef", "name"] cred.body) cred.metadata.ns
          app = true := by
  unfold mapS3CredentialsToApplicationInstance InstanceCluster.listInstances
  rw [if_neg (by simp)]
  split
  · next releaseName hfound =>
    have hname : nestedString ["spec", "seaweedRef", "name"] cred.body = releaseName := by
      rw [nestedString, hfound]
    rw [hname]
    by_cases hempty : releaseName = ""
    · simp [hempty]
    · rw [if_neg hempty]
      simp only [applicationInstancesForSeaweedRef, List.mem_map, List.mem_filter,
        decide_eq_true_iff]
      constructor
      · rintro ⟨app', ⟨⟨happ', hns⟩, hwants⟩, hkey⟩
        obtain rfl := Store.eq_of_mem happ' happ hkey
        exact ⟨hempty, hns, hwants⟩
      · rintro ⟨-, hns, hwants⟩
        exact ⟨app, ⟨⟨happ, hns⟩, hwants⟩, rfl⟩
  · next hfound =>
    have hname : nestedString ["spec", "seaweedRef", "name"] cred.body = "" := by
      unfold nestedString
      split
      · next s hs => exact absurd hs (hfound s)
      · rfl
    simp [hname]

end requests

end VWorkspace
