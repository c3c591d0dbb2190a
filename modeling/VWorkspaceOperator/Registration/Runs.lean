import VWorkspaceOperator.Kit.Run
import VWorkspaceOperator.Registration.Rules

/-!
# Runs of the cluster controller

A run is a sequence of reconciles, with what others change between them.  Here is the machine, and
what a reconcile makes of the Secret with the credentials: a write leaves credentials that are
complete, or nothing is written.
-/

namespace VWorkspace.Registration

open Kit Prog ClusterM

structure Holds (creds : Agent.Credentials) (secret : Secret) : Prop where
  baseURL : secret.data.lookup "control-plane-base-url" = some (trimSpace creds.baseURL)
  clusterID : secret.data.lookup "cluster-id" = some (trimSpace creds.clusterID)
  token : secret.data.lookup "token" = some (trimSpace creds.token)

structure Whole (creds : Agent.Credentials) : Prop where
  baseURL : trimSpace creds.baseURL ≠ ""
  clusterID : trimSpace creds.clusterID ≠ ""
  token : trimSpace creds.token ≠ ""

theorem of_credentialsFromSecret {secret : Agent.CredentialsSecret} {creds : Agent.Credentials}
    (h : Agent.credentialsFromSecret secret = .ok creds) :
    Whole creds ∧ creds.token = secret.entry "token" := by
  unfold Agent.credentialsFromSecret at h
  dsimp only at h
  split at h
  · exact absurd h (by simp)
  · next hfull =>
    obtain rfl := Except.ok.inj h
    simp only [not_or, Agent.CredentialsSecret.entry] at hfull
    refine ⟨⟨?_, ?_, ?_⟩, rfl⟩
    · simpa [Agent.CredentialsSecret.entry] using hfull.1
    · simpa [Agent.CredentialsSecret.entry] using hfull.2.1
    · simpa [Agent.CredentialsSecret.entry] using hfull.2.2

def Complete (r : ClusterReconciler) (w : ClusterWorld) : Prop :=
  ∃ secret creds, w.secrets.get r.credentialsPlace = some secret ∧
    Agent.credentialsFromSecret secret.credentials = .ok creds

def ClusterReconciler.persistPlace (r : ClusterReconciler) : ObjectKey :=
  ⟨trimSpace r.namespaceOf, if trimSpace r.credentialsSecretName = "" then
    Agent.defaultCredentialsSecret else trimSpace r.credentialsSecretName⟩

theorem trimSpace_namespaceOf_ne {r : ClusterReconciler}
    (hplace : r.persistPlace = r.credentialsPlace) : trimSpace r.namespaceOf ≠ "" := by
  rw [ClusterReconciler.persistPlace, ClusterReconciler.credentialsPlace, ObjectKey.mk.injEq]
    at hplace
  rw [hplace.1, ClusterReconciler.namespaceOf]
  split
  · next h => exact fun hempty => h (by rw [hempty]; decide)
  · split
    · assumption
    · decide

section secret

variable {r : ClusterReconciler} {creds : Agent.Credentials} {owner : ClusterResource}
  {secret secret' : Secret}

theorem Holds.credentials (h : Holds creds secret) (hwhole : Whole creds) :
    Agent.credentialsFromSecret secret.credentials =
      .ok ⟨trimSpace creds.baseURL, trimSpace creds.clusterID, trimSpace creds.token⟩ := by
  have hbaseURL : secret.credentials.entry "control-plane-base-url" = trimSpace creds.baseURL := by
    rw [Agent.CredentialsSecret.entry, Secret.credentials, h.baseURL, Option.getD_some,
      trimSpace_trimSpace]
  have hclusterID : secret.credentials.entry "cluster-id" = trimSpace creds.clusterID := by
    rw [Agent.CredentialsSecret.entry, Secret.credentials, h.clusterID, Option.getD_some,
      trimSpace_trimSpace]
  have htoken : secret.credentials.entry "token" = trimSpace creds.token := by
    rw [Agent.CredentialsSecret.entry, Secret.credentials, h.token, Option.getD_some,
      trimSpace_trimSpace]
  rw [Agent.credentialsFromSecret]
  simp only [hbaseURL, hclusterID, htoken]
  rw [if_neg (by simp [hwhole.baseURL, hwhole.clusterID, hwhole.token])]

/-- The controller of the Secret, if there is one, is this owner. -/
def Ownable (owner : OwnerReference) (secret : Secret) : Prop :=
  ∃ m, setControllerReferenceTo owner secret.metadata = .ok m

theorem referSameObject_controllerReference (cluster : ClusterResource) :
    referSameObject (controllerReference cluster) (controllerReference cluster) = true := by
  have hgroup : apiGroup opsGroupVersion = some "ops.vworkspace.io" := by decide
  simp [referSameObject, controllerReference, hgroup]

theorem of_mutateCredentials (h : mutateCredentials creds owner secret = .ok secret') :
    Holds creds secret' ∧ secret'.metadata.key = secret.metadata.key ∧
      Ownable (controllerReference owner) secret' := by
  obtain ⟨owned, howned, hrest⟩ := exists_of_bind_ok h
  obtain rfl := Except.ok.inj hrest
  refine ⟨⟨?_, ?_, ?_⟩, ?_⟩
  · rw [lookup_setField_of_ne _ (by decide), lookup_setField_of_ne _ (by decide),
      lookup_setField_self]
  · rw [lookup_setField_of_ne _ (by decide), lookup_setField_self]
  · rw [lookup_setField_self]
  · cases hset : setControllerReferenceTo (controllerReference owner) secret.metadata with
    | error err => rw [hset] at howned; exact absurd howned (by simp [Except.mapError])
    | ok m =>
      rw [hset] at howned
      obtain rfl : m = owned := Except.ok.inj howned
      refine ⟨by rw [of_setControllerReferenceTo hset]; rfl, ?_⟩
      exact setControllerReferenceTo_again rfl (referSameObject_controllerReference owner) hset

end secret

section credentials

variable {r : ClusterReconciler} {env : ClusterEnv} {w : ClusterWorld}

theorem result_loadStoredCredentials (h : Complete r w) {s : LoadSite}
    (hfault : env.fault (.loadCredentials s) = none) :
    ∃ creds, ((r.loadStoredCredentials s).run env w).result = .ok creds := by
  obtain ⟨secret, creds, hget, hcreds⟩ := h
  refine ⟨creds, ?_⟩
  simp only [ClusterReconciler.loadStoredCredentials, ClusterM.read, call, run_bind, run_mapError,
    hfault]
  simp [hget, hcreds, Except.mapError]

theorem of_loadStoredCredentials {s : LoadSite} {creds : Agent.Credentials}
    (h : ((r.loadStoredCredentials s).run env w).result = .ok creds) :
    ∃ secret, w.secrets.get r.credentialsPlace = some secret ∧
      Agent.credentialsFromSecret secret.credentials = .ok creds := by
  obtain ⟨found, hfound, hrest⟩ := exists_of_result_bind h
  rw [(Idle.mapError (idle_read _ _) env w).1] at hrest
  have hget := eq_of_read (result_of_mapError hfound)
  cases found with
  | none => exact absurd hrest (by simp)
  | some secret =>
    refine ⟨secret, hget.symm, ?_⟩
    have hcreds : (Agent.credentialsFromSecret secret.credentials).mapError
        (fun msg => ({ msg } : GoError)) = .ok creds := hrest
    cases hx : Agent.credentialsFromSecret secret.credentials with
    | error e => rw [hx] at hcreds; exact absurd hcreds (by simp [Except.mapError])
    | ok c => rw [hx] at hcreds; exact congrArg _ (Except.ok.inj hcreds)

variable {τ : Type} {apply : ClusterEvent → τ → τ} {P F : τ → ClusterWorld → Prop}
  {Q : τ → ClusterWorld → Prop}

theorem follows_createOrUpdateSecret (s : PersistSite) (k : ObjectKey)
    (mutate : Secret → Except GoError Secret) (hF : ∀ t w, P t w → F t w)
    (hwrite : ∀ t w found secret, P t w → found.metadata.key = k → mutate found = .ok secret →
      Q t { w with secrets := w.secrets.put secret }) :
    Follows apply env P (createOrUpdateSecret s k mutate) (fun _ => Q) F := by
  let R (found : Option Secret) (t : τ) (w : ClusterWorld) : Prop := P t w ∧ found = w.secrets.get k
  have hmutate : ∀ found secret, Follows apply env (R found) (Prog.ofExcept (mutate secret))
      (fun secret' t w => R found t w ∧ mutate secret = .ok secret') F := fun found secret =>
    .known (.ofExcept _) fun t w h => hF t w h.1
  have hput : ∀ found secret secret', secret.metadata.key = k → Follows apply env
      (fun t w => R found t w ∧ mutate secret = .ok secret')
      (Prog.modify fun w => { w with secrets := w.secrets.put secret' } : ClusterM Unit)
      (fun _ => Q) F := fun found secret secret' hkey t w h =>
    ⟨fun _ _ => hwrite t w secret secret' h.1.1 hkey h.2, fun _ he => absurd he (by simp)⟩
  refine .bind (Q := R) ((Follows.known (idle_read _ _) hF).post fun _ _ _ h => ⟨h.1, eq_of_read h.2⟩)
    fun found => ?_
  cases found with
  | none =>
    refine .bind (hmutate none _) fun secret => ?_
    exact .bind (.of_idle (idle_call _) fun t w h => hF t w h.1.1) fun _ => hput none _ secret rfl
  | some stored =>
    refine .bind (hmutate (some stored) stored) fun secret => ?_
    split
    · next hsame =>
      refine .pure ?_
      rintro t w ⟨⟨hw, hget⟩, hsecret⟩
      have hkept := hwrite t w stored secret hw (Store.key_of_get hget.symm) hsecret
      rw [hsame, Store.put_of_mem (Store.mem_of_get hget.symm)] at hkept
      exact hkept
    · refine .bind (.of_idle (idle_call _) fun t w h => hF t w h.1.1) fun _ => ?_
      intro t w h
      exact hput (some stored) stored secret (Store.key_of_get h.1.2.symm) t w h

theorem follows_persistCredentials (s : PersistSite) (creds : Agent.Credentials)
    (owner : ClusterResource) (hF : ∀ t w, P t w → F t w)
    (hQ : ∀ t w secret, P t w → Whole creds → Holds creds secret →
      secret.metadata.key = r.persistPlace → Ownable (controllerReference owner) secret →
      Q (apply (.persisted creds) t) { w with secrets := w.secrets.put secret }) :
    Follows apply env P
      (persistCredentials s r.namespaceOf r.credentialsSecretName creds owner) (fun _ => Q) F := by
  unfold persistCredentials
  simp only
  split
  · exact .throw hF
  · split
    · exact .throw hF
    · next hwhole =>
      simp only [not_or] at hwhole
      refine .bind (.mapError (follows_createOrUpdateSecret s r.persistPlace
        (mutateCredentials creds owner) hF ?_)) fun _ =>
          .emit (P := fun t w => Q (apply (.persisted creds) t) w) fun _ _ => id
      intro t w found secret hw hkey hmutate
      obtain ⟨hholds, hplace, howned⟩ := of_mutateCredentials hmutate
      exact hQ t w secret hw ⟨hwhole.1, hwhole.2.1, hwhole.2.2⟩ hholds (hplace.trans hkey) howned

theorem follows_register {Q : RegisterResponse → τ → ClusterWorld → Prop}
    (baseURL token clusterID : String) (hF : ∀ t w, P t w → F (apply (.registerCalled token) t) w)
    (hanswer : ∀ t w answer, P t w → trimSpace baseURL ≠ "" →
      env.register (trimRight '/' (trimSpace baseURL)) token (trimSpace clusterID) = .ok answer →
      (∀ resp, checkRegistration answer = .ok resp →
        Q resp (apply (.registerCalled token) t) (w.exchanged token answer.token)) ∧
      ∀ err, checkRegistration answer = .error err →
        F (apply (.registerCalled token) t) (w.exchanged token answer.token)) :
    Follows apply env P (register baseURL token clusterID) Q F := by
  intro t w hw
  have hfail : ∀ err, (register baseURL token clusterID).run env w =
      ⟨.error err, w, [.registerCalled token]⟩ →
      (∀ a, ((register baseURL token clusterID).run env w).result = .ok a →
        Q a (replay apply ((register baseURL token clusterID).run env w).trace t)
          ((register baseURL token clusterID).run env w).state) ∧
      ∀ e, ((register baseURL token clusterID).run env w).result = .error e →
        F (replay apply ((register baseURL token clusterID).run env w).trace t)
          ((register baseURL token clusterID).run env w).state := by
    intro err hrun
    rw [hrun]
    exact ⟨fun _ ha => absurd ha (by simp), fun _ _ => hF t w hw⟩
  by_cases hblank : trimRight '/' (trimSpace baseURL) = ""
  · exact hfail { msg := "control plane base URL is required" }
      (by simp [register, hblank, run_bind, Outcome.after])
  · cases hcall : env.register (trimRight '/' (trimSpace baseURL)) token (trimSpace clusterID) with
    | error err =>
      exact hfail err (by simp [register, hblank, hcall, run_bind, Outcome.after])
    | ok answer =>
      have hrun : (register baseURL token clusterID).run env w = ⟨checkRegistration answer,
          w.exchanged token answer.token, [.registerCalled token]⟩ := by
        simp [register, hblank, hcall, run_bind, Outcome.after]
      have hurl : trimSpace baseURL ≠ "" := fun h => hblank (by rw [h]; rfl)
      rw [hrun]
      exact hanswer t w answer hw hurl hcall

theorem follows_rotate {Q : String → τ → ClusterWorld → Prop} (client : Agent.HTTPClient)
    (hF : ∀ t w err, P t w → env.rotate client = .error err → F (apply (.rotateCalled client) t) w)
    (hanswer : ∀ t w answer, P t w → env.rotate client = .ok answer →
      (∀ token, checkRotation answer = .ok token →
        Q token (apply (.rotateCalled client) t) (w.rotated answer)) ∧
      ∀ err, checkRotation answer = .error err →
        F (apply (.rotateCalled client) t) (w.rotated answer)) :
    Follows apply env P (rotate client) Q F := by
  intro t w hw
  cases hcall : env.rotate client with
  | error err =>
    have hrun : (rotate client).run env w = ⟨.error err, w, [.rotateCalled client]⟩ := by
      simp [rotate, hcall, run_bind, Outcome.after]
    rw [hrun]
    exact ⟨fun _ ha => absurd ha (by simp), fun _ _ => hF t w err hw hcall⟩
  | ok answer =>
    have hrun : (rotate client).run env w =
        ⟨checkRotation answer, w.rotated answer, [.rotateCalled client]⟩ := by
      simp [rotate, hcall, run_bind, Outcome.after]
    rw [hrun]
    exact hanswer t w answer hw hcall

end credentials

/-- Nothing keeps credentials from being written for this owner. -/
structure Persists (r : ClusterReconciler) (env : ClusterEnv) (s : PersistSite)
    (owner : OwnerReference) (w : ClusterWorld) : Prop where
  ns : trimSpace r.namespaceOf ≠ ""
  read : env.fault (.getSecret s) = none
  create : env.fault (.createSecret s) = none
  update : env.fault (.updateSecret s) = none
  ownable : ∀ secret, w.secrets.get r.persistPlace = some secret → Ownable owner secret

section succeeds

variable {r : ClusterReconciler} {env : ClusterEnv} {w : ClusterWorld}

theorem returns_call {s : ClusterSite} {Q : Unit → ClusterWorld → Prop} (h : env.fault s = none)
    (hQ : Q () w) : Returns env w (call s) Q := by
  refine ⟨(), ?_, ?_⟩
  · simp only [call, h]
  · simp only [call, h]
    exact hQ

theorem returns_read {α : Type} {s : ClusterSite} {f : ClusterWorld → α}
    {Q : α → ClusterWorld → Prop} (h : env.fault s = none) (hQ : Q (f w) w) :
    Returns env w (ClusterM.read s f) Q := .seq (returns_call h (.seq (.get (.pure hQ))))

theorem returns_updateCluster {s : ClusterSite} {cluster stored : ClusterResource}
    (h : env.fault s = none) (hget : w.clusters.get cluster.metadata.name = some stored)
    (hfinalizers : cluster.metadata.finalizers = stored.metadata.finalizers) :
    Returns env w (updateCluster s cluster) fun _ _ => True := by
  refine .seq (returns_call h (.seq (.ask (.seq (.get ?_)))))
  rw [hget]
  simp only
  split
  · next err hrefused => exact absurd hrefused (answerUpdate_ne_refused (by simp [hfinalizers]) err)
  · exact .seq (.modify (.pure trivial))
  · exact .seq (.modify (.pure trivial))

theorem mutateCredentials_of_ownable (creds : Agent.Credentials) {owner : ClusterResource}
    {secret : Secret} {m : ObjectMeta}
    (h : setControllerReferenceTo (controllerReference owner) secret.metadata = .ok m) :
    ∃ secret', mutateCredentials creds owner secret = .ok secret' := by
  rw [mutateCredentials, h]
  exact ⟨_, rfl⟩

theorem returns_persistCredentials {s : PersistSite} {creds : Agent.Credentials}
    {owner : ClusterResource} (h : Persists r env s (controllerReference owner) w)
    (hwhole : Whole creds) :
    Returns env w (persistCredentials s r.namespaceOf r.credentialsSecretName creds owner)
      fun _ _ => True := by
  have hwrite : Returns env w
      (createOrUpdateSecret s r.persistPlace (mutateCredentials creds owner)) fun _ _ => True := by
    refine .seq (returns_read h.read ?_)
    split
    · obtain ⟨secret, hsecret⟩ : ∃ secret, mutateCredentials creds owner
          { metadata := { ns := r.persistPlace.ns, name := r.persistPlace.name } } = .ok secret :=
        mutateCredentials_of_ownable creds rfl
      exact .seq (.ofExcept hsecret (.seq (returns_call h.create (.modify trivial))))
    · next stored hget =>
      obtain ⟨m, hm⟩ := h.ownable stored hget
      obtain ⟨secret, hsecret⟩ := mutateCredentials_of_ownable creds hm
      refine .seq (.ofExcept hsecret ?_)
      split
      · exact .pure trivial
      · exact .seq (returns_call h.update (.modify trivial))
  unfold persistCredentials
  simp only
  rw [if_neg h.ns, if_neg (by simp [hwhole.baseURL, hwhole.clusterID, hwhole.token])]
  exact .bind (.mapError hwrite) fun _ _ _ => .emit trivial

end succeeds

inductive ClusterStep where
  | reconcile (env : ClusterEnv) (name : String)
  | others (change : ClusterWorld → ClusterWorld)

namespace ClusterReconciler

variable (r : ClusterReconciler)

def step (w : ClusterWorld) : ClusterStep → ClusterWorld
  | .reconcile env name => ((r.reconcile name).run env w).state
  | .others change => change w

def emitted (w : ClusterWorld) : ClusterStep → List ClusterEvent
  | .reconcile env name => ((r.reconcile name).run env w).trace
  | .others _ => []

end ClusterReconciler

end VWorkspace.Registration
