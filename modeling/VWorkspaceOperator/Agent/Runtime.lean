import VWorkspaceOperator.Kit.Prog
import VWorkspaceOperator.Kit.Rules
import VWorkspaceOperator.Kit.Store
import VWorkspaceOperator.Kit.Text

/-!
# The runtime of the agent

`Runtime.ensurePoller` looks for the `Cluster` resource and the Secret with the
credentials, and keeps a poller running with them.  The poller and the batcher of
its events have clients that are made from the credentials once, when the poller
starts; the runtime remembers the cluster id it started the poller with, and
nothing else.
-/

namespace VWorkspace.Agent

open Kit Prog

structure Credentials where
  baseURL : String
  clusterID : String
  token : String
  deriving DecidableEq, Repr

structure HTTPClient where
  baseURL : String
  clusterID : String
  token : String
  deriving DecidableEq, Repr

def clientOf (c : Credentials) : HTTPClient := ⟨trimRight '/' c.baseURL, c.clusterID, c.token⟩

def newHTTPClient (c : Credentials) : Except String HTTPClient :=
  if trimSpace c.baseURL = "" then .error "base URL is required"
  else if trimSpace c.clusterID = "" then .error "cluster ID is required"
  else if trimSpace c.token = "" then .error "token is required"
  else .ok (clientOf c)

structure SecretReference where
  name : String
  ns : String := ""
  deriving DecidableEq, Repr

structure ClusterResource where
  deleting : Bool := false
  credentialsSecretRef : Option SecretReference := none
  deriving DecidableEq, Repr

structure CredentialsSecret where
  ns : String
  name : String
  data : List (String × String)
  deriving DecidableEq, Repr

instance : Keyed CredentialsSecret (String × String) := ⟨fun s => (s.ns, s.name)⟩

def CredentialsSecret.entry (s : CredentialsSecret) (key : String) : String :=
  trimSpace ((s.data.lookup key).getD "")

def credentialsFromSecret (s : CredentialsSecret) : Except String Credentials :=
  let cred : Credentials :=
    ⟨s.entry "control-plane-base-url", s.entry "cluster-id", s.entry "token"⟩
  if cred.baseURL = "" ∨ cred.clusterID = "" ∨ cred.token = "" then
    .error ("secret " ++ s.ns ++ "/" ++ s.name ++
      " is missing control-plane-base-url, cluster-id, or token")
  else .ok cred

theorem newHTTPClient_of_secret {s : CredentialsSecret} {c : Credentials}
    (h : credentialsFromSecret s = .ok c) : newHTTPClient c = .ok (clientOf c) := by
  unfold credentialsFromSecret at h
  dsimp only at h
  split at h
  · exact absurd h (by simp)
  · next hfull =>
    obtain rfl := Except.ok.inj h
    simp only [not_or] at hfull
    simp only [CredentialsSecret.entry] at hfull ⊢
    simp [newHTTPClient, hfull]

structure RuntimeConfig where
  secretNamespace : String := ""
  secretName : String := ""
  /-- An event batcher is given. -/
  eventBatcher : Bool := true

structure Runtime where
  running : Bool := false
  clusterID : String := ""
  /-- The client of the poller that runs. -/
  poller : Option HTTPClient := none
  /-- The client of the batcher that was given. -/
  givenBatcher : Option HTTPClient := none
  /-- The client of a batcher that was started with the poller. -/
  ownBatcher : Option HTTPClient := none
  deriving DecidableEq, Repr

def Runtime.batcher (r : Runtime) (cfg : RuntimeConfig) : Option HTTPClient :=
  if cfg.eventBatcher then r.givenBatcher else r.ownBatcher

structure RuntimeWorld where
  /-- The `Cluster` resources, as they are listed. -/
  clusters : List ClusterResource := []
  secrets : Store CredentialsSecret := Store.empty
  runtime : Runtime := {}

/-- What a call meets: the failures of listing and of getting. -/
structure RuntimeEnv where
  list : Option String := none
  get : Option String := none

abbrev RuntimeM := Prog RuntimeEnv RuntimeWorld Empty String

def defaultCredentialsSecret : String := "vworkspace-agent-credentials"

/-- A Secret the credentials may be in, and whether there is a `Cluster` for them. -/
structure CredentialsTarget where
  ns : String
  name : String
  clusterPresent : Bool
  deriving DecidableEq, Repr

def orDefault (s other : String) : String := if trimSpace s = "" then other else trimSpace s

/-- Where the credentials are, by the first `Cluster` of the list. -/
def credentialsTarget (cfg : RuntimeConfig) (clusters : List ClusterResource) :
    CredentialsTarget :=
  let defaultNS := orDefault cfg.secretNamespace "vworkspace-system"
  let defaultName := orDefault cfg.secretName defaultCredentialsSecret
  match clusters with
  | [] => ⟨defaultNS, defaultName, false⟩
  | cluster :: _ =>
      if cluster.deleting then ⟨"", "", false⟩
      else
        match cluster.credentialsSecretRef with
        | some ref =>
            if trimSpace ref.name ≠ "" then ⟨orDefault ref.ns defaultNS, trimSpace ref.name, true⟩
            else ⟨defaultNS, defaultName, true⟩
        | none => ⟨defaultNS, defaultName, true⟩

def resolveCredentialsTarget (cfg : RuntimeConfig) : RuntimeM CredentialsTarget := do
  let env ← Prog.ask
  match env.list with
  | some msg => Prog.throw msg
  | none =>
      let w ← Prog.get
      pure (credentialsTarget cfg w.clusters)

def getCredentialsSecret (ns name : String) : RuntimeM (Option CredentialsSecret) := do
  let env ← Prog.ask
  match env.get with
  | some msg => Prog.throw ("get credentials secret " ++ ns ++ "/" ++ name ++ ": " ++ msg)
  | none =>
      let w ← Prog.get
      pure (w.secrets.get (ns, name))

def Runtime.setEventBatcherClient (cfg : RuntimeConfig) (c : Option HTTPClient) (r : Runtime) :
    Runtime :=
  if cfg.eventBatcher then { r with givenBatcher := c } else r

/-- `stopPollerLocked`: what runs in the context of the poller ends with it. -/
def Runtime.stopPollerLocked (cfg : RuntimeConfig) (r : Runtime) : Runtime :=
  Runtime.setEventBatcherClient cfg none
    { r with poller := none, ownBatcher := none, running := false, clusterID := "" }

def modifyRuntime (f : Runtime → Runtime) : RuntimeM Unit :=
  Prog.modify fun w => { w with runtime := f w.runtime }

def stopPoller (cfg : RuntimeConfig) : RuntimeM Unit := modifyRuntime (Runtime.stopPollerLocked cfg)

/-- The poller, and a batcher if none is given, started with a client. -/
def Runtime.start (cfg : RuntimeConfig) (c : HTTPClient) (clusterID : String) (r : Runtime) :
    Runtime :=
  Runtime.setEventBatcherClient cfg (some c)
    { r with
      poller := some c
      ownBatcher := if cfg.eventBatcher then none else some c
      running := true
      clusterID := clusterID }

def ensurePoller (cfg : RuntimeConfig) : RuntimeM Unit := do
  let target ← resolveCredentialsTarget cfg
  if target.clusterPresent = false then
    stopPoller cfg
    Prog.throw "no Cluster resource found"
  else
    match ← getCredentialsSecret target.ns target.name with
    | none =>
        stopPoller cfg
        Prog.throw ("credentials secret " ++ target.ns ++ "/" ++ target.name ++ " not found")
    | some secret =>
        let creds ← Prog.ofExcept (credentialsFromSecret secret)
        let w ← Prog.get
        if w.runtime.running = true ∧ w.runtime.clusterID = creds.clusterID then pure ()
        else
          stopPoller cfg
          modifyRuntime (Runtime.setEventBatcherClient cfg none)
          let httpClient ← (Prog.ofExcept (newHTTPClient creds)).mapError
            ("configure agent client: " ++ ·)
          modifyRuntime (Runtime.start cfg httpClient creds.clusterID)

def Reads (cfg : RuntimeConfig) (w : RuntimeWorld) (creds : Credentials) : Prop :=
  (credentialsTarget cfg w.clusters).clusterPresent = true ∧
    ∃ secret, w.secrets.get ((credentialsTarget cfg w.clusters).ns,
      (credentialsTarget cfg w.clusters).name) = some secret ∧
      credentialsFromSecret secret = .ok creds

theorem reads_unique {cfg : RuntimeConfig} {w : RuntimeWorld} {creds creds' : Credentials}
    (h : Reads cfg w creds) (h' : Reads cfg w creds') : creds = creds' := by
  obtain ⟨-, secret, hget, hok⟩ := h
  obtain ⟨-, secret', hget', hok'⟩ := h'
  rw [hget, Option.some.injEq] at hget'
  rw [← hget', hok, Except.ok.injEq] at hok'
  exact hok'

/-- The runtime after it was stopped and started with credentials. -/
def Runtime.restart (cfg : RuntimeConfig) (creds : Credentials) (r : Runtime) : Runtime :=
  Runtime.start cfg (clientOf creds) creds.clusterID
    (Runtime.setEventBatcherClient cfg none (Runtime.stopPollerLocked cfg r))

/-- The call reads credentials: nothing fails, and the Secret holds them. -/
structure Obtains (cfg : RuntimeConfig) (env : RuntimeEnv) (w : RuntimeWorld)
    (creds : Credentials) : Prop where
  list : env.list = none
  get : env.get = none
  reads : Reads cfg w creds

/-- What a call can do: fail, and leave the poller or stop it; find the poller running
with the cluster id of the credentials; or start it with the credentials. -/
inductive Ensured (cfg : RuntimeConfig) (env : RuntimeEnv) (w : RuntimeWorld) :
    Outcome RuntimeWorld Empty String Unit → Prop
  | failed (msg : String) (hno : ∀ creds, ¬Obtains cfg env w creds) :
      Ensured cfg env w ⟨.error msg, w, []⟩
  | stopped (msg : String) (hno : ∀ creds, ¬Obtains cfg env w creds) : Ensured cfg env w
      ⟨.error msg, { w with runtime := Runtime.stopPollerLocked cfg w.runtime }, []⟩
  | kept (creds : Credentials) (hobtains : Obtains cfg env w creds)
      (hrunning : w.runtime.running = true)
      (hsame : w.runtime.clusterID = creds.clusterID) : Ensured cfg env w ⟨.ok (), w, []⟩
  | started (creds : Credentials) (hobtains : Obtains cfg env w creds)
      (hnew : ¬(w.runtime.running = true ∧ w.runtime.clusterID = creds.clusterID)) :
      Ensured cfg env w ⟨.ok (), { w with runtime := Runtime.restart cfg creds w.runtime }, []⟩

section calls

variable {cfg : RuntimeConfig} {env : RuntimeEnv} {w : RuntimeWorld} {ns name : String}

theorem run_resolveCredentialsTarget_of_none (h : env.list = none) :
    (resolveCredentialsTarget cfg).run env w = ⟨.ok (credentialsTarget cfg w.clusters), w, []⟩ := by
  simp [resolveCredentialsTarget, run_bind, h, Outcome.after]

theorem run_resolveCredentialsTarget_of_some {msg : String} (h : env.list = some msg) :
    (resolveCredentialsTarget cfg).run env w = ⟨.error msg, w, []⟩ := by
  simp [resolveCredentialsTarget, run_bind, h, Outcome.after]

theorem run_getCredentialsSecret_of_none (h : env.get = none) :
    (getCredentialsSecret ns name).run env w = ⟨.ok (w.secrets.get (ns, name)), w, []⟩ := by
  simp [getCredentialsSecret, run_bind, h, Outcome.after]

theorem run_getCredentialsSecret_of_some {msg : String} (h : env.get = some msg) :
    (getCredentialsSecret ns name).run env w =
      ⟨.error ("get credentials secret " ++ ns ++ "/" ++ name ++ ": " ++ msg), w, []⟩ := by
  simp [getCredentialsSecret, run_bind, h, Outcome.after]

end calls

theorem ensurePoller_spec (cfg : RuntimeConfig) (env : RuntimeEnv) (w : RuntimeWorld) :
    Ensured cfg env w ((ensurePoller cfg).run env w) := by
  unfold ensurePoller
  cases hlist : env.list with
  | some msg =>
    rw [run_bind, run_resolveCredentialsTarget_of_some hlist]
    exact .failed msg fun creds h => absurd h.list (by simp [hlist])
  | none =>
    rw [run_bind, run_resolveCredentialsTarget_of_none hlist]
    dsimp only
    by_cases hpresent : (credentialsTarget cfg w.clusters).clusterPresent = false
    · rw [if_pos hpresent]
      exact .stopped _ fun creds h => absurd h.reads.1 (by simp [hpresent])
    · rw [if_neg hpresent]
      rw [Bool.not_eq_false] at hpresent
      cases hget : env.get with
      | some msg =>
        rw [run_bind, run_getCredentialsSecret_of_some hget]
        exact .failed _ fun creds h => absurd h.get (by simp [hget])
      | none =>
        rw [run_bind, run_getCredentialsSecret_of_none hget]
        dsimp only
        cases hsecret : w.secrets.get ((credentialsTarget cfg w.clusters).ns,
            (credentialsTarget cfg w.clusters).name) with
        | none =>
          refine .stopped _ fun creds h => ?_
          obtain ⟨-, secret, hfound, -⟩ := h.reads
          exact absurd hfound (by simp [hsecret])
        | some secret =>
          dsimp only
          cases hcreds : credentialsFromSecret secret with
          | error msg =>
            refine .failed msg fun creds h => ?_
            obtain ⟨-, secret', hfound, hok⟩ := h.reads
            rw [hsecret, Option.some.injEq] at hfound
            rw [← hfound, hcreds] at hok
            exact absurd hok (by simp)
          | ok creds =>
            have hobtains : Obtains cfg env w creds :=
              ⟨hlist, hget, hpresent, secret, hsecret, hcreds⟩
            by_cases hsame : w.runtime.running = true ∧ w.runtime.clusterID = creds.clusterID
            · simp only [run_bind, run_ofExcept, run_get, if_pos hsame]
              exact .kept creds hobtains hsame.1 hsame.2
            · simp only [run_bind, run_ofExcept, run_get, if_neg hsame,
                newHTTPClient_of_secret hcreds, run_mapError]
              exact .started creds hobtains hsame

inductive RuntimeStep where
  | ensure (env : RuntimeEnv)
  /-- The context of the runtime ends. -/
  | stop
  /-- Others change the `Cluster` resources and the Secrets. -/
  | outside (clusters : List ClusterResource) (secrets : Store CredentialsSecret)

def runtimeStep (cfg : RuntimeConfig) (w : RuntimeWorld) : RuntimeStep → RuntimeWorld
  | .ensure env => ((ensurePoller cfg).run env w).state
  | .stop => { w with runtime := Runtime.stopPollerLocked cfg w.runtime }
  | .outside clusters secrets => { w with clusters, secrets }

/-! ### The client of the batcher

The runtime writes the client of a batcher it was given while the batcher may be flushing, and
writes it more than once in a call: what the calls of `setEventBatcherClient` write, in order. -/

def ensureWrites (cfg : RuntimeConfig) (env : RuntimeEnv) (w : RuntimeWorld) :
    List (Option HTTPClient) :=
  let target := credentialsTarget cfg w.clusters
  if env.list.isSome then []
  else if target.clusterPresent = false then [none]
  else if env.get.isSome then []
  else
    match w.secrets.get (target.ns, target.name) with
    | none => [none]
    | some secret =>
        match credentialsFromSecret secret with
        | .error _ => []
        | .ok creds =>
            if w.runtime.running = true ∧ w.runtime.clusterID = creds.clusterID then []
            else
              match newHTTPClient creds with
              | .error _ => [none, none]
              | .ok c => [none, none, some c]

def clientWrites (cfg : RuntimeConfig) (w : RuntimeWorld) (x : RuntimeStep) :
    List (Option HTTPClient) :=
  if cfg.eventBatcher then
    match x with
    | .ensure env => ensureWrites cfg env w
    | .stop => [none]
    | .outside _ _ => []
  else []

end VWorkspace.Agent
