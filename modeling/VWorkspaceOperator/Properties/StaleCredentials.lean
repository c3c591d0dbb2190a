import VWorkspaceOperator.Agent.Runtime
import VWorkspaceOperator.Kit.Run

/-!
# Stored credentials and clients

The runtime starts the poller anew when the cluster id in the Secret changes.  When
it is the token or the URL that changes, the poller and the batcher keep the
clients they were started with, and `ensurePoller` reports success.
-/

namespace VWorkspace.Agent

open Kit Prog

/-- A call that succeeds leaves the poller and the batcher with a client of the
credentials in the Secret it read. -/
def FreshAt (cfg : RuntimeConfig) (w : RuntimeWorld) : RuntimeStep → Prop
  | .ensure env => ((ensurePoller cfg).run env w).result = .ok () →
      ∃ creds, Reads cfg w creds ∧
        ((ensurePoller cfg).run env w).state.runtime.poller = some (clientOf creds) ∧
        ((ensurePoller cfg).run env w).state.runtime.batcher cfg = some (clientOf creds)
  | _ => True

/-- A call that finds the poller running with the cluster id of the Secret finds it
with the URL and the token of the Secret, too. -/
def SteadyAt (cfg : RuntimeConfig) (w : RuntimeWorld) : RuntimeStep → Prop
  | .ensure env => ∀ creds, Obtains cfg env w creds → w.runtime.running = true →
      w.runtime.clusterID = creds.clusterID → ∀ c, w.runtime.poller = some c →
      c.baseURL = trimRight '/' creds.baseURL ∧ c.token = creds.token
  | _ => True

/-- The poller and the batcher of a running runtime have one client, and it is of the
cluster the runtime remembers. -/
def InStep (cfg : RuntimeConfig) (r : Runtime) : Prop :=
  r.running = true → ∃ c, r.poller = some c ∧ r.batcher cfg = some c ∧ c.clusterID = r.clusterID

section runtime

variable {cfg : RuntimeConfig} {w : RuntimeWorld}

theorem inStep_stopPollerLocked (r : Runtime) : InStep cfg (Runtime.stopPollerLocked cfg r) := by
  have hstopped : (Runtime.stopPollerLocked cfg r).running = false := by
    unfold Runtime.stopPollerLocked Runtime.setEventBatcherClient
    split
    · rfl
    · rfl
  intro hrunning
  exact absurd hrunning (by simp [hstopped])

theorem clients_restart (creds : Credentials) (r : Runtime) :
    (Runtime.restart cfg creds r).poller = some (clientOf creds) ∧
      (Runtime.restart cfg creds r).batcher cfg = some (clientOf creds) ∧
      (Runtime.restart cfg creds r).clusterID = creds.clusterID := by
  unfold Runtime.restart Runtime.start Runtime.setEventBatcherClient Runtime.batcher
  cases cfg.eventBatcher with
  | true => exact ⟨rfl, rfl, rfl⟩
  | false => exact ⟨rfl, rfl, rfl⟩

theorem inStep_step (x : RuntimeStep) (h : InStep cfg w.runtime) :
    InStep cfg (runtimeStep cfg w x).runtime := by
  cases x with
  | stop => exact inStep_stopPollerLocked w.runtime
  | outside clusters secrets => exact h
  | ensure env =>
    have hspec := ensurePoller_spec cfg env w
    rw [runtimeStep]
    revert hspec
    generalize (ensurePoller cfg).run env w = o
    intro hspec
    cases hspec with
    | failed msg hno => exact h
    | stopped msg hno => exact inStep_stopPollerLocked w.runtime
    | kept creds hobtains hrunning hsame => exact h
    | started creds hobtains hnew =>
      obtain ⟨hpoller, hbatcher, hid⟩ := clients_restart creds w.runtime
      exact fun _ => ⟨clientOf creds, hpoller, hbatcher, hid.symm⟩

theorem freshAt_iff_steadyAt (h : InStep cfg w.runtime) (x : RuntimeStep) :
    FreshAt cfg w x ↔ SteadyAt cfg w x := by
  cases x with
  | stop => exact Iff.rfl
  | outside clusters secrets => exact Iff.rfl
  | ensure env =>
    have hspec := ensurePoller_spec cfg env w
    rw [FreshAt, SteadyAt]
    revert hspec
    generalize (ensurePoller cfg).run env w = o
    intro hspec
    cases hspec with
    | failed msg hno =>
      exact iff_of_true (fun hok => absurd hok (by simp))
        fun creds hobtains => absurd hobtains (hno creds)
    | stopped msg hno =>
      exact iff_of_true (fun hok => absurd hok (by simp))
        fun creds hobtains => absurd hobtains (hno creds)
    | started creds hobtains hnew =>
      obtain ⟨hpoller, hbatcher, -⟩ := clients_restart creds w.runtime
      refine iff_of_true (fun _ => ⟨creds, hobtains.reads, hpoller, hbatcher⟩) ?_
      intro creds' hobtains' hrunning hsame
      obtain rfl := reads_unique hobtains.reads hobtains'.reads
      exact absurd ⟨hrunning, hsame⟩ hnew
    | kept creds hobtains hrunning hsame =>
      obtain ⟨c, hpoller, hbatcher, hid⟩ := h hrunning
      constructor
      · intro hfresh creds' hobtains' _ _ c' hc'
        obtain ⟨creds'', hreads, hclient, -⟩ := hfresh rfl
        obtain rfl := reads_unique hobtains'.reads hreads
        rw [hc', Option.some.injEq] at hclient
        rw [hclient]
        exact ⟨rfl, rfl⟩
      · intro hsteady _
        obtain ⟨hurl, htoken⟩ := hsteady creds hobtains hrunning hsame c hpoller
        have hclient : c = clientOf creds := by
          cases c
          simp only [clientOf, HTTPClient.mk.injEq]
          exact ⟨hurl, hid.trans hsame, htoken⟩
        exact ⟨creds, hobtains.reads, hclient ▸ hpoller, hclient ▸ hbatcher⟩

end runtime

theorem fresh_iff_steady (cfg : RuntimeConfig) (w : RuntimeWorld) (hstart : w.runtime = {})
    (run : List RuntimeStep) :
    Along (runtimeStep cfg) (FreshAt cfg) w run ↔ Along (runtimeStep cfg) (SteadyAt cfg) w run := by
  have hinit : InStep cfg w.runtime := by
    rw [hstart]
    exact fun h => absurd h (by simp)
  clear hstart
  induction run generalizing w with
  | nil => exact Iff.rfl
  | cons x run ih =>
    rw [along_cons, along_cons, freshAt_iff_steadyAt hinit x]
    exact and_congr_right fun _ => ih _ (inStep_step x hinit)

def storedSecret (clusterID token : String) : CredentialsSecret where
  ns := "vworkspace-system"
  name := defaultCredentialsSecret
  data := [("control-plane-base-url", "https://workspace.example.org/"), ("cluster-id", clusterID),
    ("token", token)]

def storedSecrets (clusterID token : String) : Store CredentialsSecret :=
  Store.empty.put (storedSecret clusterID token)

/-- A registered cluster, and a runtime that has just started. -/
def registered : RuntimeWorld where
  clusters := [{}]
  secrets := storedSecrets "cluster-1" "token-1"

/-- The same later, with the credentials replaced while the poller runs. -/
def replaced (clusterID token : String) : RuntimeWorld :=
  exec (runtimeStep {}) registered
    [.ensure {}, .outside [{}] (storedSecrets clusterID token)]

theorem fresh_after_reregistration :
    Along (runtimeStep {}) (FreshAt {}) registered
      [.ensure {}, .outside [{}] (storedSecrets "cluster-2" "token-2"), .ensure {}] := by
  refine (fresh_iff_steady {} registered rfl _).mpr ⟨?_, trivial, ?_, trivial⟩
  · exact fun creds _ hrunning => absurd hrunning (by decide)
  · have hid : (replaced "cluster-2" "token-2").runtime.clusterID = "cluster-1" := by
      decide +kernel
    have hreads : Reads {} (replaced "cluster-2" "token-2")
        ⟨"https://workspace.example.org/", "cluster-2", "token-2"⟩ :=
      ⟨by decide +kernel, storedSecret "cluster-2" "token-2", by decide +kernel, by decide +kernel⟩
    intro creds hobtains _ hsame
    obtain rfl := reads_unique hreads hobtains.reads
    exact absurd (hid.symm.trans hsame) (by decide)

theorem rotated_token_not_used :
    Reads {} (replaced "cluster-1" "token-2")
        ⟨"https://workspace.example.org/", "cluster-1", "token-2"⟩ ∧
      ((ensurePoller {}).run {} (replaced "cluster-1" "token-2")).result = .ok () ∧
      ((ensurePoller {}).run {} (replaced "cluster-1" "token-2")).state.runtime.poller =
        some ⟨"https://workspace.example.org", "cluster-1", "token-1"⟩ ∧
      ((ensurePoller {}).run {} (replaced "cluster-1" "token-2")).state.runtime.batcher {} =
        some ⟨"https://workspace.example.org", "cluster-1", "token-1"⟩ :=
  ⟨⟨by decide +kernel, storedSecret "cluster-1" "token-2", by decide +kernel, by decide +kernel⟩,
    by decide +kernel, by decide +kernel, by decide +kernel⟩

end VWorkspace.Agent
