import VWorkspaceOperator.Agent.Batcher
import VWorkspaceOperator.Properties.StaleCredentials

/-!
# Posting without a client

A flush looks once whether the batcher has a client, runs the hook of the instance
controller, and then posts with whatever client the batcher has by then.  The runtime clears
the client from its own goroutine, without the lock of the batcher, whenever it stops or
replaces the poller.  A flush posts without a client only if the runtime clears it between
the look and the post.
-/

namespace VWorkspace.Agent

open Kit

structure AgentProcess where
  world : RuntimeWorld
  /-- What the call the runtime is in has still to write into the client. -/
  pending : List (Option HTTPClient) := []
  flusher : Flusher := {}

inductive ProcessStep where
  | runtime (x : RuntimeStep)
  /-- The runtime makes the next write of its call. -/
  | write
  | enqueue (now : ℕ) (e : Event)
  | advance (accepts : Bool)

/-- What a step leaves.  The runtime begins a call when it has ended the one before. -/
def processStep (cfg : RuntimeConfig) (p : AgentProcess) : ProcessStep → AgentProcess
  | .runtime x =>
      if p.pending = [] then
        { p with world := runtimeStep cfg p.world x, pending := clientWrites cfg p.world x }
      else p
  | .write =>
      match p.pending with
      | [] => p
      | c :: rest => { p with pending := rest, flusher := p.flusher.step (.setClient c) }
  | .enqueue now e => { p with flusher := p.flusher.step (.enqueue now e) }
  | .advance accepts => { p with flusher := p.flusher.step (.advance accepts) }

def Clears (p : AgentProcess) : ProcessStep → Prop
  | .write => p.pending.head? = some none
  | _ => False

instance (p : AgentProcess) : ∀ a, Decidable (Clears p a)
  | .write => inferInstanceAs (Decidable (p.pending.head? = some none))
  | .runtime _ | .enqueue _ _ | .advance _ => isFalse id

def Exposed (f : Flusher) : Prop :=
  match f.phase with
  | .tested _ | .prepared _ => True
  | _ => False

instance (f : Flusher) : Decidable (Exposed f) := by
  unfold Exposed
  split <;> infer_instance

def PostsWithoutClient (p : AgentProcess) (a : ProcessStep) : Prop :=
  p.flusher.client = none ∧
    ∃ batch accepts, p.flusher.phase = .prepared batch ∧ a = .advance accepts

section window

variable {f : Flusher} {p : AgentProcess}

theorem client_of_enqueue {now : ℕ} {e : Event} (h : Exposed f → f.client ≠ none)
    (hexposed : Exposed (f.step (.enqueue now e))) : (f.step (.enqueue now e)).client ≠ none := by
  obtain ⟨b, client, phase, accepted⟩ := f
  cases phase <;> exact h hexposed

theorem client_of_advance {accepts : Bool} (h : Exposed f → f.client ≠ none)
    (hexposed : Exposed (f.step (.advance accepts))) :
    (f.step (.advance accepts)).client ≠ none := by
  obtain ⟨b, client, phase, accepted⟩ := f
  cases phase with
  | idle =>
    cases hextract : b.extract with
    | none => simp [Exposed, Flusher.step, Flusher.advance, hextract] at hexposed
    | some found => simp [Exposed, Flusher.step, Flusher.advance, hextract] at hexposed
  | extracted batch =>
    cases client with
    | none => simp [Exposed, Flusher.step, Flusher.advance] at hexposed
    | some c => simp [Flusher.step, Flusher.advance]
  | tested batch => exact h trivial
  | prepared batch =>
    cases client with
    | none => simp [Exposed, Flusher.step, Flusher.advance] at hexposed
    | some c => cases accepts <;> simp [Exposed, Flusher.step, Flusher.advance] at hexposed
  | failed batch | aborted batch | delivered batch | acknowledged | crashed batch =>
    simp [Exposed, Flusher.step, Flusher.advance] at hexposed

theorem exposed_setClient {c : Option HTTPClient} (h : Exposed (f.step (.setClient c))) :
    Exposed f ∧ (f.step (.setClient c)).client = c := by
  obtain ⟨b, client, phase, accepted⟩ := f
  cases phase with
  | tested batch | prepared batch => exact ⟨trivial, rfl⟩
  | idle | extracted batch | failed batch | aborted batch | delivered batch | acknowledged
  | crashed batch => exact h.elim

theorem client_of_processStep (cfg : RuntimeConfig) (a : ProcessStep)
    (hclears : Clears p a → ¬Exposed p.flusher) (h : Exposed p.flusher → p.flusher.client ≠ none) :
    Exposed (processStep cfg p a).flusher → (processStep cfg p a).flusher.client ≠ none := by
  intro hexposed
  cases a with
  | runtime x =>
    have hsame : (processStep cfg p (.runtime x)).flusher = p.flusher := by
      unfold processStep
      dsimp only
      split <;> rfl
    rw [hsame] at hexposed ⊢
    exact h hexposed
  | write =>
    cases hpending : p.pending with
    | nil =>
      simp only [processStep, hpending] at hexposed ⊢
      exact h hexposed
    | cons c rest =>
      simp only [processStep, hpending] at hexposed ⊢
      obtain ⟨hbefore, hclient⟩ := exposed_setClient hexposed
      rw [hclient]
      rintro rfl
      have hhead : p.pending.head? = some none := by rw [hpending]; rfl
      exact hclears hhead hbefore
  | enqueue now e => exact client_of_enqueue h hexposed
  | advance accepts => exact client_of_advance h hexposed

end window

theorem along_posts_with_client (cfg : RuntimeConfig) (p : AgentProcess)
    (hidle : p.flusher.phase = .idle) (run : List ProcessStep)
    (h : Along (processStep cfg) (fun p a => Clears p a → ¬Exposed p.flusher) p run) :
    Along (processStep cfg) (fun p a => ¬PostsWithoutClient p a) p run := by
  have hstart : Exposed p.flusher → p.flusher.client ≠ none := by
    intro hexposed
    rw [Exposed, hidle] at hexposed
    exact hexposed.elim
  clear hidle
  induction run generalizing p with
  | nil => trivial
  | cons a run ih =>
    refine ⟨?_, ih _ h.2 (client_of_processStep cfg a h.1 hstart)⟩
    rintro ⟨hclient, batch, accepts, hphase, -⟩
    have hexposed : Exposed p.flusher := by
      rw [Exposed, hphase]
      trivial
    exact hstart hexposed hclient

def someEvent : Event where
  kind := "ConditionTransition"
  resourceRef := { apiVersion := "v1", kind := "Kind", ns := "ns", name := "name" }

/-- The poller is started, an event is enqueued, and a flush has seen the client. -/
def untilTested : List ProcessStep :=
  [.runtime (.ensure {}), .write, .write, .write, .enqueue 0 someEvent, .advance true,
    .advance true]

/-- The `Cluster` resource is removed, and the runtime stops the poller. -/
def untilStopped : List ProcessStep :=
  [.runtime (.outside [] Store.empty), .runtime (.ensure {}), .write]

def startedProcess : AgentProcess := { world := registered }

theorem posts_before_stop :
    Along (processStep {}) (fun p a => Clears p a → ¬Exposed p.flusher) startedProcess
        (untilTested ++ [.advance true, .advance true] ++ untilStopped) ∧
      Along (processStep {}) (fun p a => ¬PostsWithoutClient p a) startedProcess
        (untilTested ++ [.advance true, .advance true] ++ untilStopped) := by
  have h : Along (processStep {}) (fun p a => Clears p a → ¬Exposed p.flusher) startedProcess
      (untilTested ++ [.advance true, .advance true] ++ untilStopped) := by
    decide +kernel
  exact ⟨h, along_posts_with_client {} startedProcess rfl _ h⟩

theorem posts_after_stop :
    PostsWithoutClient
        (exec (processStep {}) startedProcess (untilTested ++ untilStopped ++ [.advance true]))
        (.advance true) ∧
      (exec (processStep {}) startedProcess
        (untilTested ++ untilStopped ++ [.advance true, .advance true])).flusher.phase =
          .crashed [someEvent.stamp 0] :=
  ⟨⟨by decide +kernel, [someEvent.stamp 0], true, by decide +kernel, rfl⟩, by decide +kernel⟩

end VWorkspace.Agent
