import VWorkspaceOperator.Agent.Events
import VWorkspaceOperator.Agent.Runtime
import VWorkspaceOperator.Kit.Outbox

/-!
# The event batcher

`EventBatcher` buffers outbound events, and one goroutine flushes them: it takes a batch out
of the buffer, looks whether there is a client, posts the batch, and puts it back if that
fails.  Only the accesses to the buffer hold the lock.  Between them the reconcilers enqueue
events, the runtime sets and clears the client, and the hooks run that the instance
controller has put into the flush.

A flush is therefore modelled as a machine that takes one step at a time.  What a run of it
does to the events is a run of an outbox.
-/

namespace VWorkspace.Agent

open Kit

structure EventBatcher where
  events : List Event := []
  maxBatch : ℤ := 100
  maxBuffer : ℤ := 1000
  overflowActive : Bool := false
  overflowDropped : ℕ := 0
  deriving DecidableEq, Repr

/-- The event with the time it was enqueued at, if it has none. -/
def Event.stamp (now : ℕ) (e : Event) : Event := { e with timestamp := e.timestamp.or (some now) }

namespace EventBatcher

def bufferLimit (b : EventBatcher) : ℕ := if b.maxBuffer ≤ 0 then 1000 else b.maxBuffer.toNat

def batchLimit (b : EventBatcher) : ℕ := if b.maxBatch ≤ 0 then 100 else b.maxBatch.toNat

def hasEventKey (b : EventBatcher) (key : String) : Bool :=
  key ≠ "" && b.events.any fun e => e.eventKey = key

def recordOverflowLocked (b : EventBatcher) (dropped : ℕ) : EventBatcher :=
  if dropped = 0 then b
  else { b with overflowActive := true, overflowDropped := b.overflowDropped + dropped }

def clearOverflowLocked (b : EventBatcher) : EventBatcher :=
  { b with overflowActive := false, overflowDropped := 0 }

def enqueueDrop (b : EventBatcher) : ℕ :=
  if b.bufferLimit ≤ b.events.length then b.events.length - b.bufferLimit + 1 else 0

def enqueue (b : EventBatcher) (now : ℕ) (e : Event) : EventBatcher :=
  { b.recordOverflowLocked b.enqueueDrop with
    events := b.events.drop b.enqueueDrop ++ [e.stamp now] }

/-- The part of `Flush` that takes a batch out of the buffer. -/
def extract (b : EventBatcher) : Option (List Event × EventBatcher) :=
  if b.events = [] then none
  else
    let n := min b.events.length b.batchLimit
    some (b.events.take n, { b with events := b.events.drop n })

def requeueDrop (b : EventBatcher) (batch : List Event) : ℕ :=
  if b.bufferLimit < (batch ++ b.events).length then (batch ++ b.events).length - b.bufferLimit
  else 0

def requeue (b : EventBatcher) (batch : List Event) : EventBatcher :=
  { b.recordOverflowLocked (b.requeueDrop batch) with
    events := (batch ++ b.events).drop (b.requeueDrop batch) }

def drained (b : EventBatcher) : EventBatcher :=
  if b.events = [] then b.clearOverflowLocked else b

/-! #### What the buffer keeps -/

section keep

variable {b : EventBatcher} {now : ℕ} {e : Event} {batch : List Event}

theorem bufferLimit_pos (b : EventBatcher) : 0 < b.bufferLimit := by
  unfold bufferLimit
  split <;> omega

theorem batchLimit_pos (b : EventBatcher) : 0 < b.batchLimit := by
  unfold batchLimit
  split <;> omega

theorem maxBuffer_recordOverflowLocked (n : ℕ) :
    (b.recordOverflowLocked n).maxBuffer = b.maxBuffer := by
  unfold recordOverflowLocked
  split <;> rfl

theorem overflowDropped_recordOverflowLocked (n : ℕ) :
    (b.recordOverflowLocked n).overflowDropped = b.overflowDropped + n := by
  unfold recordOverflowLocked
  split
  · next h => rw [h]; rfl
  · rfl

@[simp] theorem bufferLimit_enqueue : (b.enqueue now e).bufferLimit = b.bufferLimit := by
  rw [bufferLimit, bufferLimit, enqueue, maxBuffer_recordOverflowLocked]

@[simp] theorem bufferLimit_requeue : (b.requeue batch).bufferLimit = b.bufferLimit := by
  rw [bufferLimit, bufferLimit, requeue, maxBuffer_recordOverflowLocked]

@[simp] theorem bufferLimit_drained : b.drained.bufferLimit = b.bufferLimit := by
  unfold drained
  split <;> rfl

@[simp] theorem events_drained : b.drained.events = b.events := by
  unfold drained
  split <;> rfl

theorem take_enqueueDrop :
    b.events.take b.enqueueDrop = firstOver b.bufferLimit (b.events ++ [e.stamp now]) := by
  have hpos := b.bufferLimit_pos
  rw [firstOver, List.length_append, List.length_singleton, enqueueDrop]
  split
  · rw [List.take_append_of_le_length (by omega)]
    congr 1
    omega
  · have hroom : b.events.length + 1 - b.bufferLimit = 0 := by omega
    rw [hroom, List.take_zero, List.take_zero]

theorem events_enqueue :
    (b.enqueue now e).events = keepLast b.bufferLimit (b.events ++ [e.stamp now]) := by
  have hpos := b.bufferLimit_pos
  rw [keepLast, List.length_append, List.length_singleton, enqueue, enqueueDrop]
  dsimp only
  split
  · rw [List.drop_append_of_le_length (by omega)]
    congr 2
    omega
  · have hroom : b.events.length + 1 - b.bufferLimit = 0 := by omega
    rw [hroom, List.drop_zero, List.drop_zero]

theorem take_requeueDrop :
    (batch ++ b.events).take (b.requeueDrop batch) =
      firstOver b.bufferLimit (batch ++ b.events) := by
  rw [firstOver, requeueDrop]
  split
  · rfl
  · have hroom : (batch ++ b.events).length - b.bufferLimit = 0 := by omega
    rw [hroom]

theorem events_requeue :
    (b.requeue batch).events = keepLast b.bufferLimit (batch ++ b.events) := by
  rw [keepLast, requeue, requeueDrop]
  dsimp only
  split
  · rfl
  · have hroom : (batch ++ b.events).length - b.bufferLimit = 0 := by omega
    rw [hroom]

theorem mem_events_enqueue : e.stamp now ∈ (b.enqueue now e).events := by
  rw [events_enqueue]
  exact mem_keepLast_concat b.bufferLimit_pos _

theorem mem_of_mem_enqueue {e' : Event} (h : e' ∈ (b.enqueue now e).events) :
    e' = e.stamp now ∨ e' ∈ b.events := by
  rw [events_enqueue] at h
  rcases List.mem_append.mp ((keepLast_sublist _ _).subset h) with h | h
  · exact .inr h
  · exact .inl (List.mem_singleton.mp h)

theorem of_extract {b' : EventBatcher} (h : b.extract = some (batch, b')) :
    batch ≠ [] ∧ batch ++ b'.events = b.events ∧ b' = { b with events := b'.events } := by
  unfold extract at h
  split at h
  · exact absurd h (by simp)
  · next hsome =>
    obtain ⟨rfl, rfl⟩ := Prod.mk.inj (Option.some.inj h)
    refine ⟨?_, List.take_append_drop _ _, rfl⟩
    have hpos : 0 < min b.events.length b.batchLimit :=
      Nat.lt_min.mpr ⟨List.length_pos_iff.mpr hsome, b.batchLimit_pos⟩
    rw [Ne, List.take_eq_nil_iff]
    rintro (hzero | hnil)
    · omega
    · exact hsome hnil

end keep

end EventBatcher

inductive FlushPhase where
  | idle
  /-- The batch is out of the buffer. -/
  | extracted (batch : List Event)
  /-- There was a client. -/
  | tested (batch : List Event)
  /-- The hook before the post has run. -/
  | prepared (batch : List Event)
  /-- `PostEvents` has returned an error. -/
  | failed (batch : List Event)
  /-- The hook after a failed post has run. -/
  | aborted (batch : List Event)
  /-- `PostEvents` has returned without an error. -/
  | delivered (batch : List Event)
  /-- The hook after a delivery has run. -/
  | acknowledged
  /-- `PostEvents` was called without a client: the process is gone. -/
  | crashed (batch : List Event)
  deriving DecidableEq, Repr

def FlushPhase.flight : FlushPhase → List Event
  | .extracted batch | .tested batch | .prepared batch | .failed batch | .aborted batch
  | .crashed batch => batch
  | .idle | .delivered _ | .acknowledged => []

/-- The batcher, the goroutine that flushes it, and what the control plane has accepted. -/
structure Flusher where
  batcher : EventBatcher := {}
  client : Option HTTPClient := none
  phase : FlushPhase := .idle
  accepted : List Event := []
  deriving DecidableEq, Repr

inductive FlushAction where
  | enqueue (now : ℕ) (e : Event)
  /-- One step of the flush; a post is accepted or not. -/
  | advance (accepts : Bool)
  /-- The runtime writes the client. -/
  | setClient (c : Option HTTPClient)
  deriving DecidableEq, Repr

namespace Flusher

def advance (f : Flusher) (accepts : Bool) : Flusher :=
  match f.phase with
  | .idle =>
      match f.batcher.extract with
      | none => f
      | some (batch, b) => { f with batcher := b, phase := .extracted batch }
  | .extracted batch =>
      if f.client.isNone then { f with phase := .idle } else { f with phase := .tested batch }
  | .tested batch => { f with phase := .prepared batch }
  | .prepared batch =>
      match f.client with
      | none => { f with phase := .crashed batch }
      | some _ =>
          if accepts then { f with accepted := f.accepted ++ batch, phase := .delivered batch }
          else { f with phase := .failed batch }
  | .failed batch => { f with phase := .aborted batch }
  | .aborted batch => { f with batcher := f.batcher.requeue batch, phase := .idle }
  | .delivered _ => { f with phase := .acknowledged }
  | .acknowledged => { f with batcher := f.batcher.drained, phase := .idle }
  | .crashed _ => f

/-- What a step leaves; nothing happens in a process that is gone. -/
def step (f : Flusher) (a : FlushAction) : Flusher :=
  match f.phase, a with
  | .crashed _, _ => f
  | _, .enqueue now e => { f with batcher := f.batcher.enqueue now e }
  | _, .advance accepts => f.advance accepts
  | _, .setClient c => { f with client := c }

/-! #### The events of a step -/

def enqueued (f : Flusher) (a : FlushAction) : List Event :=
  match f.phase, a with
  | .crashed _, _ => []
  | _, .enqueue now e => [e.stamp now]
  | _, _ => []

def dropped (f : Flusher) (a : FlushAction) : List Event :=
  match f.phase, a with
  | .crashed _, _ => []
  | _, .enqueue _ _ => f.batcher.events.take f.batcher.enqueueDrop
  | .aborted batch, .advance _ =>
      (batch ++ f.batcher.events).take (f.batcher.requeueDrop batch)
  | _, _ => []

/-- The events of a batch that a flush without a client leaves behind. -/
def lost (f : Flusher) (a : FlushAction) : List Event :=
  match f.phase, a with
  | .extracted batch, .advance _ => if f.client.isNone then batch else []
  | _, _ => []

/-! #### The outbox -/

/-- The outbox of a flusher, with the books of the run so far. -/
def toOutbox (f : Flusher) (sent dropped lost : List Event) : Outbox Event where
  sent := sent
  buffer := f.batcher.events
  flight := f.phase.flight
  delivered := f.accepted
  dropped := dropped
  lost := lost

def shadow (f : Flusher) (a : FlushAction) : List (OutboxStep Event) :=
  match f.phase, a with
  | .crashed _, _ => []
  | _, .enqueue now e => [.put (e.stamp now)]
  | _, .setClient _ => []
  | .idle, .advance _ => [.take (min f.batcher.events.length f.batcher.batchLimit)]
  | .extracted _, .advance _ => if f.client.isNone then [.lose] else []
  | .prepared _, .advance accepts => if f.client.isSome && accepts then [.deliver] else []
  | .aborted _, .advance _ => [.putBack]
  | _, .advance _ => []

variable {f : Flusher} {a : FlushAction}

theorem bufferLimit_step : (f.step a).batcher.bufferLimit = f.batcher.bufferLimit := by
  obtain ⟨b, client, phase, accepted⟩ := f
  cases a with
  | enqueue now e => cases phase <;> first | rfl | exact EventBatcher.bufferLimit_enqueue
  | setClient c => cases phase <;> rfl
  | advance accepts =>
    cases phase with
    | idle =>
      cases hextract : b.extract with
      | none => simp [step, advance, hextract]
      | some found =>
        obtain ⟨batch, b'⟩ := found
        obtain ⟨-, -, hrest⟩ := EventBatcher.of_extract hextract
        simp only [step, advance, hextract]
        rw [hrest]
        rfl
    | extracted batch => cases client <;> rfl
    | prepared batch => cases client <;> cases accepts <;> rfl
    | aborted batch => exact EventBatcher.bufferLimit_requeue
    | acknowledged => exact EventBatcher.bufferLimit_drained
    | tested batch | failed batch | delivered batch | crashed batch => rfl

theorem toOutbox_step (sent dropped lost : List Event) :
    (f.step a).toOutbox (sent ++ f.enqueued a) (dropped ++ f.dropped a) (lost ++ f.lost a) =
      exec (Outbox.step f.batcher.bufferLimit) (f.toOutbox sent dropped lost) (f.shadow a) := by
  obtain ⟨b, client, phase, accepted⟩ := f
  cases a with
  | enqueue now e =>
    have hdrop : b.events.take b.enqueueDrop =
        firstOver b.bufferLimit (b.events ++ [e.stamp now]) := EventBatcher.take_enqueueDrop
    cases phase <;>
      simp [step, enqueued, Flusher.dropped, Flusher.lost, shadow, toOutbox, Outbox.step,
        EventBatcher.events_enqueue, hdrop, FlushPhase.flight]
  | setClient c =>
    cases phase <;> simp [step, enqueued, Flusher.dropped, Flusher.lost, shadow, toOutbox]
  | advance accepts =>
    cases phase with
    | idle =>
      by_cases hempty : b.events = []
      · simp [step, advance, EventBatcher.extract, hempty, enqueued, Flusher.dropped, Flusher.lost,
          shadow, toOutbox, Outbox.step, FlushPhase.flight]
      · simp [step, advance, EventBatcher.extract, hempty, enqueued, Flusher.dropped, Flusher.lost,
          shadow, toOutbox, Outbox.step, FlushPhase.flight]
    | extracted batch =>
      cases client <;> simp [step, advance, enqueued, Flusher.dropped, Flusher.lost, shadow,
        toOutbox, Outbox.step, FlushPhase.flight]
    | prepared batch =>
      cases client <;> cases accepts <;> simp [step, advance, enqueued, Flusher.dropped,
        Flusher.lost, shadow, toOutbox, Outbox.step, FlushPhase.flight]
    | aborted batch =>
      have hdrop : (batch ++ b.events).take (b.requeueDrop batch) =
          firstOver b.bufferLimit (batch ++ b.events) := EventBatcher.take_requeueDrop
      simp [step, advance, enqueued, Flusher.dropped, Flusher.lost, shadow, toOutbox, Outbox.step,
        FlushPhase.flight, EventBatcher.events_requeue, hdrop]
    | acknowledged | tested batch | failed batch | delivered batch | crashed batch =>
      simp [step, advance, enqueued, Flusher.dropped, Flusher.lost, shadow, toOutbox,
        FlushPhase.flight]

def outboxOf (f : Flusher) (as : List FlushAction) : Outbox Event :=
  (exec step f as).toOutbox (gathered step enqueued f as) (gathered step Flusher.dropped f as)
    (gathered step Flusher.lost f as)

structure Fresh (f : Flusher) : Prop where
  events : f.batcher.events = []
  overflow : f.batcher.overflowDropped = 0
  phase : f.phase = .idle
  accepted : f.accepted = []

theorem sound_outboxOf (h : f.Fresh) (as : List FlushAction) :
    (f.outboxOf as).Sound f.batcher.bufferLimit := by
  have hrun : ∀ (f : Flusher) (sent dropped lost : List Event),
      (f.toOutbox sent dropped lost).Sound f.batcher.bufferLimit →
      ((exec step f as).toOutbox (sent ++ gathered step enqueued f as)
        (dropped ++ gathered step Flusher.dropped f as)
        (lost ++ gathered step Flusher.lost f as)).Sound f.batcher.bufferLimit := by
    induction as with
    | nil => intro f sent dropped lost hsound; simpa using hsound
    | cons a as ih =>
      intro f sent dropped lost hsound
      have hstep : ((f.step a).toOutbox (sent ++ f.enqueued a) (dropped ++ f.dropped a)
          (lost ++ f.lost a)).Sound (f.step a).batcher.bufferLimit := by
        rw [toOutbox_step, bufferLimit_step]
        exact exec_of_along (along_of_forall fun _ _ => trivial)
          (fun o a _ ho => Outbox.sound_step ho a) hsound
      have hrest := ih (f.step a) _ _ _ hstep
      rw [bufferLimit_step] at hrest
      simpa only [exec_cons, gathered_cons, List.append_assoc] using hrest
  have hstart : f.toOutbox [] [] [] = {} := by
    simp [toOutbox, h.events, h.phase, h.accepted, FlushPhase.flight]
  exact hrun f [] [] [] (hstart ▸ Outbox.sound_empty)

end Flusher

end VWorkspace.Agent
