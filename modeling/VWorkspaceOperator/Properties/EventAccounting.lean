import VWorkspaceOperator.Agent.Batcher

/-!
# The books of the event batcher

Every event that is enqueued should be found again: in the buffer, in the batch that is out,
with the control plane, or among the events that were dropped and counted.  It is, in all runs
but those in which a flush takes a batch out of the buffer and then finds no client: that
batch is gone, and nobody counts it.  Whatever is not lost or dropped is delivered in the order
in which it was enqueued, and nothing is delivered twice.
-/

namespace VWorkspace.Agent

open Kit Flusher

def start (maxBatch maxBuffer : ℤ) (client : Option HTTPClient) : Flusher where
  batcher := { maxBatch, maxBuffer }
  client := client

theorem fresh_start (maxBatch maxBuffer : ℤ) (client : Option HTTPClient) :
    (start maxBatch maxBuffer client).Fresh := ⟨rfl, rfl, rfl, rfl⟩

def Loses (f : Flusher) (a : FlushAction) : Prop :=
  f.client = none ∧ ∃ batch accepts, f.phase = .extracted batch ∧ a = .advance accepts

/-- The buffer is empty at the end of a flush whose post was accepted. -/
def Drains (f : Flusher) (a : FlushAction) : Prop :=
  f.batcher.events = [] ∧ f.phase = .acknowledged ∧ ∃ accepts, a = .advance accepts

/-- The run ends with a step that drains the buffer, or has not begun. -/
def EndsDrained (f : Flusher) (as : List FlushAction) : Prop :=
  as = [] ∨ ∃ pre a, as = pre ++ [a] ∧ Drains (exec Flusher.step f pre) a

structure Accounted (f : Flusher) (as : List FlushAction) : Prop where
  bounded : (exec Flusher.step f as).batcher.events.length ≤ f.batcher.bufferLimit
  /-- Accepted, in the batch that is out, buffered or dropped, everything is in one place. -/
  conserved : ((exec Flusher.step f as).accepted ++ (exec Flusher.step f as).phase.flight ++
    (exec Flusher.step f as).batcher.events ++ gathered Flusher.step dropped f as).Perm
      (gathered Flusher.step enqueued f as)
  /-- The drops since the buffer was last drained are counted. -/
  counted : ∀ pre post, as = pre ++ post → EndsDrained f pre →
    Along Flusher.step (fun f a => ¬Drains f a) (exec Flusher.step f pre) post →
    (exec Flusher.step f as).batcher.overflowDropped =
      (gathered Flusher.step dropped (exec Flusher.step f pre) post).length

section count

variable {f : Flusher} {a : FlushAction} {as : List FlushAction}

theorem length_take_enqueueDrop (b : EventBatcher) :
    (b.events.take b.enqueueDrop).length = b.enqueueDrop := by
  have hpos := b.bufferLimit_pos
  rw [List.length_take, EventBatcher.enqueueDrop]
  split <;> omega

theorem length_take_requeueDrop (b : EventBatcher) (batch : List Event) :
    ((batch ++ b.events).take (b.requeueDrop batch)).length = b.requeueDrop batch := by
  rw [List.length_take, EventBatcher.requeueDrop]
  split <;> omega

theorem overflowDropped_step (h : ¬Drains f a) :
    (f.step a).batcher.overflowDropped = f.batcher.overflowDropped + (f.dropped a).length := by
  obtain ⟨b, client, phase, accepted⟩ := f
  cases a with
  | enqueue now e =>
    have hcount : (b.enqueue now e).overflowDropped = b.overflowDropped +
        (b.events.take b.enqueueDrop).length := by
      rw [length_take_enqueueDrop]
      exact EventBatcher.overflowDropped_recordOverflowLocked b.enqueueDrop
    cases phase <;> first | exact hcount | rfl
  | setClient c => cases phase <;> rfl
  | advance accepts =>
    cases phase with
    | idle =>
      cases hextract : b.extract with
      | none => simp [Flusher.step, advance, dropped, hextract]
      | some found =>
        obtain ⟨batch, b'⟩ := found
        obtain ⟨-, -, hrest⟩ := EventBatcher.of_extract hextract
        simp only [Flusher.step, advance, dropped, hextract]
        rw [hrest]
        rfl
    | extracted batch => cases client <;> rfl
    | prepared batch => cases client <;> cases accepts <;> rfl
    | aborted batch =>
      simp only [Flusher.step, advance, dropped]
      rw [length_take_requeueDrop]
      exact EventBatcher.overflowDropped_recordOverflowLocked _
    | acknowledged =>
      have hbuffered : b.events ≠ [] := fun hempty => h ⟨hempty, rfl, accepts, rfl⟩
      simp [Flusher.step, advance, dropped, EventBatcher.drained, hbuffered]
    | tested batch | failed batch | delivered batch | crashed batch => rfl

theorem overflowDropped_exec (h : Along Flusher.step (fun f a => ¬Drains f a) f as) :
    (exec Flusher.step f as).batcher.overflowDropped =
      f.batcher.overflowDropped + (gathered Flusher.step dropped f as).length := by
  induction as generalizing f with
  | nil => rfl
  | cons a as ih =>
    rw [exec_cons, ih h.2, overflowDropped_step h.1, gathered_cons, List.length_append]
    omega

theorem overflowDropped_of_drains (h : Drains f a) : (f.step a).batcher.overflowDropped = 0 := by
  obtain ⟨hempty, hphase, accepts, rfl⟩ := h
  obtain ⟨b, client, phase, accepted⟩ := f
  obtain rfl : phase = .acknowledged := hphase
  have hb : b.events = [] := hempty
  simp [Flusher.step, advance, EventBatcher.drained, hb, EventBatcher.clearOverflowLocked]

theorem overflowDropped_of_endsDrained (hf : f.Fresh) (h : EndsDrained f as) :
    (exec Flusher.step f as).batcher.overflowDropped = 0 := by
  rcases h with rfl | ⟨pre, a, rfl, hdrains⟩
  · exact hf.overflow
  · rw [exec_append]
    exact overflowDropped_of_drains hdrains

end count

section lost

variable {f : Flusher} {a : FlushAction} {as : List FlushAction}

theorem lost_eq_nil (h : ¬Loses f a) : f.lost a = [] := by
  obtain ⟨b, client, phase, accepted⟩ := f
  cases a with
  | enqueue now e => cases phase <;> rfl
  | setClient c => cases phase <;> rfl
  | advance accepts =>
    cases phase with
    | extracted batch =>
      cases client with
      | none => exact absurd ⟨rfl, batch, accepts, rfl, rfl⟩ h
      | some c => rfl
    | _ => rfl

theorem extracted_ne_nil (hf : f.Fresh) {batch : List Event}
    (h : (exec Flusher.step f as).phase = .extracted batch) : batch ≠ [] := by
  have hinv : ∀ batch, (exec Flusher.step f as).phase = .extracted batch → batch ≠ [] := by
    refine exec_of_along (I := fun f : Flusher => ∀ batch, f.phase = .extracted batch → batch ≠ [])
      (along_of_forall (p := fun _ _ => True) fun _ _ => trivial) ?_ ?_
    · rintro ⟨b, client, phase, accepted⟩ a - hkept batch hbatch
      cases a with
      | enqueue now e => cases phase <;> exact hkept batch hbatch
      | setClient c => cases phase <;> exact hkept batch hbatch
      | advance accepts =>
        cases phase with
        | idle =>
          cases hextract : b.extract with
          | none => simp [Flusher.step, advance, hextract] at hbatch
          | some found =>
            obtain ⟨batch', b'⟩ := found
            obtain ⟨hsome, -, -⟩ := EventBatcher.of_extract hextract
            simp only [Flusher.step, advance, hextract, FlushPhase.extracted.injEq] at hbatch
            exact hbatch ▸ hsome
        | extracted batch' => cases client <;> cases hbatch
        | prepared batch' => cases client <;> cases accepts <;> cases hbatch
        | _ => cases hbatch
    · intro batch hbatch
      rw [hf.phase] at hbatch
      cases hbatch
  exact hinv batch h

theorem length_lt_of_loses (hf : f.Fresh) (h : Loses (exec Flusher.step f as) a) :
    ((f.outboxOf (as ++ [a])).kept ++ gathered Flusher.step dropped f (as ++ [a])).length <
      (gathered Flusher.step enqueued f (as ++ [a])).length := by
  obtain ⟨hclient, batch, accepts, hphase, rfl⟩ := h
  have hbooks := (sound_outboxOf hf (as ++ [.advance accepts])).length_lost
  have hlost : (exec Flusher.step f as).lost (.advance accepts) = batch := by
    simp [lost, hphase, hclient]
  have hgone : (f.outboxOf (as ++ [.advance accepts])).lost =
      gathered Flusher.step lost f as ++ batch := by
    rw [← hlost]
    exact gathered_snoc
  have hsome : 0 < batch.length := List.length_pos_iff.mpr (extracted_ne_nil hf hphase)
  have hdropped : (f.outboxOf (as ++ [.advance accepts])).dropped =
      gathered Flusher.step dropped f (as ++ [.advance accepts]) := rfl
  have hsent : (f.outboxOf (as ++ [.advance accepts])).sent =
      gathered Flusher.step enqueued f (as ++ [.advance accepts]) := rfl
  rw [hgone, hdropped, hsent, List.length_append] at hbooks
  rw [List.length_append]
  omega

end lost

theorem accounted_of_along {f : Flusher} {as : List FlushAction} (hf : f.Fresh)
    (h : Along Flusher.step (fun f a => ¬Loses f a) f as) : Accounted f as := by
  have hsound := sound_outboxOf hf as
  have hlost : gathered Flusher.step lost f as = [] :=
    gathered_eq_nil (h.mono fun _ _ hkeeps => lost_eq_nil hkeeps)
  refine ⟨hsound.bounded, ?_, ?_⟩
  · have hall := hsound.conserved
    have hbooks : (f.outboxOf as).lost = [] := hlost
    rw [hbooks, List.append_nil] at hall
    exact hall
  · rintro pre post rfl hdrained hkept
    rw [exec_append, overflowDropped_exec hkept, overflowDropped_of_endsDrained hf hdrained,
      Nat.zero_add]

theorem accounted_iff_of_start (maxBatch maxBuffer : ℤ) (client : Option HTTPClient)
    (as : List FlushAction) :
    (∀ pre post, as = pre ++ post → Accounted (start maxBatch maxBuffer client) pre) ↔
      Along Flusher.step (fun f a => ¬Loses f a) (start maxBatch maxBuffer client) as := by
  have hfresh := fresh_start maxBatch maxBuffer client
  constructor
  · intro h
    rw [along_iff_forall_split]
    rintro pre a post rfl hloses
    have hbooks := (h (pre ++ [a]) post (by simp)).conserved.length_eq
    have hless := length_lt_of_loses hfresh hloses
    exact absurd hbooks hless.ne
  · rintro h pre post rfl
    exact accounted_of_along hfresh (along_append.mp h).1

theorem unposted_batch_unaccounted :
    ¬Accounted (start 100 1000 none)
      [.enqueue 0 ⟨"k", "ConditionTransition", ⟨"v1", "Kind", "ns", "name", "uid", 1⟩, [], [], none,
        none⟩, .advance true, .advance true] := by
  intro h
  exact absurd h.conserved.length_eq (by decide)

theorem ordered_of_start (maxBatch maxBuffer : ℤ) (client : Option HTTPClient)
    (as : List FlushAction) :
    ((exec Flusher.step (start maxBatch maxBuffer client) as).accepted ++
        (exec Flusher.step (start maxBatch maxBuffer client) as).phase.flight ++
        (exec Flusher.step (start maxBatch maxBuffer client) as).batcher.events).Sublist
      (gathered Flusher.step enqueued (start maxBatch maxBuffer client) as) ∧
    ((gathered Flusher.step enqueued (start maxBatch maxBuffer client) as).Nodup →
      ((exec Flusher.step (start maxBatch maxBuffer client) as).accepted ++
        (exec Flusher.step (start maxBatch maxBuffer client) as).phase.flight ++
        (exec Flusher.step (start maxBatch maxBuffer client) as).batcher.events).Nodup) := by
  have hsound := sound_outboxOf (fresh_start maxBatch maxBuffer client) as
  exact ⟨hsound.ordered, fun hsent => hsound.nodup hsent⟩

end VWorkspace.Agent
