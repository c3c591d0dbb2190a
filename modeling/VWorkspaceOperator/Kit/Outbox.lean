import Mathlib.Data.List.Perm.Basic
import VWorkspaceOperator.Kit.Run

/-!
# Outboxes

An outbox holds what is to be delivered: a bounded buffer, and at most one batch that has
been taken out of it for delivery.  A batch is delivered, put back in front of the buffer, or
lost.  Whatever the bound does not leave room for is dropped from the front.

Besides what it holds, the outbox here has the books of a run: everything that was put into
it, and everything that left it.
-/

namespace Kit

variable {α : Type}

def keepLast (n : ℕ) (l : List α) : List α := l.drop (l.length - n)

def firstOver (n : ℕ) (l : List α) : List α := l.take (l.length - n)

section keepLast

variable {n : ℕ} {l : List α}

theorem firstOver_append_keepLast (n : ℕ) (l : List α) : firstOver n l ++ keepLast n l = l :=
  List.take_append_drop _ l

theorem keepLast_sublist (n : ℕ) (l : List α) : (keepLast n l).Sublist l := List.drop_sublist _ l

theorem length_keepLast_le (n : ℕ) (l : List α) : (keepLast n l).length ≤ n := by
  rw [keepLast, List.length_drop]
  omega

theorem mem_keepLast_concat (hn : 0 < n) (a : α) : a ∈ keepLast n (l ++ [a]) := by
  have hlen : (l ++ [a]).length - n ≤ l.length := by
    rw [List.length_append, List.length_singleton]
    omega
  rw [keepLast, List.drop_append_of_le_length hlen]
  exact List.mem_append_right _ (List.mem_singleton_self a)

end keepLast

structure Outbox (α : Type) where
  /-- Everything that was put in, in order. -/
  sent : List α := []
  buffer : List α := []
  /-- The batch that is out for delivery. -/
  flight : List α := []
  delivered : List α := []
  /-- What there was no room for. -/
  dropped : List α := []
  /-- What was in a batch that neither was delivered nor came back. -/
  lost : List α := []

inductive OutboxStep (α : Type) where
  | put (a : α)
  | take (n : ℕ)
  | deliver
  | putBack
  | lose

namespace Outbox

/-- What an operation leaves, with room for `n` entries in the buffer. -/
def step (n : ℕ) (o : Outbox α) : OutboxStep α → Outbox α
  | .put a => { o with
      sent := o.sent ++ [a]
      buffer := keepLast n (o.buffer ++ [a])
      dropped := o.dropped ++ firstOver n (o.buffer ++ [a]) }
  | .take k =>
      if o.flight = [] then { o with buffer := o.buffer.drop k, flight := o.buffer.take k } else o
  | .deliver => { o with flight := [], delivered := o.delivered ++ o.flight }
  | .putBack => { o with
      buffer := keepLast n (o.flight ++ o.buffer)
      flight := []
      dropped := o.dropped ++ firstOver n (o.flight ++ o.buffer) }
  | .lose => { o with flight := [], lost := o.lost ++ o.flight }

/-- What has not been given up, in the order of delivery. -/
def kept (o : Outbox α) : List α := o.delivered ++ o.flight ++ o.buffer

/-- The buffer is within its bound, nothing is out of order, and everything that was put in
is in one place. -/
structure Sound (n : ℕ) (o : Outbox α) : Prop where
  bounded : o.buffer.length ≤ n
  ordered : o.kept.Sublist o.sent
  conserved : (o.kept ++ (o.dropped ++ o.lost)).Perm o.sent

variable {n : ℕ} {o : Outbox α}

theorem sound_empty : Sound n ({} : Outbox α) := ⟨Nat.zero_le n, .slnil, .nil⟩

private theorem perm_move (l moved rest gone more : List α) :
    (l ++ rest ++ (gone ++ moved ++ more)).Perm (l ++ (moved ++ rest) ++ (gone ++ more)) := by
  simp only [List.append_assoc]
  refine List.Perm.append_left l ?_
  have hpast : (gone ++ (moved ++ more)).Perm (moved ++ (gone ++ more)) :=
    List.perm_append_comm_assoc gone moved more
  exact (hpast.append_left rest).trans (List.perm_append_comm_assoc rest moved (gone ++ more))

private theorem perm_cut (l rest gone more : List α) :
    (l ++ keepLast n rest ++ (gone ++ firstOver n rest ++ more)).Perm
      (l ++ rest ++ (gone ++ more)) := by
  have hmove := perm_move l (firstOver n rest) (keepLast n rest) gone more
  rwa [firstOver_append_keepLast] at hmove

theorem sound_step (h : o.Sound n) (a : OutboxStep α) : (o.step n a).Sound n := by
  obtain ⟨hbounded, hordered, hconserved⟩ := h
  cases a with
  | put a =>
    refine ⟨length_keepLast_le n _, ?_, ?_⟩
    · have hcut : (keepLast n (o.buffer ++ [a])).Sublist (o.buffer ++ [a]) := keepLast_sublist n _
      have hall := hcut.append_left (o.delivered ++ o.flight)
      rw [← List.append_assoc] at hall
      exact hall.trans (hordered.append_right [a])
    · have hcut := perm_cut (n := n) (o.delivered ++ o.flight) (o.buffer ++ [a]) o.dropped o.lost
      have hlast : (o.kept ++ [a] ++ (o.dropped ++ o.lost)).Perm
          (o.kept ++ (o.dropped ++ o.lost) ++ [a]) := by
        rw [List.append_assoc, List.append_assoc]
        exact List.perm_append_comm.append_left _
      rw [← List.append_assoc (o.delivered ++ o.flight) o.buffer [a]] at hcut
      exact hcut.trans (hlast.trans (hconserved.append_right [a]))
  | take k =>
    by_cases hflight : o.flight = []
    · rw [step, if_pos hflight]
      refine ⟨?_, ?_, ?_⟩
      · simp only [List.length_drop]
        omega
      · simpa [kept, hflight] using hordered
      · simpa [kept, hflight] using hconserved
    · rw [step, if_neg hflight]
      exact ⟨hbounded, hordered, hconserved⟩
  | deliver =>
    refine ⟨hbounded, ?_, ?_⟩
    · simpa [step, kept] using hordered
    · simpa [step, kept] using hconserved
  | putBack =>
    refine ⟨length_keepLast_le n _, ?_, ?_⟩
    · have hcut : (keepLast n (o.flight ++ o.buffer)).Sublist (o.flight ++ o.buffer) :=
        keepLast_sublist n _
      have hall := hcut.append_left o.delivered
      rw [← List.append_assoc] at hall
      simpa [step, kept] using hall.trans hordered
    · have hcut := perm_cut (n := n) o.delivered (o.flight ++ o.buffer) o.dropped o.lost
      rw [← List.append_assoc o.delivered o.flight o.buffer] at hcut
      simpa [step, kept] using hcut.trans hconserved
  | lose =>
    refine ⟨hbounded, ?_, ?_⟩
    · have hfewer : (o.delivered ++ o.buffer).Sublist (o.delivered ++ o.flight ++ o.buffer) :=
        (List.sublist_append_left _ _).append_right o.buffer
      simpa [step, kept] using hfewer.trans hordered
    · have hmove := perm_move o.delivered o.flight o.buffer (o.dropped ++ o.lost) []
      rw [← List.append_assoc o.delivered o.flight o.buffer] at hmove
      simpa [step, kept] using hmove.trans (by simpa [kept] using hconserved)

theorem Sound.nodup (h : o.Sound n) (hsent : o.sent.Nodup) : o.kept.Nodup :=
  hsent.sublist h.ordered

theorem Sound.length_lost (h : o.Sound n) :
    o.kept.length + o.dropped.length + o.lost.length = o.sent.length := by
  have hlength := h.conserved.length_eq
  simp only [List.length_append] at hlength
  omega

end Outbox
end Kit
