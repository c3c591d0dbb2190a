import Mathlib.Data.List.Chain
import VWorkspaceOperator.Agent.Applier

/-!
# Waiting for a storage location

After a `BackupStorageLocation` is applied the agent reads it again and again until Velero says
whether it is available.  Between two reads it waits for the poll interval, so a wait that can
last `D` before it runs out has room for `D / p + 1` reads that decide nothing, and the read
after them is past the deadline whatever it shows.
-/

namespace VWorkspace.Agent

open Kit Prog AgentM

/-- The phase that is read, without its case and the space around it. -/
def Poll.phase (q : Poll) : String :=
  match q.answer with
  | .ok latest => toLower (trimSpace (latest.text ["status", "phase"]))
  | .error _ => ""

/-- The read decides nothing, and there is time for another. -/
def Poll.GoesOn (deadline : ℕ) (q : Poll) : Prop :=
  q.phase ≠ "available" ∧ q.phase ≠ "unavailable" ∧ q.now ≤ deadline

instance (deadline : ℕ) (q : Poll) : Decidable (q.GoesOn deadline) := by
  unfold Poll.GoesOn; infer_instance

/-- Reads that succeed, from a time on, with a wait of `p` or longer between any two. -/
structure Paced (p start : ℕ) (polls : List Poll) : Prop where
  answered : ∀ q ∈ polls, ∃ o, q.answer = .ok o
  running : ∀ q ∈ polls, q.cancelled = false
  started : ∀ q ∈ polls.head?, start ≤ q.now
  spaced : polls.IsChain fun q r => q.now + p ≤ r.now

/-- The smaller of the timeout and the expiry. -/
def waitEnd (waitFrom : ℕ) : Option ℕ → ℕ
  | some t => min t (waitFrom + bslAvailableTimeout)
  | none => waitFrom + bslAvailableTimeout

def ExpiryFirst (waitFrom : ℕ) (expiresAt : Option ℕ) : Prop :=
  ∃ t, expiresAt = some t ∧ t < waitFrom + bslAvailableTimeout

def expiredMessage (id : ResourceId) : String :=
  "BackupStorageLocation " ++ (id.ns ++ "/" ++ id.name) ++ ": job expired while waiting for Available"

theorem fst_waitBound (waitFrom : ℕ) (expiresAt : Option ℕ) :
    (waitBound waitFrom expiresAt).1 = waitEnd waitFrom expiresAt := by
  cases expiresAt with
  | none => rfl
  | some t =>
    rw [waitBound, waitEnd]
    split
    · next h => exact (min_eq_left h.le).symm
    · next h => exact (min_eq_right (not_lt.mp h)).symm

theorem snd_waitBound_iff (waitFrom : ℕ) (expiresAt : Option ℕ) :
    (waitBound waitFrom expiresAt).2 = true ↔ ExpiryFirst waitFrom expiresAt := by
  cases expiresAt with
  | none => simp [waitBound, ExpiryFirst]
  | some t =>
    rw [waitBound]
    split
    · next h => simp [ExpiryFirst, h]
    · next h => simp [ExpiryFirst, not_lt.mp h]

section reads

variable {p start deadline : ℕ} {q : Poll} {reads rest polls : List Poll}

theorem Paced.tail (h : Paced p start (q :: polls)) : Paced p (q.now + p) polls where
  answered := fun r hr => h.answered r (List.mem_cons_of_mem _ hr)
  running := fun r hr => h.running r (List.mem_cons_of_mem _ hr)
  started := (List.isChain_cons.mp h.spaced).1
  spaced := (List.isChain_cons.mp h.spaced).2

theorem Paced.le_now (h : Paced p start (reads ++ q :: rest)) :
    start + reads.length * p ≤ q.now := by
  induction reads generalizing start with
  | nil => simpa using h.started q rfl
  | cons r reads ih =>
    have hr : start ≤ r.now := h.started r rfl
    have hq : r.now + p + reads.length * p ≤ q.now := ih h.tail
    rw [List.length_cons, Nat.succ_mul]
    omega

theorem length_le_of_le (hp : 0 < p) (h : Paced p start (reads ++ q :: rest))
    (hq : q.now ≤ deadline) : reads.length ≤ (deadline - start) / p := by
  have hnow := h.le_now
  rw [Nat.le_div_iff_mul_le hp]
  omega

theorem exists_not_goesOn (hp : 0 < p) (h : Paced p start polls)
    (enough : (deadline - start) / p + 2 ≤ polls.length) :
    ∃ q ∈ polls, ¬q.GoesOn deadline := by
  by_contra hall
  push Not at hall
  have hlt : (deadline - start) / p + 1 < polls.length := by omega
  have hsplit := List.take_append_drop ((deadline - start) / p + 1) polls
  rw [List.drop_eq_getElem_cons hlt] at hsplit
  have hle := length_le_of_le hp (hsplit.symm ▸ h) (hall _ (List.getElem_mem hlt)).2.2
  rw [List.length_take] at hle
  omega

theorem exists_last (hp : 0 < p) (h : Paced p start polls)
    (enough : (deadline - start) / p + 2 ≤ polls.length) :
    ∃ reads last rest, polls = reads ++ last :: rest ∧
      reads.length + 1 ≤ (deadline - start) / p + 2 ∧
      (∀ q ∈ reads, q.GoesOn deadline) ∧ ¬last.GoesOn deadline := by
  obtain ⟨q, hq, hends⟩ := exists_not_goesOn hp h enough
  have hfound : (polls.find? fun q => ¬q.GoesOn deadline).isSome :=
    List.find?_isSome.mpr ⟨q, hq, by simpa using hends⟩
  obtain ⟨last, hlast⟩ := Option.isSome_iff_exists.mp hfound
  obtain ⟨hnot, reads, rest, rfl, hgo⟩ := List.find?_eq_some_iff_append.mp hlast
  refine ⟨reads, last, rest, rfl, ?_, by simpa using hgo, by simpa using hnot⟩
  rcases List.eq_nil_or_concat reads with rfl | ⟨before, r, rfl⟩
  · simp
  · have hr : r.GoesOn deadline := by simpa using hgo r (by simp)
    have hle := length_le_of_le hp (by simpa using h) hr.2.2
    simpa using hle

end reads

section loop

variable {place : String} {deadline : ℕ} {bound : Bool} {q : Poll} {o : ApiObject}
  {reads polls : List Poll}

theorem waitLoop_of_goesOn (ho : q.answer = .ok o) (hc : q.cancelled = false)
    (h : q.GoesOn deadline) :
    waitLoop place deadline bound (q :: polls) = waitLoop place deadline bound polls := by
  simp only [Poll.GoesOn, Poll.phase, ho] at h
  rw [waitLoop, ho]
  simp [h.1, h.2.1, not_lt.mpr h.2.2, hc]

theorem waitLoop_append (ha : ∀ q ∈ reads, ∃ o, q.answer = .ok o)
    (hc : ∀ q ∈ reads, q.cancelled = false) (h : ∀ q ∈ reads, q.GoesOn deadline) :
    waitLoop place deadline bound (reads ++ polls) = waitLoop place deadline bound polls := by
  induction reads with
  | nil => rfl
  | cons q reads ih =>
    rw [List.forall_mem_cons] at ha hc h
    obtain ⟨o, ho⟩ := ha.1
    rw [List.cons_append, waitLoop_of_goesOn ho hc.1 h.1, ih ha.2 hc.2 h.2]

theorem waitLoop_of_not_goesOn (ho : q.answer = .ok o) (h : ¬q.GoesOn deadline) :
    waitLoop place deadline bound (q :: polls) = waitLoop place deadline bound [q] := by
  simp only [Poll.GoesOn, Poll.phase, ho] at h
  rw [waitLoop, waitLoop, ho]
  dsimp only
  by_cases ha : toLower (trimSpace (o.text ["status", "phase"])) = "available"
  · simp only [ha, if_true]
  by_cases hu : toLower (trimSpace (o.text ["status", "phase"])) = "unavailable"
  · simp only [hu, if_true]
  · have hlate : deadline < q.now := lt_of_not_ge fun hle => h ⟨ha, hu, hle⟩
    simp only [ha, hu, hlate, if_true, if_false]

theorem waitLoop_eq_ok_iff (ho : q.answer = .ok o) (r : ApiObject) :
    waitLoop place deadline bound [q] = .ok r ↔ q.answer = .ok r ∧ q.phase = "available" := by
  simp only [Poll.phase, ho]
  rw [waitLoop, ho]
  dsimp only
  split_ifs <;> simp_all [waitLoop]

theorem waitLoop_unavailable (ho : q.answer = .ok o) (h : q.phase = "unavailable") :
    ∃ message, waitLoop place deadline bound [q] =
      .error { msg := "BackupStorageLocation " ++ place ++ " Unavailable: " ++ message } := by
  simp only [Poll.phase, ho] at h
  rw [waitLoop, ho]
  simp [h]

theorem waitLoop_late (ho : q.answer = .ok o) (ha : q.phase ≠ "available")
    (hu : q.phase ≠ "unavailable") (hlate : deadline < q.now) :
    ∃ msg, waitLoop place deadline bound [q] = .error { msg } ∧
      (msg = "BackupStorageLocation " ++ place ++ ": job expired while waiting for Available" ↔
        bound = true) := by
  simp only [Poll.phase, ho] at ha hu
  rw [waitLoop, ho]
  simp only [ha, hu, hlate, if_true, if_false]
  have hother : ∀ text : String, "timed out waiting for BackupStorageLocation " ++ text ≠
      "BackupStorageLocation " ++ place ++ ": job expired while waiting for Available" := by
    intro text heq
    simpa using congrArg (fun s => s.toList.head?) heq
  cases bound with
  | true => exact ⟨_, rfl, by simp⟩
  | false =>
    simp only [Bool.false_eq_true, if_false, iff_false]
    split
    · exact ⟨_, rfl, by simpa only [String.append_assoc] using hother _⟩
    · exact ⟨_, rfl, by simpa only [String.append_assoc] using hother _⟩

end loop

theorem wait_bounded {p : ℕ} {env : AgentEnv} (hp : 0 < p) (h : Paced p env.waitFrom env.polls)
    (st : AgentState) (id : ResourceId) (expiresAt : Option ℕ)
    (enough : (waitEnd env.waitFrom expiresAt - env.waitFrom) / p + 2 ≤ env.polls.length) :
    ∃ reads last rest result, env.polls = reads ++ last :: rest ∧
      reads.length + 1 ≤ (waitEnd env.waitFrom expiresAt - env.waitFrom) / p + 2 ∧
      (∀ q ∈ reads, q.GoesOn (waitEnd env.waitFrom expiresAt)) ∧
      ((waitForBSLAvailable id expiresAt).run env st).result = result ∧
      (∀ later, ((waitForBSLAvailable id expiresAt).run
        { env with polls := reads ++ last :: later } st).result = result) ∧
      (∀ o, result = .ok o ↔ last.answer = .ok o ∧ last.phase = "available") ∧
      (last.phase = "unavailable" → ∃ message, result = .error { msg :=
        "BackupStorageLocation " ++ (id.ns ++ "/" ++ id.name) ++ " Unavailable: " ++ message }) ∧
      (last.phase ≠ "available" → last.phase ≠ "unavailable" →
        waitEnd env.waitFrom expiresAt < last.now ∧ ∃ msg, result = .error { msg } ∧
          (msg = expiredMessage id ↔ ExpiryFirst env.waitFrom expiresAt)) := by
  obtain ⟨reads, last, rest, hpolls, hlength, hgo, hends⟩ := exists_last hp h enough
  rw [hpolls] at h
  obtain ⟨o, ho⟩ := h.answered last (by simp)
  have hrun : ∀ later, ((waitForBSLAvailable id expiresAt).run
      { env with polls := reads ++ last :: later } st).result =
        waitLoop (id.ns ++ "/" ++ id.name) (waitEnd env.waitFrom expiresAt)
          (waitBound env.waitFrom expiresAt).2 [last] := by
    intro later
    rw [← waitLoop_of_not_goesOn ho hends]
    rw [← fst_waitBound] at hgo ⊢
    exact waitLoop_append (fun q hq => h.answered q (by simp [hq]))
      (fun q hq => h.running q (by simp [hq])) hgo
  refine ⟨reads, last, rest, _, hpolls, hlength, hgo, ?_, hrun, waitLoop_eq_ok_iff ho,
    waitLoop_unavailable ho, ?_⟩
  · rw [← hrun rest, ← hpolls]
  · intro ha hu
    have hlate : waitEnd env.waitFrom expiresAt < last.now :=
      lt_of_not_ge fun hle => hends ⟨ha, hu, hle⟩
    rw [← snd_waitBound_iff]
    exact ⟨hlate, waitLoop_late ho ha hu hlate⟩

def pendingLook (now : ℕ) : Poll where
  answer := .ok ⟨⟨"velero.io", "BackupStorageLocation", "velero", "default"⟩, "uid-1", 1, .empty⟩
  now := now

def pendingEnv : AgentEnv where
  now := 0
  waitFrom := 5
  polls := [pendingLook 5, pendingLook 7, pendingLook 9]

theorem wait_bounded_of_expired :
    ∃ reads last rest, pendingEnv.polls = reads ++ last :: rest ∧ reads.length + 1 ≤ 3 := by
  have hpaced : Paced 2 pendingEnv.waitFrom pendingEnv.polls := by
    constructor <;> simp [pendingEnv, pendingLook]
  obtain ⟨reads, last, rest, _, hpolls, hlength, _⟩ := wait_bounded (by decide) hpaced
    ⟨.empty, none⟩ ⟨"velero.io", "BackupStorageLocation", "velero", "default"⟩ (some 7) (by decide)
  exact ⟨reads, last, rest, hpolls, hlength⟩

end VWorkspace.Agent
