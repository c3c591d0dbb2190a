import Mathlib.Data.List.Induction
import Mathlib.Tactic.Common

/-!
# Runs of a machine

A machine takes one action after another.  What happens on the way is said with
`Along`: a relation between a state and the action taken in it that holds at
every step of a run.  Assumptions on the environment, guards and safety
properties all have this form.
-/

namespace Kit

variable {σ α : Type} (step : σ → α → σ)

def exec (s : σ) (as : List α) : σ := as.foldl step s

@[simp] theorem exec_nil (s : σ) : exec step s [] = s := rfl

@[simp] theorem exec_cons (s : σ) (a : α) (as : List α) :
    exec step s (a :: as) = exec step (step s a) as := rfl

theorem exec_append (s : σ) (as bs : List α) :
    exec step s (as ++ bs) = exec step (exec step s as) bs := List.foldl_append

/-- `p` holds of every action of a run and the state it is taken in. -/
def Along (p : σ → α → Prop) : σ → List α → Prop
  | _, [] => True
  | s, a :: as => p s a ∧ Along p (step s a) as

variable {step} {p q : σ → α → Prop} {s : σ} {a : α} {as bs : List α}

instance Along.decidable [∀ s a, Decidable (p s a)] : ∀ s as, Decidable (Along step p s as)
  | _, [] => isTrue trivial
  | s, a :: as => @instDecidableAnd _ _ _ (Along.decidable (step s a) as)

@[simp] theorem along_nil : Along step p s [] := trivial

@[simp] theorem along_cons :
    Along step p s (a :: as) ↔ p s a ∧ Along step p (step s a) as := Iff.rfl

theorem along_append :
    Along step p s (as ++ bs) ↔ Along step p s as ∧ Along step p (exec step s as) bs := by
  induction as generalizing s with
  | nil => simp
  | cons a as ih => simp [ih, and_assoc]

theorem along_iff_forall_split :
    Along step p s as ↔ ∀ pre a post, as = pre ++ a :: post → p (exec step s pre) a := by
  induction as generalizing s with
  | nil => simp
  | cons b as ih =>
    rw [along_cons, ih]
    constructor
    · rintro ⟨hb, hrest⟩ pre a post heq
      cases pre with
      | nil => simp only [List.nil_append, List.cons.injEq] at heq; exact heq.1 ▸ hb
      | cons c pre =>
        simp only [List.cons_append, List.cons.injEq] at heq
        rw [exec_cons, ← heq.1]
        exact hrest pre a post heq.2
    · intro h
      exact ⟨h [] b as rfl, fun pre a post heq => h (b :: pre) a post (by rw [heq]; rfl)⟩

theorem along_and :
    Along step (fun s a => p s a ∧ q s a) s as ↔ Along step p s as ∧ Along step q s as := by
  induction as generalizing s with
  | nil => simp
  | cons a as ih => rw [along_cons, along_cons, along_cons, ih]; exact and_and_and_comm

theorem Along.mono (h : Along step p s as) (hpq : ∀ s a, p s a → q s a) : Along step q s as := by
  induction as generalizing s with
  | nil => trivial
  | cons a as ih => exact ⟨hpq s a h.1, ih h.2⟩

theorem along_of_forall (h : ∀ s a, p s a) : Along step p s as := by
  induction as generalizing s with
  | nil => trivial
  | cons a as ih => exact ⟨h s a, ih⟩

theorem along_of_forall_mem (h : ∀ a ∈ as, ∀ s, p s a) : Along step p s as := by
  induction as generalizing s with
  | nil => trivial
  | cons a as ih =>
    exact ⟨h a List.mem_cons_self s, ih fun b hb => h b (List.mem_cons_of_mem a hb)⟩

theorem along_of_invariant {I : σ → Prop} (hstep : ∀ s a, I s → p s a ∧ I (step s a)) (hs : I s) :
    Along step p s as := by
  induction as generalizing s with
  | nil => trivial
  | cons a as ih => exact ⟨(hstep s a hs).1, ih (hstep s a hs).2⟩

theorem Along.of_invariant {I : σ → Prop} (h : Along step p s as)
    (hstep : ∀ s a, p s a → I s → q s a ∧ I (step s a)) (hs : I s) : Along step q s as := by
  induction as generalizing s with
  | nil => trivial
  | cons a as ih =>
    obtain ⟨hq, hnext⟩ := hstep s a h.1 hs
    exact ⟨hq, ih h.2 hnext⟩

theorem exec_of_along {I : σ → Prop} (h : Along step p s as)
    (hstep : ∀ s a, p s a → I s → I (step s a)) (hs : I s) : I (exec step s as) := by
  induction as generalizing s with
  | nil => exact hs
  | cons a as ih => exact ih h.2 (hstep s a h.1 hs)

variable (step) in
/-- `q` holds of some action of a run and the state it is taken in. -/
def Sometime (q : σ → α → Prop) (s : σ) (as : List α) : Prop :=
  ∃ pre a post, as = pre ++ a :: post ∧ q (exec step s pre) a

theorem not_sometime_nil : ¬Sometime step q s [] := by
  rintro ⟨pre, a, post, heq, -⟩
  simp at heq

theorem sometime_snoc :
    Sometime step q s (as ++ [a]) ↔ Sometime step q s as ∨ q (exec step s as) a := by
  constructor
  · rintro ⟨pre, b, post, heq, hq⟩
    rcases List.eq_nil_or_concat post with rfl | ⟨post, c, rfl⟩
    · obtain ⟨rfl, hlast⟩ := List.append_inj' heq rfl
      exact .inr (List.singleton_inj.mp hlast ▸ hq)
    · rw [List.concat_eq_append, ← List.cons_append, ← List.append_assoc] at heq
      obtain ⟨rfl, -⟩ := List.append_inj' heq rfl
      exact .inl ⟨pre, b, post, rfl, hq⟩
  · rintro (⟨pre, b, post, rfl, hq⟩ | hq)
    · exact ⟨pre, b, post ++ [a], by simp, hq⟩
    · exact ⟨as, a, [], rfl, hq⟩

theorem exec_of_history {κ : Type} {q : κ → σ → α → Prop} {I : (κ → Prop) → σ → Prop}
    (h : Along step p s as)
    (hstep : ∀ past s a, p s a → I past s → I (fun k => past k ∨ q k s a) (step s a))
    (hs : I (fun _ => False) s) : I (fun k => Sometime step (q k) s as) (exec step s as) := by
  induction as using List.reverseRecOn with
  | nil =>
    have hnone : (fun k => Sometime step (q k) s []) = fun _ => False :=
      funext fun k => propext ⟨not_sometime_nil, False.elim⟩
    rw [hnone]
    exact hs
  | append_singleton as a ih =>
    obtain ⟨has, ha, -⟩ := along_append.mp h
    have hmore : (fun k => Sometime step (q k) s (as ++ [a])) =
        fun k => Sometime step (q k) s as ∨ q k (exec step s as) a :=
      funext fun k => propext sometime_snoc
    rw [hmore, exec_append]
    exact hstep _ _ a ha (ih has)

variable {β : Type} {out : σ → α → List β}

variable (step) in
def gathered (out : σ → α → List β) : σ → List α → List β
  | _, [] => []
  | s, a :: as => out s a ++ gathered out (step s a) as

@[simp] theorem gathered_nil : gathered step out s [] = [] := rfl

@[simp] theorem gathered_cons :
    gathered step out s (a :: as) = out s a ++ gathered step out (step s a) as := rfl

theorem gathered_append : gathered step out s (as ++ bs) =
    gathered step out s as ++ gathered step out (exec step s as) bs := by
  induction as generalizing s with
  | nil => rfl
  | cons a as ih => rw [List.cons_append, gathered_cons, ih, gathered_cons, List.append_assoc]; rfl

theorem gathered_eq_nil (h : Along step (fun s a => out s a = []) s as) :
    gathered step out s as = [] := by
  induction as generalizing s with
  | nil => rfl
  | cons a as ih => rw [gathered_cons, h.1, ih h.2, List.nil_append]

theorem gathered_snoc :
    gathered step out s (as ++ [a]) = gathered step out s as ++ out (exec step s as) a := by
  rw [gathered_append, gathered_cons, gathered_nil, List.append_nil]

end Kit
