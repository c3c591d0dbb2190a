import VWorkspaceOperator.Kit.Prog

/-!
# Rules of pre- and postconditions

`Triple r P x E Q` bounds what a program can do: run in the environment `r`
from a state in `P`, it emits only events in `E`, and if it returns then with an
answer and in a state in `Q`.  Since a failing program keeps what it did so far,
the bound on the events holds for failing runs, too.

`Idle x` is the strongest such bound: `x` only reads.

`Logged view apply x` says that the trace is a faithful journal of one part of
the state: applying the events in order to that part as it was gives that part
as it is, whether or not the program failed.
-/

namespace Kit
namespace Prog

variable {ρ σ ω ε α β : Type} {f : α → Prog ρ σ ω ε β} {a : α} {e : ω} {y : Except ε α}

theorem result_of_mapError {r : ρ} {s : σ} {f : ε → ε} {x : Prog ρ σ ω ε α}
    (h : ((x.mapError f).run r s).result = .ok a) : (x.run r s).result = .ok a := by
  rw [run_mapError] at h
  cases hx : (x.run r s).result with
  | error err => simp [hx, Except.mapError] at h
  | ok b => simpa [hx, Except.mapError] using h

/-- Run in `r` from a state in `P`, the program emits only events in `E`, and
if it returns then with an answer and in a state in `Q`. -/
def Triple (r : ρ) (P : σ → Prop) (x : Prog ρ σ ω ε α) (E : ω → Prop) (Q : α → σ → Prop) : Prop :=
  ∀ s, P s → (∀ e ∈ (x.run r s).trace, E e) ∧
    ∀ a, (x.run r s).result = .ok a → Q a (x.run r s).state

section triple

variable {r : ρ} {P P' : σ → Prop} {E E' : ω → Prop} {Q Q' : α → σ → Prop} {R : β → σ → Prop}

theorem Triple.pure (h : ∀ s, P s → Q a s) : Triple r P (Pure.pure a : Prog ρ σ ω ε α) E Q := by
  intro s hs
  refine ⟨by simp, fun b hb => ?_⟩
  rw [run_pure, Except.ok.injEq] at hb
  exact hb ▸ h s hs

theorem Triple.throw {e : ε} : Triple r P (throw e : Prog ρ σ ω ε α) E Q :=
  fun s _ => ⟨by simp, fun a ha => absurd ha (by simp)⟩

theorem Triple.ask {Q : ρ → σ → Prop} (h : ∀ s, P s → Q r s) :
    Triple r P (ask : Prog ρ σ ω ε ρ) E Q := by
  intro s hs
  refine ⟨by simp, fun a ha => ?_⟩
  rw [run_ask, Except.ok.injEq] at ha
  exact ha ▸ h s hs

theorem Triple.get {Q : σ → σ → Prop} (h : ∀ s, P s → Q s s) :
    Triple r P (get : Prog ρ σ ω ε σ) E Q := by
  intro s hs
  refine ⟨by simp, fun a ha => ?_⟩
  rw [run_get, Except.ok.injEq] at ha
  exact ha ▸ h s hs

theorem Triple.write {f : σ → σ} {e : ω} {Q : Unit → σ → Prop} (he : E e)
    (h : ∀ s, P s → Q () (f s)) : Triple r P (write f e : Prog ρ σ ω ε Unit) E Q :=
  fun s hs => ⟨by simpa using he, fun _ _ => h s hs⟩

theorem Triple.emit {e : ω} {Q : Unit → σ → Prop} (he : E e) (h : ∀ s, P s → Q () s) :
    Triple r P (emit e : Prog ρ σ ω ε Unit) E Q :=
  fun s hs => ⟨by simpa using he, fun _ _ => h s hs⟩

theorem Triple.ofExcept {x : Except ε α} (h : ∀ a s, x = .ok a → P s → Q a s) :
    Triple r P (ofExcept x : Prog ρ σ ω ε α) E Q :=
  fun s hs => ⟨by simp, fun a ha => h a s ha hs⟩

theorem Triple.top {x : Prog ρ σ ω ε α} : Triple r P x (fun _ => True) (fun _ _ => True) :=
  fun _ _ => ⟨fun _ _ => trivial, fun _ _ => trivial⟩

theorem Triple.bind {x : Prog ρ σ ω ε α} (hx : Triple r P x E Q)
    (hf : ∀ a, Triple r (Q a) (f a) E R) : Triple r P (x >>= f) E R := by
  intro s hs
  obtain ⟨hev, hok⟩ := hx s hs
  cases h : (x.run r s).result with
  | error err => rw [run_bind_of_error h]; exact ⟨hev, fun b hb => absurd hb (by simp)⟩
  | ok a =>
    obtain ⟨hev', hok'⟩ := hf a _ (hok a h)
    rw [run_bind_of_ok h]
    refine ⟨fun e he => ?_, hok'⟩
    rcases List.mem_append.mp he with he | he
    · exact hev e he
    · exact hev' e he

theorem Triple.ofExcept_bind {x : Except ε α} (hf : ∀ a, x = .ok a → Triple r P (f a) E R) :
    Triple r P (Prog.ofExcept x >>= f) E R :=
  .bind (Q := fun a s => x = .ok a ∧ P s) (.ofExcept fun _ _ ha hs => ⟨ha, hs⟩)
    fun a s hs => hf a hs.1 s hs.2

theorem Triple.mapError {f : ε → ε} {x : Prog ρ σ ω ε α} (hx : Triple r P x E Q) :
    Triple r P (x.mapError f) E Q := by
  intro s hs
  obtain ⟨hev, hok⟩ := hx s hs
  exact ⟨hev, fun a ha => hok a (result_of_mapError ha)⟩

theorem Triple.attempt {x : Prog ρ σ ω ε α} {Q : Except ε α → σ → Prop}
    (hx : ∀ s, P s → (∀ e ∈ (x.run r s).trace, E e) ∧ Q (x.run r s).result (x.run r s).state) :
    Triple r P x.attempt E Q := by
  intro s hs
  obtain ⟨hev, hq⟩ := hx s hs
  refine ⟨hev, fun a ha => ?_⟩
  rw [run_attempt, Except.ok.injEq] at ha
  exact ha ▸ hq

theorem Triple.of_fact {p : Prop} {x : Prog ρ σ ω ε α} (h : p → Triple r P x E Q) :
    Triple r (fun s => p ∧ P s) x E Q := fun s hs => h hs.1 s hs.2

theorem Triple.conseq {x : Prog ρ σ ω ε α} (hx : Triple r P x E Q) (hP : ∀ s, P' s → P s)
    (hE : ∀ e, E e → E' e) (hQ : ∀ a s, Q a s → Q' a s) : Triple r P' x E' Q' := fun s hs =>
  ⟨fun e he => hE e ((hx s (hP s hs)).1 e he), fun a ha => hQ a _ ((hx s (hP s hs)).2 a ha)⟩

theorem Triple.pre {x : Prog ρ σ ω ε α} (hx : Triple r P x E Q) (hP : ∀ s, P' s → P s) :
    Triple r P' x E Q := hx.conseq hP (fun _ => id) fun _ _ => id

theorem Triple.post {x : Prog ρ σ ω ε α} (hx : Triple r P x E Q) (hQ : ∀ a s, Q a s → Q' a s) :
    Triple r P x E Q' := hx.conseq (fun _ => id) (fun _ => id) hQ

theorem Triple.events {x : Prog ρ σ ω ε α} (hx : Triple r P x E Q) (hE : ∀ e, E e → E' e) :
    Triple r P x E' Q := hx.conseq (fun _ => id) hE fun _ _ => id

end triple

/-- The program leaves the state as it is and emits nothing. -/
def Idle (x : Prog ρ σ ω ε α) : Prop :=
  ∀ r s, (x.run r s).state = s ∧ (x.run r s).trace = []

section idle

variable {r : ρ} {P : σ → Prop} {E : ω → Prop} {x : Prog ρ σ ω ε α}

theorem Idle.pure (a : α) : Idle (Pure.pure a : Prog ρ σ ω ε α) := fun _ _ => ⟨rfl, rfl⟩

theorem Idle.throw (e : ε) : Idle (throw e : Prog ρ σ ω ε α) := fun _ _ => ⟨rfl, rfl⟩

theorem Idle.get : Idle (get : Prog ρ σ ω ε σ) := fun _ _ => ⟨rfl, rfl⟩

theorem Idle.ask : Idle (ask : Prog ρ σ ω ε ρ) := fun _ _ => ⟨rfl, rfl⟩

theorem Idle.ofExcept (y : Except ε α) : Idle (ofExcept y : Prog ρ σ ω ε α) :=
  fun _ _ => ⟨rfl, rfl⟩

theorem Idle.bind (hx : Idle x) (hf : ∀ a, Idle (f a)) : Idle (x >>= f) := by
  intro r s
  cases h : (x.run r s).result with
  | error err => rw [run_bind_of_error h]; exact hx r s
  | ok a =>
    rw [run_bind_of_ok h, Outcome.state_after, Outcome.trace_after, (hx r s).2, (hx r s).1]
    exact hf a r s

theorem Idle.mapError {f : ε → ε} (hx : Idle x) : Idle (x.mapError f) := hx

theorem Idle.attempt (hx : Idle x) : Idle x.attempt := hx

theorem Idle.triple (hx : Idle x) : Triple r P x E (fun _ => P) := by
  intro s hs
  rw [(hx r s).1, (hx r s).2]
  exact ⟨by simp, fun _ _ => hs⟩

theorem Idle.state_bind {s : σ} (hx : Idle x) (hs : P s)
    (hf : ∀ a, (x.run r s).result = .ok a → P ((f a).run r s).state) :
    P ((x >>= f).run r s).state := by
  cases h : (x.run r s).result with
  | error err => rw [run_bind_of_error h, (hx r s).1]; exact hs
  | ok a => rw [run_bind_of_ok h, Outcome.state_after, (hx r s).1]; exact hf a h

theorem state_bind_of_idle {s : σ} (hf : ∀ a, Idle (f a)) :
    ((x >>= f).run r s).state = (x.run r s).state := by
  cases h : (x.run r s).result with
  | error err => rw [run_bind_of_error h]
  | ok a => rw [run_bind_of_ok h, Outcome.state_after, (hf a r _).1]

end idle

/-- The program does not leave `P`, whether or not it fails. -/
def Keeps (r : ρ) (P : σ → Prop) (x : Prog ρ σ ω ε α) : Prop := ∀ s, P s → P (x.run r s).state

section keeps

variable {r : ρ} {P : σ → Prop} {x : Prog ρ σ ω ε α}

theorem Keeps.of_idle (h : Idle x) : Keeps r P x := by
  intro s hs
  rw [(h r s).1]
  exact hs

theorem Keeps.write {f : σ → σ} (h : ∀ s, P s → P (f s)) :
    Keeps r P (Prog.write f e : Prog ρ σ ω ε Unit) := h

theorem Keeps.mapError {f : ε → ε} (h : Keeps r P x) : Keeps r P (x.mapError f) := h

theorem Keeps.attempt (h : Keeps r P x) : Keeps r P x.attempt := h

theorem Keeps.bind (hx : Keeps r P x) (hf : ∀ a, Keeps r P (f a)) : Keeps r P (x >>= f) := by
  intro s hs
  cases h : (x.run r s).result with
  | error err => rw [run_bind_of_error h]; exact hx s hs
  | ok a => rw [run_bind_of_ok h]; exact hf a _ (hx s hs)

theorem Keeps.state_bind {M : σ → Prop} {s : σ} (hx : Keeps r P x) (hs : P s) (hM : ∀ s, P s → M s)
    (hf : ∀ a s', (x.run r s).result = .ok a → s' = (x.run r s).state → P s' →
      M ((f a).run r s').state) : M ((x >>= f).run r s).state := by
  cases h : (x.run r s).result with
  | error err => rw [run_bind_of_error h]; exact hM _ (hx s hs)
  | ok a => rw [run_bind_of_ok h]; exact hf a _ h rfl (hx s hs)

end keeps

/-- From this state the program returns, with an answer and in a state in `Q`. -/
def Returns (r : ρ) (s : σ) (x : Prog ρ σ ω ε α) (Q : α → σ → Prop) : Prop :=
  ∃ a, (x.run r s).result = .ok a ∧ Q a (x.run r s).state

section returns

variable {r : ρ} {s : σ} {x : Prog ρ σ ω ε α} {Q Q' : α → σ → Prop}

theorem Returns.pure (h : Q a s) : Returns r s (Pure.pure a : Prog ρ σ ω ε α) Q := ⟨a, rfl, h⟩

theorem Returns.ask {Q : ρ → σ → Prop} (h : Q r s) : Returns r s (Prog.ask : Prog ρ σ ω ε ρ) Q :=
  ⟨r, rfl, h⟩

theorem Returns.get {Q : σ → σ → Prop} (h : Q s s) : Returns r s (Prog.get : Prog ρ σ ω ε σ) Q :=
  ⟨s, rfl, h⟩

theorem Returns.write {f : σ → σ} {Q : Unit → σ → Prop} (h : Q () (f s)) :
    Returns r s (Prog.write f e : Prog ρ σ ω ε Unit) Q := ⟨(), rfl, h⟩

theorem Returns.modify {f : σ → σ} {Q : Unit → σ → Prop} (h : Q () (f s)) :
    Returns r s (Prog.modify f : Prog ρ σ ω ε Unit) Q := ⟨(), rfl, h⟩

theorem Returns.emit {Q : Unit → σ → Prop} (h : Q () s) :
    Returns r s (Prog.emit e : Prog ρ σ ω ε Unit) Q := ⟨(), rfl, h⟩

theorem Returns.ofExcept (hy : y = .ok a) (h : Q a s) :
    Returns r s (Prog.ofExcept y : Prog ρ σ ω ε α) Q := ⟨a, hy, h⟩

theorem Returns.bind {P : α → σ → Prop} {Q : β → σ → Prop} (hx : Returns r s x P)
    (hf : ∀ a s', P a s' → Returns r s' (f a) Q) : Returns r s (x >>= f) Q := by
  obtain ⟨a, ha, hP⟩ := hx
  obtain ⟨b, hb, hQ⟩ := hf a _ hP
  refine ⟨b, ?_, ?_⟩
  · rw [run_bind_of_ok ha]
    exact hb
  · rw [run_bind_of_ok ha]
    exact hQ

theorem Returns.seq {Q : β → σ → Prop} (h : Returns r s x fun a s' => Returns r s' (f a) Q) :
    Returns r s (x >>= f) Q := h.bind fun _ _ => id

theorem Returns.mapError {f : ε → ε} (hx : Returns r s x Q) : Returns r s (x.mapError f) Q := by
  obtain ⟨a, ha, hQ⟩ := hx
  exact ⟨a, by rw [run_mapError, ha]; rfl, hQ⟩

theorem Returns.attempt {Q : Except ε α → σ → Prop} (hx : Returns r s x fun a => Q (.ok a)) :
    Returns r s x.attempt Q := by
  obtain ⟨a, ha, hQ⟩ := hx
  exact ⟨.ok a, by rw [run_attempt, ha], hQ⟩

theorem Returns.attempt_of {Q : Except ε α → σ → Prop} (h : Q (x.run r s).result (x.run r s).state) :
    Returns r s x.attempt Q := ⟨_, rfl, h⟩

theorem Returns.result_bind {P : α → σ → Prop} {e : ε} (hx : Returns r s x P)
    (hf : ∀ a s', P a s' → ((f a).run r s').result = .error e) :
    ((x >>= f).run r s).result = .error e := by
  obtain ⟨a, ha, hP⟩ := hx
  rw [run_bind_of_ok ha]
  exact hf a _ hP

theorem Returns.mono (hx : Returns r s x Q) (h : ∀ a s', Q a s' → Q' a s') : Returns r s x Q' := by
  obtain ⟨a, ha, hQ⟩ := hx
  exact ⟨a, ha, h a _ hQ⟩

end returns

def Raises (E : ε → Prop) (x : Prog ρ σ ω ε α) : Prop :=
  ∀ r s e, (x.run r s).result = .error e → E e

section raises

variable {E : ε → Prop} {x : Prog ρ σ ω ε α}

theorem Raises.pure (a : α) : Raises E (Pure.pure a : Prog ρ σ ω ε α) :=
  fun _ _ _ he => absurd he (by simp)

theorem Raises.throw {e : ε} (h : E e) : Raises E (Prog.throw e : Prog ρ σ ω ε α) :=
  fun _ _ _ he => Except.error.inj he ▸ h

theorem Raises.ask : Raises E (Prog.ask : Prog ρ σ ω ε ρ) := fun _ _ _ he => absurd he (by simp)

theorem Raises.get : Raises E (Prog.get : Prog ρ σ ω ε σ) := fun _ _ _ he => absurd he (by simp)

theorem Raises.write {f : σ → σ} : Raises E (Prog.write f e : Prog ρ σ ω ε Unit) :=
  fun _ _ _ he => absurd he (by simp)

theorem Raises.ofExcept (h : ∀ e, y = .error e → E e) :
    Raises E (Prog.ofExcept y : Prog ρ σ ω ε α) := fun _ _ e he => h e he

theorem Raises.mapError {f : ε → ε} (h : ∀ e, E (f e)) : Raises E (x.mapError f) := by
  intro r s e he
  rw [run_mapError] at he
  cases hx : (x.run r s).result with
  | ok a => rw [hx] at he; exact absurd he (by simp [Except.mapError])
  | error e' => rw [hx] at he; exact Except.error.inj he ▸ h e'

theorem Raises.mapError_of {f : ε → ε} (hx : Raises E x) (h : ∀ e, E e → E (f e)) :
    Raises E (x.mapError f) := by
  intro r s e he
  rw [run_mapError] at he
  cases hres : (x.run r s).result with
  | ok a => rw [hres] at he; exact absurd he (by simp [Except.mapError])
  | error e' => rw [hres] at he; exact Except.error.inj he ▸ h e' (hx r s e' hres)

theorem Raises.bind (hx : Raises E x) (hf : ∀ a, Raises E (f a)) : Raises E (x >>= f) := by
  intro r s e he
  cases h : (x.run r s).result with
  | error e' =>
    rw [run_bind_of_error h] at he
    exact Except.error.inj he ▸ hx r s e' h
  | ok a =>
    rw [run_bind_of_ok h] at he
    exact hf a r _ e he

end raises

/-- A second run right after the first changes nothing more and answers the same. -/
def Repeatable (r : ρ) (x : Prog ρ σ ω ε α) : Prop :=
  ∀ s, (x.run r (x.run r s).state).state = (x.run r s).state ∧
    (x.run r (x.run r s).state).result = (x.run r s).result

section repeatable

variable {r : ρ}

theorem Repeatable.of_idle {x : Prog ρ σ ω ε α} (h : Idle x) : Repeatable r x := by
  intro s
  rw [(h r s).1]
  exact ⟨(h r s).1, rfl⟩

theorem Repeatable.ofExcept_bind (hf : ∀ a, y = .ok a → Repeatable r (f a)) :
    Repeatable r (Prog.ofExcept y >>= f) := by
  cases y with
  | error e => exact fun s => ⟨rfl, rfl⟩
  | ok a => exact hf a rfl

end repeatable

variable {τ : Type}

def replay (apply : ω → τ → τ) (trace : List ω) (t : τ) : τ :=
  trace.foldl (fun t e => apply e t) t

@[simp] theorem replay_nil (apply : ω → τ → τ) (t : τ) : replay apply [] t = t := rfl

@[simp] theorem replay_cons (apply : ω → τ → τ) (e : ω) (es : List ω) (t : τ) :
    replay apply (e :: es) t = replay apply es (apply e t) := rfl

theorem replay_append (apply : ω → τ → τ) (es es' : List ω) (t : τ) :
    replay apply (es ++ es') t = replay apply es' (replay apply es t) := List.foldl_append

theorem replay_of_forall_eq {apply : ω → τ → τ} {es : List ω} {t : τ}
    (h : ∀ e ∈ es, ∀ t, apply e t = t) : replay apply es t = t := by
  induction es with
  | nil => rfl
  | cons e es ih =>
    rw [replay_cons, h e List.mem_cons_self, ih fun e' he' => h e' (List.mem_cons_of_mem _ he')]

theorem replay_invariant {apply : ω → τ → τ} {es : List ω} {t : τ} {I : τ → Prop}
    (h : ∀ e ∈ es, ∀ t, I t → I (apply e t)) (ht : I t) : I (replay apply es t) := by
  induction es generalizing t with
  | nil => exact ht
  | cons e es ih =>
    exact ih (fun e' he' => h e' (List.mem_cons_of_mem _ he')) (h e List.mem_cons_self t ht)

/-- The trace is a journal of the part of the state that `view` shows. -/
def Logged (view : σ → τ) (apply : ω → τ → τ) (x : Prog ρ σ ω ε α) : Prop :=
  ∀ r s, view (x.run r s).state = replay apply (x.run r s).trace (view s)

section logged

variable {view : σ → τ} {apply : ω → τ → τ}

theorem Logged.of_idle {x : Prog ρ σ ω ε α} (h : Idle x) : Logged view apply x :=
  fun r s => by rw [(h r s).1, (h r s).2, replay_nil]

theorem Logged.write {f : σ → σ} (h : ∀ s, view (f s) = apply e (view s)) :
    Logged view apply (Prog.write f e : Prog ρ σ ω ε Unit) := fun _ s => h s

theorem Logged.emit (h : ∀ t, apply e t = t) :
    Logged view apply (Prog.emit e : Prog ρ σ ω ε Unit) := fun _ s => (h (view s)).symm

theorem Logged.bind {x : Prog ρ σ ω ε α} (hx : Logged view apply x)
    (hf : ∀ a, Logged view apply (f a)) : Logged view apply (x >>= f) := by
  intro r s
  cases h : (x.run r s).result with
  | error err => rw [run_bind_of_error h]; exact hx r s
  | ok a =>
    rw [run_bind_of_ok h, Outcome.state_after, Outcome.trace_after, replay_append, ← hx r s]
    exact hf a r _

theorem Logged.mapError {f : ε → ε} {x : Prog ρ σ ω ε α} (hx : Logged view apply x) :
    Logged view apply (x.mapError f) := hx

theorem Logged.attempt {x : Prog ρ σ ω ε α} (hx : Logged view apply x) :
    Logged view apply x.attempt := hx

end logged

/-- Run in `r` from a ghost and a state in `P`, the program leaves them in `Q` with its answer,
or in `F` if it fails.  The ghost follows the events of the trace. -/
def Follows (apply : ω → τ → τ) (r : ρ) (P : τ → σ → Prop) (x : Prog ρ σ ω ε α)
    (Q : α → τ → σ → Prop) (F : τ → σ → Prop) : Prop :=
  ∀ t s, P t s →
    (∀ a, (x.run r s).result = .ok a →
      Q a (replay apply (x.run r s).trace t) (x.run r s).state) ∧
    ∀ e, (x.run r s).result = .error e →
      F (replay apply (x.run r s).trace t) (x.run r s).state

section follows

variable {apply : ω → τ → τ} {r : ρ} {P P' : τ → σ → Prop} {Q Q' : α → τ → σ → Prop}
  {R : β → τ → σ → Prop} {F F' : τ → σ → Prop}

theorem Follows.pure (h : ∀ t s, P t s → Q a t s) :
    Follows apply r P (Pure.pure a : Prog ρ σ ω ε α) Q F := by
  intro t s hs
  refine ⟨fun b hb => ?_, fun e he => absurd he (by simp)⟩
  rw [run_pure, Except.ok.injEq] at hb
  exact hb ▸ h t s hs

theorem Follows.throw {e : ε} (h : ∀ t s, P t s → F t s) :
    Follows apply r P (throw e : Prog ρ σ ω ε α) Q F :=
  fun t s hs => ⟨fun _ ha => absurd ha (by simp), fun _ _ => h t s hs⟩

theorem Follows.get {Q : σ → τ → σ → Prop} (h : ∀ t s, P t s → Q s t s) :
    Follows apply r P (get : Prog ρ σ ω ε σ) Q F := by
  intro t s hs
  refine ⟨fun s' hs' => ?_, fun e he => absurd he (by simp)⟩
  rw [run_get, Except.ok.injEq] at hs'
  exact hs' ▸ h t s hs

theorem Follows.ask : Follows apply r P (ask : Prog ρ σ ω ε ρ) (fun _ => P) F :=
  fun _ _ hs => ⟨fun _ _ => hs, fun _ he => absurd he (by simp)⟩

theorem Follows.of_idle {x : Prog ρ σ ω ε α} (hx : Idle x) (hF : ∀ t s, P t s → F t s) :
    Follows apply r P x (fun _ => P) F := by
  intro t s hs
  rw [(hx r s).1, (hx r s).2]
  exact ⟨fun _ _ => hs, fun _ _ => hF t s hs⟩

theorem Follows.of_kept {x : Prog ρ σ ω ε α}
    (hx : ∀ t s, P t s → P (replay apply (x.run r s).trace t) (x.run r s).state)
    (hF : ∀ t s, P t s → F t s) : Follows apply r P x (fun _ => P) F :=
  fun t s hs => ⟨fun _ _ => hx t s hs, fun _ _ => hF _ _ (hx t s hs)⟩

theorem Follows.write {f : σ → σ} {Q : Unit → τ → σ → Prop}
    (h : ∀ t s, P t s → Q () (apply e t) (f s)) :
    Follows apply r P (Prog.write f e : Prog ρ σ ω ε Unit) Q F :=
  fun t s hs => ⟨fun _ _ => h t s hs, fun _ he => absurd he (by simp)⟩

theorem Follows.emit {Q : Unit → τ → σ → Prop} (h : ∀ t s, P t s → Q () (apply e t) s) :
    Follows apply r P (Prog.emit e : Prog ρ σ ω ε Unit) Q F :=
  fun t s hs => ⟨fun _ _ => h t s hs, fun _ he => absurd he (by simp)⟩

theorem Follows.bind {x : Prog ρ σ ω ε α} (hx : Follows apply r P x Q F)
    (hf : ∀ a, Follows apply r (Q a) (f a) R F) : Follows apply r P (x >>= f) R F := by
  intro t s hs
  obtain ⟨hok, herror⟩ := hx t s hs
  cases h : (x.run r s).result with
  | error e =>
    rw [run_bind_of_error h]
    exact ⟨fun _ hb => absurd hb (by simp), fun _ _ => herror e h⟩
  | ok a =>
    rw [run_bind_of_ok h, Outcome.trace_after, replay_append]
    exact hf a _ _ (hok a h)

theorem Follows.mapError {f : ε → ε} {x : Prog ρ σ ω ε α} (hx : Follows apply r P x Q F) :
    Follows apply r P (x.mapError f) Q F := by
  intro t s hs
  obtain ⟨hok, herror⟩ := hx t s hs
  refine ⟨fun a ha => hok a (result_of_mapError ha), fun e he => ?_⟩
  cases hx' : (x.run r s).result with
  | ok a => rw [run_mapError, hx'] at he; exact absurd he (by simp [Except.mapError])
  | error e' => exact herror e' hx'

theorem Follows.attempt {x : Prog ρ σ ω ε α} (hx : Follows apply r P x Q F) :
    Follows apply r P x.attempt (fun res t s => match res with
      | .ok a => Q a t s
      | .error _ => F t s) F' := by
  intro t s hs
  obtain ⟨hok, herror⟩ := hx t s hs
  refine ⟨fun res hres => ?_, fun e he => absurd he (by simp)⟩
  rw [run_attempt, Except.ok.injEq] at hres
  subst hres
  cases h : (x.run r s).result with
  | ok a => exact hok a h
  | error e => exact herror e h

theorem Follows.conseq {x : Prog ρ σ ω ε α} (hx : Follows apply r P x Q F)
    (hP : ∀ t s, P' t s → P t s) (hQ : ∀ a t s, Q a t s → Q' a t s)
    (hF : ∀ t s, F t s → F' t s) : Follows apply r P' x Q' F' := fun t s hs =>
  ⟨fun a ha => hQ a _ _ ((hx t s (hP t s hs)).1 a ha),
    fun e he => hF _ _ ((hx t s (hP t s hs)).2 e he)⟩

theorem Follows.pre {x : Prog ρ σ ω ε α} (hx : Follows apply r P x Q F)
    (hP : ∀ t s, P' t s → P t s) : Follows apply r P' x Q F :=
  hx.conseq hP (fun _ _ _ => id) fun _ _ => id

theorem Follows.post {x : Prog ρ σ ω ε α} (hx : Follows apply r P x Q F)
    (hQ : ∀ a t s, Q a t s → Q' a t s) : Follows apply r P x Q' F :=
  hx.conseq (fun _ _ => id) hQ fun _ _ => id

theorem Follows.known {x : Prog ρ σ ω ε α} (hx : Idle x) (hF : ∀ t s, P t s → F t s) :
    Follows apply r P x (fun a t s => P t s ∧ (x.run r s).result = .ok a) F := by
  intro t s hs
  rw [(hx r s).1, (hx r s).2, replay_nil]
  exact ⟨fun _ ha => ⟨hs, ha⟩, fun _ _ => hF t s hs⟩

theorem Follows.attempt_both {x : Prog ρ σ ω ε α} (hx : Follows apply r P x (fun _ => F) F) :
    Follows apply r P x.attempt (fun _ => F) F :=
  hx.attempt.post fun res _ _ h => by cases res <;> exact h

theorem Follows.of_ok {x : Prog ρ σ ω ε α} (hx : Follows apply r P x Q fun _ _ => True)
    (hok : ∀ t s, P t s → ∃ a, (x.run r s).result = .ok a) : Follows apply r P x Q F := by
  intro t s hs
  obtain ⟨a, ha⟩ := hok t s hs
  exact ⟨(hx t s hs).1, fun e he => absurd (ha.symm.trans he) (by simp)⟩

theorem Follows.state {x : Prog ρ σ ω ε α} {t : τ} {s : σ} (hx : Follows apply r P x (fun _ => F) F)
    (hs : P t s) : F (replay apply (x.run r s).trace t) (x.run r s).state := by
  cases h : (x.run r s).result with
  | ok a => exact (hx t s hs).1 a h
  | error e => exact (hx t s hs).2 e h

end follows

end Prog
end Kit
