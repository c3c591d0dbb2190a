import Mathlib.Tactic.Common

/-!
# Programs with a state, a trace and errors

A program of the systems modelled here reads an environment, works on a state,
leaves a trace of what it did and either returns or fails.  A failure does not
undo anything: the state and the trace reached so far stay, which is what
separates these programs from `StateT σ (Except ε)`.
-/

namespace Kit

/-- What a run of a program leaves behind: its answer, the state and the events
it emitted. -/
structure Outcome (σ ω ε α : Type) where
  /-- The value returned, or the error. -/
  result : Except ε α
  /-- The state the run ends in, also when it fails. -/
  state : σ
  /-- The events emitted, in order. -/
  trace : List ω

/-- The same outcome with the events of an earlier part put in front. -/
def Outcome.after {σ ω ε α : Type} (t : List ω) (o : Outcome σ ω ε α) : Outcome σ ω ε α :=
  { o with trace := t ++ o.trace }

section after

variable {σ ω ε α : Type} (t : List ω) (o : Outcome σ ω ε α)

@[simp] theorem Outcome.result_after : (o.after t).result = o.result := rfl

@[simp] theorem Outcome.state_after : (o.after t).state = o.state := rfl

@[simp] theorem Outcome.trace_after : (o.after t).trace = t ++ o.trace := rfl

end after

theorem exists_of_bind_ok {ε α β : Type} {x : Except ε α} {f : α → Except ε β} {b : β}
    (h : x >>= f = .ok b) : ∃ a, x = .ok a ∧ f a = .ok b := by
  cases x with
  | error e => exact absurd h (by simp [Bind.bind, Except.bind])
  | ok a => exact ⟨a, rfl, h⟩

theorem bind_eq_ok_iff {ε α β : Type} {x : Except ε α} {f : α → Except ε β} {b : β} :
    x >>= f = .ok b ↔ ∃ a, x = .ok a ∧ f a = .ok b := by
  constructor
  · exact exists_of_bind_ok
  · rintro ⟨a, rfl, h⟩
    exact h

theorem check_bind_eq_ok_iff {ε β : Type} {x : Except ε Unit} {f : Unit → Except ε β} {b : β} :
    x >>= f = .ok b ↔ x = .ok () ∧ f () = .ok b := by
  rw [bind_eq_ok_iff]
  exact ⟨fun ⟨_, hx, hf⟩ => ⟨hx, hf⟩, fun ⟨hx, hf⟩ => ⟨(), hx, hf⟩⟩

theorem exists_bind_ok {ε α β : Type} {x : Except ε α} {f : α → Except ε β} {S : α → Prop}
    (hx : ∃ a, x = .ok a ∧ S a) (hf : ∀ a, S a → ∃ b, f a = .ok b) : ∃ b, x >>= f = .ok b := by
  obtain ⟨a, rfl, ha⟩ := hx
  exact hf a ha

/-- A program reading `ρ`, changing `σ`, emitting `ω` and failing with `ε`. -/
structure Prog (ρ σ ω ε α : Type) where
  /-- Run the program in an environment, from a state. -/
  run : ρ → σ → Outcome σ ω ε α

namespace Prog

variable {ρ σ ω ε α β : Type}

/-- Run `x`, then the program it selects; stop at the first failure. -/
def bind (x : Prog ρ σ ω ε α) (f : α → Prog ρ σ ω ε β) : Prog ρ σ ω ε β where
  run r s :=
    match (x.run r s).result with
    | .ok a => ((f a).run r (x.run r s).state).after (x.run r s).trace
    | .error e => ⟨.error e, (x.run r s).state, (x.run r s).trace⟩

instance : Monad (Prog ρ σ ω ε) where
  pure a := ⟨fun _ s => ⟨.ok a, s, []⟩⟩
  bind := bind

def throw (e : ε) : Prog ρ σ ω ε α := ⟨fun _ s => ⟨.error e, s, []⟩⟩

def ask : Prog ρ σ ω ε ρ := ⟨fun r s => ⟨.ok r, s, []⟩⟩

def get : Prog ρ σ ω ε σ := ⟨fun _ s => ⟨.ok s, s, []⟩⟩

def write (f : σ → σ) (e : ω) : Prog ρ σ ω ε Unit := ⟨fun _ s => ⟨.ok (), f s, [e]⟩⟩

/-- Change the state without leaving a trace: what is changed is not part of what
the trace is about. -/
def modify (f : σ → σ) : Prog ρ σ ω ε Unit := ⟨fun _ s => ⟨.ok (), f s, []⟩⟩

def emit (e : ω) : Prog ρ σ ω ε Unit := ⟨fun _ s => ⟨.ok (), s, [e]⟩⟩

def ofExcept (x : Except ε α) : Prog ρ σ ω ε α := ⟨fun _ s => ⟨x, s, []⟩⟩

def attempt (x : Prog ρ σ ω ε α) : Prog ρ σ ω ε (Except ε α) where
  run r s := ⟨.ok (x.run r s).result, (x.run r s).state, (x.run r s).trace⟩

def mapError (f : ε → ε) (x : Prog ρ σ ω ε α) : Prog ρ σ ω ε α where
  run r s := { x.run r s with result := (x.run r s).result.mapError f }

/-- Run `x` on the part of a larger state that `view` reads and `set` writes,
with the environment and the events translated. -/
def lift {ρ' σ' ω' : Type} (env : ρ' → σ' → ρ) (view : σ' → σ) (set : σ → σ' → σ') (tag : ω → ω')
    (x : Prog ρ σ ω ε α) : Prog ρ' σ' ω' ε α where
  run r s :=
    let o := x.run (env r s) (view s)
    ⟨o.result, set o.state s, o.trace.map tag⟩

section run

variable (r : ρ) (s : σ)

@[simp] theorem run_pure (a : α) : (pure a : Prog ρ σ ω ε α).run r s = ⟨.ok a, s, []⟩ := rfl

@[simp] theorem run_throw (e : ε) :
    (throw e : Prog ρ σ ω ε α).run r s = ⟨.error e, s, []⟩ := rfl

@[simp] theorem run_ask : (ask : Prog ρ σ ω ε ρ).run r s = ⟨.ok r, s, []⟩ := rfl

@[simp] theorem run_get : (get : Prog ρ σ ω ε σ).run r s = ⟨.ok s, s, []⟩ := rfl

@[simp] theorem run_write (f : σ → σ) (e : ω) :
    (write f e : Prog ρ σ ω ε Unit).run r s = ⟨.ok (), f s, [e]⟩ := rfl

@[simp] theorem run_modify (f : σ → σ) :
    (modify f : Prog ρ σ ω ε Unit).run r s = ⟨.ok (), f s, []⟩ := rfl

@[simp] theorem run_emit (e : ω) :
    (emit e : Prog ρ σ ω ε Unit).run r s = ⟨.ok (), s, [e]⟩ := rfl

@[simp] theorem run_ofExcept (x : Except ε α) :
    (ofExcept x : Prog ρ σ ω ε α).run r s = ⟨x, s, []⟩ := rfl

@[simp] theorem run_attempt (x : Prog ρ σ ω ε α) :
    x.attempt.run r s = ⟨.ok (x.run r s).result, (x.run r s).state, (x.run r s).trace⟩ := rfl

@[simp] theorem run_mapError (f : ε → ε) (x : Prog ρ σ ω ε α) :
    (x.mapError f).run r s = { x.run r s with result := (x.run r s).result.mapError f } := rfl

@[simp] theorem run_lift {ρ' σ' ω' : Type} (env : ρ' → σ' → ρ) (view : σ' → σ)
    (set : σ → σ' → σ') (tag : ω → ω') (x : Prog ρ σ ω ε α) (r' : ρ') (s' : σ') :
    (x.lift env view set tag).run r' s' =
      ⟨(x.run (env r' s') (view s')).result, set (x.run (env r' s') (view s')).state s',
        (x.run (env r' s') (view s')).trace.map tag⟩ := rfl

theorem run_bind (x : Prog ρ σ ω ε α) (f : α → Prog ρ σ ω ε β) :
    (x >>= f).run r s =
      match (x.run r s).result with
      | .ok a => ((f a).run r (x.run r s).state).after (x.run r s).trace
      | .error e => ⟨.error e, (x.run r s).state, (x.run r s).trace⟩ := rfl

variable {r s} {x : Prog ρ σ ω ε α} {f : α → Prog ρ σ ω ε β}

theorem run_bind_of_ok {a : α} (h : (x.run r s).result = .ok a) :
    (x >>= f).run r s = ((f a).run r (x.run r s).state).after (x.run r s).trace := by
  rw [run_bind, h]

theorem run_bind_of_error {e : ε} (h : (x.run r s).result = .error e) :
    (x >>= f).run r s = ⟨.error e, (x.run r s).state, (x.run r s).trace⟩ := by
  rw [run_bind, h]

theorem exists_of_result_bind {b : β} (h : ((x >>= f).run r s).result = .ok b) :
    ∃ a, (x.run r s).result = .ok a ∧ ((f a).run r (x.run r s).state).result = .ok b := by
  cases hx : (x.run r s).result with
  | error err => rw [run_bind_of_error hx] at h; exact absurd h (by simp)
  | ok a => rw [run_bind_of_ok hx] at h; exact ⟨a, rfl, h⟩

theorem mem_trace_bind {e : ω} :
    e ∈ ((x >>= f).run r s).trace ↔
      e ∈ (x.run r s).trace ∨
        ∃ a, (x.run r s).result = .ok a ∧ e ∈ ((f a).run r (x.run r s).state).trace := by
  cases h : (x.run r s).result with
  | error err => rw [run_bind_of_error h]; simp
  | ok a => rw [run_bind_of_ok h]; simp

end run

end Prog
end Kit
