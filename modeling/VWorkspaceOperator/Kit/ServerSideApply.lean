import VWorkspaceOperator.Kit.Json
import VWorkspaceOperator.Kit.Store

/-!
# Server-side apply

An API server keeps, for every field of an object, the managers that own it.  A
manager applies a configuration, the fields it wants to have: fields it applied
before and no longer wants it gives up, the others are set.  Setting a field that
another manager owns to another value is a conflict; a forced apply takes the
field over, any other fails and writes nothing.
-/

namespace Kit

open Keyed

/-- A field of an object: its path, its value and the managers that own it. -/
structure ManagedField (π ν μ : Type) where
  path : π
  value : ν
  managers : List μ
  deriving DecidableEq, Repr

instance {π ν μ : Type} : Keyed (ManagedField π ν μ) π := ⟨ManagedField.path⟩

abbrev FieldSet (π ν μ : Type) := Store (ManagedField π ν μ)

variable {π ν μ : Type} [DecidableEq π] [DecidableEq ν] [DecidableEq μ]

def FieldSet.value (live : FieldSet π ν μ) (p : π) : Option ν := (live.get p).map (·.value)

def contests (m : μ) (live : FieldSet π ν μ) (setting : π × ν) : Bool :=
  match live.get setting.1 with
  | none => false
  | some f => f.value ≠ setting.2 && f.managers.any (· ≠ m)

theorem value_ne_of_contests {m : μ} {live : FieldSet π ν μ} {p : π} {v : ν}
    (h : contests m live (p, v) = true) : live.value p ≠ some v := by
  intro hv
  unfold contests at h
  unfold FieldSet.value at hv
  cases hget : live.get p with
  | none => simp [hget] at h
  | some f => simp_all

def conflicts (m : μ) (config : List (π × ν)) (live : FieldSet π ν μ) : List (π × ν) :=
  config.filter (contests m live)

/-- Set a field: a manager that agrees with the value shares the field, one that
changes it has it alone. -/
def applyField (m : μ) (live : FieldSet π ν μ) (setting : π × ν) : FieldSet π ν μ :=
  match live.get setting.1 with
  | some f =>
      if f.value = setting.2 then
        live.put { f with managers := if m ∈ f.managers then f.managers else f.managers ++ [m] }
      else live.put ⟨setting.1, setting.2, [m]⟩
  | none => live.put ⟨setting.1, setting.2, [m]⟩

theorem value_applyField (m : μ) (live : FieldSet π ν μ) (p : π) (v : ν) :
    (applyField m live (p, v)).value p = some v := by
  have hput : ∀ f : ManagedField π ν μ, f.path = p → f.value = v →
      FieldSet.value (live.put f) p = some v := by
    rintro f rfl rfl
    exact congrArg (Option.map ManagedField.value) (Store.get_put_self live f)
  unfold applyField
  dsimp only
  cases hget : live.get p with
  | none => exact hput _ rfl rfl
  | some f =>
    dsimp only
    split
    · next hv => exact hput _ (Store.key_of_get hget) hv
    · exact hput _ rfl rfl

theorem value_applyField_of_ne (m : μ) (live : FieldSet π ν μ) {p q : π} (h : q ≠ p) (v : ν) :
    (applyField m live (p, v)).value q = live.value q := by
  have hput : ∀ f : ManagedField π ν μ, f.path = p →
      FieldSet.value (live.put f) q = live.value q := by
    rintro f rfl
    exact congrArg (Option.map ManagedField.value) (Store.get_put_of_ne h)
  unfold applyField
  dsimp only
  cases hget : live.get p with
  | none => exact hput _ rfl
  | some f =>
    dsimp only
    split
    · exact hput _ (Store.key_of_get hget)
    · exact hput _ rfl

/-- The configuration sets the field to the value: the last of its settings of the
field has it. -/
def Sets (config : List (π × ν)) (p : π) (v : ν) : Prop :=
  ∃ pre post, config = pre ++ (p, v) :: post ∧ ∀ setting ∈ post, setting.1 ≠ p

theorem value_foldl_applyField (m : μ) (live : FieldSet π ν μ) {config : List (π × ν)} {p : π}
    {v : ν} (h : Sets config p v) : (config.foldl (applyField m) live).value p = some v := by
  obtain ⟨pre, post, rfl, hlast⟩ := h
  rw [List.foldl_append, List.foldl_cons]
  have hset := value_applyField m (pre.foldl (applyField m) live) p v
  revert hset
  generalize applyField m (pre.foldl (applyField m) live) (p, v) = live'
  intro hset
  induction post generalizing live' with
  | nil => exact hset
  | cons setting post ih =>
    rw [List.foldl_cons]
    refine ih (fun s hs => hlast s (List.mem_cons_of_mem _ hs)) _ ?_
    rw [value_applyField_of_ne m live' (hlast setting List.mem_cons_self).symm]
    exact hset

/-- Give up the fields that are no longer wanted; those nobody else owns go. -/
def release (m : μ) (wanted : List π) (live : FieldSet π ν μ) : FieldSet π ν μ :=
  live.items.foldl (fun live f =>
    if m ∈ f.managers ∧ f.path ∉ wanted then
      if f.managers.filter (· ≠ m) = [] then live.erase f.path
      else live.put { f with managers := f.managers.filter (· ≠ m) }
    else live) live

/-- Apply a configuration; the error lists the contested settings. -/
def applyConfig (force : Bool) (m : μ) (config : List (π × ν)) (live : FieldSet π ν μ) :
    Except (List (π × ν)) (FieldSet π ν μ) :=
  if force || (conflicts m config live).isEmpty then
    .ok (config.foldl (applyField m) (release m (config.map Prod.fst) live))
  else .error (conflicts m config live)

theorem applyConfig_force (m : μ) (config : List (π × ν)) (live : FieldSet π ν μ) :
    applyConfig true m config live =
      .ok (config.foldl (applyField m) (release m (config.map Prod.fst) live)) := rfl

mutual

/-- The fields of a document below a path.  Lists and empty maps are fields as a
whole. -/
def leaves (path : List String) : Json → List (List String × Json)
  | .obj (f :: fs) => leavesOf path (f :: fs)
  | .obj [] => [(path, .obj [])]
  | .arr vs => [(path, .arr vs)]
  | .null => [(path, .null)]
  | .bool b => [(path, .bool b)]
  | .num lit => [(path, .num lit)]
  | .str s => [(path, .str s)]
termination_by structural v => v

def leavesOf (path : List String) : List (String × Json) → List (List String × Json)
  | [] => []
  | (k, v) :: fs => leaves (path ++ [k]) v ++ leavesOf path fs
termination_by structural fs => fs

end

end Kit
