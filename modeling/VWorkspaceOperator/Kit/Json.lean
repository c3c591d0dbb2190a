import Mathlib.Data.List.Basic

/-!
# JSON documents and nested fields

`Json` is a parsed JSON document.  The members of an object stay a list, in
document order and with repeated keys, because what a decoder makes of a
repeated key is part of what is verified; numbers stay the literal they were
written with.

The same type carries the content of unstructured API objects, whose maps have
no repeated keys; `nested` and `setNested` are the helpers of the
`unstructured` package that read and write a field at a path.
-/

namespace Kit

inductive Json where
  /-- The literal `null`. -/
  | null
  /-- The literals `true` and `false`. -/
  | bool (b : Bool)
  /-- A number, as the literal it was written with. -/
  | num (literal : String)
  /-- A string, unescaped. -/
  | str (s : String)
  /-- An array. -/
  | arr (elems : List Json)
  /-- An object: its members in document order. -/
  | obj (fields : List (String × Json))
  deriving Inhabited, Repr

abbrev Fields := List (String × Json)

namespace Json

mutual

def decEq : (a b : Json) → Decidable (a = b)
  | .null, b => match b with
    | .null => isTrue rfl
    | .bool _ | .num _ | .str _ | .arr _ | .obj _ => isFalse nofun
  | .bool x, b => match b with
    | .bool y => decidable_of_iff (x = y) (by simp)
    | .null | .num _ | .str _ | .arr _ | .obj _ => isFalse nofun
  | .num x, b => match b with
    | .num y => decidable_of_iff (x = y) (by simp)
    | .null | .bool _ | .str _ | .arr _ | .obj _ => isFalse nofun
  | .str x, b => match b with
    | .str y => decidable_of_iff (x = y) (by simp)
    | .null | .bool _ | .num _ | .arr _ | .obj _ => isFalse nofun
  | .arr x, b => match b with
    | .arr y => match decEqList x y with
      | isTrue h => isTrue (h ▸ rfl)
      | isFalse h => isFalse fun e => h (by injection e)
    | .null | .bool _ | .num _ | .str _ | .obj _ => isFalse nofun
  | .obj x, b => match b with
    | .obj y => match decEqFields x y with
      | isTrue h => isTrue (h ▸ rfl)
      | isFalse h => isFalse fun e => h (by injection e)
    | .null | .bool _ | .num _ | .str _ | .arr _ => isFalse nofun
termination_by structural a => a

def decEqList : (a b : List Json) → Decidable (a = b)
  | [], [] => isTrue rfl
  | [], _ :: _ => isFalse nofun
  | _ :: _, [] => isFalse nofun
  | x :: xs, y :: ys => match decEq x y, decEqList xs ys with
    | isTrue h, isTrue h' => isTrue (by rw [h, h'])
    | isFalse h, _ => isFalse fun e => h (by injection e)
    | _, isFalse h => isFalse fun e => h (by injection e)
termination_by structural a => a

def decEqFields : (a b : List (String × Json)) → Decidable (a = b)
  | [], [] => isTrue rfl
  | [], _ :: _ => isFalse nofun
  | _ :: _, [] => isFalse nofun
  | (k, v) :: xs, (k', v') :: ys =>
    match instDecidableEqString k k', decEq v v', decEqFields xs ys with
    | isTrue h, isTrue h', isTrue h'' => isTrue (by rw [h, h', h''])
    | isFalse h, _, _ => isFalse fun e => h (by injection e with e _; injection e)
    | _, isFalse h, _ => isFalse fun e => h (by injection e with e _; injection e)
    | _, _, isFalse h => isFalse fun e => h (by injection e)
termination_by structural a => a

end

instance : DecidableEq Json := decEq

def kindName : Json → String
  | .null => "null"
  | .bool _ => "bool"
  | .num _ => "number"
  | .str _ => "string"
  | .arr _ => "array"
  | .obj _ => "object"

end Json

section Map

variable {α : Type*}

/-- Assign a key of a map: replace its value, or add it at the end. -/
def setField (k : String) (v : α) : List (String × α) → List (String × α)
  | [] => [(k, v)]
  | (k', v') :: fs => if k' = k then (k, v) :: fs else (k', v') :: setField k v fs

theorem lookup_cons_ne {k k' : String} (h : k' ≠ k) (v : α) (fs : List (String × α)) :
    ((k, v) :: fs).lookup k' = fs.lookup k' := by
  rw [List.lookup_cons, beq_false_of_ne h]

@[simp] theorem lookup_setField_self (k : String) (v : α) (fs : List (String × α)) :
    (setField k v fs).lookup k = some v := by
  induction fs with
  | nil => simp [setField]
  | cons f fs ih =>
    obtain ⟨k', v'⟩ := f
    by_cases h : k' = k
    · simp [setField, h]
    · rw [setField, if_neg h, lookup_cons_ne (Ne.symm h), ih]

theorem lookup_setField_of_ne {k k' : String} (v : α) (h : k' ≠ k) (fs : List (String × α)) :
    (setField k v fs).lookup k' = fs.lookup k' := by
  induction fs with
  | nil => rw [setField, lookup_cons_ne h]
  | cons f fs ih =>
    obtain ⟨k₁, v₁⟩ := f
    by_cases h₁ : k₁ = k
    · subst h₁
      rw [setField, if_pos rfl, lookup_cons_ne h, lookup_cons_ne h]
    · rw [setField, if_neg h₁]
      by_cases h₂ : k' = k₁
      · simp [h₂]
      · rw [lookup_cons_ne h₂, lookup_cons_ne h₂, ih]

theorem setField_of_lookup {k : String} {v : α} {fs : List (String × α)}
    (h : fs.lookup k = some v) : setField k v fs = fs := by
  induction fs with
  | nil => exact absurd h (by simp)
  | cons f fs ih =>
    obtain ⟨k', v'⟩ := f
    by_cases hk : k' = k
    · subst hk
      rw [List.lookup_cons_self, Option.some.injEq] at h
      rw [setField, if_pos rfl, h]
    · rw [lookup_cons_ne (Ne.symm hk)] at h
      rw [setField, if_neg hk, ih h]

theorem setField_setField (k : String) (v v' : α) (fs : List (String × α)) :
    setField k v (setField k v' fs) = setField k v fs := by
  induction fs with
  | nil => simp [setField]
  | cons f fs ih =>
    obtain ⟨k', v₁⟩ := f
    by_cases hk : k' = k
    · simp [setField, hk]
    · simp [setField, hk, ih]

theorem setField_comm {k k' : String} (hne : k ≠ k') (v v' : α) {fs : List (String × α)}
    (h : (fs.lookup k').isSome) :
    setField k' v' (setField k v fs) = setField k v (setField k' v' fs) := by
  induction fs with
  | nil => exact absurd h (by simp)
  | cons f fs ih =>
    obtain ⟨k₁, v₁⟩ := f
    by_cases hk : k₁ = k
    · subst hk
      simp [setField, hne]
    · by_cases hk' : k₁ = k'
      · subst hk'
        simp [setField, hk]
      · rw [lookup_cons_ne (Ne.symm hk')] at h
        simp [setField, hk, hk', ih h]

def unsetField (k : String) (fs : List (String × α)) : List (String × α) :=
  fs.filter fun f => f.1 ≠ k

@[simp] theorem lookup_unsetField_self (k : String) (fs : List (String × α)) :
    (unsetField k fs).lookup k = none := by
  rw [List.lookup_eq_none_iff]
  intro f hf
  have hne : f.1 ≠ k := by simpa using (List.mem_filter.mp hf).2
  simpa using Ne.symm hne

theorem lookup_unsetField_of_ne {k k' : String} (h : k' ≠ k) (fs : List (String × α)) :
    (unsetField k fs).lookup k' = fs.lookup k' := by
  induction fs with
  | nil => rfl
  | cons f fs ih =>
    obtain ⟨k₁, v₁⟩ := f
    rw [unsetField] at ih ⊢
    by_cases h₁ : k₁ = k
    · subst h₁
      rw [List.filter_cons_of_neg (by simp), ih, lookup_cons_ne h]
    · rw [List.filter_cons_of_pos (by simpa using h₁)]
      by_cases h₂ : k' = k₁
      · subst h₂
        rw [List.lookup_cons_self, List.lookup_cons_self]
      · rw [lookup_cons_ne h₂, lookup_cons_ne h₂, ih]

theorem lookup_of_unsetField {k k' : String} {v : α} {fs : List (String × α)}
    (h : (unsetField k fs).lookup k' = some v) : fs.lookup k' = some v := by
  by_cases hk : k' = k
  · rw [hk, lookup_unsetField_self] at h
    exact absurd h (by simp)
  · rwa [lookup_unsetField_of_ne hk] at h

end Map

/-- The value at a path of keys, if every step of the path is a map that has
the key.  A step through something that is not a map is an error the callers
drop, so it reads as a missing value here. -/
def nested : List String → Fields → Option Json
  | [], fs => some (.obj fs)
  | k :: ks, fs =>
      match fs.lookup k, ks with
      | none, _ => none
      | some v, [] => some v
      | some (.obj inner), ks => nested ks inner
      | some _, _ => none

/-- `unstructured.NestedString` with its error dropped: the string at a path,
or the empty string. -/
def nestedString (path : List String) (fs : Fields) : String :=
  match nested path fs with
  | some (.str s) => s
  | _ => ""

def nestedMap (path : List String) (fs : Fields) : Option Fields :=
  match nested path fs with
  | some (.obj m) => some m
  | _ => none

def jsonPath (path : List String) : String := path.foldl (fun s k => s ++ "." ++ k) ""

/-- `unstructured.SetNestedField`: assign the value at a path, making the maps
on the way.  `done` is the part of the path already walked, for the message. -/
def setNested (value : Json) (done : List String) : List String → Fields → Except String Fields
  | [], fs => .ok fs
  | [k], fs => .ok (setField k value fs)
  | k :: ks, fs =>
      match fs.lookup k with
      | none =>
          match setNested value (done ++ [k]) ks [] with
          | .ok inner => .ok (setField k (.obj inner) fs)
          | .error e => .error e
      | some (.obj inner) =>
          match setNested value (done ++ [k]) ks inner with
          | .ok inner' => .ok (setField k (.obj inner') fs)
          | .error e => .error e
      | some _ =>
          .error ("value cannot be set because " ++ jsonPath (done ++ [k]) ++
            " is not a map[string]interface\x7b\x7d")

section nested

variable {value : Json} {done : List String} {k k' : String} {ks : List String} {fs fs' : Fields}

theorem nested_cons_of_obj {inner : Fields} (h : fs.lookup k = some (.obj inner)) :
    nested (k :: k' :: ks) fs = nested (k' :: ks) inner := by
  conv_lhs => unfold nested
  simp only [h]

theorem nested_cons_of_none (h : fs.lookup k = none) : nested (k :: ks) fs = none := by
  unfold nested
  simp only [h]

theorem exists_of_setNested (h : setNested value done (k :: k' :: ks) fs = .ok fs') :
    ∃ inner inner', (fs.lookup k = some (.obj inner) ∨ fs.lookup k = none ∧ inner = []) ∧
      setNested value (done ++ [k]) (k' :: ks) inner = .ok inner' ∧
      fs' = setField k (.obj inner') fs := by
  rw [setNested] at h
  · split at h
    · next hnone =>
      split at h
      · next inner hinner => exact ⟨[], inner, .inr ⟨hnone, rfl⟩, hinner, (Except.ok.inj h).symm⟩
      · exact absurd h (by simp)
    · next inner hobj =>
      split at h
      · next inner' hinner => exact ⟨inner, inner', .inl hobj, hinner, (Except.ok.inj h).symm⟩
      · exact absurd h (by simp)
    · exact absurd h (by simp)
  · simp

theorem nested_setNested (h : setNested value done (k :: ks) fs = .ok fs') :
    nested (k :: ks) fs' = some value := by
  induction ks generalizing done k fs fs' with
  | nil =>
    rw [setNested, Except.ok.injEq] at h
    subst h
    unfold nested
    simp only [lookup_setField_self]
  | cons k' ks ih =>
    obtain ⟨inner, inner', -, hinner, rfl⟩ := exists_of_setNested h
    rw [nested_cons_of_obj (lookup_setField_self _ _ _)]
    exact ih hinner

theorem exists_of_nested {v : Json} (h : nested (k :: k' :: ks) fs = some v) :
    ∃ inner, fs.lookup k = some (.obj inner) ∧ nested (k' :: ks) inner = some v := by
  unfold nested at h
  split at h
  · exact absurd h (by simp)
  · next hks => exact absurd hks (by simp)
  · next inner hlookup _ => exact ⟨inner, hlookup, h⟩
  · exact absurd h (by simp)

theorem setNested_of_nested (h : nested (k :: ks) fs = some value) :
    setNested value done (k :: ks) fs = .ok fs := by
  induction ks generalizing done k fs with
  | nil =>
    have hlookup : fs.lookup k = some value := by
      unfold nested at h
      split at h <;> simp_all
    rw [setNested, setField_of_lookup hlookup]
  | cons k' ks ih =>
    obtain ⟨inner, hlookup, hinner⟩ := exists_of_nested h
    rw [setNested, hlookup]
    · simp only [ih hinner, setField_of_lookup hlookup]
    · simp

theorem nested_congr {fs₁ fs₂ : Fields} (h : fs₁.lookup k = fs₂.lookup k) :
    nested (k :: ks) fs₁ = nested (k :: ks) fs₂ := by
  unfold nested
  simp only [h]

theorem nested_setNested_of_ne {a b : String} (hne : a ≠ b) (pre s t : List String)
    (h : setNested value done (pre ++ a :: s) fs = .ok fs') :
    nested (pre ++ b :: t) fs' = nested (pre ++ b :: t) fs := by
  induction pre generalizing done fs fs' with
  | nil =>
    have hset : ∃ v, fs' = setField a v fs := by
      cases s with
      | nil => exact ⟨value, (Except.ok.inj h).symm⟩
      | cons k s =>
        obtain ⟨-, inner', -, -, rfl⟩ := exists_of_setNested h
        exact ⟨_, rfl⟩
    obtain ⟨v, rfl⟩ := hset
    exact nested_congr (lookup_setField_of_ne v hne.symm fs)
  | cons k pre ih =>
    obtain ⟨k₁, ks₁, hpath⟩ : ∃ k₁ ks₁, pre ++ a :: s = k₁ :: ks₁ :=
      List.exists_cons_of_ne_nil (by simp)
    obtain ⟨k₂, ks₂, hother⟩ : ∃ k₂ ks₂, pre ++ b :: t = k₂ :: ks₂ :=
      List.exists_cons_of_ne_nil (by simp)
    rw [List.cons_append, hpath] at h
    obtain ⟨inner, inner', hinner, hset, rfl⟩ := exists_of_setNested h
    rw [← hpath] at hset
    have hrest := ih hset
    rw [hother] at hrest
    rw [List.cons_append, hother, nested_cons_of_obj (lookup_setField_self _ _ _), hrest]
    rcases hinner with hobj | ⟨hnone, rfl⟩
    · rw [nested_cons_of_obj hobj]
    · rw [nested_cons_of_none hnone]; rfl

/-- What is on the way to the end of a path is a map, as far as it is there. -/
def MapsAlong : List String → Fields → Prop
  | k :: k' :: ks, fs =>
      ∀ v, fs.lookup k = some v → ∃ inner, v = .obj inner ∧ MapsAlong (k' :: ks) inner
  | _, _ => True

theorem mapsAlong_nil : ∀ path, MapsAlong path []
  | [] => trivial
  | [_] => trivial
  | _ :: _ :: _ => fun _ h => absurd h (by simp)

theorem exists_setNested {path : List String} (h : MapsAlong path fs) :
    ∃ fs', setNested value done path fs = .ok fs' := by
  induction path generalizing done fs with
  | nil => exact ⟨fs, rfl⟩
  | cons k path ih =>
    cases path with
    | nil => exact ⟨_, rfl⟩
    | cons k' ks =>
      rw [setNested]
      · cases hlookup : fs.lookup k with
        | none =>
          obtain ⟨inner, hinner⟩ :
              ∃ inner, setNested value (done ++ [k]) (k' :: ks) [] = .ok inner :=
            ih (mapsAlong_nil _)
          exact ⟨_, by simp only [hinner]; rfl⟩
        | some v =>
          obtain ⟨inner, rfl, halong⟩ := h v hlookup
          obtain ⟨inner', hinner⟩ :
              ∃ inner', setNested value (done ++ [k]) (k' :: ks) inner = .ok inner' := ih halong
          exact ⟨_, by simp only [hinner]; rfl⟩
      · simp

end nested

end Kit
