import Mathlib.Data.List.Nodup

/-!
# Stores of keyed objects

An API server files every object of a kind under the object's own key and never
holds two objects under one key.  A `Store` is the list of the objects of one
kind together with the proof of that fact, so a store with a duplicate key
cannot be written down, and listing the objects and looking one up by its key
can never disagree.
-/

namespace Kit

class Keyed (α : Type*) (κ : outParam (Type*)) where
  /-- The key an object is filed under. -/
  key : α → κ

open Keyed

/-- The objects of one kind: a list in which no two objects share a key. -/
structure Store (α : Type*) {κ : Type*} [Keyed α κ] where
  /-- The objects, in the order in which the server lists them. -/
  items : List α
  /-- No two objects are filed under one key. -/
  nodup : (items.map key).Nodup

namespace Store

variable {α κ : Type*} [Keyed α κ] [DecidableEq κ] {s : Store α} {k : κ} {a : α}

def empty : Store α := ⟨[], List.nodup_nil⟩

omit [DecidableEq κ] in
@[simp] theorem items_empty : (empty : Store α).items = [] := rfl

omit [DecidableEq κ] in
theorem eq_of_items {t : Store α} (h : s.items = t.items) : s = t := by
  cases s; cases t; cases h; rfl

def get (s : Store α) (k : κ) : Option α := s.items.find? fun a => key a = k

theorem get_eq_some_iff : s.get k = some a ↔ a ∈ s.items ∧ key a = k := by
  constructor
  · intro h
    exact ⟨List.mem_of_find?_eq_some h, by simpa using List.find?_some h⟩
  · rintro ⟨hmem, rfl⟩
    cases hf : s.items.find? fun b => key b = key a with
    | none => exact absurd (List.find?_eq_none.mp hf a hmem) (by simp)
    | some b =>
      have hb : key b = key a := by simpa using List.find?_some hf
      have := List.inj_on_of_nodup_map s.nodup (List.mem_of_find?_eq_some hf) hmem hb
      rw [get, hf, this]

theorem get_eq_none_iff : s.get k = none ↔ ∀ a ∈ s.items, key a ≠ k := by
  simp [get, List.find?_eq_none]

theorem mem_of_get (h : s.get k = some a) : a ∈ s.items :=
  (get_eq_some_iff.mp h).1

theorem key_of_get (h : s.get k = some a) : key a = k :=
  (get_eq_some_iff.mp h).2

theorem get_of_mem (h : a ∈ s.items) : s.get (key a) = some a :=
  get_eq_some_iff.mpr ⟨h, rfl⟩

theorem eq_of_mem {b : α} (ha : a ∈ s.items) (hb : b ∈ s.items) (h : (key a : κ) = key b) :
    a = b := by
  have hget := get_of_mem ha
  rw [h, get_of_mem hb, Option.some.injEq] at hget
  exact hget.symm

/-- The objects after `a` has been written: `a` takes the place of the object
of its key, or comes last when there was none. -/
def putItems (a : α) (items : List α) : List α :=
  if key a ∈ items.map key then items.map fun b => if key b = key a then a else b
  else items ++ [a]

private theorem map_key_replace (a : α) (items : List α) :
    (items.map fun b => if key b = key a then a else b).map key = items.map key := by
  rw [List.map_map]
  refine List.map_congr_left fun b _ => ?_
  by_cases h : key b = key a
  · simp [h]
  · simp [h]

private theorem nodup_putItems (a : α) {items : List α} (h : (items.map key).Nodup) :
    ((putItems a items).map key).Nodup := by
  unfold putItems
  split
  · rw [map_key_replace]; exact h
  · next hmem =>
    rw [List.map_append, List.map_singleton, List.nodup_append]
    refine ⟨h, List.nodup_singleton _, ?_⟩
    intro k hk k' hk' he
    rw [List.mem_singleton] at hk'
    exact hmem (hk' ▸ he ▸ hk)

def put (s : Store α) (a : α) : Store α := ⟨putItems a s.items, nodup_putItems a s.nodup⟩

theorem mem_put {b : α} : b ∈ (s.put a).items ↔ b = a ∨ (b ∈ s.items ∧ key b ≠ key a) := by
  change b ∈ putItems a s.items ↔ _
  unfold putItems
  split
  · next hmem =>
    rw [List.mem_map]
    constructor
    · rintro ⟨c, hc, rfl⟩
      by_cases h : key c = key a
      · simp [h]
      · simp [h, hc]
    · rintro (rfl | ⟨hb, hne⟩)
      · obtain ⟨c, hc, hck⟩ := List.mem_map.mp hmem
        exact ⟨c, hc, by simp [hck]⟩
      · exact ⟨b, hb, by simp [hne]⟩
  · next hmem =>
    rw [List.mem_append, List.mem_singleton]
    constructor
    · rintro (hb | rfl)
      · exact Or.inr ⟨hb, fun h => hmem (List.mem_map.mpr ⟨b, hb, h⟩)⟩
      · exact Or.inl rfl
    · rintro (rfl | ⟨hb, -⟩)
      · exact Or.inr rfl
      · exact Or.inl hb

@[simp] theorem get_put_self (s : Store α) (a : α) : (s.put a).get (key a) = some a :=
  get_eq_some_iff.mpr ⟨mem_put.mpr (Or.inl rfl), rfl⟩

theorem get_put_of_ne (h : k ≠ key a) : (s.put a).get k = s.get k := by
  refine Option.ext fun b => ?_
  rw [get_eq_some_iff, get_eq_some_iff, mem_put]
  constructor
  · rintro ⟨rfl | ⟨hb, -⟩, hk⟩
    · exact absurd hk.symm h
    · exact ⟨hb, hk⟩
  · rintro ⟨hb, hk⟩
    exact ⟨Or.inr ⟨hb, fun he => h (hk ▸ he)⟩, hk⟩

theorem of_get_put {b : α} (h : (s.put a).get k = some b) :
    b = a ∧ key a = k ∨ s.get k = some b := by
  by_cases hk : k = key a
  · subst hk
    exact .inl ⟨(Option.some.inj ((get_put_self s a).symm.trans h)).symm, rfl⟩
  · exact .inr ((get_put_of_ne hk).symm.trans h)

theorem put_of_mem (h : a ∈ s.items) : s.put a = s := by
  refine eq_of_items ?_
  change putItems a s.items = s.items
  rw [putItems, if_pos (List.mem_map_of_mem h)]
  refine (List.map_congr_left fun b hb => ?_).trans (List.map_id _)
  by_cases hkey : key b = key a
  · simp [eq_of_mem hb h hkey]
  · simp [hkey]

def erase (s : Store α) (k : κ) : Store α :=
  ⟨s.items.filter fun a => key a ≠ k, s.nodup.sublist (List.filter_sublist.map key)⟩

theorem mem_erase : a ∈ (s.erase k).items ↔ a ∈ s.items ∧ key a ≠ k := by
  simp [erase]

@[simp] theorem get_erase_self (s : Store α) (k : κ) : (s.erase k).get k = none :=
  get_eq_none_iff.mpr fun _ ha => (mem_erase.mp ha).2

theorem get_erase_of_ne {k' : κ} (h : k' ≠ k) : (s.erase k).get k' = s.get k' := by
  refine Option.ext fun a => ?_
  rw [get_eq_some_iff, get_eq_some_iff, mem_erase]
  constructor
  · rintro ⟨⟨ha, -⟩, hk⟩; exact ⟨ha, hk⟩
  · rintro ⟨ha, hk⟩; exact ⟨⟨ha, fun he => h (hk ▸ he)⟩, hk⟩

theorem erase_of_get_none (h : s.get k = none) : s.erase k = s :=
  eq_of_items (List.filter_eq_self.mpr fun a ha => by simpa using get_eq_none_iff.mp h a ha)

def filter (p : α → Bool) (s : Store α) : Store α :=
  ⟨s.items.filter p, s.nodup.sublist (List.filter_sublist.map key)⟩

/-- Remove the objects of some keys, one after the other. -/
def eraseAll (s : Store α) (ks : List κ) : Store α := ks.foldl erase s

@[simp] theorem eraseAll_nil (s : Store α) : s.eraseAll [] = s := rfl

@[simp] theorem eraseAll_cons (s : Store α) (k : κ) (ks : List κ) :
    s.eraseAll (k :: ks) = (s.erase k).eraseAll ks := rfl

theorem items_eraseAll (s : Store α) (ks : List κ) :
    (s.eraseAll ks).items = s.items.filter fun a => key a ∉ ks := by
  induction ks generalizing s with
  | nil => simp
  | cons k ks ih =>
    rw [eraseAll_cons, ih, erase, List.filter_filter]
    refine List.filter_congr fun a _ => ?_
    by_cases h : key a = k <;> simp [h]

theorem eraseAll_keys_filter (s : Store α) (p : α → Bool) :
    s.eraseAll ((s.items.filter p).map key) = s.filter fun a => !p a := by
  refine eq_of_items ((items_eraseAll s _).trans (List.filter_congr fun a ha => ?_))
  have hkey : key a ∈ (s.items.filter p).map key ↔ p a = true := by
    rw [List.mem_map]
    constructor
    · rintro ⟨b, hb, hkey⟩
      obtain ⟨hb, hpb⟩ := List.mem_filter.mp hb
      rwa [eq_of_mem hb ha hkey] at hpb
    · exact fun hpa => ⟨a, List.mem_filter.mpr ⟨ha, hpa⟩, rfl⟩
  simp only [hkey, decide_not, Bool.decide_eq_true]

end Store
end Kit
