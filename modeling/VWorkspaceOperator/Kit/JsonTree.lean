import VWorkspaceOperator.Kit.Number

/-!
# Maps as trees

A map of maps has leaves: the values that are no maps, each at the path of keys that leads to it.
To lay a patch over a map is to change the leaves the patch names and no others, at whatever depth.
A copy that looks at the first keys only does that as far as it has nothing to lose below them, and
a copy that writes numbers in another way as far as they stay the same.

## Main definitions and results

* `LeafAt`, `Names`: the leaves of a map, and the paths a patch is about.
* `Overlaid`: the patch was laid over the map.
* `overlaid_iff_of_lookup`: when a copy of the first keys does that.
-/

namespace Kit

/-- The value is a map. -/
def Json.isObj : Json → Bool
  | .obj _ => true
  | _ => false

/-- The map has the value `v`, which is no map, at the path. -/
def LeafAt (fs : Fields) (path : List String) (v : Json) : Prop :=
  path ≠ [] ∧ nested path fs = some v ∧ v.isObj = false

/-- The patch has a value at the path, or a value that is no map at the beginning of the path. -/
def Names (patch : Fields) (path : List String) : Prop :=
  (∃ v, nested path patch = some v) ∨ ∃ pre v, pre <+: path ∧ LeafAt patch pre v

/-- The patch was laid over the map `old`: the leaves it does not name are kept, and its own leaves
are there. -/
structure Overlaid (old patch new : Fields) : Prop where
  kept : ∀ path v, LeafAt old path v → ¬ Names patch path → nested path new = some v
  set : ∀ path v, LeafAt patch path v → ∃ v', nested path new = some v' ∧ v.Respelled v'

/-- Each map in the patch names all the leaves there are below its key. -/
def Covers (patch old : Fields) : Prop :=
  ∀ k inner, patch.lookup k = some (.obj inner) →
    ∀ path v, LeafAt old (k :: path) v → Names patch (k :: path)

/-- The numbers of the leaves stay the same when they are written in another way. -/
def KeepsNumbers (f : String → String) (patch : Fields) : Prop :=
  ∀ path v, LeafAt patch path v → ∀ lit ∈ v.numbers, sameNumber lit (f lit) = true

section overlay

variable {old patch new : Fields} {k : String} {ks : List String}

theorem lookup_of_nested {v : Json} (h : nested (k :: ks) patch = some v) :
    ∃ w, patch.lookup k = some w := by
  cases hlookup : patch.lookup k with
  | none =>
    rw [nested_cons_of_none hlookup] at h
    exact absurd h (by simp)
  | some w => exact ⟨w, rfl⟩

theorem names_of_lookup {v : Json} (h : patch.lookup k = some v) (hv : v.isObj = false) :
    Names patch (k :: ks) := by
  refine .inr ⟨[k], v, ⟨ks, rfl⟩, by simp, ?_, hv⟩
  unfold nested
  simp only [h]

theorem overlaid_iff_of_lookup {f : String → String}
    (hcopy : ∀ k, new.lookup k = ((patch.lookup k).map (Json.mapNum f)).or (old.lookup k)) :
    Overlaid old patch new ↔ Covers patch old ∧ KeepsNumbers f patch := by
  have hpatched : ∀ {k w} ks, patch.lookup k = some w →
      nested (k :: ks) new = (nested (k :: ks) patch).map (Json.mapNum f) := by
    intro k w ks hw
    rw [← nested_mapNumFields]
    refine nested_congr ?_
    rw [hcopy, lookup_mapNumFields, hw]
    rfl
  have hset : ∀ {path v}, LeafAt patch path v → nested path new = some (v.mapNum f) := by
    rintro (_ | ⟨k, path⟩) v hleaf
    · exact absurd rfl hleaf.1
    · obtain ⟨w, hw⟩ := lookup_of_nested hleaf.2.1
      rw [hpatched path hw, hleaf.2.1]
      rfl
  constructor
  · intro h
    refine ⟨fun k inner hinner path v hleaf => ?_, fun path v hleaf => ?_⟩
    · by_contra hnames
      have hkept := h.kept _ v hleaf hnames
      rw [hpatched path hinner] at hkept
      obtain ⟨v', hv', -⟩ := Option.map_eq_some_iff.mp hkept
      exact hnames (.inl ⟨v', hv'⟩)
    · obtain ⟨v', hv', hsame⟩ := h.set path v hleaf
      rw [hset hleaf, Option.some.injEq] at hv'
      exact Json.respelled_mapNum_iff.mp (hv' ▸ hsame)
  · rintro ⟨hcovers, hnumbers⟩
    constructor
    · rintro (_ | ⟨k, path⟩) v hleaf hnames
      · exact absurd rfl hleaf.1
      · have hnone : patch.lookup k = none := by
          cases hlookup : patch.lookup k with
          | none => rfl
          | some w =>
            cases hw : w.isObj with
            | false => exact absurd (names_of_lookup hlookup hw) hnames
            | true =>
              cases w with
              | obj inner => exact absurd (hcovers k inner hlookup path v hleaf) hnames
              | null | bool _ | num _ | str _ | arr _ => exact absurd hw (by simp [Json.isObj])
        have hsame : new.lookup k = old.lookup k := by
          rw [hcopy, hnone, Option.map_none, Option.none_or]
        rw [nested_congr hsame]
        exact hleaf.2.1
    · exact fun path v hleaf =>
        ⟨_, hset hleaf, Json.respelled_mapNum_iff.mpr (hnumbers path v hleaf)⟩

theorem numbers_subset_of_lookup {fs : Fields} {v : Json} (h : fs.lookup k = some v) :
    v.numbers ⊆ numbersFields fs := by
  induction fs with
  | nil => exact absurd h (by simp)
  | cons m fs ih =>
    obtain ⟨k', v'⟩ := m
    rw [numbersFields]
    by_cases hk : k = k'
    · subst hk
      rw [List.lookup_cons_self, Option.some.injEq] at h
      exact h ▸ List.subset_append_left _ _
    · rw [lookup_cons_ne hk] at h
      exact List.Subset.trans (ih h) (List.subset_append_right _ _)

theorem numbers_subset_of_nested {path : List String} {fs : Fields} {v : Json}
    (h : nested path fs = some v) : v.numbers ⊆ numbersFields fs := by
  induction path generalizing fs with
  | nil =>
    obtain rfl : Json.obj fs = v := Option.some.inj h
    exact List.Subset.refl _
  | cons k path ih =>
    obtain ⟨w, hw⟩ := lookup_of_nested h
    refine List.Subset.trans ?_ (numbers_subset_of_lookup hw)
    unfold nested at h
    rw [hw] at h
    cases path with
    | nil =>
      obtain rfl : w = v := Option.some.inj h
      exact List.Subset.refl _
    | cons k' path =>
      cases w with
      | obj inner => exact ih h
      | _ => exact absurd h (by simp)

theorem keepsNumbers_of_forall {f : String → String}
    (h : ∀ lit ∈ numbersFields patch, sameNumber lit (f lit) = true) : KeepsNumbers f patch :=
  fun _ _ hleaf lit hlit => h lit (numbers_subset_of_nested hleaf.2.1 hlit)

end overlay

end Kit
