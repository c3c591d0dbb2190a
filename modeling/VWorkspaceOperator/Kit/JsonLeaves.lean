import VWorkspaceOperator.Kit.Json

/-!
# The strings in a document

A document has strings at its leaves: as the values of members, as elements of arrays, or alone.
Each has the key that encloses it most closely.  Which strings there are does not depend on the
order of the members of the objects.
-/

namespace Kit

/-- A string in a document, with the key that encloses it most closely. -/
inductive StringLeaf : Json → Option String → String → Prop
  | here (s : String) : StringLeaf (.str s) none s
  | elem {vs : List Json} {v : Json} {key : Option String} {s : String} (hv : v ∈ vs)
      (h : StringLeaf v key s) : StringLeaf (.arr vs) key s
  | member {fs : Fields} {k : String} {v : Json} {key : Option String} {s : String}
      (hv : (k, v) ∈ fs) (h : StringLeaf v key s) : StringLeaf (.obj fs) (some (key.getD k)) s

inductive MemberLeaf : Json → String → String → Prop
  | here {fs : Fields} {k s : String} (h : (k, .str s) ∈ fs) : MemberLeaf (.obj fs) k s
  | elem {vs : List Json} {v : Json} {k s : String} (hv : v ∈ vs) (h : MemberLeaf v k s) :
      MemberLeaf (.arr vs) k s
  | member {fs : Fields} {k' k s : String} {v : Json} (hv : (k', v) ∈ fs) (h : MemberLeaf v k s) :
      MemberLeaf (.obj fs) k s

/-- A string that is an element of an array, or the whole document. -/
inductive LooseLeaf : Json → Option String → String → Prop
  | alone (s : String) : LooseLeaf (.str s) none s
  | elem {vs : List Json} {v : Json} {key : Option String} {s : String} (hv : v ∈ vs)
      (h : LooseLeaf v key s) : LooseLeaf (.arr vs) key s
  | member {fs : Fields} {k : String} {v : Json} {key : Option String} {s : String}
      (hv : (k, v) ∈ fs) (hloose : ∀ s, v ≠ .str s) (h : LooseLeaf v key s) :
      LooseLeaf (.obj fs) (some (key.getD k)) s

theorem stringLeaf_iff {v : Json} {key : Option String} {s : String} :
    StringLeaf v key s ↔ LooseLeaf v key s ∨ ∃ k, key = some k ∧ MemberLeaf v k s := by
  constructor
  · intro h
    induction h with
    | here s => exact .inl (.alone s)
    | elem hv _ ih =>
      rcases ih with hloose | ⟨k, rfl, hmember⟩
      · exact .inl (.elem hv hloose)
      · exact .inr ⟨k, rfl, .elem hv hmember⟩
    | @member fs k v key s hv h ih =>
      rcases ih with hloose | ⟨k', rfl, hmember⟩
      · -- a string that stands right under the key is the value of a member
        by_cases hstr : ∃ t, v = .str t
        · obtain ⟨t, rfl⟩ := hstr
          cases hloose
          exact .inr ⟨k, rfl, .here hv⟩
        · exact .inl (.member hv (fun t ht => hstr ⟨t, ht⟩) hloose)
      · exact .inr ⟨k', rfl, .member hv hmember⟩
  · rintro (h | ⟨k, rfl, h⟩)
    · induction h with
      | alone s => exact .here s
      | elem hv _ ih => exact .elem hv ih
      | member hv _ _ ih => exact .member hv ih
    · induction h with
      | here hv => exact .member hv (.here _)
      | elem hv _ ih => exact .elem hv ih
      | member hv _ ih => exact .member hv ih

/-- Documents that differ in the order of the members of objects, at any depth. -/
inductive Reordered : Json → Json → Prop
  | refl (v : Json) : Reordered v v
  | trans {u v w : Json} (h : Reordered u v) (h' : Reordered v w) : Reordered u w
  | members {fs fs' : Fields} (h : fs.Perm fs') : Reordered (.obj fs) (.obj fs')
  | value {v v' : Json} (pre post : Fields) (k : String) (h : Reordered v v') :
      Reordered (.obj (pre ++ (k, v) :: post)) (.obj (pre ++ (k, v') :: post))
  | elem {v v' : Json} (pre post : List Json) (h : Reordered v v') :
      Reordered (.arr (pre ++ v :: post)) (.arr (pre ++ v' :: post))

theorem eq_str_of_reordered {v v' : Json} (h : Reordered v v') :
    ∀ s, v = .str s → v' = .str s := by
  induction h with
  | refl v => exact fun s hs => hs
  | trans _ _ ih ih' => exact fun s hs => ih' s (ih s hs)
  | members | value | elem => intro s hs; exact absurd hs (by simp)

theorem memberLeaf_of_reordered {v v' : Json} (h : Reordered v v') :
    ∀ k s, MemberLeaf v k s → MemberLeaf v' k s := by
  induction h with
  | refl v => exact fun _ _ h => h
  | trans _ _ ih ih' => exact fun k s h => ih' k s (ih k s h)
  | members hperm =>
    intro k s h
    cases h with
    | here hmem => exact .here (hperm.mem_iff.mp hmem)
    | member hmem h => exact .member (hperm.mem_iff.mp hmem) h
  | @value v v' pre post k₀ hreordered ih =>
    intro k s h
    cases h with
    | here hmem =>
      rcases List.mem_append.mp hmem with hmem | hmem
      · exact .here (List.mem_append_left _ hmem)
      · rcases List.mem_cons.mp hmem with heq | hmem
        · obtain ⟨rfl, rfl⟩ := Prod.mk.inj heq
          rw [eq_str_of_reordered hreordered s rfl]
          exact .here (List.mem_append_right _ List.mem_cons_self)
        · exact .here (List.mem_append_right _ (List.mem_cons_of_mem _ hmem))
    | member hmem h =>
      rcases List.mem_append.mp hmem with hmem | hmem
      · exact .member (List.mem_append_left _ hmem) h
      · rcases List.mem_cons.mp hmem with heq | hmem
        · obtain ⟨rfl, rfl⟩ := Prod.mk.inj heq
          exact .member (List.mem_append_right _ List.mem_cons_self) (ih k s h)
        · exact .member (List.mem_append_right _ (List.mem_cons_of_mem _ hmem)) h
  | @elem v v' pre post hreordered ih =>
    intro k s h
    cases h with
    | elem hmem h =>
      rcases List.mem_append.mp hmem with hmem | hmem
      · exact .elem (List.mem_append_left _ hmem) h
      · rcases List.mem_cons.mp hmem with rfl | hmem
        · exact .elem (List.mem_append_right _ List.mem_cons_self) (ih k s h)
        · exact .elem (List.mem_append_right _ (List.mem_cons_of_mem _ hmem)) h

theorem Reordered.symm {v v' : Json} (h : Reordered v v') : Reordered v' v := by
  induction h with
  | refl v => exact .refl v
  | trans _ _ ih ih' => exact .trans ih' ih
  | members hperm => exact .members hperm.symm
  | value pre post k _ ih => exact .value pre post k ih
  | elem pre post _ ih => exact .elem pre post ih

end Kit
