import VWorkspaceOperator.Instance.Seaweed

/-!
# Values of a Seaweed

The sections of a `Seaweed` may stand in the values themselves or one level down, in a section
that wraps them.  `normalizeSeaweedValues` takes the wrapper off.  What it gives has a section
of a `Seaweed` at its top, or it is the values as they were, with no wrapper in them; either way
there is nothing left to take off.

Only the search for a wrapper of any name walks through the map.  What it finds is counted
before it is used, and a section that is found alone is the same in any order.
-/

namespace VWorkspace

open Kit Prog InstanceM

section normalize

variable {values values' normal : Fields}

theorem normalize_of_hasSpecKey (h : hasSpecKey values = true) :
    normalizeSeaweedValues values = .ok values := by
  rw [normalizeSeaweedValues, if_pos h]

theorem hasSpecKey_of_wrappedSpec {v : Json} (h : wrappedSpec v = some normal) :
    hasSpecKey normal = true := by
  unfold wrappedSpec at h
  split at h
  · split at h
    · next hkey => exact Option.some.inj h ▸ hkey
    · cases h
  · cases h

theorem normalize_cases (h : normalizeSeaweedValues values = .ok normal) :
    hasSpecKey normal = true ∨ normal = values := by
  unfold normalizeSeaweedValues at h
  split at h
  · exact .inr (Except.ok.inj h).symm
  split at h
  · next hfound =>
    obtain ⟨key, -, hkey⟩ := List.exists_of_findSome?_eq_some hfound
    obtain ⟨v, -, hv⟩ := Option.bind_eq_some_iff.mp hkey
    exact .inl (Except.ok.inj h ▸ hasSpecKey_of_wrappedSpec hv)
  split at h
  · exact .inr (Except.ok.inj h).symm
  · next nested hone =>
    have hmem : nested ∈ values.filterMap fun v => wrappedSpec v.2 := hone ▸ List.mem_singleton_self _
    obtain ⟨v, -, hv⟩ := List.mem_filterMap.mp hmem
    exact .inl (Except.ok.inj h ▸ hasSpecKey_of_wrappedSpec hv)
  · cases h

theorem normalize_of_ok (h : normalizeSeaweedValues values = .ok normal) :
    normalizeSeaweedValues normal = .ok normal := by
  rcases normalize_cases h with hkey | rfl
  · exact normalize_of_hasSpecKey hkey
  · exact h

theorem lookup_eq_of_perm (h : values.Perm values') (hkeys : (values.map Prod.fst).Nodup)
    (key : String) : values.lookup key = values'.lookup key := by
  induction h with
  | nil => rfl
  | cons f _ ih => rw [List.lookup_cons, List.lookup_cons, ih (List.nodup_cons.mp hkeys).2]
  | swap f g fs =>
    have hne : f.1 ≠ g.1 := fun heq => (List.nodup_cons.mp hkeys).1 (by simp [heq])
    rw [List.lookup_cons, List.lookup_cons, List.lookup_cons, List.lookup_cons]
    by_cases hf : key = f.1
    · rw [beq_eq_false_iff_ne.mpr (hf ▸ hne), beq_iff_eq.mpr hf]
    · rw [beq_eq_false_iff_ne.mpr hf]
  | trans h₁ _ ih₁ ih₂ => exact (ih₁ hkeys).trans (ih₂ ((h₁.map _).nodup_iff.mp hkeys))

/-- The same map, or the same error. -/
def SameResult : Except GoError Fields → Except GoError Fields → Prop
  | .ok fs, .ok fs' => fs.Perm fs'
  | .error e, .error e' => e = e'
  | _, _ => False

theorem normalize_perm (h : values.Perm values') (hkeys : (values.map Prod.fst).Nodup) :
    SameResult (normalizeSeaweedValues values) (normalizeSeaweedValues values') := by
  have hlookup := lookup_eq_of_perm h hkeys
  have hspec : hasSpecKey values' = hasSpecKey values := by simp only [hasSpecKey, hlookup]
  have hfound := h.filterMap fun v => wrappedSpec v.2
  unfold normalizeSeaweedValues
  rw [hspec]
  by_cases hkey : hasSpecKey values = true
  · rwa [if_pos hkey, if_pos hkey]
  rw [if_neg hkey, if_neg hkey]
  simp only [← hlookup]
  cases seaweedValueWrapperKeys.findSome? fun key => (values.lookup key).bind wrappedSpec with
  | some nested => exact List.Perm.refl nested
  | none =>
    generalize (values.filterMap fun v => wrappedSpec v.2) = found at hfound
    generalize (values'.filterMap fun v => wrappedSpec v.2) = found' at hfound
    rcases found with _ | ⟨f, _ | ⟨g, fs⟩⟩
    · rw [List.nil_perm.mp hfound]
      exact h
    · rw [← List.singleton_perm.mp hfound]
      exact List.Perm.refl f
    · -- several sections here are several sections there
      have hlength := hfound.length_eq
      rcases found' with _ | ⟨f', _ | ⟨g', fs'⟩⟩
      · cases hlength
      · cases hlength
      · rfl

end normalize

namespace SeaweedEngine

/-- `EnsureSeaweed` without the normalisation of its own. -/
def ensureOnce (e : SeaweedEngine) (app : ApplicationInstance) : InstanceM Unit := do
  let release ← Prog.ofExcept (validateReleaseRef app)
  let values ← (e.loadValues app).mapError (·.wrap "load values")
  let ns := releaseNamespace app
  let given := "spec.release.namespace " ++ goQuote ns
  let needed := "metadata.namespace " ++ goQuote app.metadata.ns
  if ns ≠ app.metadata.ns then
    Prog.throw { msg := given ++ " must match " ++ needed ++ " for Seaweed workloads" }
  else
    createOrUpdate .seaweed ⟨ns, release.name⟩ fun sw => Prog.ofExcept (mutateSeaweed app values sw)

theorem triple_loadValues (e : SeaweedEngine) (app : ApplicationInstance) (env : InstanceEnv) :
    Triple env (fun _ => True) (e.loadValues app) (fun _ => True)
      fun values _ => normalizeSeaweedValues values = .ok values := by
  have hloaded : ∀ x : InstanceM (Option Fields), Triple env (fun _ => True)
      (x >>= fun decoded => Prog.ofExcept (normalizeSeaweedValues (decoded.getD [])))
      (fun _ => True) fun values _ => normalizeSeaweedValues values = .ok values :=
    fun x => .bind .top fun _ => .ofExcept fun _ _ hok _ => normalize_of_ok hok
  unfold loadValues
  split
  · exact .throw
  split
  · split
    · exact .throw
    · exact hloaded _
  · split
    · exact .throw
    · exact hloaded _
  · split
    · exact .throw
    · exact hloaded _
  · exact .throw

theorem run_ensureSeaweed (e : SeaweedEngine) (app : ApplicationInstance) (env : InstanceEnv)
    (c : InstanceCluster) : (e.ensureSeaweed app).run env c = (e.ensureOnce app).run env c := by
  unfold ensureSeaweed ensureOnce
  cases hrelease : validateReleaseRef app with
  | error err => rfl
  | ok release =>
    rw [run_bind, run_bind]
    dsimp only [run_ofExcept]
    congr 1
    cases hload : (((e.loadValues app).mapError (·.wrap "load values")).run env c).result with
    | error err => rw [run_bind_of_error hload, run_bind_of_error hload]
    | ok values =>
      have hnormal : normalizeSeaweedValues values = .ok values :=
        ((e.triple_loadValues app env).mapError c trivial).2 values hload
      rw [run_bind_of_ok hload, run_bind_of_ok hload, hnormal]
      rfl

end SeaweedEngine

theorem normalize_stable (values : Fields) (hkeys : (values.map Prod.fst).Nodup) :
    (∀ values', values.Perm values' →
      SameResult (normalizeSeaweedValues values) (normalizeSeaweedValues values')) ∧
    (∀ normal, normalizeSeaweedValues values = .ok normal →
      normalizeSeaweedValues normal = .ok normal) ∧
    ∀ (e : SeaweedEngine) (app : ApplicationInstance) (env : InstanceEnv) (c : InstanceCluster),
      (e.ensureSeaweed app).run env c = (e.ensureOnce app).run env c :=
  ⟨fun _ h => normalize_perm h hkeys, fun _ h => normalize_of_ok h,
    fun e app env c => e.run_ensureSeaweed app env c⟩

theorem wrapped_values_stable :
    SameResult (normalizeSeaweedValues [("a", .obj [("s3", .null)]), ("b", .null)])
      (normalizeSeaweedValues [("b", .null), ("a", .obj [("s3", .null)])]) :=
  (normalize_stable [("a", .obj [("s3", .null)]), ("b", .null)] (by decide)).1 _ (.swap _ _ _)

end VWorkspace
