import VWorkspaceOperator.Engines.Base
import VWorkspaceOperator.Kit.KubeName

/-!
# The names of workloads

A workload is named after the namespace and the name of its operation, joined by two hyphens, or
after the UID where that is too long.  Two hyphens may also stand inside a namespace or a name, so
the joined text does not say where the namespace ends.
-/

namespace VWorkspace

open Kit

/-- The metadata of an object the API server has let in: a namespace, a name and a UID. -/
structure ObjectMeta.Admitted (m : ObjectMeta) : Prop where
  ns : isDNS1123Label m.ns = true
  name : isDNS1123Subdomain m.name = true
  uid : isUUID m.uid = true

/-- The namespace of the second operation goes on, behind two hyphens, with what the name of the
first begins with. -/
def NameShared (op₁ op₂ : Operation) : Prop :=
  (op₁.metadata.ns ++ "--" ++ op₁.metadata.name).utf8ByteSize ≤ maxK8sNameLen ∧
    ∃ x, op₂.metadata.ns = op₁.metadata.ns ++ "--" ++ x ∧
      op₁.metadata.name = x ++ "--" ++ op₂.metadata.name

theorem length_materializedName_le {op : Operation} (h : op.metadata.Admitted) :
    (materializedName op).length ≤ 63 := by
  unfold materializedName
  dsimp only
  split
  · next hfits => exact (length_le_utf8ByteSize _).trans hfits
  · rw [length_of_isUUID h.uid]
    decide

theorem toList_joined (s t : String) :
    (s ++ "--" ++ t).toList = s.toList ++ '-' :: '-' :: t.toList := by
  simp

theorem joined_eq_iff {op₁ op₂ : Operation} (h₁ : op₁.metadata.Admitted)
    (h₂ : op₂.metadata.Admitted) :
    op₁.metadata.ns ++ "--" ++ op₁.metadata.name = op₂.metadata.ns ++ "--" ++ op₂.metadata.name ↔
      op₁.metadata.key = op₂.metadata.key ∨
        (∃ x, op₂.metadata.ns = op₁.metadata.ns ++ "--" ++ x ∧
          op₁.metadata.name = x ++ "--" ++ op₂.metadata.name) ∨
        ∃ x, op₁.metadata.ns = op₂.metadata.ns ++ "--" ++ x ∧
          op₂.metadata.name = x ++ "--" ++ op₁.metadata.name := by
  constructor
  · intro heq
    have hlist := congrArg String.toList heq
    rw [toList_joined, toList_joined] at hlist
    rcases append_hyphens_inj (getLast?_ne_hyphen_of_isDNS1123Label h₁.ns)
      (getLast?_ne_hyphen_of_isDNS1123Label h₂.ns) hlist with
        ⟨hns, hname⟩ | ⟨xs, hns, hname⟩ | ⟨xs, hns, hname⟩
    · left
      rw [ObjectMeta.key, ObjectMeta.key, String.toList_inj.mp hns, String.toList_inj.mp hname]
    · refine .inr (.inl ⟨String.ofList xs, ?_, ?_⟩)
      · rw [← String.toList_inj, hns, toList_joined, String.toList_ofList]
      · rw [← String.toList_inj, hname, toList_joined, String.toList_ofList]
    · refine .inr (.inr ⟨String.ofList xs, ?_, ?_⟩)
      · rw [← String.toList_inj, hns, toList_joined, String.toList_ofList]
      · rw [← String.toList_inj, hname, toList_joined, String.toList_ofList]
  · rintro (hkey | ⟨x, hns, hname⟩ | ⟨x, hns, hname⟩)
    · rw [ObjectMeta.key, ObjectMeta.key, ObjectKey.mk.injEq] at hkey
      rw [hkey.1, hkey.2]
    · rw [hns, hname]
      simp only [String.append_assoc]
    · rw [hns, hname]
      simp only [String.append_assoc]

theorem joined_ne_uid {op : Operation} (h : op.metadata.Admitted) (s t : String) :
    s ++ "--" ++ t ≠ op.metadata.uid := by
  intro heq
  refine ne_append_hyphens_of_isUUID h.uid s.toList t.toList ?_
  rw [← heq, toList_joined]

theorem materializedName_eq_iff {op₁ op₂ : Operation} (h₁ : op₁.metadata.Admitted)
    (h₂ : op₂.metadata.Admitted) (huid : op₁.metadata.uid ≠ op₂.metadata.uid) :
    materializedName op₁ = materializedName op₂ ↔
      (op₁.metadata.ns ++ "--" ++ op₁.metadata.name).utf8ByteSize ≤ maxK8sNameLen ∧
        op₁.metadata.ns ++ "--" ++ op₁.metadata.name =
          op₂.metadata.ns ++ "--" ++ op₂.metadata.name := by
  unfold materializedName
  dsimp only
  constructor
  · intro heq
    split at heq
    · next hfits₁ =>
      split at heq
      · exact ⟨hfits₁, heq⟩
      · exact absurd heq (joined_ne_uid h₂ _ _)
    · split at heq
      · exact absurd heq.symm (joined_ne_uid h₁ _ _)
      · exact absurd heq huid
  · rintro ⟨hfits, heq⟩
    rw [if_pos hfits, if_pos (heq ▸ hfits), heq]

theorem materializedName_distinct_iff {op₁ op₂ : Operation} (h₁ : op₁.metadata.Admitted)
    (h₂ : op₂.metadata.Admitted) (huid : op₁.metadata.uid ≠ op₂.metadata.uid)
    (hkey : op₁.metadata.key ≠ op₂.metadata.key) :
    (materializedName op₁ ≠ materializedName op₂ ∧ (materializedName op₁).length ≤ 63 ∧
      (materializedName op₂).length ≤ 63) ↔ ¬ (NameShared op₁ op₂ ∨ NameShared op₂ op₁) := by
  have hshared : materializedName op₁ = materializedName op₂ ↔
      NameShared op₁ op₂ ∨ NameShared op₂ op₁ := by
    rw [materializedName_eq_iff h₁ h₂ huid]
    constructor
    · rintro ⟨hfits, heq⟩
      rcases (joined_eq_iff h₁ h₂).mp heq with h | h | h
      · exact absurd h hkey
      · exact .inl ⟨hfits, h⟩
      · exact .inr ⟨heq ▸ hfits, h⟩
    · rintro (⟨hfits, h⟩ | ⟨hfits, h⟩)
      · exact ⟨hfits, (joined_eq_iff h₁ h₂).mpr (.inr (.inl h))⟩
      · have heq := (joined_eq_iff h₁ h₂).mpr (.inr (.inr h))
        exact ⟨heq ▸ hfits, heq⟩
  rw [← hshared, and_iff_left ⟨length_materializedName_le h₁, length_materializedName_le h₂⟩]

def namedOperation (ns name uid : String) : Operation where
  metadata := { ns := ns, name := name, uid := uid }
  spec := { targetRef := ⟨"vworkspace.io/v1alpha1", "ApplicationInstance", "shop"⟩
            type := .runCommand, engine := .job }

theorem plain_names_distinct_iff :
    let op₁ := namedOperation "team" "run-1" "3d0fbc11-7a42-4ca8-9b0e-6a5c1f9a2b01"
    let op₂ := namedOperation "team-b" "run-1" "9c4a1e52-03bd-4f6f-8e77-0c2d4b8a7f02"
    (materializedName op₁ ≠ materializedName op₂ ∧ (materializedName op₁).length ≤ 63 ∧
      (materializedName op₂).length ≤ 63) ↔ ¬ (NameShared op₁ op₂ ∨ NameShared op₂ op₁) :=
  materializedName_distinct_iff ⟨by decide, by decide, by decide⟩ ⟨by decide, by decide, by decide⟩
    (by decide) (by decide)

theorem hyphenated_names_shared :
    let op₁ := namedOperation "team" "a--run" "3d0fbc11-7a42-4ca8-9b0e-6a5c1f9a2b01"
    let op₂ := namedOperation "team--a" "run" "9c4a1e52-03bd-4f6f-8e77-0c2d4b8a7f02"
    op₁.metadata.Admitted ∧ op₂.metadata.Admitted ∧ op₁.metadata.uid ≠ op₂.metadata.uid ∧
      op₁.metadata.key ≠ op₂.metadata.key ∧ materializedName op₁ = materializedName op₂ :=
  ⟨⟨by decide, by decide, by decide⟩, ⟨by decide, by decide, by decide⟩, by decide, by decide,
    by decide⟩

end VWorkspace
