import VWorkspaceOperator.Instance.Signals

/-!
# The order of downstream conditions

The conditions of a `HelmRelease` or a `Seaweed` are a list, but a list whose order means
nothing: it is a map by type.  What the engines make of it is not always independent of the
order.  While `Ready` is not decided, a release that is `Reconciling` and not `Released`, and a
`Seaweed` that is `Progressing` and `Degraded`, has two conditions that give a reason, and the
one that stands first is reported.
-/

namespace VWorkspace

open Kit

def ReadyUndecided (conditions : List Json) : Prop :=
  ∀ j ∈ conditions, ¬conditionShows "Ready" "True" j ∧ ¬conditionShows "Ready" "False" j

instance (conditions : List Json) : Decidable (ReadyUndecided conditions) := by
  unfold ReadyUndecided; infer_instance

/-- The release is being reconciled, for a reason, and it is not released, and the two say
different things. -/
def HelmContested (conditions : List Json) : Prop :=
  ReadyUndecided conditions ∧ ∃ a ∈ conditions, ∃ b ∈ conditions,
    conditionShows "Reconciling" "True" a ∧ conditionShows "Released" "False" b ∧
      conditionText "reason" a ≠ "" ∧
      (conditionText "reason" a, conditionText "message" a) ≠
        ("HelmReleaseDegraded", conditionText "message" b)

instance (conditions : List Json) : Decidable (HelmContested conditions) := by
  unfold HelmContested; infer_instance

/-- The `Seaweed` is progressing and degraded, both with a reason or both without, and the two
say different things. -/
def SeaweedContested (conditions : List Json) : Prop :=
  ReadyUndecided conditions ∧ ∃ a ∈ conditions, ∃ b ∈ conditions,
    conditionShows "Progressing" "True" a ∧ conditionShows "Degraded" "True" b ∧
      Rivals (conditionText "reason" a) (conditionText "message" a)
        (conditionText "reason" b) (conditionText "message" b)

instance (conditions : List Json) : Decidable (SeaweedContested conditions) := by
  unfold SeaweedContested; infer_instance

section helm

variable {j : Json} {reason message : String}

theorem slot_helmSignal_ne_iff : (helmSignal j).slot ≠ some .ready ↔
    ¬conditionShows "Ready" "True" j ∧ ¬conditionShows "Ready" "False" j := by
  unfold helmSignal
  split_ifs <;> simp_all [Signal.slot]

theorem helmSignal_eq_reconciling_iff : helmSignal j = .reconciling reason message ↔
    conditionShows "Reconciling" "True" j ∧ conditionText "reason" j = reason ∧
      conditionText "message" j = message := by
  constructor
  · intro h
    unfold helmSignal at h
    split_ifs at h with _ _ _ hshows
    obtain ⟨hreason, hmessage⟩ := Signal.reconciling.inj h
    exact ⟨hshows, hreason, hmessage⟩
  · rintro ⟨hshows, rfl, rfl⟩
    rw [helmSignal, if_neg (not_shows_of_ne hshows (by decide)),
      if_neg (not_shows_of_ne hshows (by decide)), if_neg (not_shows_of_ne hshows (by decide)),
      if_pos hshows]

theorem helmSignal_eq_degraded_iff : helmSignal j = .degraded reason message ↔
    conditionShows "Released" "False" j ∧ "HelmReleaseDegraded" = reason ∧
      conditionText "message" j = message := by
  constructor
  · intro h
    unfold helmSignal at h
    split_ifs at h with _ _ hshows
    obtain ⟨hreason, hmessage⟩ := Signal.degraded.inj h
    exact ⟨hshows, hreason, hmessage⟩
  · rintro ⟨hshows, rfl, rfl⟩
    rw [helmSignal, if_neg (not_shows_of_ne hshows (by decide)),
      if_neg (not_shows_of_ne hshows (by decide)), if_pos hshows]

theorem contested_helmSignal_iff {conditions : List Json} :
    Contested helmSignal conditions ↔ HelmContested conditions := by
  have hready : (∀ j ∈ conditions, (helmSignal j).slot ≠ some .ready) ↔
      ReadyUndecided conditions :=
    forall₂_congr fun j _ => slot_helmSignal_ne_iff
  unfold Contested HelmContested
  rw [hready]
  refine and_congr_right fun _ => ?_
  constructor
  · rintro ⟨a, ha, b, hb, r, m, r', m', hsa, hsb, hempty, hne⟩
    obtain ⟨hshows, rfl, rfl⟩ := helmSignal_eq_reconciling_iff.mp hsa
    obtain ⟨hshows', rfl, rfl⟩ := helmSignal_eq_degraded_iff.mp hsb
    exact ⟨a, ha, b, hb, hshows, hshows', fun h => absurd (hempty.mp h) (by decide), hne⟩
  · rintro ⟨a, ha, b, hb, hshows, hshows', hreason, hne⟩
    exact ⟨a, ha, b, hb, _, _, _, _, helmSignal_eq_reconciling_iff.mpr ⟨hshows, rfl, rfl⟩,
      helmSignal_eq_degraded_iff.mpr ⟨hshows', rfl, rfl⟩, by simp [hreason], hne⟩

end helm

section seaweed

variable {j : Json} {reason message : String}

theorem slot_seaweedSignal_ne_iff : (seaweedSignal j).slot ≠ some .ready ↔
    ¬conditionShows "Ready" "True" j ∧ ¬conditionShows "Ready" "False" j := by
  unfold seaweedSignal
  split_ifs <;> simp_all [Signal.slot]

theorem seaweedSignal_eq_reconciling_iff : seaweedSignal j = .reconciling reason message ↔
    conditionShows "Progressing" "True" j ∧ conditionText "reason" j = reason ∧
      conditionText "message" j = message := by
  constructor
  · intro h
    unfold seaweedSignal at h
    split_ifs at h with _ _ hshows
    obtain ⟨hreason, hmessage⟩ := Signal.reconciling.inj h
    exact ⟨hshows, hreason, hmessage⟩
  · rintro ⟨hshows, rfl, rfl⟩
    rw [seaweedSignal, if_neg (not_shows_of_ne hshows (by decide)),
      if_neg (not_shows_of_ne hshows (by decide)), if_pos hshows]

theorem seaweedSignal_eq_degraded_iff : seaweedSignal j = .degraded reason message ↔
    conditionShows "Degraded" "True" j ∧ conditionText "reason" j = reason ∧
      conditionText "message" j = message := by
  constructor
  · intro h
    unfold seaweedSignal at h
    split_ifs at h with _ _ _ hshows
    obtain ⟨hreason, hmessage⟩ := Signal.degraded.inj h
    exact ⟨hshows, hreason, hmessage⟩
  · rintro ⟨hshows, rfl, rfl⟩
    rw [seaweedSignal, if_neg (not_shows_of_ne hshows (by decide)),
      if_neg (not_shows_of_ne hshows (by decide)), if_neg (not_shows_of_ne hshows (by decide)),
      if_pos hshows]

theorem contested_seaweedSignal_iff {conditions : List Json} :
    Contested seaweedSignal conditions ↔ SeaweedContested conditions := by
  have hready : (∀ j ∈ conditions, (seaweedSignal j).slot ≠ some .ready) ↔
      ReadyUndecided conditions :=
    forall₂_congr fun j _ => slot_seaweedSignal_ne_iff
  unfold Contested SeaweedContested
  rw [hready]
  refine and_congr_right fun _ => ?_
  constructor
  · rintro ⟨a, ha, b, hb, r, m, r', m', hsa, hsb, hrivals⟩
    obtain ⟨hshows, rfl, rfl⟩ := seaweedSignal_eq_reconciling_iff.mp hsa
    obtain ⟨hshows', rfl, rfl⟩ := seaweedSignal_eq_degraded_iff.mp hsb
    exact ⟨a, ha, b, hb, hshows, hshows', hrivals⟩
  · rintro ⟨a, ha, b, hb, hshows, hshows', hrivals⟩
    exact ⟨a, ha, b, hb, _, _, _, _, seaweedSignal_eq_reconciling_iff.mpr ⟨hshows, rfl, rfl⟩,
      seaweedSignal_eq_degraded_iff.mpr ⟨hshows', rfl, rfl⟩, hrivals⟩

end seaweed

theorem order_ignored_iff {conditions : List Json} (h : UniqueTypes conditions) :
    ((∀ conditions' : List Json, conditions'.Perm conditions →
        mapHelmReleaseConditions conditions' = mapHelmReleaseConditions conditions) ↔
      ¬HelmContested conditions) ∧
    ((∀ conditions' : List Json, conditions'.Perm conditions →
        mapSeaweedConditions conditions' = mapSeaweedConditions conditions) ↔
      ¬SeaweedContested conditions) := by
  constructor
  · simp only [mapHelmReleaseConditions_eq, ← contested_helmSignal_iff]
    exact summary_perm_iff (unrepeated_helmSignal h) fun j _ _ _ => ne_empty_of_helmSignal
  · simp only [mapSeaweedConditions_eq, ← contested_seaweedSignal_iff]
    exact summary_perm_iff (unrepeated_seaweedSignal h) fun j _ _ _ => ne_empty_of_seaweedSignal

def downstreamCondition (type status reason message : String) : Json :=
  .obj [("type", .str type), ("status", .str status), ("reason", .str reason),
    ("message", .str message)]

def installedConditions : List Json :=
  [downstreamCondition "Reconciling" "False" "" "",
    downstreamCondition "Ready" "True" "" "installed"]

theorem installed_order_ignored : mapHelmReleaseConditions installedConditions.reverse =
    mapHelmReleaseConditions installedConditions :=
  (order_ignored_iff (by decide)).1.mpr (by decide) _ (List.reverse_perm _)

/-- A release that is being upgraded after a failed upgrade. -/
def upgradeConditions : List Json :=
  [downstreamCondition "Released" "False" "UpgradeFailed" "upgrade retries exhausted",
    downstreamCondition "Reconciling" "True" "Progressing" "running upgrade action"]

theorem upgrade_order_decides : UniqueTypes upgradeConditions ∧
    (mapHelmReleaseConditions upgradeConditions).reason = "HelmReleaseDegraded" ∧
    (mapHelmReleaseConditions upgradeConditions.reverse).reason = "Progressing" := by
  decide

end VWorkspace
