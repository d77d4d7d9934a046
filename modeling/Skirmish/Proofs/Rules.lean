import Skirmish.Proofs.Scalar.Reals
import Skirmish.Rules

namespace Skirmish.Rules

open Scalar

variable {R : Type} [Scalar R]

-- All that rules are checked for.
structure Valid (rules : Rules R) : Prop where
  positive : ∀ rule ∈ rules.positives, isPositive rule.2 = true
  sensorRange : ((0 : Int) : R) ≤ rules.sensorRange
  cannonRange : ((0 : Int) : R) ≤ rules.cannonRange
  friction : ((0 : Int) : R) ≤ rules.friction ∧ rules.friction < ((1 : Int) : R)
  pillarRadii : ¬ rules.pillarMaxRadius < rules.pillarMinRadius
  budget : rules.instructionBudget ≠ 0
  stackLimit : rules.stackLimit ≠ 0

theorem find_positives_eq_none_iff {rules : Rules R} :
    (rules.positives.find? fun rule => !isPositive rule.2) = none ↔
      ∀ rule ∈ rules.positives, isPositive rule.2 = true := by
  simp only [List.find?_eq_none, Bool.not_eq_true', Bool.not_eq_false]

theorem check_eq_ok_iff {rules : Rules R} : rules.check = .ok () ↔ rules.Valid := by
  unfold check
  constructor
  · intro h
    split at h
    · contradiction
    · rename_i hfind
      dsimp only at h
      split_ifs at h with hranges hfriction hradii hlimits
      obtain ⟨hbudget, hstack⟩ := not_or.mp hlimits
      exact ⟨find_positives_eq_none_iff.mp hfind, hranges.1, hranges.2, hfriction, hradii, hbudget,
        hstack⟩
  · intro h
    rw [find_positives_eq_none_iff.mpr h.positive]
    dsimp only
    rw [if_neg (not_not_intro ⟨h.sensorRange, h.cannonRange⟩), if_neg (not_not_intro h.friction),
      if_neg h.pillarRadii, if_neg (not_or.mpr ⟨h.budget, h.stackLimit⟩)]

theorem pos_of_isPositive {x : R} (h : isPositive x = true) : ((0 : Int) : R) < x :=
  of_decide_eq_true (Bool.and_eq_true_iff.mp h).2

theorem Valid.tankRadius_pos {rules : Rules R} (h : rules.Valid) :
    ((0 : Int) : R) < rules.tankRadius :=
  pos_of_isPositive (h.positive ("tank_radius", rules.tankRadius) (by simp [positives]))

theorem Valid.gridSpacing_pos {rules : Rules R} (h : rules.Valid) :
    ((0 : Int) : R) < rules.gridSpacing :=
  pos_of_isPositive (h.positive ("grid_spacing", rules.gridSpacing) (by simp [positives]))

theorem Valid.maxAcceleration_pos {rules : Rules R} (h : rules.Valid) :
    ((0 : Int) : R) < rules.maxAcceleration :=
  pos_of_isPositive (h.positive ("max_accel", rules.maxAcceleration) (by simp [positives]))

theorem Valid.maxAcceleration_finite {rules : Rules R} (h : rules.Valid) :
    isFinite rules.maxAcceleration = true :=
  (Bool.and_eq_true_iff.mp
    (h.positive ("max_accel", rules.maxAcceleration) (by simp [positives]))).1

theorem isPositive_iff {x : ℝ} : isPositive x = true ↔ 0 < x := by
  simp [isPositive]

theorem valid_standard : (standard : Rules ℝ).Valid where
  positive := by simp [positives, standard, isPositive_iff, tau, Real.pi_pos]
  sensorRange := by norm_num [standard]
  cannonRange := by norm_num [standard]
  friction := by norm_num [standard]
  pillarRadii := by norm_num [standard]
  budget := by simp [standard]
  stackLimit := by simp [standard]

end Skirmish.Rules
