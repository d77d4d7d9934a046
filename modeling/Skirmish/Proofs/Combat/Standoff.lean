import Mathlib.Logic.Function.Basic
import Mathlib.Tactic.SplitIfs
import Skirmish.Match.Combat

namespace Skirmish

-- How tanks died, by their places.
abbrev Fates := Nat → Option Death

-- All that decides who kills whom when tanks meet, by their places: their ids,
-- which of them touch, and which of them fire with which others in their sights.
structure Standoff where
  id : Nat → Nat
  touch : Nat → Nat → Bool
  shoot : Nat → Nat → Bool
  touch_comm : ∀ i j, touch i j = touch j i

namespace Standoff

variable (s : Standoff)

-- Two tanks meet. Only tanks that both live can kill, and touching comes first.
def settle (fates : Fates) (pair : Nat × Nat) : Fates :=
  if (fates pair.1).isSome || (fates pair.2).isSome then fates
  else if s.touch pair.1 pair.2 then
    Function.update (Function.update fates pair.1 (some ⟨s.id pair.2, .collision⟩))
      pair.2 (some ⟨s.id pair.1, .collision⟩)
  else if s.shoot pair.1 pair.2 then
    Function.update fates pair.2 (some ⟨s.id pair.1, .shot⟩)
  else if s.shoot pair.2 pair.1 then
    Function.update fates pair.1 (some ⟨s.id pair.2, .shot⟩)
  else fates

-- What can come of two tanks meeting.
inductive Outcome (fates : Fates) (i j : Nat) : Fates → Prop where
  | idle (hdead : fates i ≠ none ∨ fates j ≠ none) : Outcome fates i j fates
  | spared (htouch : s.touch i j = false) (hshoot : s.shoot i j = false)
      (hshot : s.shoot j i = false) : Outcome fates i j fates
  | rammed (hi : fates i = none) (hj : fates j = none) (htouch : s.touch i j = true) :
      Outcome fates i j (Function.update (Function.update fates i (some ⟨s.id j, .collision⟩))
        j (some ⟨s.id i, .collision⟩))
  | shot (k l : Nat) (hkl : l = j ∧ k = i ∨ l = i ∧ k = j) (hk : fates k = none)
      (hl : fates l = none) (hshoot : s.shoot k l = true) :
      Outcome fates i j (Function.update fates l (some ⟨s.id k, .shot⟩))

theorem outcome_settle (fates : Fates) (pair : Nat × Nat) :
    s.Outcome fates pair.1 pair.2 (s.settle fates pair) := by
  unfold settle
  split_ifs with hdead htouch hshoot hshot
  · exact .idle (by simpa [Option.isSome_iff_ne_none] using hdead)
  all_goals obtain ⟨hi, hj⟩ : fates pair.1 = none ∧ fates pair.2 = none := by simpa using hdead
  · exact .rammed hi hj htouch
  · exact .shot pair.1 pair.2 (.inl ⟨rfl, rfl⟩) hi hj hshoot
  · exact .shot pair.2 pair.1 (.inr ⟨rfl, rfl⟩) hj hi hshot
  · exact .spared (Bool.eq_false_iff.mpr htouch) (Bool.eq_false_iff.mpr hshoot)
      (Bool.eq_false_iff.mpr hshot)

theorem settle_of_dead {fates : Fates} {i : Nat} {death : Death} (hi : fates i = some death)
    (pair : Nat × Nat) : s.settle fates pair i = some death := by
  have hne : ∀ j, fates j = none → i ≠ j := by
    rintro j hj rfl
    rw [hi] at hj
    contradiction
  have hout := s.outcome_settle fates pair
  generalize s.settle fates pair = after at hout ⊢
  cases hout with
  | idle _ => exact hi
  | spared _ _ _ => exact hi
  | rammed ha hb _ => rw [Function.update_of_ne (hne _ hb), Function.update_of_ne (hne _ ha), hi]
  | shot k l _ _ hl _ => rw [Function.update_of_ne (hne _ hl), hi]

theorem alive_of_settle {fates : Fates} {pair : Nat × Nat} {i : Nat}
    (hi : s.settle fates pair i = none) : fates i = none := by
  cases h : fates i with
  | none => rfl
  | some death =>
      rw [s.settle_of_dead h pair] at hi
      contradiction

-- Whoever dies when two tanks meet is killed by the other, which was alive. The
-- other dies too if they touch and goes on living if it shot.
theorem settle_newly {fates : Fates} {pair : Nat × Nat} (hpair : pair.1 ≠ pair.2) {i : Nat}
    {death : Death} (hi : fates i = none) (hd : s.settle fates pair i = some death) :
    ∃ k, (i = pair.1 ∧ k = pair.2 ∨ i = pair.2 ∧ k = pair.1) ∧ fates k = none ∧
      death.killer = s.id k ∧
      (death.cause = .collision ∧ s.touch i k = true ∧
          s.settle fates pair k = some ⟨s.id i, .collision⟩ ∨
        death.cause = .shot ∧ s.shoot k i = true ∧ s.settle fates pair k = none) := by
  have hout := s.outcome_settle fates pair
  generalize s.settle fates pair = after at hout hd ⊢
  cases hout with
  | idle _ =>
      rw [hi] at hd
      contradiction
  | spared _ _ _ =>
      rw [hi] at hd
      contradiction
  | rammed ha hb htouch =>
      by_cases hib : i = pair.2
      · subst hib
        rw [Function.update_self] at hd
        cases hd
        refine ⟨pair.1, .inr ⟨rfl, rfl⟩, ha, rfl, .inl ⟨rfl, ?_, ?_⟩⟩
        · rw [s.touch_comm]
          exact htouch
        · rw [Function.update_of_ne hpair, Function.update_self]
      · rw [Function.update_of_ne hib] at hd
        by_cases hia : i = pair.1
        · subst hia
          rw [Function.update_self] at hd
          cases hd
          exact ⟨pair.2, .inl ⟨rfl, rfl⟩, hb, rfl, .inl ⟨rfl, htouch, Function.update_self ..⟩⟩
        · rw [Function.update_of_ne hia, hi] at hd
          contradiction
  | shot k l hkl hk hl hshoot =>
      have hil : i = l := by
        by_contra hil
        rw [Function.update_of_ne hil, hi] at hd
        contradiction
      subst hil
      rw [Function.update_self] at hd
      cases hd
      have hki : k ≠ i := by
        rcases hkl with ⟨rfl, rfl⟩ | ⟨rfl, rfl⟩
        · exact hpair
        · exact hpair.symm
      refine ⟨k, ?_, hk, rfl, .inr ⟨rfl, hshoot, ?_⟩⟩
      · rcases hkl with h | h
        · exact .inr h
        · exact .inl h
      · rw [Function.update_of_ne hki, hk]

-- A tank that is dead after two have met was dead before, or has been killed by the other just now.
theorem settle_cases {fates : Fates} {pair : Nat × Nat} (hpair : pair.1 ≠ pair.2) {i : Nat}
    {death : Death} (hd : s.settle fates pair i = some death) :
    fates i = some death ∨ fates i = none ∧
      ∃ k, (i = pair.1 ∧ k = pair.2 ∨ i = pair.2 ∧ k = pair.1) ∧ fates k = none ∧
        death.killer = s.id k ∧
        (death.cause = .collision ∧ s.touch i k = true ∧
            s.settle fates pair k = some ⟨s.id i, .collision⟩ ∨
          death.cause = .shot ∧ s.shoot k i = true ∧ s.settle fates pair k = none) := by
  cases hi : fates i with
  | none => exact .inr ⟨rfl, s.settle_newly hpair hi hd⟩
  | some old =>
      rw [s.settle_of_dead hi pair] at hd
      exact .inl hd

-- Two tanks that both live after they have met neither touch nor shoot each other.
theorem settle_spared {fates : Fates} {pair : Nat × Nat} (hi : s.settle fates pair pair.1 = none)
    (hj : s.settle fates pair pair.2 = none) :
    s.touch pair.1 pair.2 = false ∧ s.shoot pair.1 pair.2 = false ∧
      s.shoot pair.2 pair.1 = false := by
  have hout := s.outcome_settle fates pair
  have hi' := s.alive_of_settle hi
  have hj' := s.alive_of_settle hj
  generalize s.settle fates pair = after at hout hi hj
  cases hout with
  | idle hdead =>
      rcases hdead with h | h
      · exact absurd hi' h
      · exact absurd hj' h
  | spared htouch hshoot hshot => exact ⟨htouch, hshoot, hshot⟩
  | rammed _ _ _ =>
      rw [Function.update_self] at hj
      contradiction
  | shot k l hkl _ _ _ =>
      rcases hkl with ⟨rfl, rfl⟩ | ⟨rfl, rfl⟩
      · rw [Function.update_self] at hj
        contradiction
      · rw [Function.update_self] at hi
        contradiction

end Standoff

end Skirmish
