import Skirmish.Proofs.Combat.Standoff

namespace Skirmish.Standoff

variable (s : Standoff)

def settleAll (pairs : List (Nat × Nat)) (fates : Fates) : Fates := pairs.foldl s.settle fates

-- How a tank died in a fight: at the hand of one that lived before it, and that
-- died of touching it or shot at it.
def Slain (before after : Fates) (i : Nat) (death : Death) : Prop :=
  ∃ k, k ≠ i ∧ before k = none ∧ death.killer = s.id k ∧
    (death.cause = .collision ∧ s.touch i k = true ∧ after k = some ⟨s.id i, .collision⟩ ∨
      death.cause = .shot ∧ s.shoot k i = true)

-- What a fight has come to after some meetings. Deaths from before it stand, all
-- others have a reason, and of those who met the survivors spare each other.
structure Account (before now : Fates) (met : List (Nat × Nat)) : Prop where
  kept : ∀ i death, before i = some death → now i = some death
  slain : ∀ i death, before i = none → now i = some death → s.Slain before now i death
  spared : ∀ pair ∈ met, now pair.1 = none → now pair.2 = none →
    s.touch pair.1 pair.2 = false ∧ s.shoot pair.1 pair.2 = false ∧ s.shoot pair.2 pair.1 = false

theorem account_start (fates : Fates) : s.Account fates fates [] where
  kept _ _ h := h
  slain i death h h' := by
    rw [h] at h'
    contradiction
  spared pair h := by simp at h

variable {s} in
theorem Account.alive {before now : Fates} {met : List (Nat × Nat)}
    (h : s.Account before now met) {i : Nat} (hi : now i = none) : before i = none := by
  cases hb : before i with
  | none => rfl
  | some death =>
      rw [h.kept i death hb] at hi
      contradiction

theorem Slain.settle {before now : Fates} {i : Nat} {death : Death}
    (h : s.Slain before now i death) (pair : Nat × Nat) :
    s.Slain before (s.settle now pair) i death := by
  obtain ⟨k, hne, hk, hname, hcause⟩ := h
  refine ⟨k, hne, hk, hname, ?_⟩
  rcases hcause with ⟨hc, htouch, hdead⟩ | hshot
  · exact .inl ⟨hc, htouch, s.settle_of_dead hdead pair⟩
  · exact .inr hshot

theorem Account.settle {before now : Fates} {met : List (Nat × Nat)}
    (h : s.Account before now met) {pair : Nat × Nat} (hpair : pair.1 ≠ pair.2) :
    s.Account before (s.settle now pair) (met ++ [pair]) := by
  constructor
  · intro i death hi
    exact s.settle_of_dead (h.kept i death hi) pair
  · intro i death hi hd
    rcases s.settle_cases hpair hd with hnow | ⟨-, k, hik, hk, hname, hcause⟩
    · exact (h.slain i death hi hnow).settle s pair
    · have hne : k ≠ i := by
        rcases hik with ⟨rfl, rfl⟩ | ⟨rfl, rfl⟩
        · exact hpair.symm
        · exact hpair
      refine ⟨k, hne, h.alive hk, hname, ?_⟩
      rcases hcause with hram | ⟨hc, hshoot, _⟩
      · exact .inl hram
      · exact .inr ⟨hc, hshoot⟩
  · intro other hmem hi hj
    rcases List.mem_append.mp hmem with hmet | hlast
    · exact h.spared other hmet (s.alive_of_settle hi) (s.alive_of_settle hj)
    · obtain rfl : other = pair := by simpa using hlast
      exact s.settle_spared hi hj

theorem Account.settleAll {before now : Fates} {met : List (Nat × Nat)}
    (h : s.Account before now met) (pairs : List (Nat × Nat))
    (hpairs : ∀ pair ∈ pairs, pair.1 ≠ pair.2) :
    s.Account before (s.settleAll pairs now) (met ++ pairs) := by
  induction pairs generalizing now met with
  | nil => simpa [Standoff.settleAll] using h
  | cons pair pairs ih =>
      have hnext := ih (h.settle s (hpairs pair (by simp)))
        fun other hmem => hpairs other (List.mem_cons_of_mem _ hmem)
      simpa [Standoff.settleAll] using hnext

theorem account_settleAll (fates : Fates) (pairs : List (Nat × Nat))
    (hpairs : ∀ pair ∈ pairs, pair.1 ≠ pair.2) :
    s.Account fates (s.settleAll pairs fates) pairs := by
  simpa using (s.account_start fates).settleAll s pairs hpairs

end Skirmish.Standoff
