import Mathlib.Data.Nat.Init
import Skirmish.Proofs.Combat.Account

namespace Skirmish

-- The order in which so many tanks have killed each other: each death has its
-- moment, which two that ram each other share, and a tank that has shot another
-- outlives it.
structure Feud (count : Nat) (fates : Fates) (moment : Nat → Nat) (now : Nat) : Prop where
  past : ∀ i death, fates i = some death → moment i < now
  killer : ∀ i death, fates i = some death → death.killer < count ∧ death.killer ≠ i
  paired : ∀ i death, fates i = some death → death.cause = .collision →
    fates death.killer = some ⟨i, .collision⟩ ∧ moment death.killer = moment i
  later : ∀ i death death', fates i = some death → death.cause = .shot →
    fates death.killer = some death' → moment i < moment death.killer

namespace Feud

theorem start (count : Nat) {fates : Fates} (hlive : ∀ i, fates i = none) :
    Feud count fates (fun _ => 0) 0 := by
  have hnone : ∀ i death, fates i ≠ some death := by
    intro i death hi
    rw [hlive i] at hi
    contradiction
  constructor
  · intro i death hi
    exact absurd hi (hnone i death)
  · intro i death hi
    exact absurd hi (hnone i death)
  · intro i death hi
    exact absurd hi (hnone i death)
  · intro i death _ hi
    exact absurd hi (hnone i death)

variable {count : Nat} {fates : Fates} {moment : Nat → Nat} {now : Nat}

theorem settle (h : Feud count fates moment now) (s : Standoff) (hid : ∀ i, s.id i = i)
    {pair : Nat × Nat} (hpair : pair.1 < pair.2 ∧ pair.2 < count) :
    Feud count (s.settle fates pair) (fun i => if fates i = none then now else moment i)
      (now + 1) := by
  have hne : pair.1 ≠ pair.2 := Nat.ne_of_lt hpair.1
  have hkept : ∀ {i death}, fates i = some death →
      (if fates i = none then now else moment i) = moment i := by
    intro i death hi
    rw [if_neg (by simp [hi])]
  constructor
  · intro i death hd
    rcases s.settle_cases hne hd with hold | ⟨hnew, -⟩
    · have hpast := h.past i death hold
      rw [hkept hold]
      omega
    · rw [if_pos hnew]
      omega
  · intro i death hd
    rcases s.settle_cases hne hd with hold | ⟨-, k, hik, -, hname, -⟩
    · exact h.killer i death hold
    · rw [hname, hid]
      omega
  · intro i death hd hcause
    rcases s.settle_cases hne hd with hold | ⟨hnew, k, -, hk, hname, hreason⟩
    · obtain ⟨hpartner, hmoment⟩ := h.paired i death hold hcause
      rw [hkept hpartner, hkept hold]
      exact ⟨s.settle_of_dead hpartner pair, hmoment⟩
    · rw [hid] at hname
      rcases hreason with ⟨-, -, hpartner⟩ | ⟨hshot, -⟩
      · rw [hid] at hpartner
        rw [hname, if_pos hk, if_pos hnew]
        exact ⟨hpartner, rfl⟩
      · rw [hcause] at hshot
        contradiction
  · intro i death death' hd hcause hd'
    rcases s.settle_cases hne hd with hold | ⟨-, k, -, -, hname, hreason⟩
    · rw [hkept hold]
      rcases s.settle_cases hne hd' with hold' | ⟨hnew', -⟩
      · rw [hkept hold']
        exact h.later i death death' hold hcause hold'
      · rw [if_pos hnew']
        exact h.past i death hold
    · -- the shooter lives on after its shot
      rw [hid] at hname
      rcases hreason with ⟨hram, -⟩ | ⟨-, -, hlives⟩
      · rw [hcause] at hram
        contradiction
      · rw [hname, hlives] at hd'
        contradiction

theorem settleAll (h : Feud count fates moment now) (s : Standoff) (hid : ∀ i, s.id i = i)
    (pairs : List (Nat × Nat)) (hpairs : ∀ pair ∈ pairs, pair.1 < pair.2 ∧ pair.2 < count) :
    ∃ moment' now', Feud count (s.settleAll pairs fates) moment' now' := by
  induction pairs generalizing fates moment now with
  | nil => exact ⟨moment, now, h⟩
  | cons pair pairs ih =>
      have hnext := h.settle s hid (hpairs pair (by simp))
      exact ih hnext fun other hother => hpairs other (List.mem_cons_of_mem _ hother)

theorem moment_le (h : Feud count fates moment now) {i : Nat} {death death' : Death}
    (hi : fates i = some death) (hk : fates death.killer = some death') :
    moment i ≤ moment death.killer := by
  cases hcause : death.cause with
  | collision =>
      have hmoment := (h.paired i death hi hcause).2
      omega
  | shot =>
      have hmoment := h.later i death death' hi hcause hk
      omega

-- A way along killers that comes back to a tank goes back and forth between that
-- tank and one that it has rammed.
theorem mutual_of_loop (h : Feud count fates moment now) {x : Nat → Nat} {s t : Nat} (hst : s < t)
    (hwalk : ∀ r, s ≤ r → r < t → ∃ death, fates (x r) = some death ∧ death.killer = x (r + 1))
    (hloop : x t = x s) :
    fates (x s) = some ⟨x (s + 1), .collision⟩ ∧ fates (x (s + 1)) = some ⟨x s, .collision⟩ := by
  have hdead : ∀ r, s ≤ r → r ≤ t → ∃ death, fates (x r) = some death := by
    intro r hsr hrt
    by_cases hr : r = t
    · obtain ⟨death, hdeath, _⟩ := hwalk s (Nat.le_refl s) hst
      rw [hr, hloop]
      exact ⟨death, hdeath⟩
    · obtain ⟨death, hdeath, _⟩ := hwalk r hsr (by omega)
      exact ⟨death, hdeath⟩
  have hmono : ∀ r, s + 1 ≤ r → r ≤ t → moment (x (s + 1)) ≤ moment (x r) := by
    intro r hsr
    induction r, hsr using Nat.le_induction with
    | base => exact fun _ => Nat.le_refl _
    | succ r hsr ih =>
        intro hrt
        obtain ⟨death, hdeath, hnext⟩ := hwalk r (by omega) (by omega)
        obtain ⟨death', hdeath'⟩ := hdead (r + 1) (by omega) hrt
        rw [← hnext] at hdeath' ⊢
        exact Nat.le_trans (ih (by omega)) (h.moment_le hdeath hdeath')
  obtain ⟨death, hdeath, hnext⟩ := hwalk s (Nat.le_refl s) hst
  obtain ⟨death', hdeath'⟩ := hdead (s + 1) (by omega) hst
  have hback := hmono t hst (Nat.le_refl t)
  rw [hloop, ← hnext] at hback
  rw [← hnext] at hdeath' ⊢
  cases hcause : death.cause with
  | collision =>
      refine ⟨?_, (h.paired (x s) death hdeath hcause).1⟩
      rw [hdeath, ← hcause]
  | shot =>
      have hlater := h.later (x s) death death' hdeath hcause hdeath'
      omega

theorem alternates_of_loop (h : Feud count fates moment now) {x : Nat → Nat} {s t : Nat}
    (hst : s < t)
    (hwalk : ∀ r, s ≤ r → r < t → ∃ death, fates (x r) = some death ∧ death.killer = x (r + 1))
    (hloop : x t = x s) (r : Nat) (hsr : s ≤ r) (hrt : r ≤ t) : x r = x s ∨ x r = x (s + 1) := by
  obtain ⟨hhere, hthere⟩ := h.mutual_of_loop hst hwalk hloop
  induction r, hsr using Nat.le_induction with
  | base => exact .inl rfl
  | succ r hsr ih =>
      obtain ⟨death, hdeath, hnext⟩ := hwalk r hsr (by omega)
      rcases ih (by omega) with hr | hr
      · rw [hr, hhere] at hdeath
        cases hdeath
        exact .inr hnext.symm
      · rw [hr, hthere] at hdeath
        cases hdeath
        exact .inl hnext.symm

end Feud

end Skirmish
