import Skirmish.Proofs.Combat.Resolution
import Skirmish.Proofs.Match.Phases
import Skirmish.Proofs.Match.Start

namespace Skirmish

namespace Combat

variable {R : Type}

-- The tank on a place lives before something and dies of it as given.
def Falls (before after : List (Tank R)) (i : Nat) (death : Death) : Prop :=
  ∃ tank, before[i]? = some tank ∧ tank.isCrater = false ∧ after[i]? = some (tank.kill death)

-- What a fight does to a live tank.
def Fought (before after : Tank R) : Prop := after = before ∨ ∃ death, after = before.kill death

theorem idAt_of_numbered {tanks : List (Tank R)} (hids : Numbered tanks) (i : Nat) :
    idAt tanks i = i := by
  unfold idAt
  cases hi : tanks[i]? with
  | none => rfl
  | some tank => exact hids i tank hi

variable [Scalar R]

theorem forall₂_resolve (arena : Arena R) (rules : Rules R) (tanks : List (Tank R)) :
    List.Forall₂ (Match.OnlyLive Fought) tanks (resolve arena rules tanks) := by
  have haccount := account_fatesAfter arena rules tanks
  refine forall₂_of_getElem? (by rw [resolve_eq, length_withFates]) fun i tank hi => ?_
  have hfate : fates tanks i = tank.death := by rw [fates, hi]; rfl
  refine ⟨_, by rw [getElem?_resolve, hi, Option.map_some], fun hcrater => ?_, fun _ => ?_⟩
  · obtain ⟨death, hdeath⟩ := Option.isSome_iff_exists.mp hcrater
    rw [haccount.kept i death (hfate.trans hdeath), withFate, ← hdeath]
  · cases hafter : fatesAfter arena rules tanks i with
    | some death => exact .inr ⟨death, rfl⟩
    | none =>
        have hnone : tank.death = none := by
          rw [← hfate]
          exact haccount.alive hafter
        left
        rw [withFate, ← hnone]

theorem falls_iff (arena : Arena R) (rules : Rules R) (tanks : List (Tank R)) (i : Nat)
    (death : Death) :
    Falls tanks (resolve arena rules tanks) i death ↔
      fates tanks i = none ∧ fatesAfter arena rules tanks i = some death := by
  constructor
  · rintro ⟨tank, hi, hlive, hafter⟩
    refine ⟨(fates_eq_none hi).mpr hlive, ?_⟩
    rw [← fates_resolve, fates, hafter]
    rfl
  · rintro ⟨hbefore, hafter⟩
    cases hi : tanks[i]? with
    | some tank =>
        refine ⟨tank, hi, (fates_eq_none hi).mp hbefore, ?_⟩
        rw [getElem?_resolve, hi, hafter]
        rfl
    | none =>
        rw [← fates_resolve, fates, getElem?_resolve, hi] at hafter
        contradiction

theorem spared_of_resolve {arena : Arena R} {rules : Rules R} {tanks : List (Tank R)} {i j : Nat}
    (hij : i ≠ j) {this that : Tank R} (hi : (resolve arena rules tanks)[i]? = some this)
    (hj : (resolve arena rules tanks)[j]? = some that) (hthis : this.isCrater = false)
    (hthat : that.isCrater = false) :
    ¬ waySq arena i j this that ≤ rules.collisionReachSq ∧
      (this.turret.firing = true →
        inSights rules this (way arena i j this that) (waySq arena i j this that) = false) := by
  have haccount := account_fatesAfter arena rules tanks
  obtain ⟨hi, hnone⟩ := alive_of_resolve hi hthis
  obtain ⟨hj, hnone'⟩ := alive_of_resolve hj hthat
  have hjlt : j < tanks.length := (List.getElem?_eq_some_iff.mp hj).1
  have hilt : i < tanks.length := (List.getElem?_eq_some_iff.mp hi).1
  have hspared : touches arena rules tanks i j = false ∧ shoots arena rules tanks i j = false := by
    rcases Nat.lt_or_gt_of_ne hij with hlt | hlt
    · have h := haccount.spared (i, j) (mem_schedule.mpr ⟨hlt, hjlt⟩) hnone hnone'
      exact ⟨h.1, h.2.1⟩
    · have h := haccount.spared (j, i) (mem_schedule.mpr ⟨hlt, hilt⟩) hnone' hnone
      exact ⟨(touches_comm arena rules tanks i j).trans h.1, h.2.2⟩
  simp only [touches, shoots, hi, hj, decide_eq_false_iff_not, Bool.and_eq_false_imp] at hspared
  exact hspared

theorem slain_of_falls {arena : Arena R} {rules : Rules R} {tanks : List (Tank R)}
    (hids : Numbered tanks) {i : Nat} {death : Death}
    (h : Falls tanks (resolve arena rules tanks) i death) :
    death.killer ≠ i ∧ fates tanks death.killer = none ∧
      (death.cause = .collision ∧ touches arena rules tanks i death.killer = true ∧
          fatesAfter arena rules tanks death.killer = some ⟨i, .collision⟩ ∨
        death.cause = .shot ∧ shoots arena rules tanks death.killer i = true) := by
  have hid : ∀ k, (standoff arena rules tanks).id k = k := idAt_of_numbered hids
  obtain ⟨hbefore, hafter⟩ := (falls_iff arena rules tanks i death).mp h
  obtain ⟨k, hne, hk, hname, hslain⟩ :=
    (account_fatesAfter arena rules tanks).slain i death hbefore hafter
  rw [hid] at hname hslain
  rw [hname]
  exact ⟨hne, hk, hslain⟩

theorem partner_of_falls {arena : Arena R} {rules : Rules R} {tanks : List (Tank R)}
    (hids : Numbered tanks) {i : Nat} {death : Death}
    (h : Falls tanks (resolve arena rules tanks) i death) (hcause : death.cause = .collision) :
    death.killer ≠ i ∧ Falls tanks (resolve arena rules tanks) death.killer ⟨i, .collision⟩ ∧
      touches arena rules tanks i death.killer = true := by
  obtain ⟨hne, hk, ⟨_, htouch, hdead⟩ | ⟨hshot, _⟩⟩ := slain_of_falls hids h
  · exact ⟨hne, (falls_iff arena rules tanks _ _).mpr ⟨hk, hdead⟩, htouch⟩
  · rw [hshot] at hcause
    contradiction

theorem shooter_of_falls {arena : Arena R} {rules : Rules R} {tanks : List (Tank R)}
    (hids : Numbered tanks) {i : Nat} {death : Death}
    (h : Falls tanks (resolve arena rules tanks) i death) (hcause : death.cause = .shot) :
    death.killer ≠ i ∧ fates tanks death.killer = none ∧
      shoots arena rules tanks death.killer i = true := by
  obtain ⟨hne, hk, ⟨hram, _⟩ | ⟨_, hshoot⟩⟩ := slain_of_falls hids h
  · rw [hram] at hcause
    contradiction
  · exact ⟨hne, hk, hshoot⟩

theorem waySq_congr (arena : Arena R) (i j : Nat) {this that this' that' : Tank R}
    (hthis : this'.position = this.position) (hthat : that'.position = that.position) :
    waySq arena i j this' that' = waySq arena i j this that := by
  unfold waySq
  rw [hthis, hthat]

variable {G : Type}

theorem alive_of_planned {m : Match R G} {i : Nat} {tank : Tank R}
    (hi : m.planned.tanks[i]? = some tank) (hlive : tank.isCrater = false) :
    ∃ before, m.tanks[i]? = some before ∧ before.isCrater = false ∧
      tank.position = before.position := by
  obtain ⟨before, hbefore, hrel⟩ := forall₂_getElem? (Match.forall₂_planned m).flip hi
  have hdeath : tank.death = before.death :=
    Match.OnlyLive.same Tank.death (fun _ _ h => h.death) hrel
  have hposition : tank.position = before.position :=
    Match.OnlyLive.same Tank.position (fun _ _ h => h.position) hrel
  refine ⟨before, hbefore, ?_, hposition⟩
  unfold Tank.isCrater at hlive ⊢
  rw [← hdeath]
  exact hlive

variable [Draws R G]

-- Planning moves no tank yet, so that no two live tanks touch at the end of a tick.
theorem apart_of_advance {m : Match R G} {i j : Nat} (hij : i ≠ j) {this that : Tank R}
    (hi : m.advance.tanks[i]? = some this) (hj : m.advance.tanks[j]? = some that)
    (hthis : this.isCrater = false) (hthat : that.isCrater = false) :
    ¬ waySq m.arena i j this that ≤ m.rules.collisionReachSq := by
  rw [Match.advance_eq] at hi hj
  rw [← Match.arena_atCombat, ← Match.rules_atCombat]
  generalize m.turn.atCombat = fight at hi hj ⊢
  obtain ⟨this', hi', hthis', hpos⟩ := alive_of_planned hi hthis
  obtain ⟨that', hj', hthat', hpos'⟩ := alive_of_planned hj hthat
  rw [waySq_congr fight.arena i j hpos hpos']
  exact (spared_of_resolve hij hi' hj' hthis' hthat').1

-- Deaths of live tanks are all that comes of a fight. They come in pairs that have
-- rammed each other or from shots that hit, and nobody else was in reach or in
-- sight of anyone.
theorem resolve_sound_and_complete (arena : Arena R) (rules : Rules R) (tanks : List (Tank R))
    (hids : Numbered tanks) :
    List.Forall₂ (Match.OnlyLive Fought) tanks (resolve arena rules tanks) ∧
    (∀ i death, Falls tanks (resolve arena rules tanks) i death → death.cause = .collision →
      ∃ k, k ≠ i ∧ death.killer = k ∧ Falls tanks (resolve arena rules tanks) k ⟨i, .collision⟩ ∧
        (∃ this that, tanks[i]? = some this ∧ tanks[k]? = some that ∧
          waySq arena i k this that ≤ rules.collisionReachSq) ∧
        ∀ k', Falls tanks (resolve arena rules tanks) k' ⟨i, .collision⟩ → k' = k) ∧
    (∀ i death, Falls tanks (resolve arena rules tanks) i death → death.cause = .shot →
      ∃ k shooter target, k ≠ i ∧ death.killer = k ∧ tanks[k]? = some shooter ∧
        tanks[i]? = some target ∧ shooter.isCrater = false ∧ shooter.turret.firing = true ∧
        inSights rules shooter (way arena k i shooter target) (waySq arena k i shooter target) =
          true) ∧
    (∀ i j this that, i ≠ j → (resolve arena rules tanks)[i]? = some this →
      (resolve arena rules tanks)[j]? = some that → this.isCrater = false →
      that.isCrater = false →
      ¬ waySq arena i j this that ≤ rules.collisionReachSq ∧
        (this.turret.firing = true →
          inSights rules this (way arena i j this that) (waySq arena i j this that) = false)) ∧
    (∀ (m : Match R G) i j this that, i ≠ j → m.advance.tanks[i]? = some this →
      m.advance.tanks[j]? = some that → this.isCrater = false → that.isCrater = false →
      ¬ waySq m.arena i j this that ≤ m.rules.collisionReachSq) := by
  refine ⟨forall₂_resolve arena rules tanks, ?_, ?_, ?_, ?_⟩
  · intro i death h hcause
    obtain ⟨hne, hpartner, htouch⟩ := partner_of_falls hids h hcause
    refine ⟨death.killer, hne, rfl, hpartner, exists_of_touches htouch, fun k hk => ?_⟩
    -- whoever names this tank is named by it
    obtain ⟨_, hback, _⟩ := partner_of_falls hids hk rfl
    have hdeath := ((falls_iff arena rules tanks i death).mp h).2
    have hdeath' := ((falls_iff arena rules tanks i _).mp hback).2
    rw [hdeath] at hdeath'
    cases hdeath'
    rfl
  · intro i death h hcause
    obtain ⟨hne, hlive, hshoot⟩ := shooter_of_falls hids h hcause
    obtain ⟨shooter, target, hshooter, htarget, hfiring, hsights⟩ := exists_of_shoots hshoot
    exact ⟨death.killer, shooter, target, hne, rfl, hshooter, htarget,
      (fates_eq_none hshooter).mp hlive, hfiring, hsights⟩
  · intro i j this that hij hi hj hthis hthat
    exact spared_of_resolve hij hi hj hthis hthat
  · intro m i j this that hij hi hj hthis hthat
    exact apart_of_advance hij hi hj hthis hthat

theorem partners_of_pile :
    Numbered pile ∧ ∃ k, k ≠ 0 ∧ 1 = k ∧
      Falls pile (resolve (.sizedFor 2 (Float.ofNat 160)) Rules.standard pile) k
        ⟨0, .collision⟩ := by
  have hspec := resolve_sound_and_complete (G := Generator) (.sizedFor 2 (Float.ofNat 160))
    Rules.standard pile fresh_pile.1
  have hfalls : Falls pile (resolve (.sizedFor 2 (Float.ofNat 160)) Rules.standard pile) 0
      ⟨1, .collision⟩ := by
    rw [falls_iff]
    decide +kernel
  obtain ⟨k, hne, hk, hpartner, _⟩ := hspec.2.1 0 ⟨1, .collision⟩ hfalls rfl
  exact ⟨fresh_pile.1, k, hne, hk, hpartner⟩

end Combat

end Skirmish
