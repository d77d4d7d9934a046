import Skirmish.Proofs.Match.Fates

namespace Skirmish

variable {R G : Type}

-- All that a crater goes through is that its last shot and its last teleport are
-- noted, once, as it is recharged.
def Tank.settled (rules : Rules R) (tank : Tank R) : Tank R :=
  { tank with
    turret :=
      if tank.turret.firing then
        { tank.turret with firing := false, recharge := rules.cannonRecharge }
      else tank.turret
    teleporter :=
      if tank.teleporter.teleporting then
        { teleporting := false, recharge := rules.teleportRecharge }
      else tank.teleporter }

theorem Tank.recharge_of_crater (rules : Rules R) {tank : Tank R} (h : tank.isCrater = true) :
    tank.recharge rules = tank.settled rules := by
  unfold recharge
  dsimp only
  rw [if_pos (by exact h)]
  rfl

theorem Tank.settled_settled (rules : Rules R) (tank : Tank R) :
    (tank.settled rules).settled rules = tank.settled rules := by
  have hfiring : (tank.settled rules).turret.firing = false := by
    unfold settled
    cases h : tank.turret.firing <;> simp [h]
  have hteleporting : (tank.settled rules).teleporter.teleporting = false := by
    unfold settled
    cases h : tank.teleporter.teleporting <;> simp [h]
  generalize tank.settled rules = still at hfiring hteleporting
  unfold settled
  rw [hfiring, hteleporting]
  rfl

namespace Match

theorem crater_kept {P : Tank R → Tank R → Prop} {before after : List (Tank R)}
    (h : List.Forall₂ (OnlyLive P) before after) {i : Nat} {tank : Tank R}
    (hi : before[i]? = some tank) (hcrater : tank.isCrater = true) : after[i]? = some tank := by
  obtain ⟨later, hlater, hrel⟩ := forall₂_getElem? h hi
  rw [hlater, hrel.crater hcrater]

variable [Scalar R] [Draws R G]

theorem crater_advance {m : Match R G} {i : Nat} {tank : Tank R} (hi : m.tanks[i]? = some tank)
    (hcrater : tank.isCrater = true) : m.advance.tanks[i]? = some (tank.settled m.rules) := by
  have hsettled : (tank.settled m.rules).isCrater = true := hcrater
  have hrecharged : m.recharged.tanks[i]? = some (tank.settled m.rules) := by
    rw [getElem?_recharged hi, Tank.recharge_of_crater m.rules hcrater]
  have hcommitted := crater_kept (forall₂_committed _) hrecharged hsettled
  have hswept := crater_kept (forall₂_swept _) hcommitted hsettled
  have hprogrammed := crater_kept (forall₂_programmed _) hswept hsettled
  have hteleported := crater_kept (forall₂_teleported _) hprogrammed hsettled
  have hfought := crater_kept (forall₂_fought _) hteleported hsettled
  rw [advance_eq, atCombat_eq]
  exact crater_kept (forall₂_planned _) hfought hsettled

theorem rules_advance (m : Match R G) : m.advance.rules = m.rules := by
  rw [advance_eq, ← rules_atCombat m]
  generalize m.turn.atCombat = fight
  rfl

theorem rules_iterate (m : Match R G) (n : Nat) : (advance^[n] m).rules = m.rules := by
  induction n with
  | zero => rfl
  | succ n ih =>
      rw [Function.iterate_succ_apply', rules_advance, ih]

theorem crater_iterate {m : Match R G} {i : Nat} {tank : Tank R} (hi : m.tanks[i]? = some tank)
    (hcrater : tank.isCrater = true) (n : Nat) :
    (advance^[n + 1] m).tanks[i]? = some (tank.settled m.rules) := by
  induction n with
  | zero => exact crater_advance hi hcrater
  | succ n ih =>
      rw [Function.iterate_succ_apply', crater_advance ih hcrater, rules_iterate,
        Tank.settled_settled]

theorem activeTanks_advance (m : Match R G) : m.advance.activeTanks ≤ m.activeTanks := by
  have hrel : List.Forall₂ (fun a b => a.isCrater = true → b.isCrater = true) m.tanks
      m.advance.tanks := by
    refine forall₂_of_getElem? (length_advance m).symm fun i tank hi => ?_
    have hlt := (List.getElem?_eq_some_iff.mp hi).1
    refine ⟨_, List.getElem?_eq_getElem (by rw [length_advance]; exact hlt), fun hcrater => ?_⟩
    have hlater := crater_advance hi hcrater
    rw [List.getElem?_eq_getElem (by rw [length_advance]; exact hlt)] at hlater
    rw [Option.some.inj hlater]
    exact hcrater
  refine countP_le_of_forall₂ (fun a b hab hb => ?_) hrel
  cases ha : a.isCrater with
  | false => rfl
  | true =>
      rw [hab ha] at hb
      contradiction

theorem activeTanks_iterate (m : Match R G) (n : Nat) :
    (advance^[n] m).activeTanks ≤ m.activeTanks := by
  induction n with
  | zero => exact Nat.le_refl _
  | succ n ih =>
      rw [Function.iterate_succ_apply']
      exact Nat.le_trans (activeTanks_advance _) ih

theorem tick_iterate (m : Match R G) {n : Nat} (hn : m.tick.toNat + n < UInt32.size) :
    (advance^[n] m).tick.toNat = m.tick.toNat + n := by
  induction n with
  | zero => rfl
  | succ n ih =>
      have hprev := ih (by omega)
      have htick : (advance^[n] m).advance.tick = (advance^[n] m).tick + 1 := rfl
      rw [Function.iterate_succ_apply', htick, UInt32.toNat_add, hprev]
      exact Nat.mod_eq_of_lt hn

theorem isOver_iterate {m : Match R G} (hover : m.isOver = true) {n : Nat}
    (hn : m.tick.toNat + n < UInt32.size) : (advance^[n] m).isOver = true := by
  unfold isOver at hover ⊢
  rw [Bool.or_eq_true, decide_eq_true_eq, decide_eq_true_eq] at hover ⊢
  rcases hover with hfew | hlate
  · left
    have hactive := activeTanks_iterate m n
    omega
  · right
    rw [UInt32.le_iff_toNat_le] at hlate ⊢
    rw [rules_iterate, tick_iterate m hn]
    omega

-- Once a tank is a crater nothing more happens to it after the next tick. So there
-- are ever fewer tanks left, and a match that is over stays over.
theorem craters_settle (m : Match R G) (s n : Nat) :
    (∀ (i : Nat) (tank : Tank R), (advance^[s] m).tanks[i]? = some tank → tank.isCrater = true →
      (advance^[s + n + 1] m).tanks[i]? = some (tank.settled m.rules)) ∧
    (advance^[s + n] m).activeTanks ≤ (advance^[s] m).activeTanks ∧
    ((advance^[s] m).isOver = true → (advance^[s] m).tick.toNat + n < UInt32.size →
      (advance^[s + n] m).isOver = true) := by
  have hsplit : ∀ k, advance^[s + k] m = advance^[k] (advance^[s] m) := by
    intro k
    rw [Nat.add_comm, Function.iterate_add_apply]
  rw [Nat.add_assoc, hsplit, hsplit]
  refine ⟨?_, activeTanks_iterate _ n, fun hover hn => isOver_iterate hover hn⟩
  intro i tank hi hcrater
  rw [← rules_iterate m s]
  exact crater_iterate hi hcrater n

end Match

end Skirmish
