import Skirmish.Proofs.Language.Shots
import Skirmish.Proofs.Tank.Gear

namespace Skirmish.Tank

open Effect

variable {R G : Type}

-- What a number of orders to fire makes of a loaded tank that is not firing. Every
-- order spends a shot as long as the cannon is charged and shots are left, but the
-- last order alone decides whether the tank fires.
structure Volley (before : Tank R) (orders : Nat) (after : Tank R) : Prop where
  recharge : after.turret.recharge = before.turret.recharge
  ammo : after.ammo =
    if before.turret.recharge = 0 then before.ammo - min (orders : Int) before.ammo else before.ammo
  firing : after.turret.firing = true ↔
    before.turret.recharge = 0 ∧ 0 < orders ∧ (orders : Int) ≤ before.ammo

-- A shot is gone exactly if the tank fires.
def Accounted (before after : Tank R) : Prop :=
  after.ammo = if after.turret.firing then before.ammo - 1 else before.ammo

theorem Volley.none {tank : Tank R} (hammo : 0 < tank.ammo) (hfiring : tank.turret.firing = false) :
    Volley tank 0 tank where
  recharge := rfl
  ammo := by
    have hmin : min ((0 : Nat) : Int) tank.ammo = 0 := by omega
    rw [hmin]
    split <;> omega
  firing := by simp [hfiring]

theorem Volley.accounted_iff {before after : Tank R} {orders : Nat}
    (h : Volley before orders after) (hammo : 0 < before.ammo) :
    Accounted before after ↔ before.turret.recharge ≠ 0 ∨ orders ≤ 1 := by
  unfold Accounted
  by_cases hcharged : before.turret.recharge = 0
  · have hspent := h.ammo
    rw [if_pos hcharged] at hspent
    have hfiring := h.firing
    cases hafter : after.turret.firing with
    | true =>
        obtain ⟨_, hsome, henough⟩ := hfiring.mp hafter
        rw [if_pos rfl]
        omega
    | false =>
        rw [hafter] at hfiring
        simp only [Bool.false_eq_true, false_iff, not_and, if_false] at hfiring ⊢
        have hnot := hfiring hcharged
        omega
  · have hkept := h.ammo
    rw [if_neg hcharged] at hkept
    have hquiet : after.turret.firing = false := by
      rw [Bool.eq_false_iff]
      intro hfires
      exact hcharged (h.firing.mp hfires).1
    rw [hquiet, hkept]
    simp [hcharged]

theorem Volley.fire {before tank : Tank R} {orders : Nat} (h : Volley before orders tank)
    (hammo : 0 < before.ammo) : Volley before (orders + 1) tank.fire := by
  have hleft := h.ammo
  have hready := fireReady_iff tank
  rw [h.recharge] at hready
  constructor
  · exact h.recharge
  · simp only [Tank.fire, hready]
    split <;> omega
  · simp only [Tank.fire, hready]
    split at hleft <;> omega

variable [Scalar R] [Draws R G]

theorem steady_volley (before : Tank R) (orders : Nat) :
    @Steady R (Cockpit R G) _ (Body.unarmed Cockpit.instBody)
      fun c => Volley before orders c.tank := by
  refine @Steady.mk R (Cockpit R G) _ (Body.unarmed Cockpit.instBody) _ ?_ fun _ _ hc => hc
  intro order horder c hc
  cases horder with
  | fire => exact hc
  | _ => exact { hc with }

-- How often a tank's program orders a shot in a run.
def shots (i : Interpreter) (g : G) (tank : Tank R) : Nat := i.shots tank.program (tank.rig g)

theorem volley_runProgram (i : Interpreter) (g : G) {tank : Tank R} (hammo : 0 < tank.ammo)
    (hfiring : tank.turret.firing = false) :
    Volley tank (tank.shots i g) (tank.runProgram i g).1 := by
  have hrun := i.runSource_shots (P := fun k (c : Cockpit R G) => Volley tank k c.tank)
    (fun _ _ h => h.fire hammo) (steady_volley tank) tank.program
    (tank.rig g) (Volley.none hammo hfiring)
  exact runProgram_of_runSource (P := Volley tank (tank.shots i g)) (fun _ _ _ h => { h with }) hrun

-- A run spends ammunition as shown by the flag of the cannon unless the cannon is
-- charged and shots are ordered again and again. Each of these orders still spends a
-- shot as long as there is one, but the tank does not fire once they outnumber them.
theorem accounted_runProgram_iff (i : Interpreter) (g : G) {tank : Tank R} (hammo : 0 < tank.ammo)
    (hfiring : tank.turret.firing = false) :
    Volley tank (tank.shots i g) (tank.runProgram i g).1 ∧
      (Accounted tank (tank.runProgram i g).1 ↔
        tank.turret.recharge ≠ 0 ∨ tank.shots i g ≤ 1) := by
  have hvolley := volley_runProgram i g hammo hfiring
  exact ⟨hvolley, hvolley.accounted_iff hammo⟩

-- A tank with a number of shots whose program orders two in one tick.
def gunner (ammo : Int) : Tank Float :=
  let entry : Entry Float := { name := "Gunner", path := "", program := "fire! fire!", sensors := [] }
  (ofEntry 0 entry { (Rules.standard : Rules Float) with ammo }).toOption.get rfl

def drill : Interpreter := interpreter (Rules.standard : Rules Float)

theorem volley_gunner : 0 < (gunner 2).ammo ∧ (gunner 2).turret.firing = false ∧
    Volley (gunner 2) 2 ((gunner 2).runProgram drill (Generator.ofSeed 1)).1 ∧
      ¬ Accounted (gunner 2) ((gunner 2).runProgram drill (Generator.ofSeed 1)).1 := by
  have hlaw := accounted_runProgram_iff drill (Generator.ofSeed 1)
    (by decide : 0 < (gunner 2).ammo) rfl
  have hshots : (gunner 2).shots drill (Generator.ofSeed 1) = 2 := by decide +kernel
  rw [hshots] at hlaw
  refine ⟨by decide, rfl, hlaw.1, ?_⟩
  rw [hlaw.2]
  decide

-- The second order spends nothing, but it takes back the shot that the first one spent.
theorem not_accounted_gunner : 0 < (gunner 1).ammo ∧ (gunner 1).turret.firing = false ∧
    ¬ Accounted (gunner 1) ((gunner 1).runProgram drill (Generator.ofSeed 1)).1 := by
  have hafter : ((gunner 1).runProgram drill (Generator.ofSeed 1)).1.ammo = 0 ∧
      ((gunner 1).runProgram drill (Generator.ofSeed 1)).1.turret.firing = false := by
    decide +kernel
  refine ⟨by decide, rfl, ?_⟩
  unfold Accounted
  rw [hafter.1, hafter.2]
  decide

end Skirmish.Tank
