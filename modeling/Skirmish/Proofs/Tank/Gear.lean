import Skirmish.Proofs.Tank.Changes

namespace Skirmish

-- A cannon or a teleporter, which has to recharge once it has been used.
structure Device where
  inUse : Bool
  recharge : Nat

namespace Device

-- A program can use a device, but only one that is charged.
structure Handled (before after : Device) : Prop where
  recharge : after.recharge = before.recharge
  charged : after.inUse = true → before.inUse = true ∨ before.recharge = 0

-- A use is over when the next tick starts, and recharging takes a period from then on.
structure Recharged (period : Nat) (before after : Device) : Prop where
  idle : after.inUse = false
  cools : (if before.inUse then period else before.recharge) ≤ after.recharge + 1

-- What a tick does to a device.
structure Ticked (period : Nat) (before after : Device) : Prop where
  cools : (if before.inUse then period else before.recharge) ≤ after.recharge + 1
  charged : after.inUse = true → after.recharge = 0

-- Recharging starts over once a use is over.
def spent (period : Nat) (device : Device) : Device :=
  ⟨false, if device.inUse then period else device.recharge⟩

def cooled (device : Device) : Device := { device with recharge := device.recharge - 1 }

theorem recharged_spent (period : Nat) (device : Device) :
    device.Recharged period (device.spent period) :=
  ⟨rfl, Nat.le_succ _⟩

theorem recharged_cooled (period : Nat) (device : Device) :
    device.Recharged period (device.spent period).cooled :=
  ⟨rfl, Nat.le_add_of_sub_le (Nat.le_refl _)⟩

theorem Handled.refl (device : Device) : Handled device device := ⟨rfl, .inl⟩

theorem Handled.of_use {before device : Device} (h : Handled before device) {used : Bool}
    (hcharged : used = true → device.recharge = 0) : Handled before { device with inUse := used } where
  recharge := h.recharge
  charged hused := .inr (h.recharge ▸ hcharged hused)

theorem Recharged.ticked {period : Nat} {before between after : Device}
    (h : Recharged period before between) (h' : Handled between after) :
    Ticked period before after := by
  constructor
  · rw [h'.recharge]
    exact h.cools
  · intro hafter
    rw [h'.recharge]
    rcases h'.charged hafter with hused | hcharged
    · rw [h.idle] at hused
      contradiction
    · exact hcharged

variable {period : Nat} {states : Nat → Device}

theorem recharge_after_use (h : ∀ n, Ticked period (states n) (states (n + 1))) {s : Nat}
    (hs : (states s).inUse = true) (k : Nat) : period ≤ (states (s + k + 1)).recharge + k + 1 := by
  induction k with
  | zero =>
      have hcools := (h s).cools
      rw [if_pos hs] at hcools
      exact hcools
  | succ k ih =>
      have hcools := (h (s + k + 1)).cools
      by_cases hused : (states (s + k + 1)).inUse = true
      · rw [if_pos hused] at hcools
        rw [← Nat.add_assoc s]
        omega
      · rw [if_neg hused] at hcools
        rw [← Nat.add_assoc s]
        omega

theorem uses_apart (h : ∀ n, Ticked period (states n) (states (n + 1))) {s t : Nat} (hst : s < t)
    (hs : (states s).inUse = true) (ht : (states t).inUse = true) : max 1 period ≤ t - s := by
  obtain ⟨k, rfl⟩ := Nat.exists_eq_add_of_lt hst
  have hperiod := recharge_after_use h hs k
  have hcharged := (h (s + k)).charged ht
  omega

end Device

-- What a tank fires and teleports with.
structure Gear where
  cannon : Device
  teleporter : Device
  ammo : Int

namespace Gear

-- A shot fired is one less in stock, unless the stock is unlimited.
structure Handled (before after : Gear) : Prop where
  cannon : before.cannon.Handled after.cannon
  teleporter : before.teleporter.Handled after.teleporter
  unlimited : before.ammo < 0 → after.ammo = before.ammo
  limited : 0 ≤ before.ammo → 0 ≤ after.ammo ∧ after.ammo ≤ before.ammo
  spent : 0 ≤ before.ammo → before.cannon.inUse = false → after.cannon.inUse = true →
    after.ammo < before.ammo

structure Recharged {R : Type} (rules : Rules R) (before after : Gear) : Prop where
  cannon : before.cannon.Recharged rules.cannonRecharge after.cannon
  teleporter : before.teleporter.Recharged rules.teleportRecharge after.teleporter
  ammo : after.ammo = before.ammo

structure Ticked {R : Type} (rules : Rules R) (before after : Gear) : Prop where
  cannon : before.cannon.Ticked rules.cannonRecharge after.cannon
  teleporter : before.teleporter.Ticked rules.teleportRecharge after.teleporter
  unlimited : before.ammo < 0 → after.ammo = before.ammo
  limited : 0 ≤ before.ammo →
    0 ≤ after.ammo ∧ after.ammo + (if after.cannon.inUse then 1 else 0) ≤ before.ammo

theorem Handled.refl (gear : Gear) : Handled gear gear where
  cannon := .refl _
  teleporter := .refl _
  unlimited _ := rfl
  limited h := ⟨h, Int.le_refl _⟩
  spent _ hbefore hafter := by
    rw [hbefore] at hafter
    contradiction

variable {R : Type} {rules : Rules R}

theorem Recharged.ticked {before between after : Gear} (h : Recharged rules before between)
    (h' : Handled between after) : Ticked rules before after := by
  constructor
  · exact h.cannon.ticked h'.cannon
  · exact h.teleporter.ticked h'.teleporter
  · rw [← h.ammo]
    exact h'.unlimited
  · rw [← h.ammo]
    intro hlimited
    obtain ⟨hnonneg, hle⟩ := h'.limited hlimited
    refine ⟨hnonneg, ?_⟩
    split
    · rename_i hused
      have hspent := h'.spent hlimited h.cannon.idle hused
      omega
    · omega

variable {states : Nat → Gear} (h : ∀ n, Ticked rules (states n) (states (n + 1)))

include h

theorem ammo_of_unlimited (hammo : (states 0).ammo < 0) (n : Nat) :
    (states n).ammo = (states 0).ammo := by
  induction n with
  | zero => rfl
  | succ n ih => rw [(h n).unlimited (by omega), ih]

-- Shots fired and shots in stock are no more than there were in stock.
theorem ammo_of_limited (hidle : (states 0).cannon.inUse = false) (hammo : 0 ≤ (states 0).ammo)
    (n : Nat) :
    0 ≤ (states n).ammo ∧
      (states n).ammo + (List.range (n + 1)).countP (fun t => (states t).cannon.inUse) ≤
        (states 0).ammo := by
  induction n with
  | zero => simp [hidle, hammo]
  | succ n ih =>
      obtain ⟨hnonneg, hcount⟩ := ih
      obtain ⟨hnext, hspent⟩ := (h n).limited hnonneg
      refine ⟨hnext, ?_⟩
      rw [List.range_succ, List.countP_append, List.countP_singleton]
      split
      · rename_i hused
        rw [if_pos hused] at hspent
        omega
      · rename_i hidle
        rw [if_neg hidle] at hspent
        omega

end Gear

namespace Tank

open Effect

variable {R G : Type}

def gear (tank : Tank R) : Gear where
  cannon := ⟨tank.turret.firing, tank.turret.recharge⟩
  teleporter := ⟨tank.teleporter.teleporting, tank.teleporter.recharge⟩
  ammo := tank.ammo

@[simp] theorem ammo_gear (tank : Tank R) : tank.gear.ammo = tank.ammo := rfl

theorem cannon_recharge (rules : Rules R) (tank : Tank R) :
    (tank.recharge rules).gear.cannon =
      if tank.isCrater then tank.gear.cannon.spent rules.cannonRecharge
      else (tank.gear.cannon.spent rules.cannonRecharge).cooled := by
  unfold recharge gear Device.spent
  dsimp only
  cases tank.isCrater with
  | true => cases hfiring : tank.turret.firing <;> simp [hfiring]
  | false => cases hfiring : tank.turret.firing <;> simp [hfiring, Device.cooled]

theorem teleporter_recharge (rules : Rules R) (tank : Tank R) :
    (tank.recharge rules).gear.teleporter =
      if tank.isCrater then tank.gear.teleporter.spent rules.teleportRecharge
      else (tank.gear.teleporter.spent rules.teleportRecharge).cooled := by
  unfold recharge gear Device.spent
  dsimp only
  cases tank.isCrater with
  | true => cases hused : tank.teleporter.teleporting <;> simp [hused]
  | false => cases hused : tank.teleporter.teleporting <;> simp [hused, Device.cooled]

theorem recharged_recharge (rules : Rules R) (tank : Tank R) :
    tank.gear.Recharged rules (tank.recharge rules).gear := by
  constructor
  · rw [cannon_recharge]
    split
    · exact Device.recharged_spent _ _
    · exact Device.recharged_cooled _ _
  · rw [teleporter_recharge]
    split
    · exact Device.recharged_spent _ _
    · exact Device.recharged_cooled _ _
  · exact (serviced_recharge rules tank).ammo

theorem fireReady_iff (tank : Tank R) :
    tank.fireReady = true ↔ tank.ammo ≠ 0 ∧ tank.turret.recharge = 0 := by
  simp [fireReady]

theorem teleportReady_iff (tank : Tank R) :
    tank.teleportReady = true ↔ tank.teleporter.recharge = 0 := by
  simp [teleportReady]

theorem handled_fire {before : Gear} {tank : Tank R} (h : before.Handled tank.gear) :
    before.Handled tank.fire.gear := by
  have hready := fireReady_iff tank
  have hfired : tank.fire.gear.ammo =
      if tank.fireReady ∧ 0 < tank.ammo then tank.ammo - 1 else tank.ammo := rfl
  constructor
  · exact h.cannon.of_use fun hused => (hready.mp hused).2
  · exact h.teleporter
  · intro hunlimited
    have hammo : tank.ammo = before.ammo := h.unlimited hunlimited
    rw [hfired, if_neg (by omega), hammo]
  · intro hlimited
    obtain ⟨hnonneg, hle⟩ : 0 ≤ tank.ammo ∧ tank.ammo ≤ before.ammo := h.limited hlimited
    rw [hfired]
    split <;> omega
  · intro hlimited _ hused
    obtain ⟨hnonneg, hle⟩ : 0 ≤ tank.ammo ∧ tank.ammo ≤ before.ammo := h.limited hlimited
    have hloaded : 0 < tank.ammo := by
      have hsome := (hready.mp hused).1
      omega
    rw [hfired, if_pos ⟨hused, hloaded⟩]
    omega

theorem handled_teleport {before : Gear} {tank : Tank R} (h : before.Handled tank.gear) :
    before.Handled tank.teleport.gear where
  cannon := h.cannon
  teleporter := h.teleporter.of_use (teleportReady_iff tank).mp
  unlimited := h.unlimited
  limited := h.limited
  spent := h.spent

variable [Scalar R] [Draws R G]

theorem steady_handled (before : Gear) :
    Steady R fun c : Cockpit R G => before.Handled c.tank.gear where
  order _ horder _ h := by
    cases horder with
    | fire => exact handled_fire h
    | teleport => exact handled_teleport h
    | setSpeed left right => exact h
    | setTurret angle => exact h
    | setLed on => exact h
  draw _ _ h := h

theorem handled_runProgram (i : Interpreter) (g : G) (tank : Tank R) :
    tank.gear.Handled (tank.runProgram i g).1.gear := by
  have hrun := i.runSource_keeps (steady_handled tank.gear) tank.program (tank.rig g) (.refl _)
  exact runProgram_of_runSource (P := fun after => tank.gear.Handled after.gear)
    (fun _ _ _ h => h) hrun

end Tank

end Skirmish
