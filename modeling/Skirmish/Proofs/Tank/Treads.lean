import Skirmish.Proofs.Language.Orders
import Skirmish.Proofs.Rules
import Skirmish.Proofs.Tank.Runs

namespace Skirmish

open Scalar

variable {R G : Type} [Scalar R]

-- A number that is a speed of a tread, in percent of the top speed.
structure InRange (speed : R) : Prop where
  number : isNaN speed = false
  low : -Tank.topTread ≤ speed
  high : speed ≤ Tank.topTread

structure Treads.InRange (treads : Treads R) : Prop where
  left : Skirmish.InRange treads.left
  right : Skirmish.InRange treads.right

section Range

variable [OrderedScalar R]

theorem isFinite_topTread : isFinite (Tank.topTread : R) = true :=
  OrderedScalar.isFinite_natCast (n := 100) (by decide)

theorem topTread_nonneg : ((0 : Int) : R) ≤ Tank.topTread :=
  MonotoneScalar.natCast_nonneg (n := 100) (by decide)

theorem inRange_of_le {speed : R} (hlow : -Tank.topTread ≤ speed) (hhigh : speed ≤ Tank.topTread) :
    InRange speed where
  number := OrderedScalar.isNaN_of_isFinite
    (OrderedScalar.isFinite_of_le (OrderedScalar.isFinite_neg isFinite_topTread) isFinite_topTread
      hlow hhigh)
  low := hlow
  high := hhigh

theorem InRange.isFinite {speed : R} (h : InRange speed) : isFinite speed = true :=
  OrderedScalar.isFinite_of_le (OrderedScalar.isFinite_neg isFinite_topTread) isFinite_topTread h.low
    h.high

theorem inRange_zero : InRange ((0 : Int) : R) :=
  inRange_of_le (OrderedScalar.neg_nonpos topTread_nonneg) topTread_nonneg

-- The bounds themselves are in range.
theorem inRange_bounds : InRange (-Tank.topTread : R) ∧ InRange (Tank.topTread : R) := by
  have hspan : (-Tank.topTread : R) ≤ Tank.topTread :=
    OrderedScalar.trans (OrderedScalar.neg_nonpos topTread_nonneg) topTread_nonneg
  have hlow := OrderedScalar.refl (OrderedScalar.isFinite_neg (isFinite_topTread (R := R)))
  exact ⟨inRange_of_le hlow hspan, inRange_of_le hspan (OrderedScalar.refl isFinite_topTread)⟩

theorem inRange_clamp {speed : R} (h : isFinite speed = true) :
    InRange (clamp (-Tank.topTread) Tank.topTread speed) := by
  unfold clamp
  split_ifs with hbelow habove
  · exact inRange_bounds.1
  · exact inRange_bounds.2
  · exact inRange_of_le
      (OrderedScalar.le_of_not_lt h (OrderedScalar.isFinite_neg isFinite_topTread) hbelow)
      (OrderedScalar.le_of_not_lt isFinite_topTread h habove)

-- A step of a tread toward a speed in range stays in range, if it is no step back.
theorem inRange_ramp {limit wanted speed : R} (hfinite : isFinite limit = true)
    (hlimit : ((0 : Int) : R) ≤ limit) (hwanted : InRange wanted) (hspeed : InRange speed) :
    InRange (Tank.ramp limit wanted speed) := by
  unfold Tank.ramp least greatest
  rw [hwanted.number, if_neg Bool.false_ne_true, if_neg Bool.false_ne_true]
  split_ifs with hup _ hshort hdown _ hshort
  · exact hwanted
  · exact inRange_of_le
      (OrderedScalar.trans hspeed.low (OrderedScalar.le_add_right hspeed.isFinite hfinite hlimit))
      (OrderedScalar.trans (MonotoneScalar.le_of_lt hshort) hwanted.high)
  · exact hwanted
  · exact hwanted
  · exact inRange_of_le
      (OrderedScalar.trans hwanted.low (MonotoneScalar.le_of_lt hshort))
      (OrderedScalar.trans (OrderedScalar.sub_le hspeed.isFinite hfinite hlimit) hspeed.high)
  · exact hwanted
  · exact hspeed

namespace Tank

-- Both what its program wants of the treads of a tank and what they do is in range.
structure InGear (tank : Tank R) : Prop where
  wanted : tank.wantedSpeed.InRange
  current : tank.speed.InRange

omit [OrderedScalar R] in
theorem InGear.of_same {before after : Tank R} (h : before.InGear)
    (hwanted : after.wantedSpeed = before.wantedSpeed) (hspeed : after.speed = before.speed) :
    after.InGear where
  wanted := hwanted ▸ h.wanted
  current := hspeed ▸ h.current

-- Whatever is ordered, a tank stays in gear.
theorem inGear_of_ordered [Draws R G] {before after : Cockpit R G}
    (h : Body.Ordered R before after) (hgear : before.tank.InGear) : after.tank.InGear := by
  cases h with
  | setSpeed hleft hright => exact ⟨⟨inRange_clamp hleft, inRange_clamp hright⟩, hgear.current⟩
  | _ => exact hgear.of_same rfl rfl

theorem inGear_of_orders [Draws R G] {before after : Cockpit R G}
    (h : Relation.ReflTransGen (Body.Ordered R) before after) (hgear : before.tank.InGear) :
    after.tank.InGear := by
  induction h with
  | refl => exact hgear
  | tail _ hlast ih => exact inGear_of_ordered hlast ih

theorem inGear_runProgram [Draws R G] {tank : Tank R} (h : tank.InGear) (i : Interpreter) (g : G) :
    (tank.runProgram i g).1.InGear := by
  refine runProgram_of_runSource (P := InGear) (fun _ _ _ hran => ⟨hran.wanted, hran.current⟩) ?_
  cases hparse : (Program.parse tank.program : Except SyntaxFault (Program R)) with
  | error fault =>
      unfold Interpreter.runSource
      rw [hparse]
      exact h
  | ok program =>
      rw [runSource_of_parse hparse]
      exact inGear_of_orders (Interpreter.ordered_of_reaches (.inr rfl)) h

end Tank

end Range

namespace Tank

-- A pillar changes nothing about a tank but where it goes and what holds it up.
def Diverted (before after : Tank R) : Prop :=
  ∃ next blockedBy, after = { before with next, blockedBy }

theorem diverted_clampToPillars (arena : Arena R) (tankRadius : R) (tank : Tank R) :
    Diverted tank (tank.clampToPillars arena tankRadius) := by
  unfold clampToPillars
  generalize arena.pillars.zipIdx = pillars
  have hstart : Diverted tank { tank with blockedBy := none } := ⟨tank.next, none, rfl⟩
  generalize { tank with blockedBy := none } = moved at hstart
  induction pillars generalizing moved with
  | nil => exact hstart
  | cons pillar pillars ih =>
      apply ih
      obtain ⟨next, blockedBy, rfl⟩ := hstart
      unfold stopAt
      split
      · exact ⟨_, _, rfl⟩
      · exact ⟨next, blockedBy, rfl⟩

theorem speed_planAround (arena : Arena R) (rules : Rules R) (tank : Tank R) :
    (Match.planAround arena rules tank).speed = (tank.rampTreads rules).speed := by
  obtain ⟨next, blockedBy, h⟩ :=
    diverted_clampToPillars arena rules.tankRadius (tank.planMove arena rules)
  unfold Match.planAround
  rw [h]
  rfl

theorem inGear_planAround [OrderedScalar R] {tank : Tank R} (h : tank.InGear) {rules : Rules R}
    (hvalid : rules.Valid) (arena : Arena R) : (Match.planAround arena rules tank).InGear := by
  have hfinite := hvalid.maxAcceleration_finite
  have hlimit := MonotoneScalar.le_of_lt hvalid.maxAcceleration_pos
  constructor
  · rw [(planned_planAround arena rules tank).wantedSpeed]
    exact h.wanted
  · rw [speed_planAround]
    exact ⟨inRange_ramp hfinite hlimit h.wanted.left h.current.left,
      inRange_ramp hfinite hlimit h.wanted.right h.current.right⟩

-- What a tick makes of the speed of a tread: it goes toward the one wanted, by as much as it
-- can or by what is left, and never beyond it.
structure Ramped (limit wanted before after : ℝ) : Prop where
  step : after = before + SignType.sign (wanted - before) * min limit |wanted - before|
  between : after ∈ Set.uIcc before wanted

theorem ramp_self (limit a : ℝ) : ramp limit a a = a :=
  (if_neg (lt_irrefl a)).trans (if_neg (lt_irrefl a))

theorem ramped_ramp {limit : ℝ} (hlimit : 0 ≤ limit) (wanted speed : ℝ) :
    Ramped limit wanted speed (ramp limit wanted speed) := by
  unfold ramp
  rw [Reals.least_eq, Reals.greatest_eq]
  rcases lt_trichotomy speed wanted with hup | rfl | hdown
  · have hgap : 0 < wanted - speed := sub_pos.mpr hup
    rw [if_pos hup]
    constructor
    · rw [sign_pos hgap, abs_of_pos hgap, SignType.coe_one, one_mul, ← min_add_add_left,
        add_sub_cancel]
    · rw [Set.uIcc_of_le hup.le]
      exact ⟨le_min (le_add_of_nonneg_right hlimit) hup.le, min_le_right _ _⟩
  · rw [if_neg (lt_irrefl speed), if_neg (lt_irrefl speed)]
    constructor
    · simp
    · simp
  · have hgap : wanted - speed < 0 := sub_neg.mpr hdown
    rw [if_neg hdown.not_gt, if_pos hdown]
    constructor
    · rw [sign_neg hgap, abs_of_neg hgap, SignType.coe_neg_one, neg_sub, neg_one_mul,
        ← max_neg_neg, ← max_add_add_left, neg_sub, add_sub_cancel, ← sub_eq_add_neg]
    · rw [Set.uIcc_of_ge hdown.le]
      exact ⟨le_max_right _ _, max_le (sub_le_self _ hlimit) hdown.le⟩

-- What a tick makes of the treads of a tank. A crater does not drive.
structure Ramps (limit : ℝ) (before after : Tank ℝ) : Prop where
  crater : after.isCrater = true → after.speed = before.speed
  left : after.isCrater = false →
    Ramped limit after.wantedSpeed.left before.speed.left after.speed.left
  right : after.isCrater = false →
    Ramped limit after.wantedSpeed.right before.speed.right after.speed.right

end Tank

end Skirmish
