import Skirmish.Proofs.Combat.Resolution
import Skirmish.Proofs.Scalar.Monotone

namespace Skirmish

variable {R : Type}

-- The mask of a sensor that has seen some kinds of objects.
def Sensor.mask (seen : ObjectKind → Bool) : UInt32 :=
  (if seen .tank then ObjectKind.tank.bit else 0) |||
    (if seen .pillar then ObjectKind.pillar.bit else 0)

theorem Sensor.mask_or (seen : ObjectKind → Bool) (kind : ObjectKind) (hit : Bool) :
    (if hit then mask seen ||| kind.bit else mask seen) =
      mask fun other => seen other || (decide (other = kind) && hit) := by
  unfold mask
  cases kind <;> cases hit <;> cases htank : seen .tank <;> cases hpillar : seen .pillar <;>
    simp only [htank, hpillar, ObjectKind.bit] <;> decide

-- The bit of a kind of object that is set changes nothing when it is set again.
theorem ObjectKind.or_bit {kind : ObjectKind} {seen : UInt32} (h : seen &&& kind.bit ≠ 0) :
    seen ||| kind.bit = seen := by
  obtain ⟨place, hbit⟩ : ∃ place, kind.bit.toBitVec = BitVec.twoPow 32 place := by
    cases kind with
    | tank => exact ⟨0, rfl⟩
    | pillar => exact ⟨1, rfl⟩
  have hset : seen.toBitVec.getLsbD place = true := by
    by_contra hunset
    refine h (UInt32.toBitVec_inj.mp ?_)
    rw [UInt32.toBitVec_and, hbit, BitVec.and_twoPow, if_neg hunset]
    rfl
  rw [← UInt32.toBitVec_inj, UInt32.toBitVec_or, hbit]
  apply BitVec.eq_of_getLsbD_eq
  intro i hi
  rw [BitVec.getLsbD_or, BitVec.getLsbD_twoPow]
  by_cases hplace : place = i
  · rw [← hplace, hset, Bool.true_or]
  · simp [hplace]

-- The tank with what each of its sensors has seen.
def Tank.beholding (seen : Sensor R → ObjectKind → Bool) (tank : Tank R) : Tank R :=
  { tank with
    sensors := tank.sensors.map fun sensor => { sensor with seen := Sensor.mask (seen sensor) } }

theorem Tank.beholding_congr {tank : Tank R} {seen seen' : Sensor R → ObjectKind → Bool}
    (h : ∀ sensor ∈ tank.sensors, ∀ kind, seen sensor kind = seen' sensor kind) :
    tank.beholding seen = tank.beholding seen' := by
  unfold beholding
  congr 1
  apply List.map_congr_left
  intro sensor hsensor
  rw [funext (h sensor hsensor)]

-- Tanks whose sensors have seen something, by their places. Craters see nothing.
def Sweep.shown (tanks : List (Tank R)) (seen : Nat → Tank R → Sensor R → ObjectKind → Bool) :
    List (Tank R) :=
  tanks.mapIdx fun i tank => if tank.isCrater then tank else tank.beholding (seen i tank)

section Shown

variable {tanks : List (Tank R)} {seen seen' : Nat → Tank R → Sensor R → ObjectKind → Bool}

theorem Sweep.getElem?_shown (i : Nat) :
    (shown tanks seen)[i]? =
      tanks[i]?.map fun tank => if tank.isCrater then tank else tank.beholding (seen i tank) := by
  rw [shown, List.getElem?_mapIdx]

theorem Sweep.getElem?_shown_of_live {i : Nat} {tank : Tank R} (hi : tanks[i]? = some tank)
    (hlive : tank.isCrater = false) :
    (shown tanks seen)[i]? = some (tank.beholding (seen i tank)) := by
  simp [getElem?_shown, hi, hlive]

theorem Sweep.exists_shown (seen : Nat → Tank R → Sensor R → ObjectKind → Bool) {i : Nat}
    {tank : Tank R} (hi : tanks[i]? = some tank) :
    ∃ after, (shown tanks seen)[i]? = some after ∧ after.isCrater = tank.isCrater := by
  cases hcrater : tank.isCrater with
  | true => exact ⟨tank, by simp [getElem?_shown, hi, hcrater], hcrater⟩
  | false => exact ⟨_, getElem?_shown_of_live hi hcrater, hcrater⟩

theorem Sweep.shown_congr
    (h : ∀ i tank, tanks[i]? = some tank → tank.isCrater = false → ∀ sensor ∈ tank.sensors,
      ∀ kind, seen i tank sensor kind = seen' i tank sensor kind) :
    shown tanks seen = shown tanks seen' := by
  apply List.ext_getElem?
  intro i
  rw [getElem?_shown, getElem?_shown]
  cases hi : tanks[i]? with
  | none => rfl
  | some tank =>
      rw [Option.map_some, Option.map_some]
      split_ifs with hcrater
      · rfl
      · rw [Tank.beholding_congr (h i tank hi (Bool.eq_false_iff.mpr hcrater))]

-- Only the tank on one place looks.
theorem Sweep.modify_shown {i : Nat} {tank : Tank R} {look : Tank R → Tank R}
    (hi : tanks[i]? = some tank) (hlive : tank.isCrater = false)
    (hlook : look (tank.beholding (seen i tank)) = tank.beholding (seen' i tank))
    (hothers : ∀ k, k ≠ i → seen' k = seen k) :
    (shown tanks seen).modify i look = shown tanks seen' := by
  apply List.ext_getElem?
  intro k
  rw [List.getElem?_modify, getElem?_shown, getElem?_shown]
  by_cases hk : i = k
  · subst hk
    simp [hi, hlive, hlook]
  · simp [hk, hothers k (Ne.symm hk)]

end Shown

variable [Scalar R]

-- No sensor of the tank has a range beyond what the rules allow.
def Tank.Within (rules : Rules R) (tank : Tank R) : Prop :=
  ∀ sensor ∈ tank.sensors, ((0 : Int) : R) ≤ sensor.range ∧ sensor.range ≤ rules.sensorRange

-- To look again for a kind that has been seen would show the same.
theorem Sensor.look_eq (hull turret radius distanceSq : R) (offset : Point R) (kind : ObjectKind)
    (s : Sensor R) :
    s.look hull turret radius distanceSq offset kind =
      if s.detects hull turret radius distanceSq offset then
        { s with seen := s.seen ||| kind.bit }
      else s := by
  unfold look
  by_cases hseen : s.seen &&& kind.bit = 0
  · simp [hseen]
  · rw [if_pos (bne_iff_ne.mpr hseen), ObjectKind.or_bit hseen, ite_self]

theorem Sweep.sense_of_out {rules : Rules R} {radius distanceSq : R}
    (hout : Sensor.reaches rules.sensorRange radius distanceSq = false) (offset : Point R)
    (kind : ObjectKind) : Tank.sense rules offset distanceSq radius kind = id := by
  funext tank
  simp [Tank.sense, hout]

theorem Sweep.see_tanks (arena : Arena R) (rules : Rules R) {tanks : List (Tank R)} {i j : Nat}
    {this that : Tank R} (hi : tanks[i]? = some this) (hj : tanks[j]? = some that)
    (hthis : this.isCrater = false) (hthat : that.isCrater = false) {offset : Point R}
    (hoffset : offset = arena.displacement this.position that.position) :
    see arena rules tanks (.tanks i j) =
      (tanks.modify i (Tank.sense rules offset offset.lengthSq rules.tankRadius .tank)).modify j
        (Tank.sense rules (-offset) offset.lengthSq rules.tankRadius .tank) := by
  subst hoffset
  simp only [see, hi, hj, hthis, hthat, Bool.or_self, Bool.false_eq_true, if_false]

theorem Sweep.see_pillar (arena : Arena R) (rules : Rules R) {tanks : List (Tank R)} {i : Nat}
    {tank : Tank R} (hi : tanks[i]? = some tank) (hlive : tank.isCrater = false)
    (pillar : Pillar R) {offset : Point R}
    (hoffset : offset = arena.displacement tank.position pillar.position) :
    see arena rules tanks (.pillar i pillar) =
      tanks.modify i (Tank.sense rules offset offset.lengthSq pillar.radius .pillar) := by
  subst hoffset
  simp only [see, hi, hlive, Bool.false_eq_true, if_false]

variable [MonotoneScalar R]

theorem Sensor.detects_of_out {rules : Rules R} {sensor : Sensor R} {radius distanceSq : R}
    (hnonneg : ((0 : Int) : R) ≤ sensor.range) (hrange : sensor.range ≤ rules.sensorRange)
    (hradius : ((0 : Int) : R) ≤ radius)
    (hout : reaches rules.sensorRange radius distanceSq = false) (hull turret : R)
    (offset : Point R) : sensor.detects hull turret radius distanceSq offset = false := by
  have hshort : reaches sensor.range radius distanceSq = false := by
    by_contra hin
    rw [Bool.not_eq_false] at hin
    rw [MonotoneScalar.reaches_of_le hnonneg hradius hrange hin] at hout
    contradiction
  simp [detects, hshort]

-- The limit that the rules set to sight makes no difference, since no sensor passes it.
theorem Tank.sense_beholding {rules : Rules R} {tank : Tank R} (hwithin : tank.Within rules)
    {radius : R} (hradius : ((0 : Int) : R) ≤ radius) (seen : Sensor R → ObjectKind → Bool)
    (offset : Point R) (distanceSq : R) (kind : ObjectKind) :
    (tank.beholding seen).sense rules offset distanceSq radius kind =
      tank.beholding fun sensor other => seen sensor other || (decide (other = kind) &&
        sensor.detects tank.heading tank.turret.angle radius distanceSq offset) := by
  cases hreach : Sensor.reaches rules.sensorRange radius distanceSq with
  | false =>
      rw [Sweep.sense_of_out hreach]
      apply beholding_congr
      intro sensor hsensor other
      obtain ⟨hnonneg, hrange⟩ := hwithin sensor hsensor
      rw [Sensor.detects_of_out hnonneg hrange hradius hreach, Bool.and_false, Bool.or_false]
  | true =>
      simp only [sense, hreach, Bool.not_true, Bool.false_eq_true, if_false, beholding, List.map_map]
      congr 1
      apply List.map_congr_left
      intro sensor _
      have hsame : Sensor.detects { sensor with seen := Sensor.mask (seen sensor) } tank.heading
          tank.turret.angle radius distanceSq offset =
          sensor.detects tank.heading tank.turret.angle radius distanceSq offset := rfl
      simp only [Function.comp_apply, Sensor.look_eq, hsame, ← Sensor.mask_or]
      split_ifs <;> rfl

end Skirmish
