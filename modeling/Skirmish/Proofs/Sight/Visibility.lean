import Mathlib
import Skirmish.Proofs.Arena.Displacement
import Skirmish.Proofs.Match.Start
import Skirmish.Proofs.Rules
import Skirmish.Proofs.Sight.Survey

namespace Skirmish

variable {R : Type} [Scalar R]

-- A tank with the number and the sensors that an entry gives it, whatever they see.
def Tank.Mounted (rules : Rules R) (id : Nat) (tank : Tank R) : Prop :=
  ∃ entry made, Tank.ofEntry id entry rules = .ok made ∧ tank.id = made.id ∧
    (tank.sensors.map fun sensor => { sensor with seen := 0 }) = made.sensors

omit [Scalar R] in
def Tank.renumber (id : Nat) (tank : Tank R) : Tank R := { tank with id }

omit [Scalar R] in
-- Tanks in another order, numbered anew.
def Tank.Reordered (places : Equiv.Perm Nat) (tanks tanks' : List (Tank R)) : Prop :=
  ∀ k, tanks'[k]? = tanks[places k]?.map (Tank.renumber k)

theorem Tank.sensors_of_ofEntry {rules : Rules R} {id : Nat} {entry : Entry R} {tank : Tank R}
    (h : ofEntry id entry rules = .ok tank) :
    tank.sensors = entry.sensors.map (Sensor.mount rules.sensorRange) ∧
      ∀ setting ∈ entry.sensors, setting.isValid = true := by
  unfold ofEntry at h
  dsimp only at h
  split_ifs at h
  split at h
  · contradiction
  · rename_i hfind
    cases h
    refine ⟨rfl, fun setting hsetting => ?_⟩
    obtain ⟨i, hi⟩ := List.mem_iff_getElem?.mp hsetting
    have hvalid := List.find?_eq_none.mp hfind (setting, i) (List.mem_zipIdx_iff_getElem?.mpr hi)
    simpa using hvalid

theorem SensorSetting.range_nonneg {setting : SensorSetting R} (h : setting.isValid = true) :
    ((0 : Int) : R) ≤ setting.range := by
  simp only [isValid, Bool.and_eq_true, decide_eq_true_eq] at h
  exact h.1.1.2

theorem Tank.exists_ofEntry (rules : Rules R) {entry : Entry R} (id : Nat)
    (hcount : entry.sensors.length ≤ maxSensors)
    (hvalid : ∀ setting ∈ entry.sensors, setting.isValid = true) :
    ∃ tank, ofEntry id entry rules = .ok tank := by
  unfold ofEntry
  dsimp only
  rw [if_neg (by omega)]
  split
  · rename_i sensor index hfind
    have hbad := List.find?_some hfind
    have hmem := List.mem_zipIdx_iff_getElem?.mp (List.mem_of_find?_eq_some hfind)
    rw [hvalid sensor (List.mem_of_getElem? hmem)] at hbad
    contradiction
  · exact ⟨_, rfl⟩

-- A tank with one eye, which is wide and looks ahead.
noncomputable def watcher : Entry ℝ where
  name := "Watcher"
  path := ""
  program := ""
  sensors := [⟨50, 0, 90, false⟩]

-- Two of them, the second ahead of the first and to its left.
noncomputable def lookouts : List (Tank ℝ) :=
  match Tank.ofEntries Rules.standard 0 [watcher, watcher] with
  | .ok [this, that] => [this.place ⟨100, 100⟩ 0 0, that.place ⟨110, 110⟩ 0 0]
  | _ => []

noncomputable def clearing : Arena ℝ := ⟨400, 400, []⟩

theorem mounted_lookouts :
    ∃ this that : Tank ℝ, lookouts = [this.place ⟨100, 100⟩ 0 0, that.place ⟨110, 110⟩ 0 0] ∧
      Tank.ofEntry 0 watcher Rules.standard = .ok this ∧
      Tank.ofEntry 1 watcher Rules.standard = .ok that := by
  have hvalid : ∀ setting ∈ watcher.sensors, setting.isValid = true := by
    simp [watcher, SensorSetting.isValid]
  obtain ⟨this, hthis⟩ := Tank.exists_ofEntry Rules.standard 0 (by decide) hvalid
  obtain ⟨that, hthat⟩ := Tank.exists_ofEntry Rules.standard 1 (by decide) hvalid
  refine ⟨this, that, ?_, hthis, hthat⟩
  simp [lookouts, Tank.ofEntries, hthis, hthat, Except.map]

theorem sensors_watcher {tank : Tank ℝ} {id : Nat}
    (hmade : Tank.ofEntry id watcher Rules.standard = .ok tank) :
    ∃ sensor, tank.sensors = [sensor] ∧ sensor.range = 50 ∧ sensor.angle = 0 ∧
      sensor.width = Real.pi / 2 ∧ sensor.seen = 0 := by
  obtain ⟨hsensors, -⟩ := Tank.sensors_of_ofEntry hmade
  have hturn : Reals.truncate (90 / 360) = 0 := by
    rw [Reals.truncate_of_nonneg (by norm_num), Int.floor_eq_zero_iff]
    norm_num
  refine ⟨_, hsensors, ?_, ?_, ?_, rfl⟩
  · rw [Sensor.mount, Reals.least_eq]
    norm_num [Rules.standard]
  · simp [Sensor.mount, Angle.ofDegrees, Reals.truncate]
  · simp [Sensor.mount, Angle.ofDegrees, hturn]
    ring

theorem spots_watcher {tank : Tank ℝ} {id : Nat}
    (hmade : Tank.ofEntry id watcher Rules.standard = .ok tank) :
    ∀ sensor ∈ tank.sensors, (tank.place ⟨100, 100⟩ 0 0).spots sensor
      (Rules.standard : Rules ℝ).tankRadius ⟨10, 10⟩ = true := by
  obtain ⟨sensor, hsensors, hrange, hangle, hwidth, -⟩ := sensors_watcher hmade
  rw [hsensors, List.forall_mem_singleton]
  have hhalf : sensor.width / 2 = Real.pi / 4 := by
    rw [hwidth]
    ring
  have haxis : sensor.axis 0 0 = 0 := by simp [Sensor.axis, hangle]
  have hnear : Sensor.reaches 50 (Rules.standard : Rules ℝ).tankRadius (Point.lengthSq ⟨10, 10⟩) =
      true := by
    norm_num [Sensor.reaches, Scalar.square, Rules.standard, Point.lengthSq]
  have hcone : Sensor.inCone sensor.width (Sensor.relative 0 ⟨10, 10⟩) = true := by
    simp [Sensor.inCone, Sensor.relative, Point.rotate, hhalf, Real.tan_pi_div_four]
  have hcovers : sensor.covers 0 0 (Rules.standard : Rules ℝ).tankRadius ⟨10, 10⟩ = true := by
    rw [Sensor.covers, haxis, hcone, Bool.true_or]
  simp [Tank.spots, Sensor.detects, Tank.place, hrange, hnear, hcovers]

namespace Sweep

theorem way_eq_displacement {arena : Arena R} (hback : arena.Reversible) (i j : Nat)
    (this that : Tank R) :
    Combat.way arena i j this that = arena.displacement this.position that.position := by
  unfold Combat.way
  split_ifs
  · rfl
  · rw [← hback]

theorem sight_tank_iff {arena : Arena R} {rules : Rules R} {tanks : List (Tank R)} {i : Nat}
    {tank : Tank R} {sensor : Sensor R} :
    sight arena rules tanks i tank sensor .tank = true ↔
      ∃ j that, tanks[j]? = some that ∧ j ≠ i ∧ that.isCrater = false ∧
        tank.spots sensor rules.tankRadius (Combat.way arena i j tank that) = true := by
  simp only [sight, List.any_eq_true, List.mem_range, Bool.and_eq_true, bne_iff_ne]
  constructor
  · rintro ⟨j, hj, hne, hbeholds⟩
    obtain ⟨that, hthat⟩ : ∃ that, tanks[j]? = some that := ⟨_, List.getElem?_eq_getElem hj⟩
    simp only [beholds, hthat, Option.any_some, Bool.and_eq_true, Bool.not_eq_true'] at hbeholds
    exact ⟨j, that, hthat, hne, hbeholds.1, hbeholds.2⟩
  · rintro ⟨j, that, hthat, hne, hlive, hspots⟩
    refine ⟨j, (List.getElem?_eq_some_iff.mp hthat).1, hne, ?_⟩
    rw [beholds_of_live arena rules i hthat hlive, hspots]

-- What a tank sees does not depend on the order of the others or of the pillars.
theorem sight_reordered {arena : Arena R} {rules : Rules R} (hback : arena.Reversible)
    {places : Equiv.Perm Nat} {tanks tanks' : List (Tank R)} {pillars : List (Pillar R)}
    (hplaces : Tank.Reordered places tanks tanks') (hpillars : pillars.Perm arena.pillars)
    (k : Nat) (tank : Tank R) (sensor : Sensor R) (kind : ObjectKind) :
    sight { arena with pillars } rules tanks' k (tank.renumber k) sensor kind =
      sight arena rules tanks (places k) tank sensor kind := by
  rw [Bool.eq_iff_iff]
  cases kind with
  | tank =>
      have hback' : ({ arena with pillars } : Arena R).Reversible := hback
      simp only [sight_tank_iff, way_eq_displacement hback, way_eq_displacement hback']
      constructor
      · rintro ⟨j, that, hthat, hne, hlive, hspots⟩
        rw [hplaces j, Option.map_eq_some_iff] at hthat
        obtain ⟨other, hother, rfl⟩ := hthat
        exact ⟨places j, other, hother, places.injective.ne hne, hlive, hspots⟩
      · rintro ⟨j, that, hthat, hne, hlive, hspots⟩
        refine ⟨places.symm j, that.renumber (places.symm j), ?_, ?_, hlive, hspots⟩
        · rw [hplaces, Equiv.apply_symm_apply, hthat, Option.map_some]
        · rintro rfl
          exact hne (places.apply_symm_apply j).symm
  | pillar =>
      simp only [sight, List.any_eq_true, hpillars.mem_iff]
      exact Iff.rfl

omit [Scalar R] in
theorem shown_reordered {places : Equiv.Perm Nat} {tanks tanks' : List (Tank R)}
    (hplaces : Tank.Reordered places tanks tanks')
    {seen seen' : Nat → Tank R → Sensor R → ObjectKind → Bool}
    (hseen : ∀ k tank sensor kind,
      seen' k (tank.renumber k) sensor kind = seen (places k) tank sensor kind) :
    Tank.Reordered places (shown tanks seen) (shown tanks' seen') := by
  intro k
  rw [getElem?_shown, getElem?_shown, hplaces k, Option.map_map, Option.map_map]
  cases tanks[places k]? with
  | none => rfl
  | some tank =>
      have hsame : (tank.renumber k).isCrater = tank.isCrater := rfl
      have hsight : seen' k (tank.renumber k) = seen (places k) tank := by
        funext sensor kind
        exact hseen k tank sensor kind
      simp only [Option.map_some, Function.comp_apply, hsame, hsight]
      split_ifs <;> rfl

variable [MonotoneScalar R] {arena : Arena R} {rules : Rules R} {tanks : List (Tank R)}

theorem within_of_mounted (hrules : rules.check = .ok ())
    (hmounted : ∀ (i : Nat) (tank : Tank R), tanks[i]? = some tank → tank.Mounted rules i) :
    ∀ tank ∈ tanks, tank.Within rules := by
  intro tank htank sensor hsensor
  obtain ⟨i, hi⟩ := List.mem_iff_getElem?.mp htank
  obtain ⟨entry, made, hmade, _, hsensors⟩ := hmounted i tank hi
  obtain ⟨hmount, hvalid⟩ := Tank.sensors_of_ofEntry hmade
  have hblank : { sensor with seen := 0 } ∈ entry.sensors.map (Sensor.mount rules.sensorRange) := by
    rw [← hmount, ← hsensors]
    exact List.mem_map_of_mem hsensor
  obtain ⟨setting, hsetting, hmounts⟩ := List.mem_map.mp hblank
  have hrange : sensor.range = Scalar.least setting.range rules.sensorRange :=
    (congrArg Sensor.range hmounts).symm
  have hlimit := (Rules.check_eq_ok_iff.mp hrules).sensorRange
  rw [hrange]
  exact ⟨MonotoneScalar.least_nonneg (SensorSetting.range_nonneg (hvalid setting hsetting)) hlimit,
    MonotoneScalar.least_le_right hlimit⟩

-- A sweep has no order to it. Each sensor shows what it detects from where everything
-- stands, whatever else the rules allow, and sweeping in another order shows the same.
theorem run_is_sight (hrules : rules.check = .ok ())
    (hmounted : ∀ (i : Nat) (tank : Tank R), tanks[i]? = some tank → tank.Mounted rules i)
    (hclear : ∀ tank ∈ tanks, tank.isCrater = false → ∀ sensor ∈ tank.sensors, sensor.seen = 0)
    (hradii : ∀ pillar ∈ arena.pillars, ((0 : Int) : R) ≤ pillar.radius) :
    run arena rules tanks = shown tanks (sight arena rules tanks) ∧
      (∀ range, rules.sensorRange ≤ range →
        run arena { rules with sensorRange := range } tanks = run arena rules tanks) ∧
      (arena.Reversible →
        (∀ (i j : Nat) (this that : Tank R),
          Combat.way arena i j this that = arena.displacement this.position that.position) ∧
        ∀ (places : Equiv.Perm Nat) (tanks' : List (Tank R)) (pillars : List (Pillar R)),
          Tank.Reordered places tanks tanks' → pillars.Perm arena.pillars →
            Tank.Reordered places (run arena rules tanks)
              (run { arena with pillars } rules tanks')) := by
  have hradius : ((0 : Int) : R) ≤ rules.tankRadius :=
    MonotoneScalar.le_of_lt (Rules.check_eq_ok_iff.mp hrules).tankRadius_pos
  have hwithin := within_of_mounted hrules hmounted
  have hrun := run_eq_shown hradius hwithin hradii hclear
  refine ⟨hrun, fun range hrange => ?_, fun hback => ⟨way_eq_displacement hback, ?_⟩⟩
  · rw [hrun]
    have hwider : ∀ tank ∈ tanks, tank.Within { rules with sensorRange := range } := by
      intro tank htank sensor hsensor
      obtain ⟨hnonneg, hle⟩ := hwithin tank htank sensor hsensor
      exact ⟨hnonneg, MonotoneScalar.le_trans hnonneg hle hrange⟩
    exact run_eq_shown hradius hwider hradii hclear
  · intro places tanks' pillars hplaces hpillars
    have hmoved : ∀ tank' ∈ tanks', ∃ tank ∈ tanks, ∃ id, tank' = tank.renumber id := by
      intro tank' htank'
      obtain ⟨k, hk⟩ := List.mem_iff_getElem?.mp htank'
      rw [hplaces k] at hk
      obtain ⟨tank, htank, rfl⟩ := Option.map_eq_some_iff.mp hk
      exact ⟨tank, List.mem_of_getElem? htank, k, rfl⟩
    have hrun' : run { arena with pillars } rules tanks' =
        shown tanks' (sight { arena with pillars } rules tanks') := by
      refine run_eq_shown hradius ?_ (fun pillar hpillar => hradii pillar (hpillars.mem_iff.mp hpillar)) ?_
      · intro tank' htank'
        obtain ⟨tank, htank, id, rfl⟩ := hmoved tank' htank'
        exact hwithin tank htank
      · intro tank' htank'
        obtain ⟨tank, htank, id, rfl⟩ := hmoved tank' htank'
        exact hclear tank htank
    rw [hrun, hrun']
    exact shown_reordered hplaces (sight_reordered hback hplaces hpillars)

theorem run_is_sight_lookouts :
    lookouts.length = 2 ∧
      run clearing Rules.standard lookouts =
        shown lookouts (sight clearing Rules.standard lookouts) ∧
      (∀ (i j : Nat) (this that : Tank ℝ),
        Combat.way clearing i j this that = clearing.displacement this.position that.position) ∧
      ∃ tank, lookouts[0]? = some tank ∧ tank.sensors ≠ [] ∧ ∀ sensor ∈ tank.sensors,
        sight clearing Rules.standard lookouts 0 tank sensor .tank = true := by
  obtain ⟨this, that, heq, hthis, hthat⟩ := mounted_lookouts
  obtain ⟨hsensors, -⟩ := Tank.sensors_of_ofEntry hthis
  obtain ⟨hsensors', -⟩ := Tank.sensors_of_ofEntry hthat
  have hmounted : ∀ (i : Nat) (tank : Tank ℝ), lookouts[i]? = some tank →
      tank.Mounted Rules.standard i := by
    rw [heq]
    intro i tank hi
    match i, hi with
    | 0, rfl =>
        exact ⟨watcher, this, hthis, rfl, by simp [Tank.place, hsensors, watcher, Sensor.mount]⟩
    | 1, rfl =>
        exact ⟨watcher, that, hthat, rfl, by simp [Tank.place, hsensors', watcher, Sensor.mount]⟩
  have hblank : ∀ tank ∈ lookouts, tank.isCrater = false → ∀ sensor ∈ tank.sensors,
      sensor.seen = 0 := by
    rw [heq]
    simp [Tank.place, hsensors, hsensors', watcher, Sensor.mount]
  have hback : clearing.Reversible :=
    Arena.reversible_of_nonneg (by norm_num [clearing]) (by norm_num [clearing])
  obtain ⟨hrun, -, hways⟩ := run_is_sight (Rules.check_eq_ok_iff.mpr Rules.valid_standard) hmounted
    hblank (by simp [clearing] : ∀ pillar ∈ clearing.pillars, ((0 : Int) : ℝ) ≤ pillar.radius)
  refine ⟨by rw [heq]; rfl, hrun, (hways hback).1, this.place ⟨100, 100⟩ 0 0, by rw [heq]; rfl, ?_, ?_⟩
  · simp [Tank.place, hsensors, watcher]
  · intro sensor hsensor
    rw [sight_tank_iff]
    refine ⟨1, that.place ⟨110, 110⟩ 0 0, by rw [heq]; rfl, by decide, ?_, ?_⟩
    · exact congrArg Option.isSome (Tank.ofEntry_fresh hthat).2
    · have hway : Combat.way clearing 0 1 (this.place ⟨100, 100⟩ 0 0) (that.place ⟨110, 110⟩ 0 0) =
          ⟨10, 10⟩ := by
        norm_num [Combat.way, clearing, Arena.displacement, Arena.shortWay, Tank.place]
      rw [hway]
      exact spots_watcher hthis sensor hsensor

end Sweep

end Skirmish
