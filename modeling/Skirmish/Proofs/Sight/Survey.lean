import Skirmish.Proofs.Sight.Glimpses

namespace Skirmish

variable {R : Type} [Scalar R]

-- Whether a sensor of the tank detects a round target at an offset from it.
def Tank.spots (tank : Tank R) (sensor : Sensor R) (radius : R) (offset : Point R) : Bool :=
  sensor.detects tank.heading tank.turret.angle radius offset.lengthSq offset

namespace Sweep

-- Whether a sensor of the tank on one place detects a live tank on another.
def beholds (arena : Arena R) (rules : Rules R) (tanks : List (Tank R)) (i j : Nat) (tank : Tank R)
    (sensor : Sensor R) : Bool :=
  tanks[j]?.any fun that =>
    !that.isCrater && tank.spots sensor rules.tankRadius (Combat.way arena i j tank that)

-- What a sensor of the tank on one place sees, read off where everything stands:
-- a tank if it detects some other live tank, and a pillar if it detects some pillar.
def sight (arena : Arena R) (rules : Rules R) (tanks : List (Tank R)) (i : Nat) (tank : Tank R)
    (sensor : Sensor R) : ObjectKind → Bool
  | .tank =>
    (List.range tanks.length).any fun j => j != i && beholds arena rules tanks i j tank sensor
  | .pillar =>
    arena.pillars.any fun pillar =>
      tank.spots sensor pillar.radius (arena.displacement tank.position pillar.position)

-- What a single sighting adds to that.
def glimpse (arena : Arena R) (rules : Rules R) (tanks : List (Tank R)) (i : Nat) (tank : Tank R)
    (sensor : Sensor R) : Sighting R → ObjectKind → Bool
  | .tanks first second, .tank =>
    (decide (i = first) && beholds arena rules tanks first second tank sensor)
      || (decide (i = second) && beholds arena rules tanks second first tank sensor)
  | .pillar place pillar, .pillar =>
    decide (i = place) &&
      tank.spots sensor pillar.radius (arena.displacement tank.position pillar.position)
  | _, _ => false

theorem beholds_of_crater (arena : Arena R) (rules : Rules R) {tanks : List (Tank R)} (i : Nat)
    {j : Nat} {that : Tank R} (hj : tanks[j]? = some that) (hcrater : that.isCrater = true)
    (tank : Tank R) (sensor : Sensor R) : beholds arena rules tanks i j tank sensor = false := by
  simp [beholds, hj, hcrater]

theorem beholds_of_live (arena : Arena R) (rules : Rules R) {tanks : List (Tank R)} (i : Nat)
    {j : Nat} {that : Tank R} (hj : tanks[j]? = some that) (hlive : that.isCrater = false)
    (tank : Tank R) (sensor : Sensor R) : beholds arena rules tanks i j tank sensor =
      tank.spots sensor rules.tankRadius (Combat.way arena i j tank that) := by
  simp [beholds, hj, hlive]

-- The places of a sighting are in the list.
def Fits (count : Nat) : Sighting R → Prop
  | .tanks first second => first < second ∧ second < count
  | .pillar place _ => place < count

omit [Scalar R] in
theorem mem_schedule {count : Nat} {pillars : List (Pillar R)} {sighting : Sighting R} :
    sighting ∈ schedule count pillars ↔
      (∃ first second, first < second ∧ second < count ∧ sighting = .tanks first second) ∨
        ∃ place < count, ∃ pillar ∈ pillars, sighting = .pillar place pillar := by
  simp only [schedule, pairsFrom, List.mem_flatMap, List.mem_range, List.mem_append, List.mem_map,
    List.mem_range'_1]
  constructor
  · rintro ⟨i, hi, ⟨_, ⟨j, hj, rfl⟩, rfl⟩ | ⟨pillar, hpillar, rfl⟩⟩
    · exact .inl ⟨i, j, by omega, by omega, rfl⟩
    · exact .inr ⟨i, hi, pillar, hpillar, rfl⟩
  · rintro (⟨i, j, hij, hj, rfl⟩ | ⟨i, hi, pillar, hpillar, rfl⟩)
    · exact ⟨i, by omega, .inl ⟨(i, j), ⟨j, by omega, rfl⟩, rfl⟩⟩
    · exact ⟨i, hi, .inr ⟨pillar, hpillar, rfl⟩⟩

omit [Scalar R] in
theorem fits_of_mem_schedule {count : Nat} {pillars : List (Pillar R)} {sighting : Sighting R}
    (h : sighting ∈ schedule count pillars) : Fits count sighting := by
  rcases mem_schedule.mp h with ⟨i, j, hij, hj, rfl⟩ | ⟨i, hi, pillar, _, rfl⟩
  · exact ⟨hij, hj⟩
  · exact hi

-- All sightings together see what there is to see.
theorem any_glimpse_schedule {arena : Arena R} {rules : Rules R} {tanks : List (Tank R)} {i : Nat}
    (hi : i < tanks.length) (tank : Tank R) (sensor : Sensor R) (kind : ObjectKind) :
    ((schedule tanks.length arena.pillars).any fun sighting =>
      glimpse arena rules tanks i tank sensor sighting kind) =
      sight arena rules tanks i tank sensor kind := by
  rw [Bool.eq_iff_iff, List.any_eq_true]
  cases kind with
  | tank =>
      simp only [sight, List.any_eq_true, List.mem_range, Bool.and_eq_true, bne_iff_ne]
      constructor
      · rintro ⟨sighting, hmem, hglimpse⟩
        rcases mem_schedule.mp hmem with ⟨first, second, hlt, hsecond, rfl⟩ | ⟨_, _, _, _, rfl⟩
        · simp only [glimpse, Bool.or_eq_true, Bool.and_eq_true, decide_eq_true_eq] at hglimpse
          rcases hglimpse with ⟨rfl, hbeholds⟩ | ⟨rfl, hbeholds⟩
          · exact ⟨second, hsecond, by omega, hbeholds⟩
          · exact ⟨first, by omega, by omega, hbeholds⟩
        · contradiction
      · rintro ⟨j, hj, hne, hbeholds⟩
        rcases Nat.lt_or_gt_of_ne hne with hlt | hgt
        · refine ⟨.tanks j i, mem_schedule.mpr (.inl ⟨j, i, hlt, hi, rfl⟩), ?_⟩
          simp [glimpse, hbeholds]
        · refine ⟨.tanks i j, mem_schedule.mpr (.inl ⟨i, j, hgt, hj, rfl⟩), ?_⟩
          simp [glimpse, hbeholds]
  | pillar =>
      simp only [sight, List.any_eq_true]
      constructor
      · rintro ⟨sighting, hmem, hglimpse⟩
        rcases mem_schedule.mp hmem with ⟨_, _, _, _, rfl⟩ | ⟨place, _, pillar, hpillar, rfl⟩
        · contradiction
        · exact ⟨pillar, hpillar, (Bool.and_eq_true_iff.mp hglimpse).2⟩
      · rintro ⟨pillar, hpillar, hspots⟩
        refine ⟨.pillar i pillar, mem_schedule.mpr (.inr ⟨i, hi, pillar, hpillar, rfl⟩), ?_⟩
        simp [glimpse, hspots]

variable [MonotoneScalar R] {arena : Arena R} {rules : Rules R} {tanks : List (Tank R)}
  {seen : Nat → Tank R → Sensor R → ObjectKind → Bool}

-- One live tank looks at one target.
theorem modify_sense_shown {i : Nat} {tank : Tank R} (hi : tanks[i]? = some tank)
    (hlive : tank.isCrater = false) (hwithin : tank.Within rules) {radius : R}
    (hradius : ((0 : Int) : R) ≤ radius) {offset : Point R} {distanceSq : R}
    (hdistance : distanceSq = offset.lengthSq) (kind : ObjectKind) :
    (shown tanks seen).modify i (Tank.sense rules offset distanceSq radius kind) =
      shown tanks fun k other sensor kind' => seen k other sensor kind' ||
        (decide (k = i) && (decide (kind' = kind) && tank.spots sensor radius offset)) := by
  subst hdistance
  apply modify_shown hi hlive
  · rw [Tank.sense_beholding hwithin hradius]
    apply Tank.beholding_congr
    intro sensor _ kind'
    rw [decide_eq_true rfl, Bool.true_and]
    rfl
  · intro k hk
    funext other sensor kind'
    rw [decide_eq_false hk, Bool.false_and, Bool.or_false]

omit [MonotoneScalar R] in
theorem see_tanks_of_crater (arena : Arena R) (rules : Rules R) {tanks : List (Tank R)} {i j : Nat}
    {this that : Tank R} (hi : tanks[i]? = some this) (hj : tanks[j]? = some that)
    (hcrater : (this.isCrater || that.isCrater) = true) :
    see arena rules tanks (.tanks i j) = tanks := by
  simp only [see, hi, hj, hcrater, if_true]

omit [MonotoneScalar R] in
-- Two tanks of which one is a crater show live tanks nothing.
theorem glimpse_of_crater (arena : Arena R) (rules : Rules R) {tanks : List (Tank R)} {i j k : Nat}
    {this that tank : Tank R} (hi : tanks[i]? = some this) (hj : tanks[j]? = some that)
    (hcrater : (this.isCrater || that.isCrater) = true) (hk : tanks[k]? = some tank)
    (hlive : tank.isCrater = false) (sensor : Sensor R) (kind : ObjectKind) :
    glimpse arena rules tanks k tank sensor (.tanks i j) kind = false := by
  cases kind with
  | pillar => rfl
  | tank =>
      rw [glimpse, Bool.or_eq_false_iff, Bool.and_eq_false_imp, Bool.and_eq_false_imp]
      simp only [decide_eq_true_eq]
      constructor
      · rintro rfl
        cases hi.symm.trans hk
        rw [hlive, Bool.false_or] at hcrater
        exact beholds_of_crater arena rules k hj hcrater this sensor
      · rintro rfl
        cases hj.symm.trans hk
        rw [hlive, Bool.or_false] at hcrater
        exact beholds_of_crater arena rules k hi hcrater that sensor

omit [MonotoneScalar R] in
-- Two live tanks show each other, at the offset that the first of them measures.
theorem glimpse_of_live (arena : Arena R) (rules : Rules R) {tanks : List (Tank R)} {i j k : Nat}
    (hij : i < j) {this that tank : Tank R} (hi : tanks[i]? = some this)
    (hj : tanks[j]? = some that) (hthis : this.isCrater = false) (hthat : that.isCrater = false)
    (hk : tanks[k]? = some tank) (sensor : Sensor R) (kind : ObjectKind) :
    glimpse arena rules tanks k tank sensor (.tanks i j) kind =
      ((decide (k = i) && (decide (kind = .tank) && this.spots sensor rules.tankRadius
          (arena.displacement this.position that.position))) ||
        (decide (k = j) && (decide (kind = .tank) && that.spots sensor rules.tankRadius
          (-arena.displacement this.position that.position)))) := by
  have hway : Combat.way arena i j this that = arena.displacement this.position that.position :=
    if_pos hij
  have hback : Combat.way arena j i that this = -arena.displacement this.position that.position :=
    if_neg (Nat.not_lt_of_gt hij)
  cases kind with
  | pillar => simp [glimpse]
  | tank =>
      simp only [glimpse, decide_true, Bool.true_and]
      congr 1
      · by_cases hki : k = i
        · subst hki
          cases hi.symm.trans hk
          rw [beholds_of_live arena rules k hj hthat, hway]
        · rw [decide_eq_false hki, Bool.false_and, Bool.false_and]
      · by_cases hkj : k = j
        · subst hkj
          cases hj.symm.trans hk
          rw [beholds_of_live arena rules k hi hthis, hback]
        · rw [decide_eq_false hkj, Bool.false_and, Bool.false_and]

-- Two tanks look at each other.
theorem see_tanks_shown (hradius : ((0 : Int) : R) ≤ rules.tankRadius)
    (hwithin : ∀ tank ∈ tanks, tank.Within rules) {i j : Nat} (hij : i < j) (hj : j < tanks.length) :
    see arena rules (shown tanks seen) (.tanks i j) =
      shown tanks fun k tank sensor kind => seen k tank sensor kind ||
        glimpse arena rules tanks k tank sensor (.tanks i j) kind := by
  obtain ⟨this, hthis⟩ : ∃ this, tanks[i]? = some this :=
    ⟨_, List.getElem?_eq_getElem (Nat.lt_trans hij hj)⟩
  obtain ⟨that, hthat⟩ : ∃ that, tanks[j]? = some that := ⟨_, List.getElem?_eq_getElem hj⟩
  cases hcrater : this.isCrater || that.isCrater with
  | true =>
      obtain ⟨this', hthis', hsame⟩ := exists_shown seen hthis
      obtain ⟨that', hthat', hsame'⟩ := exists_shown seen hthat
      rw [see_tanks_of_crater arena rules hthis' hthat' (by rw [hsame, hsame', hcrater])]
      apply shown_congr
      intro k tank hk hlive sensor _ kind
      rw [glimpse_of_crater arena rules hthis hthat hcrater hk hlive, Bool.or_false]
  | false =>
      obtain ⟨hlive, hlive'⟩ := Bool.or_eq_false_iff.mp hcrater
      rw [see_tanks arena rules (getElem?_shown_of_live hthis hlive)
        (getElem?_shown_of_live hthat hlive') hlive hlive' rfl]
      rw [modify_sense_shown hthis hlive (hwithin this (List.mem_of_getElem? hthis)) hradius rfl,
        modify_sense_shown hthat hlive' (hwithin that (List.mem_of_getElem? hthat)) hradius
          (MonotoneScalar.lengthSq_neg _).symm]
      apply shown_congr
      intro k tank hk _ sensor _ kind
      rw [glimpse_of_live arena rules hij hthis hthat hlive hlive' hk, Bool.or_assoc]
      rfl

-- A tank looks at a pillar.
theorem see_pillar_shown (hwithin : ∀ tank ∈ tanks, tank.Within rules) {i : Nat}
    (hi : i < tanks.length) {pillar : Pillar R} (hradius : ((0 : Int) : R) ≤ pillar.radius) :
    see arena rules (shown tanks seen) (.pillar i pillar) =
      shown tanks fun k tank sensor kind => seen k tank sensor kind ||
        glimpse arena rules tanks k tank sensor (.pillar i pillar) kind := by
  obtain ⟨tank, htank⟩ : ∃ tank, tanks[i]? = some tank := ⟨_, List.getElem?_eq_getElem hi⟩
  cases hcrater : tank.isCrater with
  | true =>
      obtain ⟨after, hafter, hsame⟩ := exists_shown seen htank
      simp only [see, hafter, hsame, hcrater, if_true]
      apply shown_congr
      intro k other hk hlive sensor _ kind
      have hki : k ≠ i := by
        rintro rfl
        cases htank.symm.trans hk
        rw [hcrater] at hlive
        contradiction
      cases kind <;> simp [glimpse, hki]
  | false =>
      rw [see_pillar arena rules (getElem?_shown_of_live htank hcrater) hcrater pillar rfl]
      rw [modify_sense_shown htank hcrater (hwithin tank (List.mem_of_getElem? htank)) hradius rfl]
      apply shown_congr
      intro k other hk _ sensor _ kind
      congr 1
      cases kind with
      | tank => simp [glimpse]
      | pillar =>
          by_cases hki : k = i
          · subst hki
            cases htank.symm.trans hk
            simp [glimpse, Tank.beholding]
          · simp [glimpse, hki]

-- Every sighting adds what it shows, whatever was seen before.
theorem foldl_see_shown (hradius : ((0 : Int) : R) ≤ rules.tankRadius)
    (hwithin : ∀ tank ∈ tanks, tank.Within rules) {sightings : List (Sighting R)}
    (hfits : ∀ sighting ∈ sightings, Fits tanks.length sighting)
    (hradii : ∀ i pillar, .pillar i pillar ∈ sightings → ((0 : Int) : R) ≤ pillar.radius) :
    sightings.foldl (see arena rules) (shown tanks seen) =
      shown tanks fun k tank sensor kind => seen k tank sensor kind ||
        sightings.any fun sighting => glimpse arena rules tanks k tank sensor sighting kind := by
  induction sightings generalizing seen with
  | nil => simp
  | cons sighting sightings ih =>
      rw [List.forall_mem_cons] at hfits
      have hsee : see arena rules (shown tanks seen) sighting =
          shown tanks fun k tank sensor kind => seen k tank sensor kind ||
            glimpse arena rules tanks k tank sensor sighting kind := by
        cases sighting with
        | tanks i j => exact see_tanks_shown hradius hwithin hfits.1.1 hfits.1.2
        | pillar i pillar => exact see_pillar_shown hwithin hfits.1 (hradii i pillar (by simp))
      rw [List.foldl_cons, hsee,
        ih hfits.2 fun i pillar hmem => hradii i pillar (List.mem_cons_of_mem _ hmem)]
      simp only [List.any_cons, Bool.or_assoc]

omit [Scalar R] [MonotoneScalar R] in
-- Sensors with nothing seen.
theorem shown_nothing
    (hclear : ∀ tank ∈ tanks, tank.isCrater = false → ∀ sensor ∈ tank.sensors, sensor.seen = 0) :
    shown tanks (fun _ _ _ _ => false) = tanks := by
  apply List.ext_getElem?
  intro i
  rw [getElem?_shown]
  cases hi : tanks[i]? with
  | none => rfl
  | some tank =>
      rw [Option.map_some]
      split_ifs with hcrater
      · rfl
      · have hsame : ∀ sensor ∈ tank.sensors,
            { sensor with seen := Sensor.mask fun _ => false } = sensor := by
          intro sensor hsensor
          have hzero : sensor.seen = Sensor.mask fun _ => false :=
            hclear tank (List.mem_of_getElem? hi) (Bool.eq_false_iff.mpr hcrater) sensor hsensor
          rw [← hzero]
        rw [Tank.beholding, List.map_congr_left hsame, List.map_id']

-- A sweep from nothing seen.
theorem run_eq_shown (hradius : ((0 : Int) : R) ≤ rules.tankRadius)
    (hwithin : ∀ tank ∈ tanks, tank.Within rules)
    (hradii : ∀ pillar ∈ arena.pillars, ((0 : Int) : R) ≤ pillar.radius)
    (hclear : ∀ tank ∈ tanks, tank.isCrater = false → ∀ sensor ∈ tank.sensors, sensor.seen = 0) :
    run arena rules tanks = shown tanks (sight arena rules tanks) := by
  have hmem : ∀ i pillar, .pillar i pillar ∈ schedule tanks.length arena.pillars →
      ((0 : Int) : R) ≤ pillar.radius := by
    intro i pillar h
    rcases mem_schedule.mp h with ⟨_, _, _, _, heq⟩ | ⟨_, _, other, hother, heq⟩
    · contradiction
    · cases heq
      exact hradii pillar hother
  have hfold : (schedule tanks.length arena.pillars).foldl (see arena rules)
      (shown tanks fun _ _ _ _ => false) = _ :=
    foldl_see_shown hradius hwithin (fun _ => fits_of_mem_schedule) hmem
  rw [shown_nothing hclear] at hfold
  rw [run, hfold]
  apply shown_congr
  intro i tank hi _ sensor _ kind
  rw [Bool.false_or, any_glimpse_schedule (List.getElem?_eq_some_iff.mp hi).1]

end Sweep

end Skirmish
