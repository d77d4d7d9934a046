import Skirmish.Proofs.Arena.Roomy
import Skirmish.Proofs.Scalar.Compass
import Skirmish.Proofs.Tank.Contact

namespace Skirmish

-- Where a tank that starts a move clear of all pillars is stopped by one of them: where the
-- move first brings it in touch, or on the spot if that pillar has held it up already.
structure Stop (arena : Arena ℝ) (tankRadius : ℝ) (heldBy : Option Nat) (start step : Point ℝ)
    (k : Nat) (pillar : Pillar ℝ) (part : ℝ) : Prop where
  stands : arena.pillars[k]? = some pillar
  within : arena.distance (arena.wrap (start.along step 1)) pillar.position ≤
    pillar.reach tankRadius
  held : heldBy = some k → part = 0
  first : heldBy ≠ some k →
    FirstTouch start step (start + arena.displacement start pillar.position)
      (pillar.reach tankRadius) part

namespace Stop

variable {arena : Arena ℝ} {tankRadius : ℝ} {heldBy : Option Nat} {start step : Point ℝ} {k : Nat}
  {pillar : Pillar ℝ} {part : ℝ}

theorem mem (h : Stop arena tankRadius heldBy start step k pillar part) :
    part ∈ Set.Icc (0 : ℝ) 1 := by
  by_cases hheld : heldBy = some k
  · rw [h.held hheld]
    exact Set.left_mem_Icc.mpr zero_le_one
  · exact (h.first hheld).mem

section Roomy

variable (h : Stop arena tankRadius heldBy start step k pillar part)
  (hroom : arena.Roomy tankRadius √step.lengthSq) (hstart : arena.Encloses start)

include h hroom hstart

-- On the way to where it stops, a tank is within reach of no other pillar.
theorem eq_of_within {j : Nat} {other : Pillar ℝ} (hj : arena.pillars[j]? = some other) {t : ℝ}
    (ht : t ∈ Set.Icc (0 : ℝ) 1)
    (hwithin : arena.distance (arena.wrap (start.along step t)) other.position ≤
      other.reach tankRadius) : j = k :=
  hroom.eq_of_within hstart hj h.stands ht (Set.right_mem_Icc.mpr zero_le_one) hwithin h.within

theorem distance_eq (hfree : heldBy ≠ some k) :
    arena.distance (arena.wrap (start.along step part)) pillar.position =
      pillar.reach tankRadius := by
  have hpillar := List.mem_of_getElem? h.stands
  have htouch := (h.first hfree).touches
  rw [hroom.distance_along hstart hpillar h.mem
    ((hroom.within_iff hstart hpillar h.mem).mpr htouch.not_gt), Point.distance, htouch]
  exact Real.sqrt_mul_self (hroom.reach_nonneg pillar hpillar)

-- Before it stops, a tank that is not held up is within reach of no pillar.
theorem far_before (hfree : heldBy ≠ some k) {t : ℝ} (ht : t ∈ Set.Ico 0 part) :
    ∀ other ∈ arena.pillars, other.reach tankRadius <
      arena.distance (arena.wrap (start.along step t)) other.position := by
  have hmem : t ∈ Set.Icc (0 : ℝ) 1 := ⟨ht.1, ht.2.le.trans h.mem.2⟩
  intro other hother
  obtain ⟨j, hj⟩ := List.mem_iff_getElem?.mp hother
  by_contra hnear
  rw [not_lt] at hnear
  obtain rfl := h.eq_of_within hroom hstart hj hmem hnear
  obtain rfl := Option.some.inj (hj.symm.trans h.stands)
  exact (hroom.within_iff hstart hother hmem).mp hnear ((h.first hfree).before t ht)

theorem clear (hclear : arena.Clear tankRadius start) :
    arena.Clear tankRadius (arena.wrap (start.along step part)) := by
  intro other hother
  obtain ⟨j, hj⟩ := List.mem_iff_getElem?.mp hother
  by_contra hnear
  rw [not_le] at hnear
  obtain rfl := h.eq_of_within hroom hstart hj h.mem hnear.le
  obtain rfl := Option.some.inj (hj.symm.trans h.stands)
  by_cases hheld : heldBy = some j
  · rw [hroom.distance_along hstart hother h.mem hnear.le, h.held hheld, Point.along_zero,
      Arena.distance_add_displacement] at hnear
    exact absurd (hclear other hother) (not_le.mpr hnear)
  · exact hnear.ne (h.distance_eq hroom hstart hheld)

end Roomy

end Stop

namespace Compass

variable (c : Compass)

theorem exists_straightContact {start center : Point ℝ} {heading length reach : ℝ}
    (hstart : reach * reach ≤ start.distanceSq center)
    (hend : (start.along (c.step heading length) 1).distanceSq center ≤ reach * reach) :
    ∃ part, @Tank.straightContact ℝ c.scalar start heading center reach =
        start.along (c.step heading length) part ∧
      FirstTouch start (c.step heading length) center reach part := by
  rcases le_or_gt |c.tan heading| Tank.steepest with hsloped | hsteep
  · have hcontact : @Tank.straightContact ℝ c.scalar start heading center reach =
        Tank.slopedContact (c.tan heading) start center reach := if_neg hsloped.not_gt
    rw [hcontact]
    exact exists_slopedContact (c.step_of_sloped hsloped) hstart hend
  · have hcontact : @Tank.straightContact ℝ c.scalar start heading center reach =
        Tank.verticalContact start center reach := if_pos hsteep
    rw [hcontact]
    exact exists_verticalContact (c.step_of_vertical hsteep) hstart hend

section Stopping

variable {arena : Arena ℝ} {tankRadius length : ℝ} (heldBy : Option Nat) {tank : Tank ℝ}
  (hroom : arena.Roomy tankRadius √(c.step tank.heading length).lengthSq)
  (hstart : arena.Encloses tank.position)

include hroom hstart

-- Pillars out of reach leave a tank alone.
theorem stopAt_of_far {pillar : Pillar ℝ} {k : Nat} (hpillar : pillar ∈ arena.pillars) {t : ℝ}
    (ht : t ∈ Set.Icc (0 : ℝ) 1)
    (hnext : tank.next = arena.wrap (tank.position.along (c.step tank.heading length) t))
    (hfar : pillar.reach tankRadius < arena.distance tank.next pillar.position) :
    @Tank.stopAt ℝ c.scalar arena tankRadius heldBy tank (pillar, k) = tank := by
  rw [← not_le, hroom.meets_iff hstart hpillar ht hnext, not_not] at hfar
  have hcontact : @Tank.contact? ℝ c.scalar arena tankRadius heldBy tank pillar k = none :=
    if_pos hfar
  unfold Tank.stopAt
  rw [hcontact]

variable (tank) in
theorem foldl_stopAt_of_far {pillars : List (Pillar ℝ × Nat)}
    (hpillars : ∀ pillar ∈ pillars, pillar.1 ∈ arena.pillars) {t : ℝ}
    (ht : t ∈ Set.Icc (0 : ℝ) 1)
    (hnext : tank.next = arena.wrap (tank.position.along (c.step tank.heading length) t))
    (hfar : ∀ pillar ∈ pillars,
      pillar.1.reach tankRadius < arena.distance tank.next pillar.1.position) :
    pillars.foldl (@Tank.stopAt ℝ c.scalar arena tankRadius heldBy) tank = tank := by
  induction pillars with
  | nil => rfl
  | cons pillar pillars ih =>
      rw [List.forall_mem_cons] at hpillars hfar
      rw [List.foldl_cons, c.stopAt_of_far heldBy hroom hstart hpillars.1 ht hnext hfar.1]
      exact ih hpillars.2 hfar.2

-- A pillar within reach of where the move leads stops the tank.
theorem exists_stopAt (hclear : arena.Clear tankRadius tank.position)
    (hstraight : tank.speed.left = tank.speed.right)
    (hnext : tank.next = arena.wrap (tank.position.along (c.step tank.heading length) 1))
    {pillar : Pillar ℝ} {k : Nat} (hk : arena.pillars[k]? = some pillar)
    (hwithin : arena.distance tank.next pillar.position ≤ pillar.reach tankRadius) :
    ∃ part, Stop arena tankRadius heldBy tank.position (c.step tank.heading length) k pillar part ∧
      @Tank.stopAt ℝ c.scalar arena tankRadius heldBy tank (pillar, k) =
        { tank with
          next := arena.wrap (tank.position.along (c.step tank.heading length) part)
          blockedBy := some k } := by
  have hpillar := List.mem_of_getElem? hk
  have hwhole : (1 : ℝ) ∈ Set.Icc (0 : ℝ) 1 := Set.right_mem_Icc.mpr zero_le_one
  have hmet := (hroom.meets_iff hstart hpillar hwhole hnext).mp hwithin
  rw [hnext] at hwithin
  by_cases hheld : heldBy = some k
  · refine ⟨0, ⟨hk, hwithin, fun _ => rfl, fun hfree => absurd hheld hfree⟩, ?_⟩
    have hcontact : @Tank.contact? ℝ c.scalar arena tankRadius heldBy tank pillar k =
        some tank.position := (if_neg hmet).trans (if_pos hheld)
    unfold Tank.stopAt
    rw [hcontact, Point.along_zero]
    rfl
  · have hout := hclear pillar hpillar
    rw [← Arena.distance_add_displacement,
      Point.le_distance_iff (hroom.reach_nonneg pillar hpillar)] at hout
    have hnear := not_lt.mp ((hroom.within_iff hstart hpillar hwhole).mp hwithin)
    obtain ⟨part, hstraightContact, htouch⟩ := c.exists_straightContact hout hnear
    refine ⟨part, ⟨hk, hwithin, fun h => absurd h hheld, fun _ => htouch⟩, ?_⟩
    have hcontact : @Tank.contact? ℝ c.scalar arena tankRadius heldBy tank pillar k =
        some (@Tank.straightContact ℝ c.scalar tank.position tank.heading
          (tank.position + arena.displacement tank.position pillar.position)
          (pillar.reach tankRadius)) :=
      (if_neg hmet).trans ((if_neg hheld).trans (if_pos (decide_eq_true hstraight)))
    unfold Tank.stopAt
    rw [hcontact, hstraightContact]
    rfl

variable (tank) in
-- Of the pillars that a tank is tested against, one at most stops it.
theorem foldl_stopAt (hclear : arena.Clear tankRadius tank.position)
    (hstraight : tank.speed.left = tank.speed.right)
    (hnext : tank.next = arena.wrap (tank.position.along (c.step tank.heading length) 1))
    {pillars : List (Pillar ℝ × Nat)} (hdistinct : (pillars.map Prod.snd).Nodup)
    (hpillars : ∀ pillar ∈ pillars, arena.pillars[pillar.2]? = some pillar.1) :
    ((∀ pillar ∈ pillars,
        pillar.1.reach tankRadius < arena.distance tank.next pillar.1.position) ∧
      pillars.foldl (@Tank.stopAt ℝ c.scalar arena tankRadius heldBy) tank = tank) ∨
    ∃ k pillar part,
      Stop arena tankRadius heldBy tank.position (c.step tank.heading length) k pillar part ∧
      pillars.foldl (@Tank.stopAt ℝ c.scalar arena tankRadius heldBy) tank =
        { tank with
          next := arena.wrap (tank.position.along (c.step tank.heading length) part)
          blockedBy := some k } := by
  induction pillars with
  | nil => exact .inl ⟨by simp, rfl⟩
  | cons entry pillars ih =>
      obtain ⟨pillar, k⟩ := entry
      rw [List.forall_mem_cons] at hpillars
      rw [List.map_cons, List.nodup_cons] at hdistinct
      have hpillar := List.mem_of_getElem? hpillars.1
      rw [List.foldl_cons]
      rcases lt_or_ge (pillar.reach tankRadius) (arena.distance tank.next pillar.position) with
        hfar | hwithin
      · have hwhole : (1 : ℝ) ∈ Set.Icc (0 : ℝ) 1 := Set.right_mem_Icc.mpr zero_le_one
        rw [c.stopAt_of_far heldBy hroom hstart hpillar hwhole hnext hfar, List.forall_mem_cons]
        rcases ih hdistinct.2 hpillars.2 with ⟨hrest, hsame⟩ | hstopped
        · exact .inl ⟨⟨hfar, hrest⟩, hsame⟩
        · exact .inr hstopped
      · obtain ⟨part, hstop, hstopped⟩ :=
          c.exists_stopAt heldBy hroom hstart hclear hstraight hnext hpillars.1 hwithin
        refine .inr ⟨k, pillar, part, hstop, ?_⟩
        rw [hstopped]
        -- where it stands now, the tank is within reach of no pillar that is still to come
        refine c.foldl_stopAt_of_far heldBy { tank with next := _, blockedBy := some k } hroom
          hstart (fun other hother => List.mem_of_getElem? (hpillars.2 other hother)) hstop.mem rfl
          fun other hother => ?_
        by_contra hnear
        rw [not_lt] at hnear
        have hsame := hstop.eq_of_within hroom hstart (hpillars.2 other hother) hstop.mem hnear
        exact hdistinct.1 (List.mem_map.mpr ⟨other, hother, hsame⟩)

omit heldBy in
theorem clampToPillars_cases (hclear : arena.Clear tankRadius tank.position)
    (hstraight : tank.speed.left = tank.speed.right)
    (hnext : tank.next = arena.wrap (tank.position.along (c.step tank.heading length) 1)) :
    ((∀ pillar ∈ arena.pillars,
        pillar.reach tankRadius < arena.distance tank.next pillar.position) ∧
      @Tank.clampToPillars ℝ c.scalar arena tankRadius tank = { tank with blockedBy := none }) ∨
    ∃ k pillar part, Stop arena tankRadius tank.blockedBy tank.position (c.step tank.heading length)
        k pillar part ∧
      @Tank.clampToPillars ℝ c.scalar arena tankRadius tank =
        { tank with
          next := arena.wrap (tank.position.along (c.step tank.heading length) part)
          blockedBy := some k } := by
  have hdistinct : (arena.pillars.zipIdx.map Prod.snd).Nodup := by
    rw [List.zipIdx_map_snd]
    exact List.nodup_range'
  rcases c.foldl_stopAt tank.blockedBy { tank with blockedBy := none } hroom hstart hclear hstraight
    hnext hdistinct fun _ => List.mem_zipIdx_iff_getElem?.mp with ⟨hfar, hsame⟩ | hstopped
  · refine .inl ⟨fun pillar hpillar => ?_, hsame⟩
    obtain ⟨k, hk⟩ := List.mem_iff_getElem?.mp hpillar
    exact hfar (pillar, k) (List.mem_zipIdx_iff_getElem?.mpr hk)
  · exact .inr hstopped

end Stopping

section Clamp

variable {arena : Arena ℝ} {tankRadius length : ℝ} {tank : Tank ℝ}
  (hroom : arena.Roomy tankRadius √(c.step tank.heading length).lengthSq)
  (hstart : arena.Free tankRadius tank.position)
  (hstraight : tank.speed.left = tank.speed.right)
  (hnext : tank.next = arena.wrap (tank.position.along (c.step tank.heading length) 1))

include hroom hstart hstraight hnext

theorem clear_clampToPillars :
    arena.Clear tankRadius (@Tank.clampToPillars ℝ c.scalar arena tankRadius tank).next := by
  rcases c.clampToPillars_cases hroom hstart.encloses hstart.clear hstraight hnext with
    ⟨hfar, hsame⟩ | ⟨k, pillar, part, hstop, hstopped⟩
  · rw [hsame]
    exact fun pillar hpillar => (hfar pillar hpillar).le
  · rw [hstopped]
    exact hstop.clear hroom hstart.encloses hstart.clear

-- A tank is held up if and only if its move would have ended within reach of a pillar.
theorem isSome_blockedBy_iff :
    (@Tank.clampToPillars ℝ c.scalar arena tankRadius tank).blockedBy.isSome = true ↔
      ∃ pillar ∈ arena.pillars,
        arena.distance tank.next pillar.position ≤ pillar.reach tankRadius := by
  rcases c.clampToPillars_cases hroom hstart.encloses hstart.clear hstraight hnext with
    ⟨hfar, hsame⟩ | ⟨k, pillar, part, hstop, hstopped⟩
  · rw [hsame]
    refine iff_of_false Bool.false_ne_true ?_
    rintro ⟨pillar, hpillar, hwithin⟩
    exact absurd hwithin (hfar pillar hpillar).not_ge
  · rw [hstopped]
    refine iff_of_true rfl ⟨pillar, List.mem_of_getElem? hstop.stands, ?_⟩
    rw [hnext]
    exact hstop.within

theorem next_clampToPillars
    (hfar : ∀ pillar ∈ arena.pillars,
      pillar.reach tankRadius < arena.distance tank.next pillar.position) :
    (@Tank.clampToPillars ℝ c.scalar arena tankRadius tank).next = tank.next := by
  rcases c.clampToPillars_cases hroom hstart.encloses hstart.clear hstraight hnext with
    ⟨-, hsame⟩ | ⟨k, pillar, part, hstop, hstopped⟩
  · rw [hsame]
  · have hwithin := hstop.within
    rw [← hnext] at hwithin
    exact absurd hwithin (hfar pillar (List.mem_of_getElem? hstop.stands)).not_ge

-- A tank that nothing has held up before stops where it first touches a pillar.
theorem first_clampToPillars (hfree : tank.blockedBy = none) {pillar : Pillar ℝ}
    (hpillar : pillar ∈ arena.pillars)
    (hwithin : arena.distance tank.next pillar.position ≤ pillar.reach tankRadius) :
    ∃ part ∈ Set.Icc (0 : ℝ) 1,
      (@Tank.clampToPillars ℝ c.scalar arena tankRadius tank).next =
        arena.wrap (tank.position.along (c.step tank.heading length) part) ∧
      (∃ touched ∈ arena.pillars, touched.reach tankRadius = arena.distance
        (@Tank.clampToPillars ℝ c.scalar arena tankRadius tank).next touched.position) ∧
      ∀ t ∈ Set.Ico 0 part, ∀ other ∈ arena.pillars, other.reach tankRadius <
        arena.distance (arena.wrap (tank.position.along (c.step tank.heading length) t))
          other.position := by
  rcases c.clampToPillars_cases hroom hstart.encloses hstart.clear hstraight hnext with
    ⟨hfar, -⟩ | ⟨k, touched, part, hstop, hstopped⟩
  · exact absurd hwithin (hfar pillar hpillar).not_ge
  · have hnew : tank.blockedBy ≠ some k := by
      rw [hfree]
      exact (Option.some_ne_none k).symm
    refine ⟨part, hstop.mem, by rw [hstopped], ⟨touched, List.mem_of_getElem? hstop.stands, ?_⟩,
      fun t ht => hstop.far_before hroom hstart.encloses hnew ht⟩
    rw [hstopped]
    exact (hstop.distance_eq hroom hstart.encloses hnew).symm

end Clamp

end Compass

end Skirmish
