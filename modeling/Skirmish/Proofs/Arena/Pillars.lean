import Skirmish.Proofs.Arena.Raising
import Skirmish.Proofs.Rules
import Skirmish.Proofs.Scalar.Bounds

namespace Skirmish

open Binary64

namespace Placement

section Specification

variable {R : Type} [Scalar R]

-- Whether a coordinate is one of a point on the field.
def OnSide (size x : R) : Prop := ((0 : Int) : R) ≤ x ∧ x < size

-- A pillar of the size that the rules ask for, with its center on the field.
structure OnField (rules : Rules R) (arena : Arena R) (pillar : Pillar R) : Prop where
  finite : Scalar.isFinite pillar.radius = true
  min_le : rules.pillarMinRadius ≤ pillar.radius
  le_max : pillar.radius ≤ rules.pillarMaxRadius
  x : OnSide arena.width pillar.position.x
  y : OnSide arena.height pillar.position.y

-- A margin that ends on the field, and has no infinite span beyond it.
structure Inset (size margin : R) : Prop where
  onSide : OnSide size margin
  finite : Scalar.isFinite (span size margin) = true

end Specification

section Sides

variable {size margin u : Float}

theorem span_cases (size margin : Float) :
    span size margin = Float.ofNat 1 ∨
      Float.ofNat 1 < size - Float.ofNat 2 * margin ∧
        span size margin = size - Float.ofNat 2 * margin := by
  change Scalar.greatest (size - Float.ofNat 2 * margin) (Float.ofNat 1) = _ ∨ _ ∧
    Scalar.greatest (size - Float.ofNat 2 * margin) (Float.ofNat 1) = _
  unfold Scalar.greatest
  split_ifs with hspan hone hless
  · exact .inl rfl
  · exact absurd hone (Bool.eq_false_iff.mp (place_ofNat 1).1)
  · exact .inr ⟨hless, rfl⟩
  · exact .inl rfl

-- A spot lies at the margin, or less than the other margin allows beyond it.
theorem exists_offset (hmargin : margin.isFinite = true) (hmargin' : 0 ≤ place margin)
    (hspan : (span size margin).isFinite = true) (hu : u.isFinite = true) (hu' : 0 ≤ place u)
    (hlt : place u < unit) : ∃ k : Int, IsInteger (floor (u * span size margin)) k ∧ 0 ≤ k ∧
      (k = 0 ∨ k * unit < place size - 2 * place margin) := by
  have hunit := unit_pos
  rcases span_cases size margin with hone | ⟨hmore, heq⟩
  · rw [hone] at hspan ⊢
    obtain ⟨k, hk, hk', hpart⟩ := isInteger_floor_part hu hspan hu' hlt
      (place_ofNat_one ▸ Int.natCast_nonneg _)
    refine ⟨k, hk, hk', .inl (hpart.elim id fun hless => ?_)⟩
    rw [place_ofNat_one] at hless
    have hk'' : k < 1 := Int.lt_of_mul_lt_mul_right (a := unit) (by omega) (by omega)
    omega
  · rw [heq] at hspan ⊢
    rw [lt_iff_place (place_ofNat 1).1 (isNaN_of_isFinite hspan), place_ofNat_one] at hmore
    obtain ⟨k, hk, hk', hpart⟩ := isInteger_floor_part hu hspan hu' hlt (by omega)
    refine ⟨k, hk, hk', hpart.imp_right fun hless => ?_⟩
    rw [sub_eq_add_neg_float] at hspan
    obtain ⟨hsize, htwice⟩ := isFinite_of_add hspan
    rw [isFinite_neg] at htwice
    rw [← hk.place_eq, (place_sub hsize htwice).2, place_two_mul hmargin hmargin' htwice] at hless
    rw [← hk.place_eq]
    exact lt_of_lt_odd_settled hk.isFinite hless

-- What is drawn beyond a margin on the field is on the field.
theorem Inset.onSide_drawn (h : Inset size margin) (hu : u.isFinite = true) (hu' : 0 ≤ place u)
    (hlt : place u < unit) : OnSide size (margin + floor (u * span size margin)) := by
  obtain ⟨⟨hnonneg, hless⟩, hspan⟩ := h
  have hmargin := isFinite_of_lt hnonneg hless
  have hmargin' := place_nonneg hnonneg
  obtain ⟨hnumber, hsize, -⟩ := le_iff_place.mp (MonotoneScalar.le_of_lt hless)
  rw [lt_iff_place hnumber hsize] at hless
  obtain ⟨k, hk, hk', hoffset⟩ := exists_offset hmargin hmargin' hspan hu hu' hlt
  have hplace := hk.place_eq
  have hpart : 0 ≤ k * (unit : Int) := mul_nonneg hk' (Int.natCast_nonneg _)
  -- of the two parts, one is nearer to their sum than the far edge is
  have hcloser : min (place margin) (place (floor (u * span size margin))) <
      place size - (place margin + place (floor (u * span size margin))) := by
    rcases hoffset with rfl | hoffset <;> omega
  obtain ⟨hnumber', hlow, hhigh⟩ :=
    place_add_lt hmargin hk.isFinite hmargin' (hplace ▸ hpart) hcloser
  exact ⟨le_iff_place.mpr ⟨(place_ofNat 0).1, hnumber', place_zero.trans_le hlow⟩,
    lt_of_place hnumber' hsize hhigh⟩

-- A margin on which the least draw leaves a spot on the field is on the field itself.
theorem Inset.of_onSide (h : OnSide size (margin + floor (Float.ofNat 0 * span size margin))) :
    Inset size margin := by
  obtain ⟨hnonneg, hless⟩ := h
  obtain ⟨hmargin, hoffset⟩ := isFinite_of_add (isFinite_of_lt hnonneg hless)
  have hspan := isFinite_of_floor_mul hoffset
  have hsum : place (margin + floor (Float.ofNat 0 * span size margin)) = place margin := by
    rw [(place_add hmargin hoffset).2, (isInteger_floor_zero_mul hspan).place_eq, Int.zero_mul,
      Int.add_zero, odd_settled_place hmargin]
  have hnumber := isNaN_of_isFinite hmargin
  obtain ⟨hnumber', hsize, -⟩ := le_iff_place.mp (MonotoneScalar.le_of_lt hless)
  rw [lt_iff_place hnumber' hsize, hsum] at hless
  have hplace := place_nonneg hnonneg
  rw [hsum] at hplace
  exact ⟨⟨le_iff_place.mpr ⟨(place_ofNat 0).1, hnumber, place_zero.trans_le hplace⟩,
    lt_of_place hnumber hsize hless⟩, hspan⟩

end Sides

-- What is drawn from a finite range is in it.
theorem drawn_mem_range {low high u : Float} (hlow : low.isFinite = true) (hlow' : 0 ≤ place low)
    (hhigh : high.isFinite = true) (hle : place low ≤ place high) (hu : u.isFinite = true)
    (hu' : 0 ≤ place u) (hlt : place u < unit) : (low + floor (u * (high - low))).isFinite = true ∧
      low ≤ low + floor (u * (high - low)) ∧ low + floor (u * (high - low)) ≤ high := by
  obtain ⟨hnumber, hplace⟩ := place_sub hhigh hlow
  have hpeak := natAbs_place_lt hhigh
  have hspread : 0 ≤ place (high - low) ∧ place (high - low) ≤ place high := by
    rw [hplace]
    exact ⟨odd_settled_nonneg (by omega), odd_settled_le_place hhigh (by omega)⟩
  have hfinite : (high - low).isFinite = true := isFinite_of_place hnumber (by omega)
  obtain ⟨k, hk, hk', hpart⟩ := isInteger_floor_part hu hfinite hu' hlt hspread.1
  have hreach : place low + place (floor (u * (high - low))) ≤ place high := by
    rcases hpart with rfl | hless
    · rw [hk.place_eq, Int.zero_mul, Int.add_zero]
      exact hle
    · rw [← hk.place_eq, hplace] at hless
      have hless' := lt_of_lt_odd_settled hk.isFinite hless
      omega
  have hlower := le_add_of_place hlow hk.isFinite
    (hk.place_eq ▸ mul_nonneg hk' (Int.natCast_nonneg _))
  have hupper : low + floor (u * (high - low)) ≤ high := by
    obtain ⟨hnumber', hsum⟩ := place_add hlow hk.isFinite
    refine le_iff_place.mpr ⟨hnumber', isNaN_of_isFinite hhigh, ?_⟩
    rw [hsum]
    exact odd_settled_le_place hhigh hreach
  exact ⟨OrderedScalar.isFinite_of_le hlow hhigh hlower hupper, hlower, hupper⟩

section Pillars

variable {rules : Rules Float} {arena : Arena Float}

theorem onField_drawn (hvalid : rules.Valid) (hmax : rules.pillarMaxRadius.isFinite = true)
    (hwidth : Inset arena.width rules.pillarToWall)
    (hheight : Inset arena.height rules.pillarToWall)
    {G : Type} [Draws Float G] [SoundDraws Float G] (s s' s'' : G) :
    OnField rules arena
      (drawn rules arena (Draws.unit s).1 (Draws.unit s').1 (Draws.unit s'').1) := by
  obtain ⟨hmin, hpos⟩ := Bool.and_eq_true_iff.mp
    (hvalid.positive ("pillar_min_radius", rules.pillarMinRadius) (by simp [Rules.positives]))
  have hmin' := place_nonneg (MonotoneScalar.le_of_lt (of_decide_eq_true hpos))
  have hradii := le_iff_place.mp (OrderedScalar.le_of_not_lt hmax hmin hvalid.pillarRadii)
  obtain ⟨hu, hu', hlt⟩ := SoundDraws.place_unit s
  obtain ⟨hv, hv', hlt'⟩ := SoundDraws.place_unit s'
  obtain ⟨hw, hw', hlt''⟩ := SoundDraws.place_unit s''
  obtain ⟨hfinite, hlow, hhigh⟩ := drawn_mem_range hmin hmin' hmax hradii.2.2 hu hu' hlt
  exact ⟨hfinite, hlow, hhigh, hwidth.onSide_drawn hv hv' hlt', hheight.onSide_drawn hw hw' hlt''⟩

-- A source that only ever draws the least number.
inductive Zeros where
  | zeros

instance : Draws Float Zeros := ⟨fun g => (((0 : Int) : Float), g), fun _ g => (0, g)⟩

instance : SoundDraws Float Zeros where
  unit_nonneg _ := MonotoneScalar.zero_le_zero
  unit_lt_one _ := by
    change Float.ofNat 0 < Float.ofNat 1
    decide +kernel

-- Valid rules put every pillar on the field, whatever is drawn, exactly if their greatest radius is
-- finite and the margin that pillars keep ends on the field itself. Neither is checked.
theorem pillars_on_field_iff (hrules : rules.check = .ok ()) (pillars tanks : Nat) :
    (∀ (G : Type) [Draws Float G] [SoundDraws Float G] (source : G),
      ∀ pillar ∈ ((Arena.sizedFor (tanks + pillars) rules.gridSpacing).populate pillars tanks rules
        source).arena.pillars,
        OnField rules (Arena.sizedFor (tanks + pillars) rules.gridSpacing) pillar) ↔
      pillars = 0 ∨ rules.pillarMaxRadius.isFinite = true ∧
        Inset (Arena.sizedFor (tanks + pillars) rules.gridSpacing).width rules.pillarToWall ∧
        Inset (Arena.sizedFor (tanks + pillars) rules.gridSpacing).height rules.pillarToWall := by
  have hvalid := Rules.check_eq_ok_iff.mp hrules
  generalize Arena.sizedFor (tanks + pillars) rules.gridSpacing = field
  constructor
  · intro h
    rcases Nat.eq_zero_or_pos pillars with hnone | hpillars
    · exact .inl hnone
    · -- the first pillar shows it where all draws are the least
      obtain ⟨hfinite, -, -, hx, hy⟩ :=
        h Zeros .zeros _ (drawn_mem_populate field hpillars tanks rules _)
      have hspread := isFinite_of_floor_mul (isFinite_of_add hfinite).2
      rw [sub_eq_add_neg_float] at hspread
      exact .inr ⟨(isFinite_of_add hspread).1, .of_onSide hx, .of_onSide hy⟩
  · rintro (rfl | ⟨hmax, hwidth, hheight⟩) G _ _ source
    · rw [arena_populate]
      exact List.forall_mem_nil _
    · rw [arena_populate]
      refine forall_raisePillars (fun s s' s'' => ?_) (List.forall_mem_nil _)
      exact onField_drawn hvalid hmax hwidth hheight s s' s''

end Pillars

theorem pillars_on_field_iff_standard : (Rules.standard : Rules Float).check = .ok () ∧
    ∀ pillar ∈ ((Arena.sizedFor (1 + 1) (Rules.standard : Rules Float).gridSpacing).populate 1 1
      Rules.standard (Generator.ofSeed 1)).arena.pillars,
      OnField Rules.standard (Arena.sizedFor (1 + 1) (Rules.standard : Rules Float).gridSpacing)
        pillar := by
  have hrules : (Rules.standard : Rules Float).check = .ok () := by decide +kernel
  refine ⟨hrules, (pillars_on_field_iff hrules 1 1).mpr (.inr ?_) Generator (.ofSeed 1)⟩
  rw [Arena.sizedFor_two]
  exact ⟨by decide +kernel, ⟨⟨by decide +kernel, by decide +kernel⟩, by decide +kernel⟩,
    ⟨by decide +kernel, by decide +kernel⟩, by decide +kernel⟩

-- The standard rules, but for a margin that is wider than most fields.
def walled : Rules Float := { Rules.standard with pillarToWall := ((1000 : Int) : Float) }

-- For two objects, the pillar is far beyond the field's right edge.
theorem pillar_off_field : walled.check = .ok () ∧
    ∃ pillar ∈ ((Arena.sizedFor (1 + 1) walled.gridSpacing).populate 1 1 walled
      (Generator.ofSeed 1)).arena.pillars,
      ¬ OnField walled (Arena.sizedFor (1 + 1) walled.gridSpacing) pillar := by
  have hfirst := drawn_mem_populate (Arena.sizedFor (1 + 1) walled.gridSpacing) Nat.one_pos 1 walled
    (Generator.ofSeed 1)
  refine ⟨by decide +kernel, _, hfirst, ?_⟩
  rw [Arena.sizedFor_two]
  rintro ⟨-, -, -, ⟨-, hx⟩, -⟩
  revert hx
  decide +kernel

end Placement
end Skirmish
