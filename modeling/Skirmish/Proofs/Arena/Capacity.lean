import Skirmish.Proofs.Arena.Sizing
import Skirmish.Proofs.Arena.Spacing
import Skirmish.Proofs.Draws
import Skirmish.Proofs.Geometry.Plane
import Skirmish.Proofs.Rules

namespace Skirmish

theorem length_le_length_filter_add_one {α : Type} {xs : List α} (hnodup : xs.Nodup)
    {p : α → Bool} (h : ∀ a ∈ xs, ∀ b ∈ xs, p a = false → p b = false → a = b) :
    xs.length ≤ (xs.filter p).length + 1 := by
  have hsplit := xs.length_eq_length_filter_add p
  have hmem : ∀ a ∈ xs.filter (!p ·), a ∈ xs ∧ p a = false := by simp
  have hfew : (xs.filter (!p ·)).length ≤ 1 := by
    have hfailed := hnodup.filter (!p ·)
    match hlist : xs.filter (!p ·) with
    | [] => simp
    | [_] => simp
    | a :: b :: rest =>
        rw [hlist] at hmem hfailed
        obtain ⟨ha, hpa⟩ := hmem a (by simp)
        obtain ⟨hb, hpb⟩ := hmem b (by simp)
        exact absurd (h a ha b hb hpa hpb) (by rintro rfl; simp at hfailed)
  omega

-- Obstacles that each crowd at most one place leave all the others free.
theorem length_le_length_clear {α β : Type} {xs : List α} (hnodup : xs.Nodup)
    (clear : α → β → Bool) (obstacles : List β)
    (h : ∀ o ∈ obstacles, ∀ a ∈ xs, ∀ b ∈ xs, clear a o = false → clear b o = false → a = b) :
    xs.length ≤ (xs.filter fun a => obstacles.all (clear a)).length + obstacles.length := by
  induction obstacles with
  | nil => simp
  | cons o obstacles ih =>
      rw [List.forall_mem_cons] at h
      have hrest := ih h.2
      have hone := length_le_length_filter_add_one
        (hnodup.filter fun a => obstacles.all (clear a)) (p := (clear · o)) fun a ha b hb =>
          h.1 a (List.mem_of_mem_filter ha) b (List.mem_of_mem_filter hb)
      rw [List.filter_filter] at hone
      simp only [List.all_cons, List.length_cons]
      omega

namespace Arena

theorem sizedFor_pos {spacing : ℝ} (hspacing : 0 < spacing) (objects : Nat) :
    0 < (sizedFor objects spacing).width ∧ 0 < (sizedFor objects spacing).height := by
  have hcolumns := columns_pos objects
  have hrows := rows_pos objects
  simp only [sizedFor, Int.cast_natCast]
  constructor <;> positivity

end Arena

namespace Placement

theorem length_cells_sizedFor {rules : Rules ℝ} (hspacing : 0 < rules.gridSpacing) {objects : Nat}
    {arena : Arena ℝ} (hwidth : arena.width = (Arena.sizedFor objects rules.gridSpacing).width)
    (hheight : arena.height = (Arena.sizedFor objects rules.gridSpacing).height) :
    (cells rules arena).length = Arena.rows objects * Arena.columns objects := by
  have hcount : ∀ n : Nat, (Scalar.truncate (Scalar.floor
      (((n : Int) : ℝ) * rules.gridSpacing / rules.gridSpacing))).toNat = n := by
    intro n
    rw [mul_div_cancel_right₀ _ hspacing.ne', Reals.floor_eq, Reals.truncate_eq,
      Reals.truncate_intCast, Int.floor_intCast, Int.toNat_natCast]
  rw [cells, hwidth, hheight, List.length_product, List.length_range, List.length_range]
  exact congrArg₂ (· * ·) (hcount _) (hcount _)

-- The radii that pillars may have.
def Stout (rules : Rules ℝ) (pillar : Pillar ℝ) : Prop :=
  rules.pillarMinRadius ≤ pillar.radius ∧ pillar.radius ≤ rules.pillarMaxRadius

variable {G : Type} [Draws ℝ G] [SoundDraws ℝ G]

theorem stout_raisePillars {rules : Rules ℝ} (hradii : rules.pillarMinRadius ≤ rules.pillarMaxRadius)
    {count index : Nat} {arena : Arena ℝ} {g : G} (h : ∀ pillar ∈ arena.pillars, Stout rules pillar) :
    ∀ pillar ∈ (raisePillars rules count index arena g).2.1.pillars, Stout rules pillar := by
  have hspread : 0 ≤ rules.pillarMaxRadius - rules.pillarMinRadius := sub_nonneg.mpr hradii
  refine forall_raisePillars (fun s _ _ => ?_) h
  rw [Stout, radius_drawn, Reals.floor_eq]
  have hlow := SoundDraws.floor_mul_nonneg s hspread
  have hhigh := SoundDraws.floor_mul_le s hspread
  exact ⟨by linarith, by linarith⟩

omit [Draws ℝ G] [SoundDraws ℝ G] in
-- A pillar crowds the centre of one cell at most, if cells are wide enough.
theorem eq_of_crowded {rules : Rules ℝ} (hradius : 0 < rules.tankRadius)
    (hmin : 0 < rules.pillarMinRadius)
    (hroom : 2 * (rules.tankRadius + rules.pillarMaxRadius + ObjectKind.spacing .tank .pillar) <
      rules.gridSpacing)
    {pillar : Pillar ℝ} (hstout : Stout rules pillar) {cell cell' : Nat × Nat}
    (h : isClear (ofTank rules (centerOf rules cell)) (ofPillar pillar) = false)
    (h' : isClear (ofTank rules (centerOf rules cell')) (ofPillar pillar) = false) :
    cell = cell' := by
  by_contra hne
  have hspacing : (0 : ℝ) ≤ ObjectKind.spacing .tank .pillar := by norm_num [ObjectKind.spacing]
  have hnear : ∀ {cell}, isClear (ofTank rules (centerOf rules cell)) (ofPillar pillar) = false →
      (centerOf rules cell).distance pillar.position ≤
        rules.tankRadius + pillar.radius + ObjectKind.spacing .tank .pillar := by
    intro cell h
    rw [Point.distance_le_iff (by linarith [hstout.1])]
    exact of_decide_eq_false h
  have hapart := gridSpacing_le_distance rules hne
  have hway := Point.distance_triangle (centerOf rules cell) pillar.position (centerOf rules cell')
  have hback := hnear h'
  rw [Point.distance_comm] at hback
  linarith [hnear h, hstout.2]

omit [SoundDraws ℝ G] in
-- Where there are that many cells more than tanks, pillars cannot crowd out a tank.
theorem exists_gridTanks {rules : Rules ℝ} {arena : Arena ℝ} {count : Nat}
    (hcells : count + arena.pillars.length ≤ (cells rules arena).length)
    (hcrowd : ∀ pillar ∈ arena.pillars, ∀ cell cell' : Nat × Nat,
      isClear (ofTank rules (centerOf rules cell)) (ofPillar pillar) = false →
        isClear (ofTank rules (centerOf rules cell')) (ofPillar pillar) = false → cell = cell')
    (g : G) : ∃ spots, (gridTanks rules arena count g).1 = .ok spots := by
  have hfree := length_le_length_clear (nodup_cells rules arena)
    (fun cell pillar => isClear (ofTank rules (centerOf rules cell)) (ofPillar pillar)) arena.pillars
    fun pillar hpillar cell _ cell' _ => hcrowd pillar hpillar cell cell'
  unfold gridTanks
  dsimp only
  rw [if_neg]
  · exact ⟨_, rfl⟩
  · rw [cellCenters_eq, List.filter_map, List.length_map, Nat.not_lt]
    exact Nat.le_of_add_le_add_right (hcells.trans hfree)

omit [SoundDraws ℝ G] in
theorem unplaced_of_raisePillars {rules : Rules ℝ} {count index : Nat} {arena : Arena ℝ} {g : G}
    {fault : SetupFault ℝ} (h : (raisePillars rules count index arena g).1 = some fault) :
    ∃ failed, fault = .unplaced .pillar failed maxAttempts := by
  induction count generalizing index arena g with
  | zero => cases h
  | succ count ih =>
      unfold raisePillars at h
      dsimp only at h
      split at h
      · exact ih h
      · cases h
        exact ⟨index, rfl⟩

omit [SoundDraws ℝ G] in
-- What does not fit anywhere at random still has the grid.
theorem exists_populate {rules : Rules ℝ} {objects pillars tanks : Nat} {field : Arena ℝ} {g g' : G}
    (hraised : raisePillars rules pillars 0 (.sizedFor objects rules.gridSpacing) g =
      (none, field, g'))
    (hgrid : ∀ g, ∃ spots, (gridTanks rules field tanks g : _ × G).1 = .ok spots) :
    ∃ spots, ((Arena.sizedFor objects rules.gridSpacing).populate pillars tanks rules g).tanks =
      .ok spots := by
  have hcleared : raisePillars rules pillars 0
      { Arena.sizedFor objects rules.gridSpacing with pillars := [] } g = (none, field, g') :=
    hraised
  unfold Arena.populate
  rw [hcleared]
  dsimp only
  split
  · exact ⟨_, rfl⟩
  · exact hgrid _

omit [SoundDraws ℝ G] in
-- A field for tanks alone takes them all.
theorem exists_populate_bare {rules : Rules ℝ} (hspacing : 0 < rules.gridSpacing) (tanks : Nat)
    (g : G) : ∃ spots, ((Arena.sizedFor tanks rules.gridSpacing).populate 0 tanks rules g).tanks =
      .ok spots := by
  have hraised : raisePillars rules 0 0 (.sizedFor tanks rules.gridSpacing) g =
      (none, .sizedFor tanks rules.gridSpacing, g) := rfl
  refine exists_populate hraised fun g => exists_gridTanks ?_ (by simp [Arena.sizedFor]) g
  rw [length_cells_sizedFor hspacing rfl rfl]
  exact Arena.le_rows_mul_columns tanks

omit [Draws ℝ G] [SoundDraws ℝ G] in
theorem isClear_self (o : Obstacle ℝ) : isClear o o = false := by
  have hnone : o.position.distanceSq o.position = 0 := by
    rw [Point.distanceSq_eq]
    ring
  rw [isClear, hnone]
  exact decide_eq_false (not_lt.mpr (mul_self_nonneg _))

omit [Draws ℝ G] [SoundDraws ℝ G] in
-- Where all draws are the same, a second tank finds no spot but that of the first.
theorem scatterTanks_halves (rules : Rules ℝ) (arena : Arena ℝ) (index : Nat)
    (placed : List (Obstacle ℝ)) (source : Halves) :
    ∃ fault source', scatterTanks rules arena 2 index placed source = (.error fault, source') := by
  have hsame : ∀ source : Halves, (Draws.unit source).1 = ((1 : Int) : ℝ) / ((2 : Int) : ℝ) :=
    fun _ => rfl
  unfold scatterTanks
  dsimp only
  split
  · rename_i spot _ hspot
    unfold scatterTanks
    dsimp only
    split
    · rename_i other _ hother
      obtain ⟨_, _, hdrawn⟩ := exists_draws_of_findSpot hspot
      obtain ⟨_, _, hdrawn'⟩ := exists_draws_of_findSpot hother
      have hclear := findSpot_clear hother _ List.mem_cons_self
      rw [hdrawn, hdrawn'] at hclear
      simp only [hsame, isClear_self] at hclear
      contradiction
    · exact ⟨_, _, rfl⟩
  · exact ⟨_, _, rfl⟩

omit [SoundDraws ℝ G] in
-- Where tanks cannot be scattered, they are on the grid.
theorem onGrid_of_crowded {rules : Rules ℝ} {arena field : Arena ℝ} {pillars tanks : Nat}
    {g g' g'' : G} {fault : SetupFault ℝ} {spots : List (Point ℝ)}
    (hraised : raisePillars rules pillars 0 { arena with pillars := [] } g = (none, field, g'))
    (hcrowded : scatterTanks rules field tanks 0 (field.pillars.map ofPillar) g' =
      (.error fault, g''))
    (h : (arena.populate pillars tanks rules g).tanks = .ok spots) :
    OnGrid rules (arena.populate pillars tanks rules g).arena spots := by
  unfold Arena.populate at h ⊢
  rw [hraised] at h ⊢
  dsimp only at h ⊢
  rw [hcrowded] at h ⊢
  exact (gridTanks_clear (Prod.ext h rfl)).2.1

omit [SoundDraws ℝ G] in
theorem tanks_populate_of_unraised {rules : Rules ℝ} {objects pillars tanks : Nat} {field : Arena ℝ}
    {g g' : G} {fault : SetupFault ℝ}
    (hraised : raisePillars rules pillars 0 (.sizedFor objects rules.gridSpacing) g =
      (some fault, field, g')) :
    ((Arena.sizedFor objects rules.gridSpacing).populate pillars tanks rules g).tanks =
      .error fault := by
  have hcleared : raisePillars rules pillars 0
      { Arena.sizedFor objects rules.gridSpacing with pillars := [] } g = (some fault, field, g') :=
    hraised
  unfold Arena.populate
  rw [hcleared]

-- If cells are wide enough, pillars never leave too few of them to the tanks: with its
-- pillars raised, a field that was made for all of them takes every tank, whatever is drawn.
theorem tanks_always_fit {rules : Rules ℝ} (hrules : rules.check = .ok ())
    (hroom : 2 * (rules.tankRadius + rules.pillarMaxRadius + ObjectKind.spacing .tank .pillar) <
      rules.gridSpacing) (pillars tanks : Nat) (source : G) :
    ((raisePillars rules pillars 0 (.sizedFor (tanks + pillars) rules.gridSpacing) source).1 = none →
      ∃ spots, ((Arena.sizedFor (tanks + pillars) rules.gridSpacing).populate pillars tanks rules
        source).tanks = .ok spots ∧ spots.length = tanks) ∧
    ∀ index attempts, ((Arena.sizedFor (tanks + pillars) rules.gridSpacing).populate pillars tanks
      rules source).tanks ≠ .error (.unplaced .tank index attempts) := by
  obtain ⟨hpositive, -, -, -, hradii, -, -⟩ := Rules.check_eq_ok_iff.mp hrules
  simp only [Rules.positives, List.forall_mem_cons, Rules.isPositive_iff] at hpositive
  obtain ⟨hradius, -, -, -, hspacing, hmin, -⟩ := hpositive
  have hstout : ∀ pillar ∈ (raisePillars rules pillars 0
      (.sizedFor (tanks + pillars) rules.gridSpacing) source).2.1.pillars, Stout rules pillar :=
    stout_raisePillars (not_lt.mp hradii) (by simp [Arena.sizedFor])
  generalize hraised : raisePillars rules pillars 0
    (.sizedFor (tanks + pillars) rules.gridSpacing) source = raised at hstout ⊢
  obtain ⟨fault, field, source'⟩ := raised
  cases fault with
  | some fault =>
      obtain ⟨failed, rfl⟩ := unplaced_of_raisePillars (congrArg Prod.fst hraised)
      rw [tanks_populate_of_unraised hraised]
      exact ⟨by simp, by simp⟩
  | none =>
      obtain ⟨hlength, -, hwidth, hheight⟩ := raisePillars_clear hraised .nil
      have hcells : tanks + field.pillars.length ≤ (cells rules field).length := by
        rw [length_cells_sizedFor hspacing hwidth hheight, hlength]
        simpa [Arena.sizedFor] using Arena.le_rows_mul_columns (tanks + pillars)
      obtain ⟨spots, hspots⟩ := exists_populate hraised fun g => exists_gridTanks hcells
        (fun pillar hpillar _ _ => eq_of_crowded hradius hmin hroom (hstout pillar hpillar)) g
      rw [hspots]
      exact ⟨fun _ => ⟨spots, rfl, (settled_populate hspots).1.tanks⟩, by simp⟩

omit [SoundDraws ℝ G] in
theorem raisePillars_one {rules : Rules ℝ} {arena : Arena ℝ} (hempty : arena.pillars = []) (g : G) :
    (raisePillars rules 1 0 arena g).1 = none := by
  rw [raisePillars_succ_of_nil rules arena hempty]
  rfl

-- Here every draw sends the tanks onto the pillar in the middle of the field.
theorem tanks_always_fit_crowd :
    (Rules.standard : Rules ℝ).check = .ok () ∧
      2 * ((Rules.standard : Rules ℝ).tankRadius + (Rules.standard : Rules ℝ).pillarMaxRadius +
        ObjectKind.spacing .tank .pillar) < (Rules.standard : Rules ℝ).gridSpacing ∧
      ∃ spots, ((Arena.sizedFor (2 + 1) (Rules.standard : Rules ℝ).gridSpacing).populate 1 2
        Rules.standard Halves.halves).tanks = .ok spots ∧ spots.length = 2 := by
  have hrules : (Rules.standard : Rules ℝ).check = .ok () :=
    Rules.check_eq_ok_iff.mpr Rules.valid_standard
  have hroom : 2 * ((Rules.standard : Rules ℝ).tankRadius + (Rules.standard : Rules ℝ).pillarMaxRadius +
      ObjectKind.spacing .tank .pillar) < (Rules.standard : Rules ℝ).gridSpacing := by
    norm_num [Rules.standard, ObjectKind.spacing]
  have hraised : (raisePillars Rules.standard 1 0 (Arena.sizedFor (2 + 1)
      (Rules.standard : Rules ℝ).gridSpacing) Halves.halves).1 = none :=
    raisePillars_one rfl Halves.halves
  exact ⟨hrules, hroom, (tanks_always_fit hrules hroom 1 2 Halves.halves).1 hraised⟩

end Placement
end Skirmish
