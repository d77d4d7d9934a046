import Mathlib.Data.List.Basic
import Mathlib.Tactic.SplitIfs
import Skirmish.Arena.Placement

namespace Skirmish

-- Two objects stand side by side.
theorem Arena.sizedFor_two {R : Type} [Scalar R] (spacing : R) :
    sizedFor 2 spacing = ⟨((2 : Int) : R) * spacing, ((1 : Int) : R) * spacing, []⟩ := by
  have hcolumns : columns 2 = 2 := by
    rw [columns, columnsFrom, if_pos (by decide), columnsFrom, if_neg (by decide)]
  have hrows : rows 2 = 1 := by
    rw [rows, hcolumns]
    rfl
  rw [sizedFor, hcolumns, hrows]
  rfl

namespace Placement

open Scalar

variable {R G : Type} [Scalar R]

-- How much of a side of the field is left to spots that keep a margin.
def span (size margin : R) : R := greatest (size - ((2 : Int) : R) * margin) ((1 : Int) : R)

-- The pillar that comes of three draws.
def drawn (rules : Rules R) (arena : Arena R) (u v w : R) : Pillar R where
  position := ⟨rules.pillarToWall + floor (v * span arena.width rules.pillarToWall),
    rules.pillarToWall + floor (w * span arena.height rules.pillarToWall)⟩
  radius := rules.pillarMinRadius + floor (u * (rules.pillarMaxRadius - rules.pillarMinRadius))

theorem radius_drawn (rules : Rules R) (arena : Arena R) (u v w : R) :
    (drawn rules arena u v w).radius =
      rules.pillarMinRadius + floor (u * (rules.pillarMaxRadius - rules.pillarMinRadius)) := rfl

variable [Draws R G] {rules : Rules R} {arena : Arena R}

-- The first attempt finds a spot if it is clear.
theorem findSpot_of_first {placed : List (Obstacle R)} {radius margin : R} {kind : ObjectKind} {g : G}
    {spot : Point R} (hspot : spot = ⟨margin + floor ((Draws.unit g).1 * span arena.width margin),
      margin + floor ((Draws.unit (Draws.unit g).2).1 * span arena.height margin)⟩)
    (hclear : ∀ other ∈ placed, isClear ⟨spot, radius, kind⟩ other = true) :
    findSpot arena placed radius kind margin maxAttempts g =
      (some spot, (Draws.unit (Draws.unit g).2).2) := by
  change findSpot arena placed radius kind margin (9999 + 1) g = _
  rw [findSpot]
  dsimp only
  subst hspot
  exact if_pos (List.all_eq_true.mpr hclear)

-- Whichever attempt finds it, a spot comes of two draws.
theorem exists_draws_of_findSpot {placed : List (Obstacle R)} {radius margin : R}
    {kind : ObjectKind} {attempts : Nat} {g g' : G} {spot : Point R}
    (h : findSpot arena placed radius kind margin attempts g = (some spot, g')) :
    ∃ s s' : G, spot = ⟨margin + floor ((Draws.unit s).1 * span arena.width margin),
      margin + floor ((Draws.unit s').1 * span arena.height margin)⟩ := by
  induction attempts generalizing g with
  | zero => cases h
  | succ attempts ih =>
      unfold findSpot at h
      dsimp only at h
      split_ifs at h
      · cases h
        exact ⟨g, (Draws.unit g).2, rfl⟩
      · exact ih h

-- What holds of every pillar that can be drawn holds of all that are raised.
theorem forall_raisePillars {P : Pillar R → Prop}
    (hdrawn : ∀ s s' s'' : G,
      P (drawn rules arena (Draws.unit s).1 (Draws.unit s').1 (Draws.unit s'').1))
    {count index : Nat} {g : G} (h : ∀ pillar ∈ arena.pillars, P pillar) :
    ∀ pillar ∈ (raisePillars rules count index arena g).2.1.pillars, P pillar := by
  induction count generalizing index arena g with
  | zero => exact h
  | succ count ih =>
      unfold raisePillars
      dsimp only
      split
      · rename_i spot _ hspot
        obtain ⟨s, s', rfl⟩ := exists_draws_of_findSpot hspot
        refine ih ?_ ?_
        · exact hdrawn
        · rw [List.forall_mem_append, List.forall_mem_singleton]
          exact ⟨h, hdrawn g s s'⟩
      · exact h

theorem subset_raisePillars (rules : Rules R) (count index : Nat) (arena : Arena R) (g : G) :
    arena.pillars ⊆ (raisePillars rules count index arena g).2.1.pillars := by
  induction count generalizing index arena g with
  | zero => exact List.Subset.refl _
  | succ count ih =>
      unfold raisePillars
      dsimp only
      split
      · exact fun pillar hpillar => ih _ _ _ (List.mem_append_left _ hpillar)
      · exact List.Subset.refl _

-- The first pillar stands anywhere.
theorem raisePillars_succ_of_nil (rules : Rules R) (arena : Arena R) (hempty : arena.pillars = [])
    (count index : Nat) (g : G) :
    raisePillars rules (count + 1) index arena g = raisePillars rules count (index + 1)
      { arena with pillars := [drawn rules arena (Draws.unit g).1 (Draws.unit (Draws.unit g).2).1
        (Draws.unit (Draws.unit (Draws.unit g).2).2).1] }
      (Draws.unit (Draws.unit (Draws.unit g).2).2).2 := by
  rw [raisePillars]
  dsimp only
  rw [hempty, List.map_nil, findSpot_of_first rfl (List.forall_mem_nil _)]
  rfl

theorem arena_populate (arena : Arena R) (pillars tanks : Nat) (rules : Rules R) (g : G) :
    (arena.populate pillars tanks rules g).arena =
      (raisePillars rules pillars 0 { arena with pillars := [] } g).2.1 := by
  unfold Arena.populate
  split
  · rename_i h
    rw [h]
  · rename_i h
    rw [h]
    dsimp only
    split <;> rfl

-- The first pillar of every field, as it comes of the first draws.
theorem drawn_mem_populate (arena : Arena R) {pillars : Nat} (hpillars : 0 < pillars) (tanks : Nat)
    (rules : Rules R) (g : G) :
    drawn rules arena (Draws.unit g).1 (Draws.unit (Draws.unit g).2).1
        (Draws.unit (Draws.unit (Draws.unit g).2).2).1 ∈
      (arena.populate pillars tanks rules g).arena.pillars := by
  obtain ⟨count, rfl⟩ := Nat.exists_eq_add_one.mpr hpillars
  rw [arena_populate, raisePillars_succ_of_nil rules _ rfl]
  exact subset_raisePillars rules count 1 _ _ (List.mem_singleton_self _)

end Placement

end Skirmish
