import Mathlib.Data.List.Nodup
import Mathlib.Data.List.Perm.Basic
import Mathlib.Data.List.ProdSigma
import Mathlib.Tactic.SplitIfs
import Skirmish.Arena.Placement

namespace Skirmish

-- A permutation of a list's image is the image of a permutation.
theorem exists_map_of_perm {α β : Type} {f : α → β} {ys : List β} {xs : List α}
    (h : ys.Perm (xs.map f)) : ∃ zs : List α, zs.Perm xs ∧ ys = zs.map f := by
  have himage : List.Forall₂ (fun y x => y = f x) (xs.map f) xs := by
    rw [List.forall₂_map_left_iff, List.forall₂_same]
    exact fun _ _ => rfl
  obtain ⟨zs, hzs, hperm⟩ := List.perm_comp_forall₂ h himage
  refine ⟨zs, hperm, ?_⟩
  rw [← List.forall₂_eq_eq_eq, List.forall₂_map_right_iff]
  exact hzs

namespace Draws

variable {R G α : Type} [Draws R G]

theorem perm_swapIfInBounds (items : Array α) (i j : Nat) :
    (items.swapIfInBounds i j).Perm items := by
  unfold Array.swapIfInBounds
  split_ifs
  · exact Array.swap_perm _ _
  · exact .rfl
  · exact .rfl

theorem perm_shuffleFrom (top : Nat) (items : Array α) (g : G) :
    (shuffleFrom top items g).1.Perm items := by
  induction top generalizing items g with
  | zero => exact .rfl
  | succ top ih => exact (ih _ _).trans (perm_swapIfInBounds items _ _)

-- A shuffle loses nothing, whatever is drawn.
theorem perm_shuffle (items : List α) (g : G) : (shuffle items g).1.Perm items :=
  (perm_shuffleFrom (items.length - 1) items.toArray g).toList

end Draws

namespace Placement

variable {R G : Type} [Scalar R]

def ofTank (rules : Rules R) (spot : Point R) : Obstacle R := ⟨spot, rules.tankRadius, .tank⟩

-- The cells of the grid that lie on the field, by row and column.
def cells (rules : Rules R) (arena : Arena R) : List (Nat × Nat) :=
  List.range (Scalar.truncate (Scalar.floor (arena.height / rules.gridSpacing))).toNat ×ˢ
    List.range (Scalar.truncate (Scalar.floor (arena.width / rules.gridSpacing))).toNat

def centerOf (rules : Rules R) (cell : Nat × Nat) : Point R :=
  cellCenter rules.gridSpacing cell.1 cell.2

theorem cellCenters_eq (rules : Rules R) (arena : Arena R) :
    cellCenters rules arena = (cells rules arena).map (centerOf rules) := by
  simp only [cellCenters, cells, SProd.sprod, List.product, List.map_flatMap, List.map_map]
  rfl

theorem nodup_cells (rules : Rules R) (arena : Arena R) : (cells rules arena).Nodup :=
  List.nodup_range.product List.nodup_range

-- Tanks with every one clear of those before it.
def Scattered (rules : Rules R) (spots : List (Point R)) : Prop :=
  spots.Pairwise fun p q => isClear (ofTank rules q) (ofTank rules p) = true

-- Tanks on the centres of pairwise different cells.
def OnGrid (rules : Rules R) (arena : Arena R) (spots : List (Point R)) : Prop :=
  ∃ taken : List (Nat × Nat), taken.Nodup ∧ taken ⊆ cells rules arena ∧
    spots = taken.map (centerOf rules)

-- A field with so many pillars, and spots for so many tanks, where all keep clear of
-- each other. Tanks may be closer together than that if they are on the grid.
structure Settled (rules : Rules R) (pillars tanks : Nat) (arena : Arena R)
    (spots : List (Point R)) : Prop where
  pillars : arena.pillars.length = pillars
  tanks : spots.length = tanks
  pillarsClear : arena.pillars.Pairwise fun p q => isClear (ofPillar q) (ofPillar p) = true
  tanksClear : ∀ spot ∈ spots, ∀ pillar ∈ arena.pillars,
    isClear (ofTank rules spot) (ofPillar pillar) = true
  apart : Scattered rules spots ∨ OnGrid rules arena spots

variable [Draws R G]

theorem findSpot_clear {arena : Arena R} {placed : List (Obstacle R)} {radius : R}
    {kind : ObjectKind} {margin : R} {attempts : Nat} {g g' : G} {spot : Point R}
    (h : findSpot arena placed radius kind margin attempts g = (some spot, g')) :
    ∀ other ∈ placed, isClear ⟨spot, radius, kind⟩ other = true := by
  induction attempts generalizing g with
  | zero => cases h
  | succ attempts ih =>
      unfold findSpot at h
      dsimp only at h
      split_ifs at h with hclear
      · cases h
        exact List.all_eq_true.mp hclear
      · exact ih h

-- The pillars raised come after those that stand, and clear of all before them.
theorem raisePillars_clear {rules : Rules R} {count index : Nat} {arena arena' : Arena R} {g g' : G}
    (h : raisePillars rules count index arena g = (none, arena', g'))
    (hclear : arena.pillars.Pairwise fun p q => isClear (ofPillar q) (ofPillar p) = true) :
    arena'.pillars.length = arena.pillars.length + count ∧
      arena'.pillars.Pairwise (fun p q => isClear (ofPillar q) (ofPillar p) = true) ∧
      arena'.width = arena.width ∧ arena'.height = arena.height := by
  induction count generalizing index arena g with
  | zero =>
      cases h
      exact ⟨rfl, hclear, rfl, rfl⟩
  | succ count ih =>
      unfold raisePillars at h
      dsimp only at h
      split at h
      · rename_i spot _ hspot
        have hnew := findSpot_clear hspot
        obtain ⟨hlength, hpillars, hwidth, hheight⟩ := ih h (by
          rw [List.pairwise_append]
          refine ⟨hclear, List.pairwise_singleton _ _, fun p hp q hq => ?_⟩
          rw [List.mem_singleton] at hq
          subst hq
          exact hnew (ofPillar p) (List.mem_map_of_mem hp))
        refine ⟨?_, hpillars, hwidth, hheight⟩
        rw [hlength, List.length_append, List.length_singleton]
        omega
      · cases h

theorem scatterTanks_clear {rules : Rules R} {arena : Arena R} {count index : Nat}
    {placed : List (Obstacle R)} {g g' : G} {spots : List (Point R)}
    (h : scatterTanks rules arena count index placed g = (.ok spots, g')) :
    spots.length = count ∧ Scattered rules spots ∧
      ∀ spot ∈ spots, ∀ other ∈ placed, isClear (ofTank rules spot) other = true := by
  induction count generalizing index placed g g' spots with
  | zero =>
      cases h
      exact ⟨rfl, .nil, by simp⟩
  | succ count ih =>
      unfold scatterTanks at h
      dsimp only at h
      split at h
      · rename_i spot source hspot
        have hnew := findSpot_clear hspot
        generalize hrest : scatterTanks rules arena count (index + 1)
          (⟨spot, rules.tankRadius, .tank⟩ :: placed) source = rest at h
        obtain ⟨result, source'⟩ := rest
        cases result with
        | error fault => cases h
        | ok rest =>
            cases h
            obtain ⟨hlength, hscattered, hclear⟩ := ih hrest
            refine ⟨by rw [List.length_cons, hlength], ?_, ?_⟩
            · exact .cons (fun later hlater => hclear later hlater _ List.mem_cons_self) hscattered
            · rw [List.forall_mem_cons]
              exact ⟨hnew, fun later hlater other hother =>
                hclear later hlater other (List.mem_cons_of_mem _ hother)⟩
      · cases h

-- Tanks go to the centres of the first cells in shuffled order, of those that no pillar
-- crowds.
theorem gridTanks_clear {rules : Rules R} {arena : Arena R} {count : Nat} {g g' : G}
    {spots : List (Point R)} (h : gridTanks rules arena count g = (.ok spots, g')) :
    spots.length = count ∧ OnGrid rules arena spots ∧
      ∀ spot ∈ spots, ∀ pillar ∈ arena.pillars,
        isClear (ofTank rules spot) (ofPillar pillar) = true := by
  unfold gridTanks at h
  dsimp only at h
  generalize hfree : (cellCenters rules arena).filter (fun center => arena.pillars.all fun pillar =>
    isClear ⟨center, rules.tankRadius, .tank⟩ (ofPillar pillar)) = free at h
  have hperm := Draws.perm_shuffle free g
  generalize Draws.shuffle free g = outcome at h hperm
  have hfew : ¬ free.length < count := by
    intro hfew
    rw [if_pos hfew] at h
    cases h
  rw [if_neg hfew] at h
  cases h
  refine ⟨?_, ?_, ?_⟩
  · rw [List.length_take, hperm.length_eq]
    omega
  · rw [← hfree, cellCenters_eq, List.filter_map] at hperm
    obtain ⟨order, horder, hmap⟩ := exists_map_of_perm hperm
    refine ⟨order.take count, ?_, ?_, ?_⟩
    · exact (horder.nodup_iff.mpr ((nodup_cells rules arena).filter _)).sublist
        (List.take_sublist _ _)
    · intro cell hcell
      exact List.mem_of_mem_filter (horder.mem_iff.mp (List.mem_of_mem_take hcell))
    · rw [hmap, List.map_take]
  · intro spot hspot
    have hmem := hperm.mem_iff.mp (List.mem_of_mem_take hspot)
    rw [← hfree, List.mem_filter] at hmem
    exact List.all_eq_true.mp hmem.2

-- Whatever is drawn, a field on which everything found a spot is settled.
theorem settled_populate {arena : Arena R} {pillars tanks : Nat} {rules : Rules R} {g : G}
    {spots : List (Point R)} (h : (arena.populate pillars tanks rules g).tanks = .ok spots) :
    Settled rules pillars tanks (arena.populate pillars tanks rules g).arena spots ∧
      (arena.populate pillars tanks rules g).arena.width = arena.width ∧
      (arena.populate pillars tanks rules g).arena.height = arena.height := by
  unfold Arena.populate at h ⊢
  generalize hraised : raisePillars rules pillars 0 { arena with pillars := [] } g = raised at h ⊢
  obtain ⟨fault, field, source⟩ := raised
  cases fault with
  | some fault => cases h
  | none =>
      obtain ⟨hlength, hpillars, hwidth, hheight⟩ := raisePillars_clear hraised .nil
      rw [List.length_nil, Nat.zero_add] at hlength
      dsimp only at h ⊢
      generalize hscattered : scatterTanks rules field tanks 0 (field.pillars.map ofPillar) source =
        scattered at h ⊢
      obtain ⟨result, source'⟩ := scattered
      cases result with
      | ok found =>
          cases h
          obtain ⟨hcount, hspread, hclear⟩ := scatterTanks_clear hscattered
          refine ⟨⟨hlength, hcount, hpillars, ?_, .inl hspread⟩, hwidth, hheight⟩
          exact fun spot hspot pillar hpillar =>
            hclear spot hspot (ofPillar pillar) (List.mem_map_of_mem hpillar)
      | error fault =>
          dsimp only at h ⊢
          generalize hgrid : gridTanks rules field tanks source' = grid at h ⊢
          obtain ⟨result, source''⟩ := grid
          cases result with
          | error fault => cases h
          | ok found =>
              cases h
              obtain ⟨hcount, hspread, hclear⟩ := gridTanks_clear hgrid
              exact ⟨⟨hlength, hcount, hpillars, hclear, .inr hspread⟩, hwidth, hheight⟩

end Placement

end Skirmish
