import Skirmish.Proofs.Arena.Capacity
import Skirmish.Proofs.Arena.Field
import Skirmish.Proofs.Match.Invariant
import Skirmish.Proofs.Match.Opening

namespace Skirmish

variable {R G : Type}

-- A tick can take tanks nowhere but to such points.
structure Arena.Confines [Scalar R] (G : Type) [Draws R G] (arena : Arena R) (P : Point R → Prop) :
    Prop where
  wrap : ∀ p, P (arena.wrap p)
  randomPoint : ∀ g : G, P (arena.randomPoint g).1

namespace Tank

-- Both where a tank stands and where it goes next are such points.
structure Roams (P : Point R → Prop) (tank : Tank R) : Prop where
  position : P tank.position
  next : P tank.next

theorem Roams.of_same {P : Point R → Prop} {before after : Tank R} (h : before.Roams P)
    (hposition : after.position = before.position) (hnext : after.next = before.next) :
    after.Roams P where
  position := hposition ▸ h.position
  next := hnext ▸ h.next

variable [Scalar R]

theorem wrapped_stopAt (arena : Arena R) (tankRadius : R) (heldBy : Option Nat) {tank : Tank R}
    (pillar : Pillar R × Nat) (h : ∃ p, tank.next = arena.wrap p) :
    ∃ p, (tank.stopAt arena tankRadius heldBy pillar).next = arena.wrap p := by
  unfold stopAt
  split
  · exact ⟨_, rfl⟩
  · exact h

-- Wherever a move ends, at a pillar or without one, it is brought back onto the field.
theorem wrapped_planAround (arena : Arena R) (rules : Rules R) (tank : Tank R) :
    ∃ p, (Match.planAround arena rules tank).next = arena.wrap p := by
  unfold Match.planAround clampToPillars
  generalize arena.pillars.zipIdx = pillars
  have hdriven : ∃ p, ({ tank.planMove arena rules with blockedBy := none } : Tank R).next =
      arena.wrap p := ⟨_, rfl⟩
  generalize ({ tank.planMove arena rules with blockedBy := none } : Tank R) = moved at hdriven ⊢
  induction pillars generalizing moved with
  | nil => exact hdriven
  | cons pillar pillars ih => exact ih _ (wrapped_stopAt arena _ _ pillar hdriven)

theorem roams_planAround [Draws R G] {arena : Arena R} {P : Point R → Prop}
    (hP : arena.Confines G P) (rules : Rules R) {tank : Tank R} (h : P tank.position) :
    (Match.planAround arena rules tank).Roams P := by
  obtain ⟨p, hp⟩ := tank.wrapped_planAround arena rules
  constructor
  · rw [(tank.planned_planAround arena rules).position]
    exact h
  · rw [hp]
    exact hP.wrap p

end Tank

namespace Match

-- Tanks never leave the places that a tick can take them to.
theorem invariant_roams [Scalar R] [Draws R G] {arena : Arena R} {P : Point R → Prop}
    (hP : arena.Confines G P) (rules : Rules R) : Invariant G arena rules (Tank.Roams P) where
  recharge tank h :=
    h.of_same (tank.serviced_recharge rules).position (tank.serviced_recharge rules).next
  commit _ h := ⟨h.next, h.next⟩
  sense _ _ h := ⟨h.position, h.next⟩
  run g tank h := h.of_same (tank.driven_runProgram _ g).position (tank.driven_runProgram _ g).next
  land g _ h := ⟨hP.randomPoint g, h.next⟩
  kill _ _ h := ⟨h.position, h.next⟩
  plan _ h := Tank.roams_planAround hP rules h.position

end Match

section Field

variable {G : Type} [Draws ℝ G] [SoundDraws ℝ G]

theorem Arena.confines_holds {arena : Arena ℝ} (hwidth : 0 < arena.width)
    (hheight : 0 < arena.height) : arena.Confines G arena.Holds where
  wrap := holds_wrap hwidth hheight
  randomPoint := holds_randomPoint hwidth hheight

namespace Match

-- A match begins with all tanks on the field.
theorem roams_ofEntries {entries : List (Entry ℝ)} {pillars : Nat} {rules : Rules ℝ} {source : G}
    {m : Match ℝ G} (h : ofEntries entries pillars rules source = .ok m) :
    (0 < m.arena.width ∧ 0 < m.arena.height) ∧ ∀ tank ∈ m.tanks, tank.Roams m.arena.Holds := by
  obtain ⟨rfl, hcheck, harena, hspots, placed, hplaced⟩ := populate_ofEntries h
  have hspacing : 0 < m.rules.gridSpacing := by
    simpa using (Rules.check_eq_ok_iff.mp hcheck).gridSpacing_pos
  obtain ⟨hwidth, hheight⟩ := Arena.sizedFor_pos hspacing (m.tanks.length + pillars)
  obtain ⟨-, hwidth', hheight'⟩ := Placement.settled_populate hspots
  have hstart := Placement.populate_holds hwidth hheight hspacing hspots
  rw [harena] at hwidth' hheight' hstart
  rw [← hwidth'] at hwidth
  rw [← hheight'] at hheight
  refine ⟨⟨hwidth, hheight⟩, ?_⟩
  rw [List.forall_mem_map] at hstart
  intro tank htank
  refine ⟨hstart tank htank, ?_⟩
  rw [hplaced, List.mem_map] at htank
  obtain ⟨before, -, rfl⟩ := htank
  obtain ⟨p, hp⟩ := before.wrapped_planAround m.arena m.rules
  rw [hp]
  exact Arena.holds_wrap hwidth hheight p

-- Whatever programs do, tanks stay on the field, so that between two tanks displacements are
-- always the shortest way.
theorem tanks_stay_on_field {entries : List (Entry ℝ)} {pillars : Nat} {rules : Rules ℝ} {source : G}
    {m : Match ℝ G} (h : ofEntries entries pillars rules source = .ok m) (n : Nat) :
    ∀ state ∈ advance^[n] m :: ((advance^[n] m).turn.opening ++ (advance^[n] m).turn.closing),
      state.arena = m.arena ∧ ∀ tank ∈ state.tanks,
        m.arena.Holds tank.position ∧ m.arena.Holds tank.next ∧
          ∀ other ∈ state.tanks, m.arena.Shortest tank.position other.position := by
  obtain ⟨⟨hwidth, hheight⟩, hstart⟩ := roams_ofEntries h
  have hroams := (invariant_roams (Arena.confines_holds hwidth hheight) m.rules).states hstart n
  intro state hstate
  refine ⟨arena_states m n state hstate, fun tank htank => ?_⟩
  obtain ⟨hposition, hnext⟩ := hroams state hstate tank htank
  exact ⟨hposition, hnext, fun other hother =>
    hposition.shortest (hroams state hstate other hother).position⟩

-- One tank drives in circles while the other teleports whenever it can.
def wanderers : List (Entry ℝ) :=
  [⟨"Circler", "", "60 70 set-speed!", []⟩, ⟨"Leaper", "", "teleport!", []⟩]

theorem tanks_stay_on_field_wanderers : ∃ m : Match ℝ Halves,
    ofEntries wanderers 0 Rules.standard Halves.halves = .ok m ∧
      ∀ tank ∈ (advance^[500] m).tanks, ∀ other ∈ (advance^[500] m).tanks,
        m.arena.Holds tank.position ∧ m.arena.Shortest tank.position other.position := by
  have hmade : Tank.ofEntries Rules.standard 0 wanderers = .ok _ := rfl
  obtain ⟨m, hm⟩ := exists_ofEntries_bare Rules.valid_standard hmade rfl Halves.halves
  refine ⟨m, hm, fun tank htank other hother => ?_⟩
  obtain ⟨hposition, -, hshortest⟩ := (tanks_stay_on_field hm 500 _ List.mem_cons_self).2 tank htank
  exact ⟨hposition, hshortest other hother⟩

end Match

end Field

end Skirmish
