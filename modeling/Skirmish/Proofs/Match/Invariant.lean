import Skirmish.Proofs.Match.Craters
import Skirmish.Proofs.Match.Inside

namespace Skirmish.Match

variable {R G : Type}

-- What a phase that leaves craters alone keeps of each tank it keeps of all of them.
theorem forall_of_onlyLive {P : Tank R → Prop} {Q : Tank R → Tank R → Prop}
    (hQ : ∀ a b, Q a b → P a → P b) {before after : List (Tank R)}
    (h : List.Forall₂ (OnlyLive Q) before after) (hbefore : ∀ tank ∈ before, P tank) :
    ∀ tank ∈ after, P tank :=
  forall_of_forall₂ (fun _ _ hab => hab.elim (Q := fun a b => P a → P b) (fun _ => id) hQ) h hbefore

theorem forall_map_onLive {P : Tank R → Prop} {f : Tank R → Tank R} (hf : ∀ tank, P tank → P (f tank))
    {tanks : List (Tank R)} (h : ∀ tank ∈ tanks, P tank) : ∀ tank ∈ tanks.map (onLive f), P tank := by
  rw [List.forall_mem_map]
  intro tank htank
  unfold onLive
  split
  · exact h tank htank
  · exact hf tank (h tank htank)

variable [Scalar R] [Draws R G]

-- Tanks that do not teleport stay where they are.
def Landed (G : Type) [Draws R G] (arena : Arena R) (before after : Tank R) : Prop :=
  after = before ∨ before.teleporter.teleporting = true ∧
    ∃ g : G, after = { before with position := (arena.randomPoint g).1 }

theorem forall₂_landed (arena : Arena R) (tanks : List (Tank R)) (source : G) :
    List.Forall₂ (Landed G arena) tanks (teleportTanks arena tanks source).1 := by
  induction tanks generalizing source with
  | nil => exact .nil
  | cons tank tanks ih =>
      unfold teleportTanks
      cases hcrater : tank.isCrater with
      | true => exact .cons (.inl rfl) (ih source)
      | false =>
          cases hasked : tank.teleporter.teleporting with
          | false => exact .cons (.inl rfl) (ih source)
          | true => exact .cons (.inr ⟨hasked, source, rfl⟩) (ih _)

theorem arena_turn (m : Match R G) :
    ∀ state ∈ m.turn.opening ++ m.turn.closing, state.arena = m.arena := by
  have hfought : m.turn.atPlanning.arena = m.turn.atCombat.arena := rfl
  have hplanned : m.turn.finish.arena = m.turn.atPlanning.arena := rfl
  rw [List.forall_mem_append, Turn.opening, Turn.closing, List.forall_mem_cons,
    List.forall_mem_singleton, List.forall_mem_cons, List.forall_mem_cons, List.forall_mem_cons,
    List.forall_mem_singleton, hplanned, hfought, arena_atCombat]
  exact ⟨⟨rfl, rfl⟩, rfl, rfl, rfl, rfl⟩

theorem arena_advance (m : Match R G) : m.advance.arena = m.arena :=
  arena_turn m m.advance (by simp [Turn.closing, advance])

theorem arena_iterate (m : Match R G) (n : Nat) : (advance^[n] m).arena = m.arena := by
  induction n with
  | zero => rfl
  | succ n ih => rw [Function.iterate_succ_apply', arena_advance, ih]

-- Between ticks and in the middle of them.
theorem arena_states (m : Match R G) (n : Nat) :
    ∀ state ∈ advance^[n] m :: ((advance^[n] m).turn.opening ++ (advance^[n] m).turn.closing),
      state.arena = m.arena := by
  have harena := arena_iterate m n
  rw [List.forall_mem_cons]
  exact ⟨harena, fun state hstate => (arena_turn _ state hstate).trans harena⟩

-- What no phase of a tick takes from a tank: one case for each thing that a phase does to it.
structure Invariant (G : Type) [Draws R G] (arena : Arena R) (rules : Rules R) (P : Tank R → Prop) :
    Prop where
  recharge : ∀ tank, P tank → P (tank.recharge rules)
  commit : ∀ tank, P tank → P tank.commit
  sense : ∀ tank sensors, P tank → P { tank with sensors }
  run : ∀ (g : G) tank, P tank → P (tank.runProgram (Tank.interpreter rules) g).1
  land : ∀ (g : G) tank, P tank → P { tank with position := (arena.randomPoint g).1 }
  kill : ∀ death tank, P tank → P (tank.kill death)
  plan : ∀ tank, P tank → P (planAround arena rules tank)

namespace Invariant

section Phases

variable {m : Match R G} {P : Tank R → Prop} (hP : Invariant G m.arena m.rules P)
  (h : ∀ tank ∈ m.tanks, P tank)

include hP h

theorem recharged : ∀ tank ∈ m.recharged.tanks, P tank := by
  unfold Match.recharged
  rw [List.forall_mem_map]
  exact fun tank htank => hP.recharge tank (h tank htank)

theorem committed : ∀ tank ∈ m.committed.tanks, P tank := forall_map_onLive hP.commit h

theorem swept : ∀ tank ∈ m.swept.tanks, P tank := by
  refine forall_of_onlyLive ?_ (forall₂_swept m) h
  rintro a _ ⟨sensors, rfl⟩ ha
  exact hP.sense a sensors ha

theorem programmed : ∀ tank ∈ m.programmed.tanks, P tank :=
  forall_of_onlyLive (Q := fun a b => P a → P b) (fun _ _ => id)
    (forall₂_runPrograms (fun _ => id) (Tank.interpreter m.rules) hP.run m.tanks m.source) h

theorem teleported : ∀ tank ∈ m.teleported.tanks, P tank := by
  refine forall_of_forall₂ ?_ (forall₂_landed m.arena m.tanks m.source) h
  rintro a _ (rfl | ⟨-, g, rfl⟩) ha
  · exact ha
  · exact hP.land g a ha

theorem fought : ∀ tank ∈ m.fought.tanks, P tank := by
  refine forall_of_onlyLive ?_ (forall₂_fought m) h
  rintro a _ (rfl | ⟨death, rfl⟩) ha
  · exact ha
  · exact hP.kill death a ha

theorem planned : ∀ tank ∈ m.planned.tanks, P tank := forall_map_onLive hP.plan h

end Phases

variable {m : Match R G} {P : Tank R → Prop}

theorem turn (hP : Invariant G m.arena m.rules P) (h : ∀ tank ∈ m.tanks, P tank) :
    ∀ state ∈ m.turn.opening ++ m.turn.closing, ∀ tank ∈ state.tanks, P tank := by
  have hcommitted : ∀ tank ∈ m.turn.atSweep.tanks, P tank :=
    committed (m := m.recharged) hP (hP.recharged h)
  have hswept : ∀ tank ∈ m.turn.atPrograms.tanks, P tank :=
    swept (m := m.turn.atSweep) hP hcommitted
  have hdriven : ∀ tank ∈ m.turn.atTeleports.tanks, P tank :=
    programmed (m := m.turn.atPrograms) hP hswept
  have hlanded : ∀ tank ∈ m.turn.atCombat.tanks, P tank :=
    teleported (m := m.turn.atTeleports) hP hdriven
  rw [← arena_atCombat, ← rules_atCombat] at hP
  have hfought : ∀ tank ∈ m.turn.atPlanning.tanks, P tank := hP.fought hlanded
  have hplanned : ∀ tank ∈ m.turn.finish.tanks, P tank :=
    planned (m := m.turn.atPlanning) hP hfought
  rw [List.forall_mem_append, Turn.opening, Turn.closing, List.forall_mem_cons,
    List.forall_mem_singleton, List.forall_mem_cons, List.forall_mem_cons, List.forall_mem_cons,
    List.forall_mem_singleton]
  exact ⟨⟨hcommitted, hswept⟩, hdriven, hlanded, hfought, hplanned⟩

theorem iterate (hP : Invariant G m.arena m.rules P) (h : ∀ tank ∈ m.tanks, P tank) (n : Nat) :
    ∀ tank ∈ (advance^[n] m).tanks, P tank := by
  induction n with
  | zero => exact h
  | succ n ih =>
      rw [← arena_iterate m n, ← rules_iterate m n] at hP
      rw [Function.iterate_succ_apply']
      exact hP.turn ih _ (by simp [Turn.closing, advance])

theorem states (hP : Invariant G m.arena m.rules P) (h : ∀ tank ∈ m.tanks, P tank) (n : Nat) :
    ∀ state ∈ advance^[n] m :: ((advance^[n] m).turn.opening ++ (advance^[n] m).turn.closing),
      ∀ tank ∈ state.tanks, P tank := by
  have hnow := hP.iterate h n
  rw [← arena_iterate m n, ← rules_iterate m n] at hP
  rw [List.forall_mem_cons]
  exact ⟨hnow, hP.turn hnow⟩

end Invariant

end Skirmish.Match
