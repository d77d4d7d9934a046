import Skirmish.Proofs.Pointwise
import Skirmish.Proofs.Tank.Changes

namespace Skirmish.Match

variable {R G : Type}

-- What happens to a tank in a phase that leaves craters alone.
structure OnlyLive (P : Tank R → Tank R → Prop) (before after : Tank R) : Prop where
  crater : before.isCrater = true → after = before
  live : before.isCrater = false → P before after

theorem OnlyLive.of_refl {P : Tank R → Tank R → Prop} (hP : ∀ tank, P tank tank) (tank : Tank R) :
    OnlyLive P tank tank :=
  ⟨fun _ => rfl, fun _ => hP tank⟩

-- Craters only add tanks that are left as they are.
theorem OnlyLive.elim {P Q : Tank R → Tank R → Prop} (hrefl : ∀ tank, Q tank tank)
    (hP : ∀ a b, P a b → Q a b) {before after : Tank R} (h : OnlyLive P before after) :
    Q before after := by
  cases hc : before.isCrater with
  | true =>
      rw [h.crater hc]
      exact hrefl before
  | false => exact hP _ _ (h.live hc)

theorem OnlyLive.same {β : Type} {P : Tank R → Tank R → Prop} (field : Tank R → β)
    (hP : ∀ a b, P a b → field b = field a) {before after : Tank R}
    (h : OnlyLive P before after) : field after = field before :=
  h.elim (Q := fun a b => field b = field a) (fun _ => rfl) hP

-- A phase that keeps live tanks alive can follow another.
theorem OnlyLive.trans {P : Tank R → Tank R → Prop} (hP : ∀ a b c, P a b → P b c → P a c)
    (hlive : ∀ a b, P a b → b.death = a.death) {before between after : Tank R}
    (h : OnlyLive P before between) (h' : OnlyLive P between after) :
    OnlyLive P before after := by
  constructor
  · intro hcrater
    have he := h.crater hcrater
    subst he
    exact h'.crater hcrater
  · intro hl
    have hb := h.live hl
    have hl' : between.isCrater = false := by
      unfold Tank.isCrater at hl ⊢
      rw [hlive _ _ hb]
      exact hl
    exact hP _ _ _ hb (h'.live hl')

-- What a phase makes of a live tank that has the field to itself.
theorem exists_of_onlyLive {P : Tank R → Tank R → Prop} {tank : Tank R}
    (hlive : tank.isCrater = false) {after : List (Tank R)}
    (h : List.Forall₂ (OnlyLive P) [tank] after) : ∃ changed, after = [changed] ∧ P tank changed := by
  rw [List.forall₂_cons_left_iff] at h
  obtain ⟨changed, rest, hchanged, hrest, rfl⟩ := h
  rw [List.forall₂_nil_left_iff.mp hrest]
  exact ⟨changed, rfl, hchanged.live hlive⟩

theorem forall₂_map_onLive {P : Tank R → Tank R → Prop} (f : Tank R → Tank R)
    (hf : ∀ tank, P tank (f tank)) (tanks : List (Tank R)) :
    List.Forall₂ (OnlyLive P) tanks (tanks.map (onLive f)) := by
  rw [List.forall₂_map_right_iff, List.forall₂_same]
  intro tank _
  unfold onLive
  constructor
  · intro hcrater
    rw [if_pos hcrater]
  · intro hlive
    rw [if_neg (by rw [hlive]; exact Bool.false_ne_true)]
    exact hf tank

theorem getElem?_recharged {m : Match R G} {i : Nat} {tank : Tank R}
    (hi : m.tanks[i]? = some tank) : m.recharged.tanks[i]? = some (tank.recharge m.rules) := by
  unfold recharged
  rw [List.getElem?_map, hi, Option.map_some]

theorem forall₂_recharged {P : Tank R → Tank R → Prop} (m : Match R G)
    (hP : ∀ tank, P tank (tank.recharge m.rules)) : List.Forall₂ P m.tanks m.recharged.tanks := by
  unfold recharged
  rw [List.forall₂_map_right_iff, List.forall₂_same]
  exact fun tank _ => hP tank

-- What the sensors of a tank see is all that a sweep changes.
def Swept (before after : Tank R) : Prop := ∃ sensors, after = { before with sensors }

-- Where a tank stands is all that its start into a tick or a teleport changes.
def Moved (before after : Tank R) : Prop := ∃ position, after = { before with position }

theorem Swept.refl (tank : Tank R) : Swept tank tank := ⟨tank.sensors, rfl⟩

theorem Swept.trans {a b c : Tank R} (h : Swept a b) (h' : Swept b c) : Swept a c := by
  obtain ⟨_, rfl⟩ := h
  obtain ⟨sensors, rfl⟩ := h'
  exact ⟨sensors, rfl⟩

theorem Swept.death {before after : Tank R} (h : Swept before after) :
    after.death = before.death := by
  obtain ⟨_, rfl⟩ := h
  rfl

theorem onlyLive_swept_trans (a b c : Tank R) (h : OnlyLive Swept a b)
    (h' : OnlyLive Swept b c) : OnlyLive Swept a c :=
  OnlyLive.trans (P := Swept) (fun _ _ _ => Swept.trans) (fun _ _ => Swept.death) h h'

theorem forall₂_committed (m : Match R G) :
    List.Forall₂ (OnlyLive Moved) m.tanks m.committed.tanks :=
  forall₂_map_onLive Tank.commit (fun tank => ⟨tank.next, rfl⟩) m.tanks

variable [Scalar R]

theorem swept_sense (rules : Rules R) (offset : Point R) (distanceSq radius : R)
    (kind : ObjectKind) (tank : Tank R) :
    Swept tank (tank.sense rules offset distanceSq radius kind) := by
  unfold Tank.sense
  split
  · exact Swept.refl tank
  · exact ⟨_, rfl⟩

theorem forall₂_modify_sense (rules : Rules R) (offset : Point R) (distanceSq radius : R)
    (kind : ObjectKind) (tanks : List (Tank R)) (i : Nat)
    (hlive : ∀ tank, tanks[i]? = some tank → tank.isCrater = false) :
    List.Forall₂ (OnlyLive Swept) tanks
      (tanks.modify i (Tank.sense rules offset distanceSq radius kind)) := by
  apply forall₂_modify (OnlyLive.of_refl Swept.refl)
  intro tank htank
  constructor
  · intro hcrater
    rw [hlive tank htank] at hcrater
    contradiction
  · intro _
    exact swept_sense rules offset distanceSq radius kind tank

theorem forall₂_see_tanks (arena : Arena R) (rules : Rules R) (tanks : List (Tank R)) (i j : Nat) :
    List.Forall₂ (OnlyLive Swept) tanks (Sweep.see arena rules tanks (.tanks i j)) := by
  have hsame : List.Forall₂ (OnlyLive Swept) tanks tanks :=
    List.forall₂_same.mpr fun tank _ => OnlyLive.of_refl Swept.refl tank
  cases hi : tanks[i]? with
  | none => simpa only [Sweep.see, hi] using hsame
  | some this =>
      cases hj : tanks[j]? with
      | none => simpa only [Sweep.see, hi, hj] using hsame
      | some that =>
          simp only [Sweep.see, hi, hj]
          by_cases hcraters : (this.isCrater || that.isCrater) = true
          · rw [if_pos hcraters]
            exact hsame
          · obtain ⟨hthis, hthat⟩ := Bool.or_eq_false_iff.mp (Bool.eq_false_iff.mpr hcraters)
            rw [if_neg hcraters]
            have hfirst := forall₂_modify_sense rules
              (arena.displacement this.position that.position)
              (arena.displacement this.position that.position).lengthSq rules.tankRadius .tank
              tanks i fun tank htank => by rw [hi] at htank; cases htank; exact hthis
            refine forall₂_comp onlyLive_swept_trans hfirst (forall₂_modify_sense _ _ _ _ _ _ _ ?_)
            -- the first look leaves the other tank alive
            intro tank htank
            obtain ⟨after, hafter, hrel⟩ := forall₂_getElem? hfirst hj
            rw [htank] at hafter
            cases hafter
            unfold Tank.isCrater at hthat ⊢
            rw [(hrel.live hthat).death]
            exact hthat

theorem forall₂_see (arena : Arena R) (rules : Rules R) (tanks : List (Tank R))
    (sighting : Sighting R) :
    List.Forall₂ (OnlyLive Swept) tanks (Sweep.see arena rules tanks sighting) := by
  have hsame : List.Forall₂ (OnlyLive Swept) tanks tanks :=
    List.forall₂_same.mpr fun tank _ => OnlyLive.of_refl Swept.refl tank
  cases sighting with
  | tanks i j => exact forall₂_see_tanks arena rules tanks i j
  | pillar i pillar =>
      cases hi : tanks[i]? with
      | none => simpa only [Sweep.see, hi] using hsame
      | some tank =>
          simp only [Sweep.see, hi]
          split
          · exact hsame
          · rename_i hcrater
            apply forall₂_modify_sense
            intro other hother
            rw [hi] at hother
            cases hother
            exact Bool.eq_false_iff.mpr hcrater

theorem forall₂_swept (m : Match R G) : List.Forall₂ (OnlyLive Swept) m.tanks m.swept.tanks :=
  forall₂_foldl (OnlyLive.of_refl Swept.refl) onlyLive_swept_trans (Sweep.see m.arena m.rules)
    (forall₂_see m.arena m.rules) _ m.tanks

theorem forall₂_planned (m : Match R G) :
    List.Forall₂ (OnlyLive Tank.Planned) m.tanks m.planned.tanks :=
  forall₂_map_onLive (planAround m.arena m.rules) (Tank.planned_planAround m.arena m.rules) m.tanks

variable [Draws R G]

-- What each run of a program does to its tank happens to all of them.
theorem forall₂_runPrograms {P : Tank R → Tank R → Prop} (hrefl : ∀ tank, P tank tank)
    (i : Interpreter) (hrun : ∀ (source : G) tank, P tank (tank.runProgram i source).1)
    (tanks : List (Tank R)) (source : G) :
    List.Forall₂ (OnlyLive P) tanks (runPrograms i tanks source).1 := by
  induction tanks generalizing source with
  | nil => exact .nil
  | cons tank tanks ih =>
      unfold runPrograms
      cases hc : tank.isCrater with
      | true => exact .cons (OnlyLive.of_refl hrefl tank) (ih source)
      | false =>
          refine .cons ⟨fun h => ?_, fun _ => hrun source tank⟩ (ih _)
          rw [hc] at h
          contradiction

theorem forall₂_teleportTanks (arena : Arena R) (tanks : List (Tank R)) (source : G) :
    List.Forall₂ (OnlyLive Moved) tanks (teleportTanks arena tanks source).1 := by
  have hrefl : ∀ tank : Tank R, Moved tank tank := fun tank => ⟨tank.position, rfl⟩
  induction tanks generalizing source with
  | nil => exact .nil
  | cons tank tanks ih =>
      unfold teleportTanks
      cases hc : tank.isCrater with
      | true => exact .cons (OnlyLive.of_refl hrefl tank) (ih source)
      | false =>
          cases ht : tank.teleporter.teleporting with
          | false => exact .cons (OnlyLive.of_refl hrefl tank) (ih source)
          | true =>
              refine .cons ⟨fun h => ?_, fun _ => ⟨_, rfl⟩⟩ (ih _)
              rw [hc] at h
              contradiction

theorem forall₂_programmed (m : Match R G) :
    List.Forall₂ (OnlyLive Tank.Driven) m.tanks m.programmed.tanks :=
  forall₂_runPrograms Tank.Driven.refl (Tank.interpreter m.rules)
    (fun source tank => Tank.driven_runProgram _ source tank) m.tanks m.source

theorem forall₂_teleported (m : Match R G) :
    List.Forall₂ (OnlyLive Moved) m.tanks m.teleported.tanks :=
  forall₂_teleportTanks m.arena m.tanks m.source

theorem advance_eq (m : Match R G) : m.advance = m.turn.atCombat.fought.planned := rfl

theorem atCombat_eq (m : Match R G) :
    m.turn.atCombat = m.recharged.committed.swept.programmed.teleported := rfl

theorem atCombat_eq_teleported (m : Match R G) :
    m.turn.atCombat = m.turn.atTeleports.teleported := rfl

theorem atPlanning_eq (m : Match R G) : m.turn.atPlanning = m.turn.atCombat.fought := rfl

theorem finishes_turnsFor (ticks : Nat) (m : Match R G) :
    (turnsFor (ticks + 1) m).map Turn.finish =
      m.advance :: if m.advance.isOver then [] else (turnsFor ticks m.advance).map Turn.finish := by
  have hfinish : m.turn.finish = m.advance := rfl
  rw [turnsFor, List.map_cons, hfinish, apply_ite (List.map Turn.finish), List.map_nil]

theorem arena_atCombat (m : Match R G) : m.turn.atCombat.arena = m.arena := rfl

theorem rules_atCombat (m : Match R G) : m.turn.atCombat.rules = m.rules := rfl

section Tanks

variable (m : Match R G)

theorem tanks_atSweep : m.turn.atSweep.tanks =
    (m.tanks.map (Tank.recharge m.rules)).map (onLive Tank.commit) := rfl

theorem tanks_atTeleports : m.turn.atTeleports.tanks =
    (runPrograms (Tank.interpreter m.rules) m.turn.atPrograms.tanks m.turn.atPrograms.source).1 :=
  rfl

theorem tanks_atCombat : m.turn.atCombat.tanks =
    (teleportTanks m.arena m.turn.atTeleports.tanks m.turn.atTeleports.source).1 := rfl

theorem tanks_atPlanning : m.turn.atPlanning.tanks =
    Combat.resolve m.arena m.rules m.turn.atCombat.tanks := by
  rw [atPlanning_eq, fought, arena_atCombat, rules_atCombat]

end Tanks

end Skirmish.Match
