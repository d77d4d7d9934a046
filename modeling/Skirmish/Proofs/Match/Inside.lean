import Skirmish.Proofs.Match.Fates

namespace Skirmish.Match

variable {R G β : Type}

-- The states of a tick up to the programs.
def Turn.opening (turn : Turn R G) : List (Match R G) := [turn.atSweep, turn.atPrograms]

-- The states of a tick since the programs.
def Turn.closing (turn : Turn R G) : List (Match R G) :=
  [turn.atTeleports, turn.atCombat, turn.atPlanning, turn.finish]

-- Something inside of tanks, with which only recharging and programs have to do.
structure Inside (view : Tank R → β) : Prop where
  position : ∀ tank position, view { tank with position } = view tank
  sensors : ∀ tank sensors, view { tank with sensors } = view tank
  death : ∀ tank death, view { tank with death } = view tank
  planned : ∀ before after, Tank.Planned before after → view after = view before

theorem same_of_onlyLive {view : Tank R → β} {P : Tank R → Tank R → Prop}
    (hP : ∀ a b, P a b → view b = view a) {before after : List (Tank R)}
    (h : List.Forall₂ (OnlyLive P) before after) :
    List.Forall₂ (fun a b => view b = view a) before after :=
  h.imp fun _ _ hab => hab.same view hP

namespace Inside

variable {view : Tank R → β} (hview : Inside view)

include hview

theorem of_moved (before after : Tank R) (h : Moved before after) : view after = view before := by
  obtain ⟨position, rfl⟩ := h
  exact hview.position before position

theorem of_swept (before after : Tank R) (h : Swept before after) : view after = view before := by
  obtain ⟨sensors, rfl⟩ := h
  exact hview.sensors before sensors

theorem of_fought (before after : Tank R) (h : Combat.Fought before after) :
    view after = view before := by
  rcases h with rfl | ⟨death, rfl⟩
  · rfl
  · exact hview.death before (some death)

variable [Scalar R] [Draws R G]

-- From the start of a tick to the programs.
theorem opening (m : Match R G) :
    ∀ state ∈ m.turn.opening,
      List.Forall₂ (fun a b => view b = view a) m.recharged.tanks state.tanks := by
  have hcommitted := same_of_onlyLive hview.of_moved (forall₂_committed m.recharged)
  have hswept := same_of_onlyLive hview.of_swept (forall₂_swept m.recharged.committed)
  rw [Turn.opening, List.forall_mem_cons, List.forall_mem_singleton]
  exact ⟨hcommitted, forall₂_comp (fun _ _ _ h h' => h'.trans h) hcommitted hswept⟩

-- From the programs to the end of a tick.
theorem closing (m : Match R G) :
    ∀ state ∈ m.turn.closing,
      List.Forall₂ (fun a b => view b = view a) m.turn.atTeleports.tanks state.tanks := by
  have hteleported := same_of_onlyLive hview.of_moved (forall₂_teleported m.turn.atTeleports)
  have hfought := forall₂_comp (fun _ _ _ h h' => h'.trans h) hteleported
    (same_of_onlyLive hview.of_fought (forall₂_fought m.turn.atCombat))
  have hplanned := forall₂_comp (fun _ _ _ h h' => h'.trans h) hfought
    (same_of_onlyLive hview.planned (forall₂_planned m.turn.atPlanning))
  rw [Turn.closing, List.forall_mem_cons, List.forall_mem_cons, List.forall_mem_cons,
    List.forall_mem_singleton]
  exact ⟨List.forall₂_same.mpr fun _ _ => rfl, hteleported, hfought, hplanned⟩

theorem atPrograms (m : Match R G) :
    List.Forall₂ (fun a b => view b = view a) m.recharged.tanks m.turn.atPrograms.tanks :=
  hview.opening m _ (by simp [Turn.opening])

theorem advance (m : Match R G) :
    List.Forall₂ (fun a b => view b = view a) m.turn.atTeleports.tanks m.advance.tanks :=
  hview.closing m _ (by simp [Turn.closing, Match.advance])

-- What recharging and programs keep of it is kept in all of a tick.
theorem turn {P : Tank R → Prop} (hP : ∀ a b, view b = view a → P a → P b) (m : Match R G)
    (hrecharge : ∀ tank, P tank → P (tank.recharge m.rules))
    (hrun : ∀ (source : G) tank, P tank →
      P (tank.runProgram (Tank.interpreter m.rules) source).1)
    (h : ∀ tank ∈ m.tanks, P tank) :
    ∀ state ∈ m.turn.opening ++ m.turn.closing, ∀ tank ∈ state.tanks, P tank := by
  have hrecharged : ∀ tank ∈ m.recharged.tanks, P tank := by
    unfold recharged
    rw [List.forall_mem_map]
    exact fun tank htank => hrecharge tank (h tank htank)
  have hopening : ∀ state ∈ m.turn.opening, ∀ tank ∈ state.tanks, P tank := fun state hstate =>
    forall_of_forall₂ hP (hview.opening m state hstate) hrecharged
  have hran := forall₂_runPrograms (P := fun a b => P a → P b) (fun _ => id)
    (Tank.interpreter m.rules) hrun m.turn.atPrograms.tanks m.turn.atPrograms.source
  have hdriven : ∀ tank ∈ m.turn.atTeleports.tanks, P tank :=
    forall_of_forall₂ (fun _ _ hlive => hlive.elim (fun _ => id) fun _ _ => id) hran
      (hopening _ (by simp [Turn.opening]))
  rw [List.forall_mem_append]
  exact ⟨hopening, fun state hstate =>
    forall_of_forall₂ hP (hview.closing m state hstate) hdriven⟩

end Inside

end Skirmish.Match
