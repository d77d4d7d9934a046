import Skirmish.Proofs.Match.Invariant

namespace Skirmish

variable {R G : Type}

-- What is settled about the way of a tank when its move has been planned.
structure Plan (R : Type) where
  next : Point R
  heading : R
  turnRadius : R
  speed : Treads R
  blockedBy : Option Nat

def Tank.plan (tank : Tank R) : Plan R :=
  ⟨tank.next, tank.heading, tank.turnRadius, tank.speed, tank.blockedBy⟩

namespace Match

variable {β : Type}

-- Something about tanks that nothing in a tick changes until the next move is planned.
structure Lasting (view : Tank R → β) : Prop where
  serviced : ∀ before after, Tank.Serviced before after → view after = view before
  position : ∀ tank position, view { tank with position } = view tank
  sensors : ∀ tank sensors, view { tank with sensors } = view tank
  driven : ∀ before after, Tank.Driven before after → view after = view before
  death : ∀ tank death, view { tank with death } = view tank

theorem lasting_plan : Lasting (Tank.plan : Tank R → Plan R) where
  serviced before after h := by
    unfold Tank.plan
    rw [h.next, h.heading, h.turnRadius, h.speed, h.blockedBy]
  position _ _ := rfl
  sensors _ _ := rfl
  driven before after h := by
    unfold Tank.plan
    rw [h.next, h.heading, h.turnRadius, h.speed, h.blockedBy]
  death _ _ := rfl

theorem lasting_turretAngle : Lasting fun tank : Tank R => tank.turret.angle where
  serviced _ _ h := h.turretAngle
  position _ _ := rfl
  sensors _ _ := rfl
  driven _ _ h := h.turretAngle
  death _ _ := rfl

theorem onLive_live (f : Tank R → Tank R) {tank : Tank R} (h : tank.isCrater = false) :
    onLive f tank = f tank :=
  if_neg (by rw [h]; exact Bool.false_ne_true)

variable [Scalar R] [Draws R G]

namespace Lasting

variable {view : Tank R → β} (hview : Lasting view)

include hview

omit [Scalar R] [Draws R G] in
theorem of_moved (before after : Tank R) (h : Moved before after) : view after = view before := by
  obtain ⟨position, rfl⟩ := h
  exact hview.position before position

omit [Scalar R] [Draws R G] in
theorem of_swept (before after : Tank R) (h : Swept before after) : view after = view before := by
  obtain ⟨sensors, rfl⟩ := h
  exact hview.sensors before sensors

theorem sinceTeleports (m : Match R G) : List.Forall₂ (fun a b => view b = view a)
    m.turn.atTeleports.tanks m.turn.atPlanning.tanks := by
  have hteleported := forall₂_teleported m.turn.atTeleports
  have hfought := forall₂_fought m.turn.atCombat
  rw [← atCombat_eq_teleported] at hteleported
  rw [← atPlanning_eq] at hfought
  have hspared : ∀ before after : Tank R, Combat.Fought before after → view after = view before := by
    rintro before _ (rfl | ⟨death, rfl⟩)
    · rfl
    · exact hview.death before _
  have hlanded := same_of_onlyLive hview.of_moved hteleported
  have hspent := same_of_onlyLive hspared hfought
  exact forall₂_comp (fun _ _ _ hab hbc => hbc.trans hab) hlanded hspent

theorem atPlanning (m : Match R G) :
    List.Forall₂ (fun a b => view b = view a) m.tanks m.turn.atPlanning.tanks := by
  have htrans : ∀ a b c : Tank R, view b = view a → view c = view b → view c = view a :=
    fun _ _ _ hab hbc => hbc.trans hab
  have hrecharged : List.Forall₂ (fun a b => view b = view a) m.tanks m.recharged.tanks :=
    forall₂_recharged m fun tank => hview.serviced _ _ (tank.serviced_recharge m.rules)
  have hcommitted := forall₂_comp htrans hrecharged
    (same_of_onlyLive hview.of_moved (forall₂_committed m.recharged))
  have hswept := forall₂_comp htrans hcommitted
    (same_of_onlyLive hview.of_swept (forall₂_swept m.recharged.committed))
  have hdriven := forall₂_comp htrans hswept
    (same_of_onlyLive hview.driven (forall₂_programmed m.turn.atPrograms))
  exact forall₂_comp htrans hdriven (hview.sinceTeleports m)

end Lasting

-- In a tick nothing comes of a plan but the move, until the next one is made.
theorem exists_atPlanning {m : Match R G} {i : Nat} {tank : Tank R} (hi : m.tanks[i]? = some tank) :
    ∃ ready, m.turn.atPlanning.tanks[i]? = some ready ∧ ready.plan = tank.plan :=
  forall₂_getElem? (lasting_plan.atPlanning m) hi

omit [Draws R G] in
theorem tanks_planned_fought (m : Match R G) : m.fought.planned.tanks =
    m.fought.tanks.map (onLive (planAround m.arena m.rules)) := rfl

-- A tick ends with a new plan for every live tank.
theorem tanks_advance (m : Match R G) : m.advance.tanks =
    m.turn.atPlanning.tanks.map (onLive (planAround m.arena m.rules)) := by
  rw [advance_eq, tanks_planned_fought, ← atPlanning_eq, arena_atCombat, rules_atCombat]

theorem getElem?_advance {m : Match R G} {i : Nat} {ready : Tank R}
    (hi : m.turn.atPlanning.tanks[i]? = some ready) :
    m.advance.tanks[i]? = some (onLive (planAround m.arena m.rules) ready) := by
  rw [tanks_advance, List.getElem?_map, hi, Option.map_some]

-- What a live tank goes by after a tick is the plan made at its end.
theorem exists_planned {m : Match R G} {i : Nat} {after : Tank R}
    (hi : m.advance.tanks[i]? = some after)
    (hlive : after.isCrater = false) : ∃ ready, m.turn.atPlanning.tanks[i]? = some ready ∧
      ready.isCrater = false ∧ after = planAround m.arena m.rules ready := by
  rw [tanks_advance, List.getElem?_map, Option.map_eq_some_iff] at hi
  obtain ⟨ready, hready, rfl⟩ := hi
  cases hcrater : ready.isCrater with
  | false => exact ⟨ready, hready, hcrater, onLive_live _ hcrater⟩
  | true =>
      rw [onLive, if_pos hcrater, hcrater] at hlive
      exact absurd hlive.symm Bool.false_ne_true

-- Whether the tank on a place does not teleport in the coming tick.
def Stays (m : Match R G) (i : Nat) : Prop :=
  ∀ tank, m.turn.atTeleports.tanks[i]? = some tank → tank.teleporter.teleporting = false

-- Since its move at the start of a tick, a tank that does not teleport stands where it is.
theorem exists_position {m : Match R G} {i : Nat} (hstays : m.Stays i) {tank : Tank R}
    (hi : m.tanks[i]? = some tank) :
    ∀ state ∈ m.turn.opening ++ m.turn.closing, ∃ later, state.tanks[i]? = some later ∧
      later.position = (onLive Tank.commit tank).position := by
  have hready := tank.serviced_recharge m.rules
  have hmoved : (onLive Tank.commit (tank.recharge m.rules)).position =
      (onLive Tank.commit tank).position := by
    unfold onLive
    rw [hready.isCrater]
    split
    · exact hready.position
    · exact hready.next
  have hcommitted : m.turn.atSweep.tanks[i]? =
      some (onLive Tank.commit (tank.recharge m.rules)) := by
    change (m.recharged.tanks.map (onLive Tank.commit))[i]? = _
    rw [List.getElem?_map, getElem?_recharged hi, Option.map_some]
  have hsame : ∀ a b : Tank R, Swept a b → b.position = a.position := by
    rintro a _ ⟨sensors, rfl⟩
    rfl
  obtain ⟨swept, hswept, hatPrograms⟩ :=
    forall₂_getElem? (same_of_onlyLive hsame (forall₂_swept m.turn.atSweep)) hcommitted
  obtain ⟨driven, hdriven, hatTeleports⟩ := forall₂_getElem?
    (same_of_onlyLive (fun _ _ hab => hab.position) (forall₂_programmed m.turn.atPrograms)) hswept
  obtain ⟨landed, hlanded, hteleported⟩ := forall₂_getElem?
    (forall₂_landed m.turn.atTeleports.arena m.turn.atTeleports.tanks m.turn.atTeleports.source)
    hdriven
  have hatCombat : landed = driven := by
    rcases hteleported with hstill | ⟨hasked, -⟩
    · exact hstill
    · rw [hstays driven hdriven] at hasked
      contradiction
  have hspared : ∀ a b : Tank R, Combat.Fought a b → b.position = a.position := by
    rintro a b (rfl | ⟨death, rfl⟩) <;> rfl
  obtain ⟨fought, hfought, hatPlanning⟩ :=
    forall₂_getElem? (same_of_onlyLive hspared (forall₂_fought m.turn.atCombat)) hlanded
  obtain ⟨planned, hplanned, hfinish⟩ := forall₂_getElem?
    (same_of_onlyLive (fun _ _ hab => hab.position) (forall₂_planned m.turn.atPlanning)) hfought
  rw [hatCombat] at hatPlanning
  have hswept' := hatPrograms.trans hmoved
  have hdriven' := hatTeleports.trans hswept'
  have hfought' := hatPlanning.trans hdriven'
  rw [List.forall_mem_append, Turn.opening, Turn.closing, List.forall_mem_cons,
    List.forall_mem_singleton, List.forall_mem_cons, List.forall_mem_cons, List.forall_mem_cons,
    List.forall_mem_singleton]
  exact ⟨⟨⟨_, hcommitted, hmoved⟩, _, hswept, hswept'⟩, ⟨_, hdriven, hdriven'⟩,
    ⟨_, hlanded, hatCombat ▸ hdriven'⟩, ⟨_, hfought, hfought'⟩, _, hplanned, hfinish.trans hfought'⟩

end Match

end Skirmish
