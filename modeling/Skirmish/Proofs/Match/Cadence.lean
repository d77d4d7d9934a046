import Mathlib.Logic.Function.Iterate
import Skirmish.Match.Snapshot
import Skirmish.Proofs.Match.Craters
import Skirmish.Proofs.Match.Inside
import Skirmish.Proofs.Tank.Gear

namespace Skirmish

variable {R G : Type}

-- Tanks that neither fire nor teleport.
def Rested (tanks : List (Tank R)) : Prop :=
  ∀ (i : Nat) (tank : Tank R), tanks[i]? = some tank →
    tank.turret.firing = false ∧ tank.teleporter.teleporting = false

-- Devices that can be used at once, and all the ammunition that the rules allow.
def Gear.fresh (rules : Rules R) : Gear := ⟨⟨false, 0⟩, ⟨false, 0⟩, rules.ammo⟩

theorem Tank.gear_of_ofEntry [Scalar R] {rules : Rules R} {id : Nat} {entry : Entry R}
    {tank : Tank R} (h : ofEntry id entry rules = .ok tank) : tank.gear = Gear.fresh rules := by
  unfold ofEntry at h
  dsimp only at h
  split at h
  · contradiction
  · split at h
    · contradiction
    · cases h
      rfl

section Frames

variable [Scalar R]

theorem Frame.has_ofTank (tank : Tank R) (flag : Frame.Flag) :
    (Frame.ofTank tank).has flag =
      match flag with
      | .firing => tank.turret.firing
      | .led => tank.led
      | .crater => tank.isCrater
      | .teleporting => tank.teleporter.teleporting := by
  unfold Frame.has Frame.ofTank
  dsimp only
  generalize tank.turret.firing = firing, tank.led = led, tank.isCrater = crater,
    tank.teleporter.teleporting = teleporting
  cases flag <;> cases firing <;> cases led <;> cases crater <;> cases teleporting <;> rfl

-- Whether the tank on a place of the list is drawn with a flag.
def Snapshot.shows (s : Snapshot R) (i : Nat) (flag : Frame.Flag) : Bool :=
  s.tanks[i]?.any (·.has flag)

end Frames

namespace Match

def SameGear (before after : Tank R) : Prop := after.gear = before.gear

theorem sameGear_trans (a b c : Tank R) (h : SameGear a b) (h' : SameGear b c) : SameGear a c :=
  h'.trans h

theorem inside_gear : Inside (Tank.gear : Tank R → Gear) where
  position _ _ := rfl
  sensors _ _ := rfl
  death _ _ := rfl
  planned _ _ h := by
    unfold Tank.gear
    rw [h.firing, h.turretRecharge, h.teleporter, h.ammo]

theorem recharged_recharged (m : Match R G) :
    List.Forall₂ (fun a b => a.gear.Recharged m.rules b.gear) m.tanks m.recharged.tanks :=
  forall₂_recharged m (Tank.recharged_recharge m.rules)

variable [Scalar R] [Draws R G]

-- Tanks that are made from their entries start out with fresh gear.
theorem gear_of_ofEntries {entries : List (Entry R)} {pillars : Nat} {rules : Rules R} {source : G}
    {m : Match R G} (h : ofEntries entries pillars rules source = .ok m) {i : Nat} {tank : Tank R}
    (hi : m.tanks[i]? = some tank) : tank.gear = Gear.fresh rules := by
  obtain ⟨tanks, hmade, hrel⟩ := forall₂_ofEntries (P := SameGear) (fun _ => rfl) sameGear_trans
    (fun _ _ _ _ => rfl) inside_gear.planned h
  obtain ⟨made, hold, hsame⟩ := forall₂_getElem? hrel.flip hi
  exact hsame.trans (Tank.getElem?_ofEntries (P := fun _ tank => tank.gear = Gear.fresh rules)
    (fun _ _ _ => Tank.gear_of_ofEntry) hmade hold)

theorem rested_of_ofEntries {entries : List (Entry R)} {pillars : Nat} {rules : Rules R}
    {source : G} {m : Match R G} (h : ofEntries entries pillars rules source = .ok m) :
    Rested m.tanks := by
  intro i tank hi
  have hfresh := gear_of_ofEntries h hi
  exact ⟨congrArg (fun gear => gear.cannon.inUse) hfresh,
    congrArg (fun gear => gear.teleporter.inUse) hfresh⟩

theorem handled_programmed (m : Match R G) :
    List.Forall₂ (fun a b => a.gear.Handled b.gear) m.tanks m.programmed.tanks := by
  have hrun := forall₂_runPrograms (P := fun a b => a.gear.Handled b.gear) (fun _ => .refl _)
    (Tank.interpreter m.rules) (fun source tank => tank.handled_runProgram _ source) m.tanks m.source
  exact hrun.imp fun _ _ h => h.elim (fun _ => .refl _) fun _ _ => id

-- Only the start of a tick and the programs have to do with cannons and teleporters.
theorem ticked_advance (m : Match R G) :
    List.Forall₂ (fun a b => a.gear.Ticked m.rules b.gear) m.tanks m.advance.tanks := by
  have hsensed := inside_gear.atPrograms m
  have hended := inside_gear.advance m
  have hstarted := forall₂_comp
    (fun a b c (h : a.gear.Recharged m.rules b.gear) (h' : SameGear b c) =>
      (h' ▸ h : a.gear.Recharged m.rules c.gear))
    (recharged_recharged m) hsensed
  have hhandled := forall₂_comp
    (fun a b c (h : a.gear.Handled b.gear) (h' : SameGear b c) => (h' ▸ h : a.gear.Handled c.gear))
    (handled_programmed m.recharged.committed.swept) hended
  exact forall₂_comp (fun _ _ _ h h' => h.ticked h') hstarted hhandled

-- Whether the snapshot after so many ticks shows a tank with a flag.
def shown (m : Match R G) (i : Nat) (flag : Frame.Flag) (n : Nat) : Bool :=
  (advance^[n] m).snapshot.shows i flag

theorem shown_eq {m : Match R G} {i n : Nat} {tank : Tank R}
    (hi : (advance^[n] m).tanks[i]? = some tank) (flag : Frame.Flag) :
    m.shown i flag n = (Frame.ofTank tank).has flag := by
  unfold shown Snapshot.shows snapshot
  rw [List.getElem?_map, hi]
  rfl

-- The tank on a place at all times.
structure Career (m : Match R G) (i : Nat) (career : Nat → Tank R) : Prop where
  placed : ∀ n, (advance^[n] m).tanks[i]? = some (career n)
  ticked : ∀ n, (career n).gear.Ticked m.rules (career (n + 1)).gear

theorem exists_career (m : Match R G) {i : Nat} {tank : Tank R} (hi : m.tanks[i]? = some tank) :
    ∃ career, Career m i career ∧ career 0 = tank := by
  have hlater : ∀ n, ∃ later, (advance^[n] m).tanks[i]? = some later := by
    intro n
    have hlt := (List.getElem?_eq_some_iff.mp hi).1
    exact ⟨_, List.getElem?_eq_getElem (by rw [length_iterate]; exact hlt)⟩
  choose career hcareer using hlater
  refine ⟨career, ⟨hcareer, fun n => ?_⟩, ?_⟩
  · obtain ⟨next, hnext, hticked⟩ := forall₂_getElem? (ticked_advance _) (hcareer n)
    have hsucc := hcareer (n + 1)
    rw [Function.iterate_succ_apply', hnext] at hsucc
    rw [rules_iterate] at hticked
    rw [← Option.some.inj hsucc]
    exact hticked
  · have hstart := hcareer 0
    rw [Function.iterate_zero_apply, hi] at hstart
    exact (Option.some.inj hstart).symm

namespace Career

variable {m : Match R G} {i : Nat} {career : Nat → Tank R}

theorem shown_firing (h : Career m i career) (n : Nat) :
    m.shown i .firing n = (career n).gear.cannon.inUse := by
  rw [shown_eq (h.placed n), Frame.has_ofTank]
  rfl

theorem shown_teleporting (h : Career m i career) (n : Nat) :
    m.shown i .teleporting n = (career n).gear.teleporter.inUse := by
  rw [shown_eq (h.placed n), Frame.has_ofTank]
  rfl

theorem firing_apart (h : Career m i career) {s t : Nat} (hst : s < t)
    (hs : m.shown i .firing s = true) (ht : m.shown i .firing t = true) :
    max 1 m.rules.cannonRecharge ≤ t - s := by
  rw [h.shown_firing] at hs ht
  exact Device.uses_apart (fun n => (h.ticked n).cannon) hst hs ht

theorem teleporting_apart (h : Career m i career) {s t : Nat} (hst : s < t)
    (hs : m.shown i .teleporting s = true) (ht : m.shown i .teleporting t = true) :
    max 1 m.rules.teleportRecharge ≤ t - s := by
  rw [h.shown_teleporting] at hs ht
  exact Device.uses_apart (fun n => (h.ticked n).teleporter) hst hs ht

-- Shots that were shown and shots in stock are no more than there were in stock.
theorem shots_le (h : Career m i career) (hidle : (career 0).turret.firing = false)
    (hammo : 0 ≤ (career 0).ammo) (n : Nat) :
    0 ≤ (career n).ammo ∧
      (career n).ammo + (List.range (n + 1)).countP (m.shown i .firing) ≤ (career 0).ammo := by
  rw [funext h.shown_firing]
  exact Gear.ammo_of_limited h.ticked hidle hammo n

end Career

-- However tanks are programmed, their cannons and teleporters take the time to
-- recharge that the rules set, and limited ammunition is never exceeded.
theorem devices_recharge (m : Match R G) (hrested : Rested m.tanks) {i : Nat} {tank : Tank R}
    (hi : m.tanks[i]? = some tank) :
    (∀ s t, s < t → m.shown i .firing s = true → m.shown i .firing t = true →
      max 1 m.rules.cannonRecharge ≤ t - s) ∧
    (∀ s t, s < t → m.shown i .teleporting s = true → m.shown i .teleporting t = true →
      max 1 m.rules.teleportRecharge ≤ t - s) ∧
    ∀ n, ∃ later, (advance^[n] m).tanks[i]? = some later ∧
      (tank.ammo < 0 → later.ammo = tank.ammo) ∧
      (0 ≤ tank.ammo → 0 ≤ later.ammo ∧ later.ammo ≤ tank.ammo ∧
        (List.range (n + 1)).countP (m.shown i .firing) ≤ tank.ammo - later.ammo) := by
  obtain ⟨career, hcareer, rfl⟩ := exists_career m hi
  refine ⟨fun _ _ => hcareer.firing_apart, fun _ _ => hcareer.teleporting_apart, fun n =>
    ⟨career n, hcareer.placed n, fun hammo => Gear.ammo_of_unlimited hcareer.ticked hammo n,
      fun hammo => ?_⟩⟩
  obtain ⟨hnonneg, hcount⟩ := hcareer.shots_le (hrested i _ hi).1 hammo n
  refine ⟨hnonneg, ?_, ?_⟩ <;> omega

-- A tank with five shots that wants to fire and to teleport all the time.
def fury : Tank Float :=
  let entry : Entry Float := { name := "Fury", path := "", program := "fire! teleport!", sensors := [] }
  (Tank.ofEntry 0 entry { (Rules.standard : Rules Float) with ammo := 5 }).toOption.get rfl

def frenzy : Match Float Generator where
  arena := .sizedFor 1 (Float.ofNat 160)
  tanks := [fury]
  rules := { Rules.standard with cannonRecharge := 2, teleportRecharge := 3 }
  tick := 0
  source := .ofSeed 1

theorem devices_recharge_frenzy : Rested frenzy.tanks ∧ frenzy.tanks[0]? = some fury ∧
    frenzy.shown 0 .firing 1 = true ∧ frenzy.shown 0 .firing 3 = true ∧
    max 1 frenzy.rules.cannonRecharge ≤ 3 - 1 ∧
    frenzy.shown 0 .teleporting 1 = true ∧ frenzy.shown 0 .teleporting 4 = true ∧
    max 1 frenzy.rules.teleportRecharge ≤ 4 - 1 ∧
    ∃ later, (advance^[12] frenzy).tanks[0]? = some later ∧
      ((List.range 13).countP (frenzy.shown 0 .firing) : Int) ≤ 5 - later.ammo := by
  have hrested : Rested frenzy.tanks := by
    intro i tank hi
    cases i with
    | zero => cases hi; exact ⟨rfl, rfl⟩
    | succ i => contradiction
  obtain ⟨hcannon, hteleporter, hammo⟩ := devices_recharge frenzy hrested (i := 0) rfl
  have hfirst : frenzy.shown 0 .firing 1 = true ∧ frenzy.shown 0 .firing 3 = true := by
    decide +kernel
  have hnext : frenzy.shown 0 .teleporting 1 = true ∧ frenzy.shown 0 .teleporting 4 = true := by
    decide +kernel
  obtain ⟨later, hlater, _, hlimited⟩ := hammo 12
  exact ⟨hrested, rfl, hfirst.1, hfirst.2, hcannon 1 3 (by decide) hfirst.1 hfirst.2,
    hnext.1, hnext.2, hteleporter 1 4 (by decide) hnext.1 hnext.2,
    later, hlater, (hlimited (by decide)).2.2⟩

-- In a match that is made from entries, all of this counts from the start: no tank fires more
-- shots than the rules allow, or any of its devices sooner than they recharge.
theorem devices_of_ofEntries {entries : List (Entry R)} {pillars : Nat} {rules : Rules R} {source : G}
    {m : Match R G} (h : ofEntries entries pillars rules source = .ok m) {i : Nat}
    (hi : i < m.tanks.length) :
    (∀ s t, s < t → m.shown i .firing s = true → m.shown i .firing t = true →
      max 1 rules.cannonRecharge ≤ t - s) ∧
    (∀ s t, s < t → m.shown i .teleporting s = true → m.shown i .teleporting t = true →
      max 1 rules.teleportRecharge ≤ t - s) ∧
    (0 ≤ rules.ammo →
      ∀ n, ((List.range (n + 1)).countP (m.shown i .firing) : Int) ≤ rules.ammo) := by
  obtain ⟨_, _, _, _, -, -, hmade⟩ := exists_assemble h
  have hrules : m.rules = rules := by
    rw [hmade]
    rfl
  subst hrules
  have hstart := List.getElem?_eq_getElem hi
  obtain ⟨career, hcareer, hfirst⟩ := exists_career m hstart
  rw [← hfirst] at hstart
  have hfresh : (career 0).ammo = m.rules.ammo := congrArg Gear.ammo (gear_of_ofEntries h hstart)
  refine ⟨fun _ _ => hcareer.firing_apart, fun _ _ => hcareer.teleporting_apart, fun hammo n => ?_⟩
  rw [← hfresh] at hammo ⊢
  obtain ⟨hnonneg, hcount⟩ := hcareer.shots_le (rested_of_ofEntries h i _ hstart).1 hammo n
  omega

end Match

end Skirmish
