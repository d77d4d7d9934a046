import Skirmish.Proofs.Combat.Account

namespace Skirmish

namespace Combat

variable {R : Type}

-- How each of the tanks has died, if it has.
def fates (tanks : List (Tank R)) : Fates := fun i => tanks[i]?.bind Tank.death

-- A tank that has died as given or not at all.
def withFate (fate : Option Death) (tank : Tank R) : Tank R := { tank with death := fate }

def withFates (tanks : List (Tank R)) (fates : Fates) : List (Tank R) :=
  tanks.mapIdx fun i tank => withFate (fates i) tank

def idAt (tanks : List (Tank R)) (i : Nat) : Nat := (tanks[i]?.map Tank.id).getD i

theorem getElem?_withFates (tanks : List (Tank R)) (fates : Fates) (i : Nat) :
    (withFates tanks fates)[i]? = tanks[i]?.map (withFate (fates i)) := by
  rw [withFates, List.getElem?_mapIdx]

theorem length_withFates (tanks : List (Tank R)) (fates : Fates) :
    (withFates tanks fates).length = tanks.length := by
  rw [withFates, List.length_mapIdx]

theorem withFates_fates (tanks : List (Tank R)) : withFates tanks (fates tanks) = tanks := by
  apply List.ext_getElem?
  intro i
  rw [getElem?_withFates]
  cases h : tanks[i]? with
  | none => rfl
  | some tank => simp [fates, withFate, h]

theorem fates_eq_none {tanks : List (Tank R)} {i : Nat} {tank : Tank R}
    (hi : tanks[i]? = some tank) : fates tanks i = none ↔ tank.isCrater = false := by
  rw [fates, hi, Option.bind_some, Tank.isCrater, Option.isSome_eq_false_iff,
    Option.isNone_iff_eq_none]

theorem set_withFates (tanks : List (Tank R)) (fates : Fates) {i : Nat} {tank : Tank R}
    (hi : tanks[i]? = some tank) (fate : Option Death) :
    (withFates tanks fates).set i (withFate fate tank) =
      withFates tanks (Function.update fates i fate) := by
  have hlt : i < (withFates tanks fates).length := by
    rw [length_withFates]
    exact (List.getElem?_eq_some_iff.mp hi).1
  apply List.ext_getElem?
  intro j
  rw [List.getElem?_set, getElem?_withFates, getElem?_withFates]
  by_cases hij : i = j
  · subst hij
    rw [if_pos rfl, if_pos hlt, hi, Function.update_self, Option.map_some]
  · rw [if_neg hij, Function.update_of_ne (Ne.symm hij)]

variable [Scalar R]

-- The way from one place to another, which the tank on the lower place measures.
def way (arena : Arena R) (i j : Nat) (this that : Tank R) : Point R :=
  if i < j then arena.displacement this.position that.position
  else -arena.displacement that.position this.position

def waySq (arena : Arena R) (i j : Nat) (this that : Tank R) : R :=
  if i < j then (arena.displacement this.position that.position).lengthSq
  else (arena.displacement that.position this.position).lengthSq

-- Whether a shot would hit a target at an offset, if it were fired.
def inSights (rules : Rules R) (shooter : Tank R) (offset : Point R) (distanceSq : R) : Bool :=
  !decide (rules.cannonReachSq < distanceSq) && hits rules shooter offset

-- A target in sight is in range and ahead of the cannon, with its centre less than the radius of
-- a hull from the line of fire.
theorem inSights_iff {rules : Rules R} {shooter : Tank R} {offset : Point R} {distanceSq : R} :
    inSights rules shooter offset distanceSq = true ↔
      ¬ rules.cannonReachSq < distanceSq ∧ ((0 : Int) : R) < (lineOfFire shooter offset).x ∧
        Scalar.abs (lineOfFire shooter offset).y < rules.tankRadius := by
  simp only [inSights, hits, Bool.and_eq_true, Bool.not_eq_true', decide_eq_true_eq,
    decide_eq_false_iff_not]

def touches (arena : Arena R) (rules : Rules R) (tanks : List (Tank R)) (i j : Nat) : Bool :=
  match tanks[i]?, tanks[j]? with
  | some this, some that => decide (waySq arena i j this that ≤ rules.collisionReachSq)
  | _, _ => false

-- Whether the tank on one place fires and has the one on another in its sights.
def shoots (arena : Arena R) (rules : Rules R) (tanks : List (Tank R)) (i j : Nat) : Bool :=
  match tanks[i]?, tanks[j]? with
  | some this, some that =>
    this.turret.firing && inSights rules this (way arena i j this that) (waySq arena i j this that)
  | _, _ => false

theorem waySq_comm (arena : Arena R) {i j : Nat} (hij : i ≠ j) (this that : Tank R) :
    waySq arena i j this that = waySq arena j i that this := by
  unfold waySq
  by_cases h : i < j
  · rw [if_pos h, if_neg (by omega)]
  · rw [if_neg h, if_pos (by omega)]

theorem touches_comm (arena : Arena R) (rules : Rules R) (tanks : List (Tank R)) (i j : Nat) :
    touches arena rules tanks i j = touches arena rules tanks j i := by
  by_cases hij : i = j
  · rw [hij]
  · unfold touches
    cases tanks[i]? with
    | none => cases tanks[j]? <;> rfl
    | some this =>
        cases tanks[j]? with
        | none => rfl
        | some that =>
            dsimp only
            rw [waySq_comm arena hij]

def standoff (arena : Arena R) (rules : Rules R) (tanks : List (Tank R)) : Standoff where
  id := idAt tanks
  touch := touches arena rules tanks
  shoot := shoots arena rules tanks
  touch_comm := touches_comm arena rules tanks

theorem clash_withFate (arena : Arena R) (rules : Rules R) (this that : Tank R)
    (fate fate' : Option Death) :
    clash arena rules (withFate fate this) (withFate fate' that) =
      if fate.isSome || fate'.isSome then none
      else if (arena.displacement this.position that.position).lengthSq ≤
          rules.collisionReachSq then
        some (withFate (some ⟨that.id, .collision⟩) this, withFate (some ⟨this.id, .collision⟩) that)
      else if this.turret.firing && inSights rules this
          (arena.displacement this.position that.position)
          (arena.displacement this.position that.position).lengthSq then
        some (withFate fate this, withFate (some ⟨this.id, .shot⟩) that)
      else if that.turret.firing && inSights rules that
          (-arena.displacement this.position that.position)
          (arena.displacement this.position that.position).lengthSq then
        some (withFate (some ⟨that.id, .shot⟩) this, withFate fate' that)
      else none := by
  have haims : ∀ (fate : Option Death) (tank : Tank R) (offset : Point R) (distanceSq : R),
      (aims rules (withFate fate tank) distanceSq && hits rules (withFate fate tank) offset) =
        (tank.turret.firing && inSights rules tank offset distanceSq) := by
    intro fate tank offset distanceSq
    rw [inSights, ← Bool.and_assoc]
    rfl
  have hcrater : ∀ (fate : Option Death) (tank : Tank R),
      (withFate fate tank).isCrater = fate.isSome := fun _ _ => rfl
  have hposition : ∀ (fate : Option Death) (tank : Tank R),
      (withFate fate tank).position = tank.position := fun _ _ => rfl
  unfold clash engage engagement
  simp only [haims, hcrater, hposition, Bool.or_comm fate'.isSome]
  split_ifs <;> rfl

theorem meet_withFates (arena : Arena R) (rules : Rules R) (tanks : List (Tank R)) (fates : Fates)
    {i j : Nat} (hij : i < j) (hj : j < tanks.length) :
    meet arena rules (withFates tanks fates) (i, j) =
      withFates tanks ((standoff arena rules tanks).settle fates (i, j)) := by
  have hi : i < tanks.length := by omega
  obtain ⟨this, hthis⟩ : ∃ this, tanks[i]? = some this := ⟨_, List.getElem?_eq_getElem hi⟩
  obtain ⟨that, hthat⟩ : ∃ that, tanks[j]? = some that := ⟨_, List.getElem?_eq_getElem hj⟩
  have htouch : touches arena rules tanks i j =
      decide ((arena.displacement this.position that.position).lengthSq ≤
        rules.collisionReachSq) := by
    simp only [touches, waySq, hthis, hthat, if_pos hij]
  have hshoot : shoots arena rules tanks i j = (this.turret.firing && inSights rules this
      (arena.displacement this.position that.position)
      (arena.displacement this.position that.position).lengthSq) := by
    simp only [shoots, way, waySq, hthis, hthat, if_pos hij]
  have hshot : shoots arena rules tanks j i = (that.turret.firing && inSights rules that
      (-arena.displacement this.position that.position)
      (arena.displacement this.position that.position).lengthSq) := by
    simp only [shoots, way, waySq, hthis, hthat, if_neg (Nat.not_lt_of_gt hij)]
  have hthisId : idAt tanks i = this.id := by rw [idAt, hthis]; rfl
  have hthatId : idAt tanks j = that.id := by rw [idAt, hthat]; rfl
  dsimp only [meet, Standoff.settle, standoff]
  simp only [getElem?_withFates, hthis, hthat, Option.map_some, clash_withFate, htouch, hshoot,
    hshot, hthisId, hthatId, decide_eq_true_eq]
  split_ifs
  · rfl
  · simp only [set_withFates _ _ hthis, set_withFates _ _ hthat]
  · simp only [set_withFates _ _ hthis, set_withFates _ _ hthat, Function.update_eq_self]
  · have hkept : Function.update fates i (some ⟨that.id, .shot⟩) j = fates j :=
      Function.update_of_ne (by omega) _ _
    simp only [set_withFates _ _ hthis, set_withFates _ _ hthat]
    rw [← hkept, Function.update_eq_self]
  · rfl

theorem mem_schedule {count : Nat} {pair : Nat × Nat} :
    pair ∈ schedule count ↔ pair.1 < pair.2 ∧ pair.2 < count := by
  obtain ⟨i, j⟩ := pair
  simp only [schedule, pairsFrom, List.mem_flatMap, List.mem_range, List.mem_map, List.mem_range'_1,
    Prod.mk.injEq]
  constructor
  · rintro ⟨first, hfirst, second, hsecond, rfl, rfl⟩
    omega
  · rintro ⟨hij, hj⟩
    exact ⟨i, by omega, j, by omega, rfl, rfl⟩

theorem foldl_meet_withFates (arena : Arena R) (rules : Rules R) (tanks : List (Tank R))
    (pairs : List (Nat × Nat)) (hpairs : ∀ pair ∈ pairs, pair.1 < pair.2 ∧ pair.2 < tanks.length)
    (fates : Fates) :
    pairs.foldl (meet arena rules) (withFates tanks fates) =
      withFates tanks ((standoff arena rules tanks).settleAll pairs fates) := by
  induction pairs generalizing fates with
  | nil => rfl
  | cons pair pairs ih =>
      obtain ⟨hij, hj⟩ := hpairs pair (by simp)
      have hmeet := meet_withFates arena rules tanks fates hij hj
      rw [List.foldl_cons, hmeet, ih fun other hother => hpairs other (List.mem_cons_of_mem _ hother)]
      rfl

-- How the tanks have died after a fight.
def fatesAfter (arena : Arena R) (rules : Rules R) (tanks : List (Tank R)) : Fates :=
  (standoff arena rules tanks).settleAll (schedule tanks.length) (fates tanks)

-- A fight decides over deaths and nothing else.
theorem resolve_eq (arena : Arena R) (rules : Rules R) (tanks : List (Tank R)) :
    resolve arena rules tanks = withFates tanks (fatesAfter arena rules tanks) := by
  have hfold := foldl_meet_withFates arena rules tanks (schedule tanks.length)
    (fun pair hpair => mem_schedule.mp hpair) (fates tanks)
  rw [withFates_fates] at hfold
  exact hfold

theorem getElem?_resolve (arena : Arena R) (rules : Rules R) (tanks : List (Tank R)) (i : Nat) :
    (resolve arena rules tanks)[i]? = tanks[i]?.map (withFate (fatesAfter arena rules tanks i)) := by
  rw [resolve_eq, getElem?_withFates]

-- All that a fight came to, for all pairs of places.
theorem account_fatesAfter (arena : Arena R) (rules : Rules R) (tanks : List (Tank R)) :
    (standoff arena rules tanks).Account (fates tanks) (fatesAfter arena rules tanks)
      (schedule tanks.length) := by
  apply Standoff.account_settleAll
  intro pair hpair
  exact Nat.ne_of_lt (mem_schedule.mp hpair).1

theorem exists_of_touches {arena : Arena R} {rules : Rules R} {tanks : List (Tank R)} {i j : Nat}
    (h : touches arena rules tanks i j = true) :
    ∃ this that, tanks[i]? = some this ∧ tanks[j]? = some that ∧
      waySq arena i j this that ≤ rules.collisionReachSq := by
  unfold touches at h
  split at h
  · rename_i this that hthis hthat
    exact ⟨this, that, hthis, hthat, of_decide_eq_true h⟩
  · contradiction

theorem exists_of_shoots {arena : Arena R} {rules : Rules R} {tanks : List (Tank R)} {i j : Nat}
    (h : shoots arena rules tanks i j = true) :
    ∃ this that, tanks[i]? = some this ∧ tanks[j]? = some that ∧ this.turret.firing = true ∧
      inSights rules this (way arena i j this that) (waySq arena i j this that) = true := by
  unfold shoots at h
  split at h
  · rename_i this that hthis hthat
    obtain ⟨hfiring, hsights⟩ := Bool.and_eq_true_iff.mp h
    exact ⟨this, that, hthis, hthat, hfiring, hsights⟩
  · contradiction

-- Nothing but a fight's own tanks die in it.
theorem fates_resolve (arena : Arena R) (rules : Rules R) (tanks : List (Tank R)) :
    fates (resolve arena rules tanks) = fatesAfter arena rules tanks := by
  have haccount := account_fatesAfter arena rules tanks
  funext i
  rw [fates, getElem?_resolve]
  cases hi : tanks[i]? with
  | some tank => rfl
  | none =>
      have hbefore : fates tanks i = none := by rw [fates, hi]; rfl
      cases hafter : fatesAfter arena rules tanks i with
      | none => rfl
      | some death =>
          exfalso
          obtain ⟨k, _, _, _, hcause⟩ := haccount.slain i death hbefore hafter
          rcases hcause with ⟨_, htouch, _⟩ | ⟨_, hshoot⟩
          · obtain ⟨_, _, hthis, _⟩ := exists_of_touches htouch
            rw [hi] at hthis
            contradiction
          · obtain ⟨_, _, _, hthat, _⟩ := exists_of_shoots hshoot
            rw [hi] at hthat
            contradiction

-- A tank that lives after a fight is as it was before.
theorem alive_of_resolve {arena : Arena R} {rules : Rules R} {tanks : List (Tank R)} {i : Nat}
    {tank : Tank R} (hi : (resolve arena rules tanks)[i]? = some tank)
    (hlive : tank.isCrater = false) :
    tanks[i]? = some tank ∧ fatesAfter arena rules tanks i = none := by
  have hafter := (fates_eq_none hi).mpr hlive
  rw [fates_resolve] at hafter
  refine ⟨?_, hafter⟩
  rw [getElem?_resolve] at hi
  obtain ⟨before, hbefore, rfl⟩ := Option.map_eq_some_iff.mp hi
  have hnone := (account_fatesAfter arena rules tanks).alive hafter
  rw [fates, hbefore, Option.bind_some] at hnone
  rw [hbefore, hafter, withFate, ← hnone]

end Combat

end Skirmish
