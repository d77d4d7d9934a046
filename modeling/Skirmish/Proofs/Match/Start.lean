import Skirmish.Proofs.Pointwise
import Skirmish.Proofs.Tank.Changes

namespace Skirmish

variable {R G : Type}

-- Tanks whose ids are their places in the list.
def Numbered (tanks : List (Tank R)) : Prop :=
  ∀ (i : Nat) (tank : Tank R), tanks[i]? = some tank → tank.id = i

def Unharmed (tanks : List (Tank R)) : Prop :=
  ∀ (i : Nat) (tank : Tank R), tanks[i]? = some tank → tank.death = none

-- Neither the name of a tank nor its death is touched.
def Recorded (before after : Tank R) : Prop := after.id = before.id ∧ after.death = before.death

theorem recorded_trans (a b c : Tank R) (h : Recorded a b) (h' : Recorded b c) : Recorded a c :=
  ⟨h'.1.trans h.1, h'.2.trans h.2⟩

theorem Numbered.of_forall₂ {P : Tank R → Tank R → Prop} (hP : ∀ a b, P a b → b.id = a.id)
    {before after : List (Tank R)} (h : List.Forall₂ P before after) (hids : Numbered before) :
    Numbered after := by
  intro i tank hi
  obtain ⟨old, hold, hrel⟩ := forall₂_getElem? h.flip hi
  rw [hP old tank hrel]
  exact hids i old hold

theorem Unharmed.of_forall₂ {P : Tank R → Tank R → Prop} (hP : ∀ a b, P a b → b.death = a.death)
    {before after : List (Tank R)} (h : List.Forall₂ P before after) (hlive : Unharmed before) :
    Unharmed after := by
  intro i tank hi
  obtain ⟨old, hold, hrel⟩ := forall₂_getElem? h.flip hi
  rw [hP old tank hrel]
  exact hlive i old hold

namespace Tank

variable [Scalar R]

theorem ofEntry_fresh {rules : Rules R} {id : Nat} {entry : Entry R} {tank : Tank R}
    (h : ofEntry id entry rules = .ok tank) : tank.id = id ∧ tank.death = none := by
  unfold ofEntry at h
  dsimp only at h
  split at h
  · contradiction
  · split at h
    · contradiction
    · cases h
      exact ⟨rfl, rfl⟩

-- What holds of every tank made from an entry holds of all that are made in a row.
theorem getElem?_ofEntries {P : Nat → Tank R → Prop} {rules : Rules R}
    (hP : ∀ id entry tank, ofEntry id entry rules = .ok tank → P id tank) {first : Nat}
    {entries : List (Entry R)} {tanks : List (Tank R)}
    (h : ofEntries rules first entries = .ok tanks) {i : Nat} {tank : Tank R}
    (hi : tanks[i]? = some tank) : P (first + i) tank := by
  induction entries generalizing first tanks i with
  | nil =>
      cases h
      contradiction
  | cons entry entries ih =>
      unfold ofEntries at h
      cases hentry : ofEntry first entry rules with
      | error fault =>
          rw [hentry] at h
          contradiction
      | ok head =>
          rw [hentry] at h
          cases hrest : ofEntries rules (first + 1) entries with
          | error fault =>
              rw [hrest] at h
              contradiction
          | ok rest =>
              rw [hrest] at h
              cases h
              cases i with
              | zero =>
                  cases hi
                  exact hP first entry tank hentry
              | succ i =>
                  have htail := ih hrest hi
                  rw [Nat.add_right_comm, Nat.add_assoc] at htail
                  exact htail

theorem ofEntries_fresh {rules : Rules R} {first : Nat} {entries : List (Entry R)}
    {tanks : List (Tank R)} (h : ofEntries rules first entries = .ok tanks) {i : Nat}
    {tank : Tank R} (hi : tanks[i]? = some tank) : tank.id = first + i ∧ tank.death = none :=
  getElem?_ofEntries (P := fun id tank => tank.id = id ∧ tank.death = none)
    (fun _ _ _ => ofEntry_fresh) h hi

end Tank

namespace Match

variable [Scalar R] [Draws R G]

theorem forall₂_placeTanks {P : Tank R → Tank R → Prop} (hrefl : ∀ tank, P tank tank)
    (hplace : ∀ position heading turret tank, P tank (tank.place position heading turret))
    (tanks : List (Tank R)) (spots : List (Point R)) (source : G) :
    List.Forall₂ P tanks (placeTanks tanks spots source).1 := by
  induction tanks generalizing spots source with
  | nil =>
      unfold placeTanks
      exact .nil
  | cons tank tanks ih =>
      cases spots with
      | nil =>
          unfold placeTanks
          exact List.forall₂_same.mpr fun tank _ => hrefl tank
      | cons spot spots =>
          unfold placeTanks
          exact .cons (hplace _ _ _ tank) (ih spots _)

theorem tanks_prepare {entries : List (Entry R)} {pillars : Nat} {rules : Rules R} {source : G}
    {ground : Ground R G} (h : prepare entries pillars rules source = .ok ground) :
    Tank.ofEntries rules 0 entries = .ok ground.tanks := by
  unfold prepare at h
  split at h
  · contradiction
  · split at h
    · contradiction
    · split at h
      · contradiction
      · rename_i tanks htanks
        cases h
        exact htanks

theorem check_prepare {entries : List (Entry R)} {pillars : Nat} {rules : Rules R} {source : G}
    {ground : Ground R G} (h : prepare entries pillars rules source = .ok ground) :
    rules.check = .ok () := by
  unfold prepare at h
  split at h
  · contradiction
  · assumption

-- A match is put together, under rules that are in order, from the tanks of its entries, each
-- of them placed.
theorem exists_assemble {entries : List (Entry R)} {pillars : Nat} {rules : Rules R} {source : G}
    {m : Match R G} (h : ofEntries entries pillars rules source = .ok m) :
    ∃ tanks arena spots source', rules.check = .ok () ∧ Tank.ofEntries rules 0 entries = .ok tanks ∧
      m = assemble arena (placeTanks tanks spots source').1 rules
        (placeTanks tanks spots source').2 := by
  unfold ofEntries at h
  split at h
  · contradiction
  · rename_i tanks placement hground
    split at h
    · contradiction
    · rename_i spots _
      cases h
      exact ⟨tanks, placement.arena, spots, placement.source, check_prepare hground,
        tanks_prepare hground, rfl⟩

-- The tanks of a match are those of its entries, with each of them placed and its
-- first move planned.
theorem forall₂_ofEntries {P : Tank R → Tank R → Prop} (hrefl : ∀ tank, P tank tank)
    (htrans : ∀ a b c, P a b → P b c → P a c)
    (hplace : ∀ position heading turret tank, P tank (tank.place position heading turret))
    (hplan : ∀ a b, a.Planned b → P a b)
    {entries : List (Entry R)} {pillars : Nat} {rules : Rules R} {source : G} {m : Match R G}
    (h : ofEntries entries pillars rules source = .ok m) :
    ∃ tanks, Tank.ofEntries rules 0 entries = .ok tanks ∧ List.Forall₂ P tanks m.tanks := by
  obtain ⟨tanks, arena, spots, source', -, hmade, rfl⟩ := exists_assemble h
  refine ⟨tanks, hmade, forall₂_comp htrans (forall₂_placeTanks hrefl hplace tanks spots source') ?_⟩
  unfold assemble
  rw [List.forall₂_map_right_iff, List.forall₂_same]
  exact fun tank _ => hplan _ _ (Tank.planned_planAround arena rules tank)

-- Tanks that are made from their entries start out numbered and unharmed.
theorem ofEntries_fresh {entries : List (Entry R)} {pillars : Nat} {rules : Rules R} {source : G}
    {m : Match R G} (h : ofEntries entries pillars rules source = .ok m) :
    Numbered m.tanks ∧ Unharmed m.tanks := by
  obtain ⟨tanks, hmade, hrel⟩ := forall₂_ofEntries (P := Recorded) (fun _ => ⟨rfl, rfl⟩)
    recorded_trans (fun _ _ _ _ => ⟨rfl, rfl⟩) (fun _ _ h => ⟨h.id, h.death⟩) h
  constructor
  · refine Numbered.of_forall₂ (fun _ _ h => h.1) hrel fun i tank hi => ?_
    rw [(Tank.ofEntries_fresh hmade hi).1, Nat.zero_add]
  · exact Unharmed.of_forall₂ (fun _ _ h => h.2) hrel fun i tank hi =>
      (Tank.ofEntries_fresh hmade hi).2

end Match

-- Two tanks that do nothing, on the same spot.
def pile : List (Tank Float) :=
  let idler : Entry Float := { name := "Idler", path := "", program := "", sensors := [] }
  match Tank.ofEntries Rules.standard 0 [idler, idler] with
  | .ok tanks => tanks
  | .error _ => []

theorem fresh_pile : Numbered pile ∧ Unharmed pile := by
  have hmade : Tank.ofEntries Rules.standard 0 [⟨"Idler", "", "", []⟩, ⟨"Idler", "", "", []⟩] =
      .ok pile := rfl
  constructor
  · intro i tank hi
    rw [(Tank.ofEntries_fresh hmade hi).1, Nat.zero_add]
  · intro i tank hi
    exact (Tank.ofEntries_fresh hmade hi).2

def Match.pileUp : Match Float Generator where
  arena := .sizedFor 2 (Float.ofNat 160)
  tanks := pile
  rules := Rules.standard
  tick := 0
  source := .ofSeed 1

end Skirmish
