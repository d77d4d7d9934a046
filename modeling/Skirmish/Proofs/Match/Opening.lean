import Skirmish.Proofs.Arena.Capacity
import Skirmish.Proofs.Match.Fates
import Skirmish.Proofs.Scalar.Doubles

namespace Skirmish.Match

open Combat Placement

variable {R G : Type} [Scalar R] [Draws R G]

theorem positions_placeTanks {tanks : List (Tank R)} {spots : List (Point R)}
    (hlength : spots.length = tanks.length) (source : G) :
    (placeTanks tanks spots source).1.map Tank.position = spots := by
  induction tanks generalizing spots source with
  | nil =>
      cases List.length_eq_zero_iff.mp hlength
      simp [placeTanks]
  | cons tank tanks ih =>
      cases spots with
      | nil => simp at hlength
      | cons spot spots =>
          simp only [placeTanks, List.map_cons]
          rw [ih (by simpa using hlength)]
          rfl

omit [Draws R G] in
theorem positions_assemble (arena : Arena R) (tanks : List (Tank R)) (rules : Rules R) (source : G) :
    (assemble arena tanks rules source).tanks.map Tank.position = tanks.map Tank.position := by
  simp only [assemble, List.map_map]
  apply List.map_congr_left
  intro tank _
  exact (Tank.planned_planAround arena rules tank).position

-- The tanks of a match start where they were placed, with their first moves planned.
theorem populate_ofEntries {entries : List (Entry R)} {pillars : Nat} {rules : Rules R} {source : G}
    {m : Match R G} (h : ofEntries entries pillars rules source = .ok m) :
    m.rules = rules ∧ rules.check = .ok () ∧
      ((Arena.sizedFor (m.tanks.length + pillars) rules.gridSpacing).populate pillars m.tanks.length
        rules source).arena = m.arena ∧
      ((Arena.sizedFor (m.tanks.length + pillars) rules.gridSpacing).populate pillars m.tanks.length
        rules source).tanks = .ok (m.tanks.map Tank.position) ∧
      ∃ placed : List (Tank R), m.tanks = placed.map (planAround m.arena rules) := by
  unfold ofEntries at h
  split at h
  · contradiction
  · rename_i tanks placement hground
    unfold prepare at hground
    split at hground
    · contradiction
    · rename_i hcheck
      split_ifs at hground
      split at hground
      · contradiction
      · cases hground
        dsimp only at h
        split at h
        · contradiction
        · rename_i spots hspots
          cases h
          have hpositions := positions_placeTanks (settled_populate hspots).1.tanks
            (Arena.populate (.sizedFor (tanks.length + pillars) rules.gridSpacing) pillars tanks.length
              rules source).source
          have hcount := congrArg List.length hpositions
          rw [List.length_map, (settled_populate hspots).1.tanks] at hcount
          rw [positions_assemble, hpositions]
          refine ⟨rfl, hcheck, ?_⟩
          simp only [assemble, List.length_map, hcount]
          exact ⟨trivial, hspots, _, rfl⟩

theorem settled_ofEntries {entries : List (Entry R)} {pillars : Nat} {rules : Rules R} {source : G}
    {m : Match R G} (h : ofEntries entries pillars rules source = .ok m) :
    m.rules = rules ∧ rules.check = .ok () ∧
      Settled rules pillars m.tanks.length m.arena (m.tanks.map Tank.position) := by
  obtain ⟨hrules, hcheck, harena, hspots, -⟩ := populate_ofEntries h
  exact ⟨hrules, hcheck, harena ▸ (settled_populate hspots).1⟩

section Exact

variable {G : Type} [Draws ℝ G]

-- A match of well-made tanks can begin where they find places.
theorem exists_ofEntries {rules : Rules ℝ} (hvalid : rules.Valid) {entries : List (Entry ℝ)}
    {tanks : List (Tank ℝ)} (hmade : Tank.ofEntries rules 0 entries = .ok tanks)
    (hsome : entries.isEmpty = false) {pillars : Nat} {source : G}
    (hspots : ∃ spots, ((Arena.sizedFor (tanks.length + pillars) rules.gridSpacing).populate pillars
      tanks.length rules source).tanks = .ok spots) :
    ∃ m, ofEntries entries pillars rules source = .ok m := by
  obtain ⟨spots, hspots⟩ := hspots
  have hground : prepare entries pillars rules source = .ok ⟨tanks,
      (Arena.sizedFor (tanks.length + pillars) rules.gridSpacing).populate pillars tanks.length rules
        source⟩ := by
    simp [prepare, Rules.check_eq_ok_iff.mpr hvalid, hsome, hmade]
  unfold ofEntries
  rw [hground]
  dsimp only
  rw [hspots]
  exact ⟨_, rfl⟩

-- Without pillars, they always do.
theorem exists_ofEntries_bare {rules : Rules ℝ} (hvalid : rules.Valid) {entries : List (Entry ℝ)}
    {tanks : List (Tank ℝ)} (hmade : Tank.ofEntries rules 0 entries = .ok tanks)
    (hsome : entries.isEmpty = false) (source : G) :
    ∃ m, ofEntries entries 0 rules source = .ok m :=
  exists_ofEntries hvalid hmade hsome
    (Placement.exists_populate_bare (by simpa using hvalid.gridSpacing_pos) tanks.length source)

theorem onGrid_of_halves {entries : List (Entry ℝ)} {rules : Rules ℝ} {m : Match ℝ Halves}
    (h : ofEntries entries 0 rules Halves.halves = .ok m) (htwo : m.tanks.length = 2) :
    OnGrid rules m.arena (m.tanks.map Tank.position) := by
  obtain ⟨-, -, harena, hspots, -⟩ := populate_ofEntries h
  rw [htwo] at harena hspots
  obtain ⟨_, _, hcrowded⟩ := scatterTanks_halves rules (Arena.sizedFor (2 + 0) rules.gridSpacing) 0
    [] Halves.halves
  rw [← harena]
  exact onGrid_of_crowded rfl hcrowded hspots

end Exact

omit [Draws R G] in
-- Tanks keep more than two hulls' radii from each other, as far as it goes straight across
-- the field.
theorem collisionReachSq_lt [MonotoneScalar R] {rules : Rules R} (hvalid : rules.Valid)
    {p q : Point R} (hclear : isClear (ofTank rules q) (ofTank rules p) = true) :
    rules.collisionReachSq < q.distanceSq p := by
  have hradius := MonotoneScalar.le_of_lt hvalid.tankRadius_pos
  have hspacing : ((0 : Int) : R) ≤ ObjectKind.spacing .tank .tank :=
    MonotoneScalar.natCast_nonneg (n := 150) (by decide)
  have htwice := MonotoneScalar.two_mul_nonneg hradius
  have hreach : ((2 : Int) : R) * rules.tankRadius ≤
      rules.tankRadius + rules.tankRadius + ObjectKind.spacing .tank .tank :=
    MonotoneScalar.le_trans htwice (MonotoneScalar.two_mul_le hradius)
      (MonotoneScalar.le_add (MonotoneScalar.add_nonneg hradius hradius) hspacing)
  exact MonotoneScalar.lt_of_le_of_lt (MonotoneScalar.mul_self_nonneg htwice)
    (MonotoneScalar.mul_self_le_mul_self htwice hreach) (of_decide_eq_true hclear)

-- What holds of what any two items of a list are taken to, in order.
theorem rel_of_pairwise_map {α β : Type} {f : α → β} {xs : List α} {P : β → β → Prop}
    (h : (xs.map f).Pairwise P) {i j : Nat} (hij : i < j) {a b : α} (ha : xs[i]? = some a)
    (hb : xs[j]? = some b) : P (f a) (f b) := by
  obtain ⟨hi, rfl⟩ := List.getElem?_eq_some_iff.mp ha
  obtain ⟨hj, rfl⟩ := List.getElem?_eq_some_iff.mp hb
  exact List.pairwise_iff_getElem.mp (List.pairwise_map.mp h) i j hi hj hij

-- Tanks that are where they were while they did not touch do not collide with each other.
theorem not_rammed {m : Match R G} (hids : Numbered m.tanks) (hlive : Unharmed m.tanks) {i j : Nat}
    {this that now now' : Tank R} (hnow : m.turn.atCombat.tanks[i]? = some now)
    (hnow' : m.turn.atCombat.tanks[j]? = some now') (hstill : now.position = this.position)
    (hstill' : now'.position = that.position)
    (hfar : ¬ waySq m.arena i j this that ≤ m.rules.collisionReachSq) :
    fates m.advance.tanks i ≠ some ⟨j, .collision⟩ := by
  intro hdead
  obtain ⟨k, _, _, hname, hcause⟩ :=
    (account_advance m).slain i _ (fates_of_unharmed hlive i) hdead
  have hid := idAt_of_numbered (numbered_atCombat hids) k
  obtain rfl : j = k := hname.trans hid
  rcases hcause with ⟨_, htouch, _⟩ | ⟨hshot, _⟩
  · obtain ⟨_, _, hthis, hthat, hnear⟩ := exists_of_touches htouch
    cases hnow.symm.trans hthis
    cases hnow'.symm.trans hthat
    rw [waySq_congr m.arena i j hstill hstill'] at hnear
    exact hfar hnear
  · cases hshot

-- No two tanks are in touch straight across the field, unless they had to be put on the grid.
theorem onGrid_or_collisionReachSq_lt [MonotoneScalar R] {entries : List (Entry R)} {pillars : Nat}
    {rules : Rules R} {source : G} {m : Match R G}
    (h : ofEntries entries pillars rules source = .ok m) {i j : Nat} (hij : i < j)
    {this that : Tank R} (hi : m.tanks[i]? = some this) (hj : m.tanks[j]? = some that) :
    OnGrid rules m.arena (m.tanks.map Tank.position) ∨
      rules.collisionReachSq < (that.position - this.position).lengthSq := by
  obtain ⟨rfl, hcheck, hsettled⟩ := settled_ofEntries h
  rcases hsettled.apart with hscattered | hgrid
  · right
    exact collisionReachSq_lt (Rules.check_eq_ok_iff.mp hcheck)
      (rel_of_pairwise_map hscattered hij hi hj)
  · exact .inl hgrid

-- Two tanks that start apart, the shortest way, and do not move do not collide with each other.
theorem not_rammed_opening [MonotoneScalar R] {entries : List (Entry R)} {pillars : Nat}
    {rules : Rules R} {source : G} {m : Match R G}
    (h : ofEntries entries pillars rules source = .ok m) {i j : Nat} (hij : i < j)
    {this that : Tank R}
    (hfar : rules.collisionReachSq <
      (m.arena.displacement this.position that.position).lengthSq)
    {now now' : Tank R} (hnow : m.turn.atCombat.tanks[i]? = some now)
    (hnow' : m.turn.atCombat.tanks[j]? = some now') (hstill : now.position = this.position)
    (hstill' : now'.position = that.position) :
    fates m.advance.tanks i ≠ some ⟨j, .collision⟩ ∧
      fates m.advance.tanks j ≠ some ⟨i, .collision⟩ := by
  obtain ⟨rfl, hcheck, -⟩ := settled_ofEntries h
  obtain ⟨hids, hlive⟩ := ofEntries_fresh h
  have hradius := MonotoneScalar.le_of_lt (Rules.check_eq_ok_iff.mp hcheck).tankRadius_pos
  have hreach : ((0 : Int) : R) ≤ m.rules.collisionReachSq :=
    MonotoneScalar.mul_self_nonneg (MonotoneScalar.two_mul_nonneg hradius)
  have hway : waySq m.arena i j this that =
      (m.arena.displacement this.position that.position).lengthSq := if_pos hij
  have hapart : ¬ waySq m.arena i j this that ≤ m.rules.collisionReachSq := by
    rw [hway]
    exact MonotoneScalar.not_le_of_lt hreach hfar
  have hapart' := hapart
  rw [waySq_comm m.arena hij.ne] at hapart'
  exact ⟨not_rammed hids hlive hnow hnow' hstill hstill' hapart,
    not_rammed hids hlive hnow' hnow hstill' hstill hapart'⟩

-- No two tanks start in touch straight across the field, unless they had to be put on the
-- grid, where each has a cell of its own. Over the edges they may be in touch. Two tanks that
-- are not, by the shortest way, do not collide with each other in the first tick unless one
-- of them moves. On the grid, in exact arithmetic, no two tanks are in touch over the edges
-- either, if two hulls fit into a cell side by side.
theorem opening_is_apart :
    (∀ {R G : Type} [Scalar R] [Draws R G] [MonotoneScalar R] {entries : List (Entry R)}
        {pillars : Nat} {rules : Rules R} {source : G} {m : Match R G} {i j : Nat}
        {this that : Tank R},
      ofEntries entries pillars rules source = .ok m →
      i < j → m.tanks[i]? = some this → m.tanks[j]? = some that →
        (OnGrid rules m.arena (m.tanks.map Tank.position) ∨
          rules.collisionReachSq < (that.position - this.position).lengthSq) ∧
        (¬ OnGrid rules m.arena (m.tanks.map Tank.position) →
          m.arena.displacement this.position that.position = that.position - this.position →
            rules.collisionReachSq <
              (m.arena.displacement this.position that.position).lengthSq) ∧
        (rules.collisionReachSq < (m.arena.displacement this.position that.position).lengthSq →
          ∀ now now', m.turn.atCombat.tanks[i]? = some now →
            m.turn.atCombat.tanks[j]? = some now' → now.position = this.position →
              now'.position = that.position →
                fates m.advance.tanks i ≠ some ⟨j, .collision⟩ ∧
                  fates m.advance.tanks j ≠ some ⟨i, .collision⟩)) ∧
    ∀ {G : Type} [Draws ℝ G] {entries : List (Entry ℝ)} {pillars : Nat} {rules : Rules ℝ}
        {source : G} {m : Match ℝ G} {i j : Nat} {this that : Tank ℝ},
      ofEntries entries pillars rules source = .ok m →
      i < j → m.tanks[i]? = some this → m.tanks[j]? = some that →
        OnGrid rules m.arena (m.tanks.map Tank.position) →
        2 * rules.tankRadius < rules.gridSpacing →
          rules.collisionReachSq <
            (m.arena.displacement this.position that.position).lengthSq := by
  constructor
  · intro R G _ _ _ entries pillars rules source m i j this that h hij hi hj
    have hstraight := onGrid_or_collisionReachSq_lt h hij hi hj
    refine ⟨hstraight, fun hfree hway => ?_, fun hfar _ _ => not_rammed_opening h hij hfar⟩
    rw [hway]
    exact hstraight.resolve_left hfree
  · intro G _ entries pillars rules source m i j this that h hij hi hj hgrid hfit
    obtain ⟨rfl, hcheck, -⟩ := settled_ofEntries h
    have hradius : 0 < m.rules.tankRadius := by
      simpa using (Rules.check_eq_ok_iff.mp hcheck).tankRadius_pos
    exact rel_of_pairwise_map (hgrid.apart hradius.le hfit) hij hi hj

-- Two tanks that do nothing.
def idlers {R : Type} : List (Entry R) := [⟨"Idler", "", "", []⟩, ⟨"Idler", "", "", []⟩]

-- Whether the two tanks of a match start apart, the shortest way.
def startsApart (start : Except (SetupFault Float) (Match Float Generator)) : Option Bool :=
  match start with
  | .ok { arena, tanks := [this, that], rules, .. } =>
    some (decide (rules.collisionReachSq <
      (arena.displacement this.position that.position).lengthSq))
  | _ => none

theorem exists_of_startsApart {start : Except (SetupFault Float) (Match Float Generator)}
    {apart : Bool} (h : startsApart start = some apart) :
    ∃ m this that, start = .ok m ∧ m.tanks[0]? = some this ∧ m.tanks[1]? = some that ∧
      decide (m.rules.collisionReachSq <
        (m.arena.displacement this.position that.position).lengthSq) = apart := by
  unfold startsApart at h
  split at h
  · rename_i arena this that rules tick source
    cases h
    exact ⟨_, this, that, rfl, rfl, rfl, rfl⟩
  · contradiction

-- In exact arithmetic, from draws that crowd them together.
theorem exists_idlers : ∃ m : Match ℝ Halves,
    ofEntries idlers 0 Rules.standard Halves.halves = .ok m ∧ m.tanks.length = 2 := by
  have hmade : Tank.ofEntries (Rules.standard : Rules ℝ) 0 idlers = .ok _ := rfl
  obtain ⟨m, hm⟩ := exists_ofEntries_bare Rules.valid_standard hmade rfl Halves.halves
  obtain ⟨tanks, hmade', hrel⟩ := forall₂_ofEntries (P := fun _ _ => True) (fun _ => trivial)
    (fun _ _ _ _ _ => trivial) (fun _ _ _ _ => trivial) (fun _ _ _ => trivial) hm
  cases hmade.symm.trans hmade'
  exact ⟨m, hm, hrel.length_eq.symm⟩

theorem opening_is_apart_idlers :
    (∃ m this that, ofEntries idlers 0 Rules.standard (Generator.ofSeed 1) = .ok m ∧
      m.tanks[0]? = some this ∧ m.tanks[1]? = some that ∧
      ∀ now now', m.turn.atCombat.tanks[0]? = some now → m.turn.atCombat.tanks[1]? = some now' →
        now.position = this.position → now'.position = that.position →
          fates m.advance.tanks 0 ≠ some ⟨1, .collision⟩ ∧
            fates m.advance.tanks 1 ≠ some ⟨0, .collision⟩) ∧
    ∃ (m : Match ℝ Halves) (this that : Tank ℝ),
      ofEntries idlers 0 Rules.standard Halves.halves = .ok m ∧
      m.tanks[0]? = some this ∧ m.tanks[1]? = some that ∧
      OnGrid Rules.standard m.arena (m.tanks.map Tank.position) ∧
      2 * (Rules.standard : Rules ℝ).tankRadius < (Rules.standard : Rules ℝ).gridSpacing ∧
      (Rules.standard : Rules ℝ).collisionReachSq <
        (m.arena.displacement this.position that.position).lengthSq := by
  constructor
  · have hstart : startsApart (ofEntries idlers 0 Rules.standard (Generator.ofSeed 1)) =
        some true := by
      decide +kernel
    obtain ⟨m, this, that, hm, hthis, hthat, hfar⟩ := exists_of_startsApart hstart
    obtain ⟨hrules, -, -⟩ := settled_ofEntries hm
    rw [hrules] at hfar
    exact ⟨m, this, that, hm, hthis, hthat,
      (opening_is_apart.1 hm (by decide) hthis hthat).2.2 (of_decide_eq_true hfar)⟩
  · obtain ⟨m, hm, htwo⟩ := exists_idlers
    have hthis : m.tanks[0]? = some m.tanks[0] := List.getElem?_eq_getElem _
    have hthat : m.tanks[1]? = some m.tanks[1] := List.getElem?_eq_getElem _
    have hgrid := onGrid_of_halves hm htwo
    have hfit : 2 * (Rules.standard : Rules ℝ).tankRadius < (Rules.standard : Rules ℝ).gridSpacing := by
      norm_num [Rules.standard]
    exact ⟨m, _, _, hm, hthis, hthat, hgrid, hfit,
      opening_is_apart.2 hm (by decide) hthis hthat hgrid hfit⟩

-- Here the two tanks start in touch over an edge.
theorem overlap_over_edge : ∃ m this that,
    ofEntries idlers 0 Rules.standard (Generator.ofSeed 268) = .ok m ∧
      m.tanks[0]? = some this ∧ m.tanks[1]? = some that ∧
      ¬ m.rules.collisionReachSq <
        (m.arena.displacement this.position that.position).lengthSq := by
  have hstart : startsApart (ofEntries idlers 0 Rules.standard (Generator.ofSeed 268)) =
      some false := by
    decide +kernel
  obtain ⟨m, this, that, hm, hthis, hthat, hnear⟩ := exists_of_startsApart hstart
  exact ⟨m, this, that, hm, hthis, hthat, of_decide_eq_false hnear⟩

end Skirmish.Match
