import Skirmish.Proofs.Arena.Around

namespace Skirmish

-- How far a tank has to keep from the center of a pillar.
noncomputable def Pillar.reach (tankRadius : ℝ) (pillar : Pillar ℝ) : ℝ :=
  pillar.radius + tankRadius

namespace Arena

variable {arena : Arena ℝ} {tankRadius span : ℝ}

-- Room enough on the field that on a move of no more than `span`, a tank meets one pillar at
-- most, and cannot meet it both ways round.
structure Roomy (arena : Arena ℝ) (tankRadius span : ℝ) : Prop where
  encloses : ∀ pillar ∈ arena.pillars, arena.Encloses pillar.position
  reach_nonneg : ∀ pillar ∈ arena.pillars, 0 ≤ pillar.reach tankRadius
  wide : ∀ pillar ∈ arena.pillars, pillar.reach tankRadius + span < arena.width / 2
  high : ∀ pillar ∈ arena.pillars, pillar.reach tankRadius + span < arena.height / 2
  apart : ∀ (i j : Nat) (this that : Pillar ℝ), i ≠ j → arena.pillars[i]? = some this →
    arena.pillars[j]? = some that → this.reach tankRadius + that.reach tankRadius + span <
      arena.distance this.position that.position

-- Whether a tank on a point is no nearer to any pillar than in touch with it.
def Clear (arena : Arena ℝ) (tankRadius : ℝ) (p : Point ℝ) : Prop :=
  ∀ pillar ∈ arena.pillars, pillar.reach tankRadius ≤ arena.distance p pillar.position

-- Where a tank can stand: on the field, and no nearer to any pillar than in touch with it.
structure Free (arena : Arena ℝ) (tankRadius : ℝ) (p : Point ℝ) : Prop where
  encloses : arena.Encloses p
  clear : arena.Clear tankRadius p

theorem Roomy.mono {span' : ℝ} (h : arena.Roomy tankRadius span) (hle : span' ≤ span) :
    arena.Roomy tankRadius span' where
  encloses := h.encloses
  reach_nonneg := h.reach_nonneg
  wide pillar hpillar := by linarith [h.wide pillar hpillar]
  high pillar hpillar := by linarith [h.high pillar hpillar]
  apart i j this that hne hi hj := by linarith [h.apart i j this that hne hi hj]

section Move

variable {p step : Point ℝ} {t : ℝ} {pillar : Pillar ℝ}

theorem Roomy.size_pos (h : arena.Roomy tankRadius span) (hspan : 0 ≤ span)
    (hpillar : pillar ∈ arena.pillars) : 0 < arena.width ∧ 0 < arena.height := by
  have hreach := h.reach_nonneg pillar hpillar
  exact ⟨by linarith [h.wide pillar hpillar], by linarith [h.high pillar hpillar]⟩

theorem abs_mul_le_of_mem {a b : ℝ} (ht : t ∈ Set.Icc (0 : ℝ) 1) (h : |a| ≤ b) : |t * a| ≤ b := by
  rw [abs_mul, abs_of_nonneg ht.1]
  exact (mul_le_of_le_one_left (abs_nonneg a) ht.2).trans h

-- A tank sees where its move leads.
theorem Roomy.add_displacement_along (h : arena.Roomy tankRadius √step.lengthSq)
    (hp : arena.Encloses p) (hpillar : pillar ∈ arena.pillars) (ht : t ∈ Set.Icc (0 : ℝ) 1) :
    p + arena.displacement p (arena.wrap (p.along step t)) = p.along step t := by
  obtain ⟨hx, hy⟩ := abs_le_sqrt_lengthSq step
  have hreach := h.reach_nonneg pillar hpillar
  have hshort : arena.Short ⟨t * step.x, t * step.y⟩ :=
    ⟨by linarith [abs_mul_le_of_mem ht hx, h.wide pillar hpillar],
      by linarith [abs_mul_le_of_mem ht hy, h.high pillar hpillar]⟩
  exact congrArg (p + ·) (hshort.displacement_wrap hp)

-- On such a field, what a tank sees from where it starts holds all along its move.
theorem Roomy.distance_along (h : arena.Roomy tankRadius √step.lengthSq) (hp : arena.Encloses p)
    (hpillar : pillar ∈ arena.pillars) (ht : t ∈ Set.Icc (0 : ℝ) 1)
    (hwithin : arena.distance (arena.wrap (p.along step t)) pillar.position ≤
      pillar.reach tankRadius) :
    arena.distance (arena.wrap (p.along step t)) pillar.position =
      (p.along step t).distance (p + arena.displacement p pillar.position) := by
  obtain ⟨hx, hy⟩ := abs_le_sqrt_lengthSq step
  have hx' := abs_mul_le_of_mem ht hx
  have hy' := abs_mul_le_of_mem ht hy
  have hpart : p.along step t = p + ⟨t * step.x, t * step.y⟩ := rfl
  rw [hpart] at hwithin ⊢
  exact distance_wrap_add hp (h.encloses pillar hpillar)
    (by linarith [h.wide pillar hpillar]) (by linarith [h.high pillar hpillar]) hwithin

theorem Roomy.within_iff (h : arena.Roomy tankRadius √step.lengthSq) (hp : arena.Encloses p)
    (hpillar : pillar ∈ arena.pillars) (ht : t ∈ Set.Icc (0 : ℝ) 1) :
    arena.distance (arena.wrap (p.along step t)) pillar.position ≤ pillar.reach tankRadius ↔
      ¬ pillar.reach tankRadius * pillar.reach tankRadius <
        (p.along step t).distanceSq (p + arena.displacement p pillar.position) := by
  rw [← Point.distance_le_iff (h.reach_nonneg pillar hpillar)]
  constructor
  · intro hwithin
    rwa [← h.distance_along hp hpillar ht hwithin]
  · obtain ⟨hwidth, hheight⟩ := h.size_pos (Real.sqrt_nonneg _) hpillar
    exact (distance_le_of_same (same_wrap hwidth hheight _) (same_add_displacement p _).symm
      (holds_wrap hwidth hheight _).encloses (h.encloses pillar hpillar)).trans

-- What a tank is seen to be within reach of from where it starts, it is within reach of.
theorem Roomy.meets_iff (h : arena.Roomy tankRadius √step.lengthSq) (hp : arena.Encloses p)
    (hpillar : pillar ∈ arena.pillars) (ht : t ∈ Set.Icc (0 : ℝ) 1) {next : Point ℝ}
    (hnext : next = arena.wrap (p.along step t)) :
    arena.distance next pillar.position ≤ pillar.reach tankRadius ↔
      ¬ pillar.reach tankRadius * pillar.reach tankRadius <
        (p + arena.displacement p next).distanceSq (p + arena.displacement p pillar.position) := by
  rw [hnext, h.add_displacement_along hp hpillar ht]
  exact h.within_iff hp hpillar ht

-- A tank meets no two pillars on one move.
theorem Roomy.eq_of_within (h : arena.Roomy tankRadius √step.lengthSq) (hp : arena.Encloses p)
    {i j : Nat} {this that : Pillar ℝ} (hi : arena.pillars[i]? = some this)
    (hj : arena.pillars[j]? = some that) {s t : ℝ} (hs : s ∈ Set.Icc (0 : ℝ) 1)
    (ht : t ∈ Set.Icc (0 : ℝ) 1)
    (hthis : arena.distance (arena.wrap (p.along step s)) this.position ≤ this.reach tankRadius)
    (hthat : arena.distance (arena.wrap (p.along step t)) that.position ≤ that.reach tankRadius) :
    i = j := by
  by_contra hne
  have hthis' := List.mem_of_getElem? hi
  have hthat' := List.mem_of_getElem? hj
  have hapart := h.apart i j this that hne hi hj
  have hclose := distance_le_of_same (same_add_displacement p this.position).symm
    (same_add_displacement p that.position).symm (h.encloses this hthis') (h.encloses that hthat')
  rw [h.distance_along hp hthis' hs hthis, Point.distance_comm] at hthis
  rw [h.distance_along hp hthat' ht hthat] at hthat
  have hfirst := Point.distance_triangle (p + arena.displacement p this.position)
    (p.along step s) (p + arena.displacement p that.position)
  have hsecond := Point.distance_triangle (p.along step s) (p.along step t)
    (p + arena.displacement p that.position)
  linarith [Point.distance_along_le p step hs ht]

end Move

end Arena

end Skirmish
