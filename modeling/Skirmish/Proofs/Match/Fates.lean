import Mathlib.Logic.Function.Iterate
import Skirmish.Proofs.Match.Aftermath

namespace Skirmish.Match

open Combat

variable {R G : Type}

theorem OnlyLive.recorded {P : Tank R → Tank R → Prop} (hP : ∀ a b, P a b → Recorded a b)
    {before after : Tank R} (h : OnlyLive P before after) : Recorded before after :=
  ⟨h.same Tank.id fun a b hab => (hP a b hab).1, h.same Tank.death fun a b hab => (hP a b hab).2⟩

theorem recorded_of_onlyLive {P : Tank R → Tank R → Prop} (hP : ∀ a b, P a b → Recorded a b)
    {before after : List (Tank R)} (h : List.Forall₂ (OnlyLive P) before after) :
    List.Forall₂ Recorded before after :=
  h.imp fun _ _ hab => hab.recorded hP

theorem fates_of_recorded {before after : List (Tank R)}
    (h : List.Forall₂ Recorded before after) : fates after = fates before := by
  funext i
  unfold fates
  cases hi : before[i]? with
  | none =>
      have hlength := h.length_eq
      rw [List.getElem?_eq_none_iff] at hi
      rw [List.getElem?_eq_none (by omega)]
  | some tank =>
      obtain ⟨later, hlater, hrel⟩ := forall₂_getElem? h hi
      rw [hlater]
      exact hrel.2

theorem fates_of_unharmed {tanks : List (Tank R)} (hlive : Unharmed tanks) (i : Nat) :
    fates tanks i = none := by
  unfold fates
  cases hi : tanks[i]? with
  | none => rfl
  | some tank => exact hlive i tank hi

theorem Moved.recorded {before after : Tank R} (h : Moved before after) :
    Recorded before after := by
  obtain ⟨_, rfl⟩ := h
  exact ⟨rfl, rfl⟩

theorem Swept.recorded {before after : Tank R} (h : Swept before after) :
    Recorded before after := by
  obtain ⟨_, rfl⟩ := h
  exact ⟨rfl, rfl⟩

theorem recorded_recharged (m : Match R G) :
    List.Forall₂ Recorded m.tanks m.recharged.tanks :=
  forall₂_recharged m fun tank =>
    have h := tank.serviced_recharge m.rules
    ⟨h.id, h.death⟩

variable [Scalar R]

theorem recorded_planned (m : Match R G) : List.Forall₂ Recorded m.tanks m.planned.tanks :=
  recorded_of_onlyLive (fun _ _ h => ⟨h.id, h.death⟩) (forall₂_planned m)

theorem forall₂_fought (m : Match R G) : List.Forall₂ (OnlyLive Fought) m.tanks m.fought.tanks :=
  forall₂_resolve m.arena m.rules m.tanks

theorem fates_fought (m : Match R G) :
    fates m.fought.tanks = fatesAfter m.arena m.rules m.tanks :=
  fates_resolve m.arena m.rules m.tanks

theorem numbered_fought {m : Match R G} (hids : Numbered m.tanks) : Numbered m.fought.tanks := by
  refine hids.of_forall₂ (fun _ _ h => h.same Tank.id ?_) (forall₂_fought m)
  rintro a b (rfl | ⟨death, rfl⟩) <;> rfl

variable [Draws R G]

-- Before combat nobody dies.
theorem recorded_atCombat (m : Match R G) :
    List.Forall₂ Recorded m.tanks m.turn.atCombat.tanks := by
  have hcommitted := recorded_of_onlyLive (fun _ _ => Moved.recorded)
    (forall₂_committed m.recharged)
  have hswept := recorded_of_onlyLive (fun _ _ => Swept.recorded)
    (forall₂_swept m.recharged.committed)
  have hprogrammed := recorded_of_onlyLive (fun _ _ h => ⟨h.id, h.death⟩)
    (forall₂_programmed m.recharged.committed.swept)
  have hteleported := recorded_of_onlyLive (fun _ _ => Moved.recorded)
    (forall₂_teleported m.recharged.committed.swept.programmed)
  rw [atCombat_eq]
  have hsweeps := forall₂_comp recorded_trans (recorded_recharged m)
    (forall₂_comp recorded_trans hcommitted hswept)
  exact forall₂_comp recorded_trans hsweeps (forall₂_comp recorded_trans hprogrammed hteleported)

theorem fates_advance (m : Match R G) :
    fates m.advance.tanks = fatesAfter m.arena m.rules m.turn.atCombat.tanks := by
  rw [advance_eq, fates_of_recorded (recorded_planned _), fates_fought, arena_atCombat,
    rules_atCombat]

theorem numbered_atCombat {m : Match R G} (hids : Numbered m.tanks) :
    Numbered m.turn.atCombat.tanks :=
  hids.of_forall₂ (fun _ _ h => h.1) (recorded_atCombat m)

theorem numbered_advance {m : Match R G} (hids : Numbered m.tanks) : Numbered m.advance.tanks := by
  rw [advance_eq]
  exact (numbered_fought (numbered_atCombat hids)).of_forall₂ (fun _ _ h => h.1)
    (recorded_planned _)

theorem length_advance (m : Match R G) : m.advance.tanks.length = m.tanks.length := by
  rw [advance_eq, ← (recorded_planned _).length_eq, ← (forall₂_fought _).length_eq,
    ← (recorded_atCombat m).length_eq]

-- What a tick does to the fates of the tanks.
theorem account_advance (m : Match R G) :
    (standoff m.arena m.rules m.turn.atCombat.tanks).Account (fates m.tanks)
      (fates m.advance.tanks) (schedule m.turn.atCombat.tanks.length) := by
  rw [fates_advance, ← fates_of_recorded (recorded_atCombat m)]
  exact account_fatesAfter m.arena m.rules m.turn.atCombat.tanks

theorem fates_kept {m : Match R G} {i : Nat} {death : Death} (hi : fates m.tanks i = some death)
    (n : Nat) : fates (advance^[n] m).tanks i = some death := by
  induction n with
  | zero => exact hi
  | succ n ih =>
      rw [Function.iterate_succ_apply']
      exact (account_advance _).kept i death ih

theorem numbered_iterate {m : Match R G} (hids : Numbered m.tanks) (n : Nat) :
    Numbered (advance^[n] m).tanks := by
  induction n with
  | zero => exact hids
  | succ n ih =>
      rw [Function.iterate_succ_apply']
      exact numbered_advance ih

theorem length_iterate (m : Match R G) (n : Nat) :
    (advance^[n] m).tanks.length = m.tanks.length := by
  induction n with
  | zero => rfl
  | succ n ih => rw [Function.iterate_succ_apply', length_advance, ih]

theorem fates_kept_from {m : Match R G} {s n : Nat} (hsn : s ≤ n) {i : Nat} {death : Death}
    (hi : fates (advance^[s] m).tanks i = some death) :
    fates (advance^[n] m).tanks i = some death := by
  obtain ⟨k, rfl⟩ := Nat.exists_eq_add_of_le' hsn
  rw [Function.iterate_add_apply]
  exact fates_kept hi k

theorem alive_before {m : Match R G} {s n : Nat} (hsn : s ≤ n) {i : Nat}
    (hi : fates (advance^[n] m).tanks i = none) : fates (advance^[s] m).tanks i = none := by
  cases hs : fates (advance^[s] m).tanks i with
  | none => rfl
  | some death =>
      rw [fates_kept_from hsn hs] at hi
      contradiction

end Skirmish.Match
