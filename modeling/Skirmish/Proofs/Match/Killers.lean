import Skirmish.Proofs.Combat.Feud
import Skirmish.Proofs.Match.Fates

namespace Skirmish.Match

open Combat

variable {R G : Type} [Scalar R] [Draws R G]

theorem feud_advance {m : Match R G} (hids : Numbered m.tanks) {moment : Nat → Nat} {now : Nat}
    (h : Feud m.tanks.length (fates m.tanks) moment now) :
    ∃ moment' now', Feud m.tanks.length (fates m.advance.tanks) moment' now' := by
  have hid := idAt_of_numbered (numbered_atCombat hids)
  rw [← fates_of_recorded (recorded_atCombat m)] at h
  rw [(recorded_atCombat m).length_eq] at h ⊢
  rw [fates_advance]
  generalize m.turn.atCombat.tanks = tanks at h hid ⊢
  exact h.settleAll (standoff m.arena m.rules tanks) hid (schedule tanks.length)
    fun pair hpair => mem_schedule.mp hpair

theorem feud_iterate {m : Match R G} (hids : Numbered m.tanks) (hlive : Unharmed m.tanks)
    (n : Nat) :
    ∃ moment now, Feud m.tanks.length (fates (advance^[n] m).tanks) moment now := by
  induction n with
  | zero => exact ⟨_, _, Feud.start m.tanks.length (fates_of_unharmed hlive)⟩
  | succ n ih =>
      obtain ⟨moment, now, h⟩ := ih
      rw [Function.iterate_succ_apply']
      rw [← length_iterate m n] at h ⊢
      exact feud_advance (numbered_iterate hids n) h

theorem killer_alive {m : Match R G} (hids : Numbered m.tanks) {i : Nat} {death : Death}
    (hi : fates m.tanks i = none) (hd : fates m.advance.tanks i = some death) :
    fates m.tanks death.killer = none := by
  have haccount := account_advance m
  have hid := idAt_of_numbered (numbered_atCombat hids)
  generalize m.turn.atCombat.tanks = tanks at haccount hid
  obtain ⟨k, _, hk, hname, _⟩ := haccount.slain i death hi hd
  have hkiller : death.killer = k := hname.trans (hid k)
  rw [hkiller]
  exact hk

-- Whoever kills a tank has been alive as long as it has.
theorem killer_alive_before {m : Match R G} (hids : Numbered m.tanks) {s n : Nat} (hsn : s ≤ n)
    {i : Nat} {death : Death} (hi : fates (advance^[s] m).tanks i = none)
    (hd : fates (advance^[n] m).tanks i = some death) :
    fates (advance^[s] m).tanks death.killer = none := by
  induction n, hsn using Nat.le_induction with
  | base =>
      rw [hi] at hd
      contradiction
  | succ n hsn ih =>
      cases hn : fates (advance^[n] m).tanks i with
      | some old =>
          have hkept := fates_kept_from (Nat.le_succ n) hn
          rw [hd] at hkept
          cases hkept
          exact ih hn
      | none =>
          rw [Function.iterate_succ_apply'] at hd
          exact alive_before hsn (killer_alive (numbered_iterate hids n) hn hd)

-- In every state of a match between tanks that start out alive, all killers are
-- other tanks of the match, that were alive as long as those they killed. Those that
-- have rammed each other are the only ones from which killers lead back.
theorem killers_of_iterate (m : Match R G) (hids : Numbered m.tanks) (hlive : Unharmed m.tanks)
    (n : Nat) :
    (∀ tank ∈ (advance^[n] m).tanks,
      ((tank.death.map Death.killer).isSome ↔ (tank.death.map Death.cause).isSome)) ∧
    (∀ i death, fates (advance^[n] m).tanks i = some death →
      death.killer ≠ i ∧ ∃ killer, (advance^[n] m).tanks[death.killer]? = some killer ∧
        killer.id = death.killer) ∧
    (∀ i death, fates (advance^[n] m).tanks i = some death → death.cause = .collision →
      fates (advance^[n] m).tanks death.killer = some ⟨i, .collision⟩ ∧
        ∀ s, s ≤ n → (fates (advance^[s] m).tanks i = none ↔
          fates (advance^[s] m).tanks death.killer = none)) ∧
    (∀ (x : Nat → Nat) s t, s < t →
      (∀ r, s ≤ r → r < t → ∃ death, fates (advance^[n] m).tanks (x r) = some death ∧
        death.killer = x (r + 1)) →
      x t = x s →
      fates (advance^[n] m).tanks (x s) = some ⟨x (s + 1), .collision⟩ ∧
        fates (advance^[n] m).tanks (x (s + 1)) = some ⟨x s, .collision⟩ ∧
        ∀ r, s ≤ r → r ≤ t → x r = x s ∨ x r = x (s + 1)) ∧
    (∀ s i death, s ≤ n → fates (advance^[n] m).tanks i = some death →
      fates (advance^[s] m).tanks i = none → fates (advance^[s] m).tanks death.killer = none) := by
  obtain ⟨moment, now, hfeud⟩ := feud_iterate hids hlive n
  refine ⟨?_, ?_, ?_, ?_, ?_⟩
  · intro tank _
    rw [Option.isSome_map, Option.isSome_map]
  · intro i death hi
    obtain ⟨hlt, hne⟩ := hfeud.killer i death hi
    rw [← length_iterate m n] at hlt
    have hkiller := List.getElem?_eq_getElem hlt
    exact ⟨hne, _, hkiller, numbered_iterate hids n death.killer _ hkiller⟩
  · intro i death hi hcause
    have hpartner := (hfeud.paired i death hi hcause).1
    refine ⟨hpartner, fun s hs => ⟨fun h => ?_, fun h => ?_⟩⟩
    · exact killer_alive_before hids hs h hi
    · exact killer_alive_before hids hs h hpartner
  · intro x s t hst hwalk hloop
    obtain ⟨hhere, hthere⟩ := hfeud.mutual_of_loop hst hwalk hloop
    exact ⟨hhere, hthere, hfeud.alternates_of_loop hst hwalk hloop⟩
  · intro s i death hs hi h
    exact killer_alive_before hids hs h hi

theorem killers_of_pileUp :
    Numbered pileUp.tanks ∧ Unharmed pileUp.tanks ∧
      fates (advance^[1] pileUp).tanks 0 = some ⟨1, .collision⟩ ∧
      fates (advance^[1] pileUp).tanks 1 = some ⟨0, .collision⟩ := by
  obtain ⟨hids, hlive⟩ := fresh_pile
  have hspec := killers_of_iterate pileUp hids hlive 1
  have hdeath : fates (advance^[1] pileUp).tanks 0 = some ⟨1, .collision⟩ := by decide +kernel
  exact ⟨hids, hlive, hdeath, (hspec.2.2.1 0 ⟨1, .collision⟩ hdeath rfl).1⟩

end Skirmish.Match
