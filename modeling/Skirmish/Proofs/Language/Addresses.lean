import Skirmish.Language.Machine
import Skirmish.Proofs.Scalar.Naturals

namespace Skirmish.Machine

open Binary64

theorem slot?_eq_some_iff {R : Type} [Scalar R] {address : R} {slot : Fin memorySize} :
    slot? address = some slot ↔ Scalar.isWhole address = true ∧
      ¬ address < ((0 : Int) : R) ∧ (Scalar.truncate address).toNat = slot := by
  have hlt := slot.isLt
  unfold slot?
  simp only [Bool.and_eq_true, Bool.not_eq_true', decide_eq_false_iff_not,
    Option.ite_none_right_eq_some, Option.dite_none_right_eq_some, Option.some.injEq, Fin.ext_iff]
  constructor
  · rintro ⟨⟨hwhole, hnonneg⟩, _, hslot⟩
    exact ⟨hwhole, hnonneg, hslot⟩
  · rintro ⟨hwhole, hnonneg, hslot⟩
    exact ⟨⟨hwhole, hnonneg⟩, hslot ▸ hlt, hslot⟩

-- The addresses of a slot are the doubles that equal its number, which zeros of either
-- sign do for the first.
theorem slot?_eq_some_iff_beq {address : Float} {slot : Fin memorySize} :
    slot? address = some slot ↔ (address == Float.ofNat slot) = true := by
  have hlt : (slot : Nat) < 10 := slot.isLt
  have hshort : (slot : Nat) < 2 ^ 53 := by omega
  have hslot : slot? address = some slot ↔
      Scalar.isWhole address = true ∧ ¬ address < Float.ofNat 0 ∧ (truncate address).toNat = slot :=
    slot?_eq_some_iff
  rw [beq_ofNat_iff hshort, hslot]
  constructor
  · rintro ⟨hwhole, hnonneg, hpart⟩
    have htruncate := truncate_nonneg hnonneg
    obtain ⟨sign, hx⟩ := exists_natural_of_natAbs_truncate hwhole (by omega)
    have hsize : (truncate address).natAbs = slot := by omega
    exact ⟨sign, hsize ▸ hx, hnonneg⟩
  · rintro ⟨sign, hx, hnonneg⟩
    have hsize : (truncate address).natAbs = slot := by rw [truncate_natural hx, natAbs_apply]
    have htruncate := truncate_nonneg hnonneg
    exact ⟨isWhole_natural hx hshort, hnonneg, by omega⟩

theorem slot?_eq_none {address : Float}
    (h : ∀ slot : Fin memorySize, (address == Float.ofNat slot) = false) : slot? address = none := by
  rw [Option.eq_none_iff_forall_ne_some]
  intro slot hslot
  rw [slot?_eq_some_iff_beq, h slot] at hslot
  contradiction

end Skirmish.Machine
