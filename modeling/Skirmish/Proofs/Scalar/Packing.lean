import Mathlib
import Skirmish.Scalar.Binary64

namespace Skirmish.Binary64

open Float.Model (UnpackedFloat)
open Float.Model.Format (binary64)
open Float.Model.UnpackedFloat

-- A size that doubles have, with the only mantissa and exponent that they have for it.
structure Fits (mantissa : Nat) (exponent : Int) : Prop where
  short : mantissa < 2 ^ 53
  full : 2 ^ 52 ≤ mantissa ∨ exponent = -1074
  low : -1074 ≤ exponent
  high : exponent ≤ 971

theorem toNat_implicit (fraction : BitVec 52) :
    (1#1 ++ fraction).toNat = 2 ^ 52 + fraction.toNat := by
  rw [BitVec.toNat_append, ← Nat.shiftLeft_add_eq_or_of_lt fraction.isLt]
  rfl

-- What the fields of a double stand for. Sizes below all others have no implicit bit.
theorem unpack_packComponents (sign : Sign) (field : BitVec 11) (fraction : BitVec 52) :
    unpack binary64 (packComponents binary64 sign field fraction) =
      if field = -1#11 then if fraction = 0#52 then .infinity sign else .notANumber
      else if field = 0#11 then
        if h : fraction.toNat = 0 then .zero sign
        else .finite sign fraction.toNat (-1074) (Nat.pos_of_ne_zero h)
      else .finite sign (2 ^ 52 + fraction.toNat) (field.toNat - 1075) (by omega) := by
  unfold unpack
  simp only [unpackMantissa_packComponents, unpackExponent_packComponents, unpackSign_packComponents,
    Sign.ofBitVec_toBitVec, toNat_implicit]
  by_cases hlast : field = -1#11
  · rw [if_pos hlast, if_pos hlast]
  · rw [if_neg hlast, if_neg hlast]
    by_cases hfirst : field = 0#11
    · rw [if_pos hfirst, if_pos hfirst]
      subst hfirst
      by_cases hzero : fraction = 0#52
      · subst hzero
        rfl
      · have hpos : fraction.toNat ≠ 0 := fun h => hzero (BitVec.eq_of_toNat_eq h)
        rw [dif_neg hzero, dif_neg hpos]
        rfl
    · rw [if_neg hfirst, if_neg hfirst]
      rfl

-- A double is the one that its parts are packed into.
theorem exists_packComponents (f : Float.Model) :
    ∃ (sign : Sign) (field : BitVec 11) (fraction : BitVec 52),
      f.toBits.toBitVec = packComponents binary64 sign field fraction :=
  ⟨_, _, _, (@packComponents_unpackSign_unpackExponent_unpackMantissa binary64 _).symm⟩

-- The values that doubles have.
def Fitting : UnpackedFloat → Prop
  | .finite _ m e _ => Fits m e
  | _ => True

theorem fits_of_unpack {f : Float.Model} {sign : Sign} {m : Nat} {e : Int} {h : 0 < m}
    (hf : f.unpack = .finite sign m e h) : Fits m e := by
  obtain ⟨s, field, fraction, hbits⟩ := exists_packComponents f
  have hfield := field.isLt
  have hfraction := fraction.isLt
  unfold Float.Model.unpack at hf
  rw [hbits, unpack_packComponents] at hf
  split at hf
  · split at hf <;> contradiction
  · rename_i hlast
    have hsmall : field.toNat ≠ 2047 := fun h => hlast (BitVec.eq_of_toNat_eq h)
    split at hf
    · split at hf
      · contradiction
      · cases hf
        constructor <;> omega
    · rename_i hfirst
      have hpos : field.toNat ≠ 0 := fun h => hfirst (BitVec.eq_of_toNat_eq h)
      cases hf
      constructor <;> omega

theorem pack_finite (sign : Sign) {m : Nat} {e : Int} (h : 0 < m) (hfits : Fits m e) :
    pack binary64 (.finite sign m e h) =
      if 2 ^ 52 ≤ m then
        packComponents binary64 sign (BitVec.ofNat 11 (e + 1075).toNat) (BitVec.ofNat 52 m)
      else packComponents binary64 sign 0#11 (BitVec.ofNat 52 m) := by
  obtain ⟨hshort, hfull, hlow, hhigh⟩ := hfits
  have hlog : m.log2 + 1 = 53 ↔ 2 ^ 52 ≤ m := by
    have hle := Nat.le_log2 (k := 52) h.ne'
    have hlt := Nat.log2_lt (k := 53) h.ne'
    omega
  have hbias : e + binary64.exponentBias + binary64.mantissaBitsWithoutImplicit = e + 1075 := by
    change e + (1023 : Nat) + (52 : Nat) = e + 1075
    omega
  simp only [pack, hbias]
  change (if 2 ^ 11 ≤ (e + 1075).toNat + 1 then _ else if m.log2 + 1 = 53 then _ else _) = _
  rw [if_neg (by omega)]
  simp only [hlog]

theorem unpack_pack_finite (sign : Sign) {m : Nat} {e : Int} (h : 0 < m) (hfits : Fits m e) :
    unpack binary64 (pack binary64 (.finite sign m e h)) = .finite sign m e h := by
  rw [pack_finite sign h hfits]
  obtain ⟨hshort, hfull, hlow, hhigh⟩ := hfits
  split
  · rename_i hnormal
    have hfield : (BitVec.ofNat 11 (e + 1075).toNat).toNat = (e + 1075).toNat :=
      Nat.mod_eq_of_lt (by omega)
    have hfraction : (BitVec.ofNat 52 m).toNat = m - 2 ^ 52 := by
      rw [BitVec.toNat_ofNat]
      omega
    have hlast : BitVec.ofNat 11 (e + 1075).toNat ≠ -1#11 := by
      intro heq
      have hall : (e + 1075).toNat = 2047 := hfield.symm.trans (congrArg BitVec.toNat heq)
      omega
    have hfirst : BitVec.ofNat 11 (e + 1075).toNat ≠ 0#11 := by
      intro heq
      have hnone : (e + 1075).toNat = 0 := hfield.symm.trans (congrArg BitVec.toNat heq)
      omega
    rw [unpack_packComponents, if_neg hlast, if_neg hfirst, UnpackedFloat.finite.injEq]
    refine ⟨rfl, ?_, ?_⟩ <;> omega
  · rename_i hsmall
    have he : e = -1074 := by omega
    have hfraction : (BitVec.ofNat 52 m).toNat = m := Nat.mod_eq_of_lt (by omega)
    subst he
    rw [unpack_packComponents, if_neg (by decide), if_pos rfl, dif_neg (by omega)]
    simp only [hfraction]

theorem unpack_pack {u : UnpackedFloat} (hu : Fitting u) : (Float.Model.pack u).unpack = u := by
  cases u with
  | infinity sign => cases sign <;> rfl
  | notANumber => rfl
  | zero sign => cases sign <;> rfl
  | finite sign m e h => exact unpack_pack_finite sign h hu

theorem fitting_unpack (f : Float.Model) : Fitting f.unpack := by
  cases hf : f.unpack with
  | infinity sign => trivial
  | notANumber => trivial
  | zero sign => trivial
  | finite sign m e h => exact fits_of_unpack hf

theorem Fitting.abs {u : UnpackedFloat} (hu : Fitting u) : Fitting u.abs := by
  cases u <;> exact hu

theorem Fitting.neg {u : UnpackedFloat} (hu : Fitting u) : Fitting u.neg := by
  cases u <;> exact hu

theorem unpack_abs (x : Float) : x.abs.toModel.unpack = x.toModel.unpack.abs :=
  unpack_pack (fitting_unpack x.toModel).abs

theorem unpack_neg (x : Float) : (-x).toModel.unpack = x.toModel.unpack.neg :=
  unpack_pack (fitting_unpack x.toModel).neg

end Skirmish.Binary64
