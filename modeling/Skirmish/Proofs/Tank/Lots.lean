import Skirmish.Proofs.Language.Calculations
import Skirmish.Proofs.Scalar.Bounds
import Skirmish.Proofs.Scalar.Wrapping
import Skirmish.Proofs.Tank.Changes

namespace Skirmish

open Binary64

variable {G : Type} [Draws Float G]

-- What a program is promised of the number it gets for a bound, and of the random numbers that
-- are left to it.
def KeepsPromise (bound n : Float) (source after : G) : Prop :=
  (bound < ((1 : Int) : Float) ∧ n = ((0 : Int) : Float) ∧ after = source) ∨
    (((1 : Int) : Float) ≤ bound ∧ after = (Draws.unit source).2 ∧
      ∃ k : Nat, n.isFinite = true ∧ value n = k ∧ n < bound)

namespace Vocabulary

theorem lookup_random (teleports : Bool) : (tank teleports).lookup "random" = some .random := by
  cases teleports <;> decide

end Vocabulary

namespace Operation

open Effect

variable {rig : Rig Float (Cockpit Float G)} {bound : Float} {below : List (Value Float)} {room : Nat}

theorem perform_random {n : Float} {body : Cockpit Float G}
    (h : rig.machine.stack = ⟨.number bound :: below, room⟩)
    (hdraw : drawBelow bound (rig.holding ⟨below, room + 1⟩) =
      .ok n { rig.holding ⟨below, room + 1⟩ with body }) :
    random.perform rig = .ok () { rig.holding ⟨.number n :: below, room⟩ with body } := by
  have hrandom : (random.perform : Effect Float (Cockpit Float G) Unit) =
      popNumber >>= fun bound => drawBelow bound >>= pushNumber := rfl
  rw [hrandom, bind_of_eq_ok (popNumber_of_items (congrArg Stack.items h)), h, bind_of_eq_ok hdraw]
  exact push_of_push rfl

end Operation

-- A number that is neither below one nor infinite is a bound.
theorem unit_le_place {bound : Float} (hfinite : bound.isFinite = true)
    (h : ¬ bound < ((1 : Int) : Float)) :
    ((1 : Int) : Float) ≤ bound ∧ (unit : Int) ≤ place bound := by
  have hnumber := isNaN_of_isFinite hfinite
  have hless : bound < ((1 : Int) : Float) ↔ place bound < place (Float.ofNat 1) :=
    lt_iff_place hnumber (place_ofNat 1).1
  rw [hless, Int.not_lt] at h
  exact ⟨le_iff_place.mpr ⟨(place_ofNat 1).1, hnumber, h⟩, place_ofNat_one ▸ h⟩

variable [SoundDraws Float G]

-- Wherever a tank's program comes to draw below a bound, it is given what it was promised
-- unless the bound is no number or infinite. Bounds below one draw nothing.
theorem random_keeps_promise_iff (teleports : Bool) (rig : Rig Float (Cockpit Float G))
    (bound : Float) (below rest : List (Value Float)) (room executed : Nat) :
    ∃ n source,
      Rig.step (.tank teleports)
          (rig.midway ⟨.number bound :: below, room⟩ (.word "random" :: rest) executed) =
        .ok () ({ rig with body := { rig.body with source } }.midway ⟨.number n :: below, room⟩ rest
          (executed + 1)) ∧
      (¬ bound < ((1 : Int) : Float) →
        (n, { rig.body with source }) = Body.random bound rig.body) ∧
      (KeepsPromise bound n rig.body.source source ↔
        bound < ((1 : Int) : Float) ∨ bound.isFinite = true) := by
  by_cases hsmall : bound < ((1 : Int) : Float)
  · refine ⟨((0 : Int) : Float), rig.body.source, ?_, absurd hsmall,
      iff_of_true (.inl ⟨hsmall, rfl, rfl⟩) (.inl hsmall)⟩
    rw [Rig.step_word (Vocabulary.lookup_random teleports)]
    exact Operation.perform_random rfl (if_pos hsmall)
  · refine ⟨_, (Draws.unit rig.body.source).2, ?_, fun _ => rfl, ?_⟩
    · rw [Rig.step_word (Vocabulary.lookup_random teleports)]
      exact Operation.perform_random rfl (if_neg hsmall)
    · obtain ⟨hfinite, hnonneg, hlt⟩ := SoundDraws.place_unit rig.body.source
      constructor
      · rintro (⟨hless, -⟩ | ⟨-, -, k, hwhole, -⟩)
        · exact .inl hless
        · exact .inr (isFinite_of_floor_mul hwhole)
      · rintro (hless | hbound)
        · exact absurd hless hsmall
        · obtain ⟨hle, hone⟩ := unit_le_place hbound hsmall
          obtain ⟨k, hk, hpos, hless⟩ := isInteger_floor_mul hfinite hbound hnonneg hlt hone
          obtain ⟨k, rfl⟩ := Int.eq_ofNat_of_zero_le hpos
          refine .inr ⟨hle, rfl, k, hk.isFinite, (isInteger_iff.mp hk).2, ?_⟩
          refine lt_of_place (isNaN_of_isFinite hk.isFinite) (isNaN_of_isFinite hbound) ?_
          exact hk.place_eq.trans_lt hless

-- A tank whose program squares a great number until it is infinite, and draws below the
-- quotient of two of these.
def gambler : Tank Float :=
  let entry : Entry Float :=
    { name := "Gambler", path := ""
      program := "9223372036854775807 dup 1 exch / / dup 1 exch / / dup 1 exch / / dup 1 exch / / " ++
        "dup 1 exch / / dup / random"
      sensors := [] }
  (Tank.ofEntry 0 entry Rules.standard).toOption.get rfl

-- The numbers that a run leaves on the stack, none if it fails.
def numbersLeft (run : Option (ProgramFault Float) × Rig Float (Cockpit Float G)) : List Float :=
  match run with
  | (none, rig) => rig.machine.stack.items.filterMap fun
      | .number n => some n
      | _ => none
  | (some _, _) => []

theorem random_breaks_promise :
    ∃ n : Float, numbersLeft ((Tank.interpreter (Rules.standard : Rules Float)).runSource gambler.program
        (gambler.rig (Generator.ofSeed 1))) = [n] ∧
      n.isNaN = true ∧ ∀ (bound : Float) (source after : Generator),
        ¬ KeepsPromise bound n source after := by
  have hrun : (numbersLeft ((Tank.interpreter (Rules.standard : Rules Float)).runSource gambler.program
      (gambler.rig (Generator.ofSeed 1)))).map Float.isNaN = [true] := by decide +kernel
  obtain ⟨n, hn, hnan⟩ := List.map_eq_singleton_iff.mp hrun
  refine ⟨n, hn, hnan, ?_⟩
  rintro bound source after (⟨-, rfl, -⟩ | ⟨-, -, k, hfinite, -⟩)
  · exact absurd hnan (by decide +kernel)
  · rw [isNaN_of_isFinite hfinite] at hnan
    exact absurd hnan Bool.false_ne_true

theorem random_keeps_promise_of_ten :
    ∃ n source, KeepsPromise ((10 : Int) : Float) n (Generator.ofSeed 1) source ∧
      Rig.step (.tank false) ((gambler.rig (Generator.ofSeed 1)).midway
          ⟨[.number ((10 : Int) : Float)], 5⟩ [.word "random"] 0) =
        .ok () ((gambler.rig source).midway ⟨[.number n], 5⟩ [] 1) := by
  obtain ⟨n, source, hstep, -, hpromise⟩ := random_keeps_promise_iff false
    (gambler.rig (Generator.ofSeed 1)) ((10 : Int) : Float) [] [] 5 0
  exact ⟨n, source, hpromise.mpr (.inr (by decide +kernel)), hstep⟩

end Skirmish
