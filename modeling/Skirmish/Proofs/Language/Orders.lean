import Mathlib.Logic.Relation
import Skirmish.Proofs.Language.Steps
import Skirmish.Proofs.Scalar.Ordered

namespace Skirmish

open Effect Scalar

variable {R B : Type} [Scalar R]

-- The same body, which takes no notice of speeds and angles that are not finite.
@[reducible] def Body.guarded (body : Body R B) : Body R B :=
  { body with
    setSpeed := fun left right b =>
      if isFinite left && isFinite right then body.setSpeed left right b else b
    setTurret := fun angle b => if isFinite angle then body.setTurret angle b else b }

-- What a command can make of a body: speeds and angles reach it only if they are finite.
inductive Body.Ordered (R : Type) {B : Type} [Scalar R] [Body R B] : B → B → Prop
  | fire (b : B) : Ordered R b (Body.fire R b)
  | teleport (b : B) : Ordered R b (Body.teleport R b)
  | setSpeed {left right : R} (hleft : isFinite left = true) (hright : isFinite right = true)
      (b : B) : Ordered R b (Body.setSpeed left right b)
  | setTurret {angle : R} (hangle : isFinite angle = true) (b : B) :
      Ordered R b (Body.setTurret angle b)
  | setLed (on : Bool) (b : B) : Ordered R b (Body.setLed R on b)
  | draw (bound : R) (b : B) : Ordered R b (Body.random bound b).2

-- What follows on a number from `popFinite` can count on it.
theorem Effect.popFinite_bind_congr {α : Type} {f g : R → Effect R B α}
    (h : ∀ n, isFinite n = true → f n = g n) : popFinite >>= f = popFinite >>= g := by
  unfold popFinite
  simp only [bind_assoc]
  refine bind_congr fun n => ?_
  split
  · rename_i hfinite
    rw [pure_bind, pure_bind, h n hfinite]
  · rfl

variable [OrderedScalar R] [body : Body R B]

-- No operation can tell whether the body is guarded.
theorem Operation.perform_guarded (operation : Operation) :
    @perform R B _ body.guarded operation = perform operation := by
  cases operation with
  | setSpeed =>
      refine popFinite_bind_congr fun right hright => popFinite_bind_congr fun left hleft => ?_
      have hsame : (Body.guarded body).setSpeed left right = body.setSpeed left right := by
        funext b
        exact if_pos (by rw [hleft, hright]; rfl)
      exact congrArg tell hsame
  | setTurret =>
      refine popFinite_bind_congr fun degrees hdegrees => ?_
      have hsame : (Body.guarded body).setTurret (Angle.ofDegrees degrees) =
          body.setTurret (Angle.ofDegrees degrees) := by
        funext b
        exact if_pos (OrderedScalar.isFinite_ofDegrees hdegrees)
      exact congrArg tell hsame
  | _ => rfl

theorem Rig.step_guarded (v : Vocabulary) : @step R B _ body.guarded v = step v := by
  funext rig
  unfold step
  split
  · rfl
  · rename_i value rest hcommands
    cases value with
    | number n => rfl
    | block b => rfl
    | word name =>
        unfold execute
        dsimp only
        cases v.lookup name with
        | some operation => exact congrFun (Operation.perform_guarded operation) _
        | none => rfl

omit [OrderedScalar R] in
-- Orders lead from one body to others, draws included.
theorem Effect.steady_ordered (start : B) :
    @Steady R B _ body.guarded fun b => Relation.ReflTransGen (Body.Ordered R) start b := by
  refine @Steady.mk R B _ body.guarded _ (fun order horder b hb => ?_) fun bound b hb => ?_
  · cases horder with
    | fire => exact hb.tail (.fire b)
    | teleport => exact hb.tail (.teleport b)
    | setSpeed left right =>
        change Relation.ReflTransGen (Body.Ordered R) start (if _ then _ else _)
        split
        · rename_i hfinite
          obtain ⟨hleft, hright⟩ := Bool.and_eq_true_iff.mp hfinite
          exact hb.tail (.setSpeed hleft hright b)
        · exact hb
    | setTurret angle =>
        change Relation.ReflTransGen (Body.Ordered R) start (if _ then _ else _)
        split
        · rename_i hfinite
          exact hb.tail (.setTurret hfinite b)
        · exact hb
    | setLed on => exact hb.tail (.setLed on b)
  · exact hb.tail (.draw bound b)

theorem Rig.ordered_step (v : Vocabulary) {start : B} {rig : Rig R B}
    (h : Relation.ReflTransGen (Body.Ordered R) start rig.body) :
    Relation.ReflTransGen (Body.Ordered R) start ((step v).leaves rig).body := by
  have hkept := @Rig.keeps_step R B _ body.guarded _ (steady_ordered start) v rig h
  rwa [step_guarded] at hkept

theorem Rig.Steps.ordered {v : Vocabulary} {n : Nat} {rig after : Rig R B} (h : Steps v n rig after) :
    Relation.ReflTransGen (Body.Ordered R) rig.body after.body :=
  h.keeps (P := fun other => Relation.ReflTransGen (Body.Ordered R) rig.body other.body)
    (fun _ _ => ordered_step v) .refl

-- All that a run does to its body, up to any of its rigs, is a sequence of orders that it
-- can carry out.
theorem Interpreter.ordered_of_reaches {i : Interpreter} {program : Program R} {rig reached : Rig R B}
    (h : i.Reaches program rig reached) :
    Relation.ReflTransGen (Body.Ordered R) rig.body reached.body :=
  h.keeps (P := fun other => Relation.ReflTransGen (Body.Ordered R) rig.body other.body) .refl
    fun _ _ => Rig.ordered_step i.vocabulary

end Skirmish
