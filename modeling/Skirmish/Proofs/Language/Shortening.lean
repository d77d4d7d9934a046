import Mathlib.Data.List.Infix
import Skirmish.Language.Length

namespace Skirmish.Source

-- The number of characters of a text that are not blank.
def inked (text : List Char) : Nat := text.countP fun c => !Text.isBlank c

-- A beginning of a text with no more than so many characters that are not blank, of which every
-- other such beginning is one.
structure LongestWithin (length : Nat) (text start : List Char) : Prop where
  starts : start <+: text
  within : inked start ≤ length
  longest {other : List Char} (hother : other <+: text) (h : inked other ≤ length) : other <+: start

section

variable {length length' : Nat} {text start start' : List Char}

theorem inked_cons (c : Char) (text : List Char) :
    inked (c :: text) = inked text + if Text.isBlank c then 0 else 1 := by
  cases h : Text.isBlank c <;> simp [inked, h]

theorem inked_mono (h : start <+: text) : inked start ≤ inked text :=
  h.sublist.countP_le

theorem LongestWithin.unique (h : LongestWithin length text start)
    (h' : LongestWithin length text start') : start = start' :=
  antisymm (h'.longest h.starts h.within) (h.longest h'.starts h'.within)

theorem LongestWithin.eq_self_iff (h : LongestWithin length text start) :
    start = text ↔ inked text ≤ length := by
  constructor
  · rintro rfl
    exact h.within
  · exact fun hlength => antisymm h.starts (h.longest (List.prefix_refl text) hlength)

-- What is longest within one limit and then within another is longest within the smaller one.
theorem LongestWithin.trans (h : LongestWithin length text start)
    (h' : LongestWithin length' start start') : LongestWithin (min length length') text start' where
  starts := h'.starts.trans h.starts
  within := le_min ((inked_mono h'.starts).trans h.within) h'.within
  longest hother hinked :=
    h'.longest (h.longest hother (hinked.trans (min_le_left _ _))) (hinked.trans (min_le_right _ _))

theorem LongestWithin.cons (c : Char) (h : LongestWithin length text start) :
    LongestWithin (length + if Text.isBlank c then 0 else 1) (c :: text) (c :: start) where
  starts := List.cons_prefix_cons.mpr ⟨rfl, h.starts⟩
  within := by
    rw [inked_cons]
    exact Nat.add_le_add_right h.within _
  longest {other} hother hinked := by
    cases other with
    | nil => exact List.nil_prefix
    | cons d other =>
        obtain ⟨rfl, hrest⟩ := List.cons_prefix_cons.mp hother
        rw [inked_cons] at hinked
        exact List.cons_prefix_cons.mpr ⟨rfl, h.longest hrest (Nat.le_of_add_le_add_right hinked)⟩

-- Where nothing more is allowed, a text ends before its next character that is not blank.
theorem longestWithin_nil {c : Char} (hc : Text.isBlank c = false) (text : List Char) :
    LongestWithin 0 (c :: text) [] where
  starts := List.nil_prefix
  within := Nat.le_refl 0
  longest {other} hother hinked := by
    cases other with
    | nil => exact List.nil_prefix
    | cons d other =>
        obtain ⟨rfl, -⟩ := List.cons_prefix_cons.mp hother
        rw [inked_cons, hc] at hinked
        exact absurd hinked (Nat.not_succ_le_zero _)

-- Only a character that is not blank uses up the limit.
theorem longestWithin_keep (length : Nat) (text : List Char) :
    LongestWithin length text (keep length text) := by
  fun_induction keep length text with
  | case1 length => exact ⟨List.prefix_refl [], Nat.zero_le length, fun hother _ => hother⟩
  | case2 length c text hblank ih =>
      have hcons := ih.cons c
      rwa [if_pos hblank, Nat.add_zero] at hcons
  | case3 c text hblank => exact longestWithin_nil (eq_false_of_ne_true hblank) text
  | case4 c text hblank length ih =>
      have hcons := ih.cons c
      rwa [if_neg hblank] at hcons

end

section

variable {length length' : Nat}

theorem longestWithin_limit (hlength : 0 < length) (source : String) :
    LongestWithin length source.toList (limit length source).toList := by
  rw [limit, if_neg (Nat.ne_of_gt hlength), String.toList_ofList]
  exact longestWithin_keep length source.toList

theorem limit_eq_self_iff (hlength : 0 < length) (source : String) :
    limit length source = source ↔ inked source.toList ≤ length := by
  rw [← (longestWithin_limit hlength source).eq_self_iff, String.toList_inj]

theorem limit_limit (hlength : 0 < length) (hlength' : 0 < length') (source : String) :
    limit length' (limit length source) = limit (min length length') source := by
  have hboth := (longestWithin_limit hlength source).trans (longestWithin_limit hlength' _)
  have hsmaller := longestWithin_limit (lt_min hlength hlength') source
  exact String.toList_inj.mp (hboth.unique hsmaller)

-- A source is cut down to its longest beginning within the limit. It is whole if it is within the
-- limit itself, and of two limits the smaller one counts.
theorem limit_is_longest (hlength : 0 < length) (source : String) :
    LongestWithin length source.toList (limit length source).toList ∧
    (limit length source = source ↔ inked source.toList ≤ length) ∧
    limit length (limit length source) = limit length source ∧
    ∀ length', 0 < length' →
      limit length' (limit length source) = limit (min length length') source ∧
      limit length (limit length' source) = limit (min length length') source := by
  refine ⟨longestWithin_limit hlength source, limit_eq_self_iff hlength source, ?_,
    fun length' hlength' => ⟨limit_limit hlength hlength' source, ?_⟩⟩
  · rw [limit_limit hlength hlength, min_self]
  · rw [limit_limit hlength' hlength, min_comm]

end

-- The blanks before the first character too many are kept.
theorem limit_is_longest_sampler :
    0 < 3 ∧ 0 < 2 ∧ limit 3 "a é\tb \u3000cd" = "a é\tb \u3000" ∧
    LongestWithin 3 "a é\tb \u3000cd".toList "a é\tb \u3000".toList ∧
    limit 2 "a é\tb \u3000" = limit 2 "a é\tb \u3000cd" := by
  have hlimit : limit 3 "a é\tb \u3000cd" = "a é\tb \u3000" := by decide +kernel
  have hthree : 0 < 3 := by decide
  have htwo : 0 < 2 := by decide
  obtain ⟨hlongest, -, -, hboth⟩ := limit_is_longest hthree "a é\tb \u3000cd"
  have htwice := (hboth 2 htwo).1
  rw [hlimit] at hlongest htwice
  exact ⟨hthree, htwo, hlimit, hlongest, htwice⟩

end Skirmish.Source
