import Mathlib.Algebra.Group.Nat.Defs
import Skirmish.Match.Snapshot
import Skirmish.Proofs.Match.Craters

namespace Skirmish.Match

variable {R G : Type} [Scalar R] [Draws R G]

-- Turn after turn up to the first that leaves the match over, however many that takes:
-- the states after each of them.
inductive Plays : Match R G → List (Match R G) → Prop where
  | last {m : Match R G} (hover : m.advance.isOver = true) : Plays m [m.advance]
  | next {m : Match R G} {states : List (Match R G)} (hover : m.advance.isOver = false)
      (hrest : Plays m.advance states) : Plays m (m.advance :: states)

-- How many turns a match is played for at most.
def span (m : Match R G) : Nat := max 1 (m.rules.maxTicks.toNat - m.tick.toNat)

theorem Plays.unique {m : Match R G} {states states' : List (Match R G)} (h : Plays m states)
    (h' : Plays m states') : states' = states := by
  induction h generalizing states' with
  | last hover =>
      cases h' with
      | last _ => rfl
      | next hgoes _ => simp [hover] at hgoes
  | next hover _ ih =>
      cases h' with
      | last hends => simp [hover] at hends
      | next _ hrest' => rw [ih hrest']

theorem Plays.length_pos {m : Match R G} {states : List (Match R G)} (h : Plays m states) :
    0 < states.length := by
  cases h <;> simp

-- A match that is over at some time ends by then.
theorem Plays.length_le {m : Match R G} {states : List (Match R G)} (h : Plays m states) {n : Nat}
    (hover : (advance^[n + 1] m).isOver = true) : states.length ≤ n + 1 := by
  induction h generalizing n with
  | last _ => simp
  | next hgoes _ ih =>
      cases n with
      | zero => simp [hgoes] at hover
      | succ n =>
          rw [Function.iterate_succ_apply] at hover
          have hrest := ih hover
          rw [List.length_cons]
          omega

-- States are listed in the order of their turns, and only the last of them is over.
theorem Plays.getElem? {m : Match R G} {states : List (Match R G)} (h : Plays m states) {n : Nat}
    {state : Match R G} (hn : states[n]? = some state) :
    state = advance^[n + 1] m ∧ (state.isOver = true ↔ n + 1 = states.length) := by
  induction h generalizing n with
  | @last m hover =>
      cases n with
      | zero =>
          have hstate : m.advance = state := Option.some.inj hn
          subst hstate
          simp [hover]
      | succ n => simp at hn
  | @next m states hover hrest ih =>
      cases n with
      | zero =>
          have hstate : m.advance = state := Option.some.inj hn
          have hsome := hrest.length_pos
          subst hstate
          refine ⟨by simp, ?_⟩
          rw [hover, List.length_cons]
          exact ⟨fun h => absurd h (by decide), fun h => by omega⟩
      | succ n =>
          rw [List.getElem?_cons_succ] at hn
          obtain ⟨hstate, hlast⟩ := ih hn
          rw [Function.iterate_succ_apply, List.length_cons]
          exact ⟨hstate, hlast.trans (by omega)⟩

-- Enough turns are all turns.
theorem plays_turnsFor {ticks : Nat} {m : Match R G} (hticks : 0 < ticks)
    (hover : (advance^[ticks] m).isOver = true) :
    Plays m ((turnsFor ticks m).map Turn.finish) := by
  induction ticks generalizing m with
  | zero => omega
  | succ ticks ih =>
      rw [finishes_turnsFor]
      cases hnow : m.advance.isOver with
      | true => exact .last hnow
      | false =>
          have hmore : 0 < ticks := by
            by_contra hnone
            obtain rfl : ticks = 0 := by omega
            simp [hnow] at hover
          rw [Function.iterate_succ_apply] at hover
          exact .next hnow (ih hmore hover)

theorem isOver_span {m : Match R G} (htick : m.tick.toNat < 2 ^ 32 - 1) :
    (advance^[m.span] m).isOver = true := by
  have hlimit : m.rules.maxTicks.toNat < 2 ^ 32 := m.rules.maxTicks.toNat_lt
  have hreached : (advance^[m.span] m).tick.toNat = m.tick.toNat + m.span := by
    apply tick_iterate
    simp only [span, UInt32.size]
    omega
  have hlate : m.rules.maxTicks ≤ (advance^[m.span] m).tick := by
    rw [UInt32.le_iff_toNat_le, hreached]
    simp only [span]
    omega
  simp [isOver, rules_iterate, hlate]

-- A match ends. It takes one turn at least and otherwise no more than its rules allow, its
-- ticks are counted one by one without running over, and it is over after the last turn
-- and no sooner.
theorem play_is_whole (m : Match R G) (htick : m.tick.toNat < 2 ^ 32 - 1) :
    Plays m m.play ∧ (∀ states, Plays m states → states = m.play) ∧
    1 ≤ m.play.length ∧ m.play.length ≤ max 1 (m.rules.maxTicks.toNat - m.tick.toNat) ∧
    m.tick.toNat + m.play.length < 2 ^ 32 ∧
    ∀ n state, m.play[n]? = some state →
      state = advance^[n + 1] m ∧ state.snapshot.tick.toNat = m.tick.toNat + (n + 1) ∧
        (state.isOver = true ↔ n + 1 = m.play.length) := by
  obtain ⟨last, hspan⟩ : ∃ last, m.span = last + 1 := ⟨m.span - 1, by unfold span; omega⟩
  have hover := isOver_span htick
  have hplays : Plays m m.play := plays_turnsFor (by unfold span at hspan; omega) hover
  have hsome : 1 ≤ m.play.length := hplays.length_pos
  have hlength : m.play.length ≤ m.span := by
    rw [hspan] at hover ⊢
    exact hplays.length_le hover
  have hlimit : m.rules.maxTicks.toNat < 2 ^ 32 := m.rules.maxTicks.toNat_lt
  have hroom : m.tick.toNat + m.play.length < 2 ^ 32 := by
    simp only [span] at hlength
    omega
  refine ⟨hplays, fun states hstates => hplays.unique hstates, hsome, hlength, hroom, ?_⟩
  intro n state hn
  obtain ⟨hstate, hlast⟩ := hplays.getElem? hn
  have hlt : n < m.play.length := (List.getElem?_eq_some_iff.mp hn).1
  have hcount : (advance^[n + 1] m).tick.toNat = m.tick.toNat + (n + 1) := by
    apply tick_iterate
    simp only [UInt32.size]
    omega
  refine ⟨hstate, ?_, hlast⟩
  rw [hstate]
  exact hcount

-- A match whose time is up.
def overtime : Match Float Generator := { pileUp with tick := 500 }

theorem play_is_whole_overtime : overtime.tick.toNat < 2 ^ 32 - 1 ∧
    ∃ state, overtime.play = [state] ∧ Plays overtime [state] ∧
      state.snapshot.tick.toNat = 501 ∧ state.isOver = true := by
  have htick : overtime.tick.toNat < 2 ^ 32 - 1 := by decide
  have hspan : max 1 (overtime.rules.maxTicks.toNat - overtime.tick.toNat) = 1 := by decide
  obtain ⟨hplays, -, hsome, hlimit, -, hstates⟩ := play_is_whole overtime htick
  rw [hspan] at hlimit
  obtain ⟨state, hone⟩ := List.length_eq_one_iff.mp (Nat.le_antisymm hlimit hsome)
  rw [hone] at hplays hstates
  obtain ⟨-, hcount, hover⟩ := hstates 0 state rfl
  exact ⟨htick, state, hone, hplays, hcount, hover.mpr rfl⟩

end Skirmish.Match
