import Mathlib.Order.Bounds.Basic
import Skirmish.Proofs.Language.Comments
import Skirmish.Proofs.Language.Nesting

namespace Skirmish

namespace Source

-- Text in which each brace has its partner.
inductive WellNested : List (Placed Char) → Prop
  | empty : WellNested []
  | letter {c : Placed Char} (hopening : c.item ≠ '{') (hclosing : c.item ≠ '}') : WellNested [c]
  | append {before after : List (Placed Char)} (hbefore : WellNested before)
      (hafter : WellNested after) : WellNested (before ++ after)
  | block (opening closing : Nat) {inside : List (Placed Char)} (h : WellNested inside) :
      WellNested (⟨opening, '{'⟩ :: (inside ++ [⟨closing, '}'⟩]))

-- Two braces are partners if the text between them is well nested.
def Partners (text : List (Placed Char)) (opening closing : Nat) : Prop :=
  ∃ outer inside rest, WellNested inside ∧
    text = outer ++ ⟨opening, '{'⟩ :: (inside ++ ⟨closing, '}'⟩ :: rest)

-- The places of the closing braces that close nothing.
def unopened (text : List (Placed Char)) : Set Nat :=
  {closing | ⟨closing, '}'⟩ ∈ text ∧ ∀ opening, ¬Partners text opening closing}

-- The places of the opening braces that are never closed.
def unclosed (text : List (Placed Char)) : Set Nat :=
  {opening | ⟨opening, '{'⟩ ∈ text ∧ ∀ closing, ¬Partners text opening closing}

-- The brace that is at fault in a text: the first one that closes nothing, and where
-- there is none, the last one that is never closed.
inductive Misplaced (text : List (Placed Char)) : SyntaxFault → Prop
  | unopened {position : Nat} (h : IsLeast (unopened text) position) :
      Misplaced text ⟨.unopened, position⟩
  | unclosed {position : Nat} (hnone : Source.unopened text = ∅)
      (h : IsGreatest (unclosed text) position) : Misplaced text ⟨.unclosed, position⟩

-- A brace that has a partner, or no brace.
structure Paired (text : List (Placed Char)) (c : Placed Char) : Prop where
  closes : c.item = '}' → ∃ opening, Partners text opening c.offset
  closed : c.item = '{' → ∃ closing, Partners text c.offset closing

def count (brace : Char) (text : List (Placed Char)) : Nat := text.countP (·.item = brace)

section Counts

variable {text before after : List (Placed Char)}

theorem count_append (brace : Char) :
    count brace (before ++ after) = count brace before + count brace after :=
  List.countP_append

theorem count_cons (brace : Char) (c : Placed Char) :
    count brace (c :: text) = count brace text + if c.item = brace then 1 else 0 := by
  simp [count, List.countP_cons]

theorem count_nil (brace : Char) : count brace [] = 0 := rfl

theorem WellNested.count_eq (h : WellNested text) : count '}' text = count '{' text := by
  induction h with
  | empty => rfl
  | letter hopening hclosing =>
      rw [count_cons, count_cons, if_neg hopening, if_neg hclosing]
      rfl
  | append _ _ ihbefore ihafter => rw [count_append, count_append, ihbefore, ihafter]
  | block opening closing _ ih => simp [count_append, count_cons, count_nil, ih]

theorem wellNested_blank {offset : Nat} {item : Char} (h : Text.isBlank item = true) :
    WellNested [⟨offset, item⟩] := by
  refine .letter ?_ ?_
  · rintro rfl
    contradiction
  · rintro rfl
    contradiction

-- At no point of a well nested text are there more closing braces than opening ones.
theorem WellNested.count_le (h : WellNested text) (hstart : before <+: text) :
    count '}' before ≤ count '{' before := by
  induction h generalizing before with
  | empty =>
      rw [List.prefix_nil.mp hstart]
      exact Nat.le_refl _
  | @letter c _ hclosing =>
      have hle : count '}' before ≤ count '}' [c] := hstart.sublist.countP_le
      rw [count_cons, if_neg hclosing, count_nil] at hle
      omega
  | @append first second hfirst _ ihfirst ihsecond =>
      obtain ⟨rest, hrest⟩ := hstart
      rcases List.append_eq_append_iff.mp hrest with ⟨middle, rfl, -⟩ | ⟨middle, rfl, hsecond⟩
      · exact ihfirst (List.prefix_append before middle)
      · have hle := ihsecond ⟨rest, hsecond.symm⟩
        rw [count_append, count_append, hfirst.count_eq]
        omega
  | @block opening closing inside hinside ih =>
      cases before with
      | nil => exact Nat.le_refl _
      | cons c start =>
          obtain ⟨rfl, rest, hrest⟩ := List.cons_prefix_cons.mp hstart
          suffices count '}' start ≤ count '{' start + 1 by simpa [count_cons] using this
          rcases List.append_eq_append_iff.mp hrest with ⟨middle, rfl, -⟩ | ⟨middle, rfl, hlast⟩
          · exact Nat.le_succ_of_le (ih (List.prefix_append start middle))
          · have hmiddle : middle.Sublist [⟨closing, '}'⟩] := by
              rw [hlast]
              exact List.sublist_append_left _ _
            have hle : count '}' middle ≤ 1 := hmiddle.countP_le
            rw [count_append, count_append, hinside.count_eq]
            omega

end Counts

section Pairs

variable {text : List (Placed Char)}

theorem Partners.append {opening closing : Nat} (h : Partners text opening closing)
    (after : List (Placed Char)) : Partners (text ++ after) opening closing := by
  obtain ⟨outer, inside, rest, hinside, rfl⟩ := h
  exact ⟨outer, inside, rest ++ after, hinside, by simp⟩

theorem Partners.prepend {opening closing : Nat} (h : Partners text opening closing)
    (before : List (Placed Char)) : Partners (before ++ text) opening closing := by
  obtain ⟨outer, inside, rest, hinside, rfl⟩ := h
  exact ⟨before ++ outer, inside, rest, hinside, by simp⟩

theorem Paired.append {c : Placed Char} (h : Paired text c) (after : List (Placed Char)) :
    Paired (text ++ after) c where
  closes hc := (h.closes hc).imp fun _ hpartners => hpartners.append after
  closed hc := (h.closed hc).imp fun _ hpartners => hpartners.append after

theorem Paired.prepend {c : Placed Char} (h : Paired text c) (before : List (Placed Char)) :
    Paired (before ++ text) c where
  closes hc := (h.closes hc).imp fun _ hpartners => hpartners.prepend before
  closed hc := (h.closed hc).imp fun _ hpartners => hpartners.prepend before

theorem WellNested.paired (h : WellNested text) {c : Placed Char} (hc : c ∈ text) :
    Paired text c := by
  induction h with
  | empty => contradiction
  | letter hopening hclosing =>
      obtain rfl := List.mem_singleton.mp hc
      exact ⟨fun h => absurd h hclosing, fun h => absurd h hopening⟩
  | @append before after _ _ ihbefore ihafter =>
      rcases List.mem_append.mp hc with hbefore | hafter
      · exact (ihbefore hbefore).append after
      · exact (ihafter hafter).prepend before
  | @block opening closing inside hinside ih =>
      have hblock : Partners (⟨opening, '{'⟩ :: (inside ++ [⟨closing, '}'⟩])) opening closing :=
        ⟨[], inside, [], hinside, rfl⟩
      rcases List.mem_cons.mp hc with rfl | hlater
      · exact ⟨fun h => absurd h (show '{' ≠ '}' by decide), fun _ => ⟨closing, hblock⟩⟩
      · rcases List.mem_append.mp hlater with hmem | hlast
        · exact ((ih hmem).append [⟨closing, '}'⟩]).prepend [⟨opening, '{'⟩]
        · obtain rfl := List.mem_singleton.mp hlast
          exact ⟨fun _ => ⟨opening, hblock⟩, fun h => absurd h (show '}' ≠ '{' by decide)⟩

theorem WellNested.unopened_eq_empty (h : WellNested text) : unopened text = ∅ := by
  refine Set.eq_empty_of_forall_notMem fun closing hclosing => ?_
  obtain ⟨opening, hpartners⟩ := (h.paired hclosing.1).closes rfl
  exact hclosing.2 opening hpartners

theorem WellNested.unclosed_eq_empty (h : WellNested text) : unclosed text = ∅ := by
  refine Set.eq_empty_of_forall_notMem fun opening hopening => ?_
  obtain ⟨closing, hpartners⟩ := (h.paired hopening.1).closed rfl
  exact hopening.2 closing hpartners

theorem WellNested.not_misplaced (h : WellNested text) (fault : SyntaxFault) :
    ¬Misplaced text fault := by
  rintro (hleast | ⟨-, hgreatest⟩)
  · exact Set.notMem_empty _ (h.unopened_eq_empty ▸ hleast.1)
  · exact Set.notMem_empty _ (h.unclosed_eq_empty ▸ hgreatest.1)

-- Only one brace is at fault.
theorem Misplaced.unique {fault fault' : SyntaxFault} (h : Misplaced text fault)
    (h' : Misplaced text fault') : fault = fault' := by
  cases h with
  | unopened hleast =>
      cases h' with
      | unopened hleast' => rw [hleast.unique hleast']
      | unclosed hnone _ => exact absurd hleast.1 (hnone ▸ Set.notMem_empty _)
  | unclosed hnone hgreatest =>
      cases h' with
      | unopened hleast => exact absurd hleast.1 (hnone ▸ Set.notMem_empty _)
      | unclosed _ hgreatest' => rw [hgreatest.unique hgreatest']

end Pairs

-- A text so far and the places of the braces that are open at its end, the innermost first.
inductive Scanned : List (Placed Char) → List Nat → Prop
  | flat {text : List (Placed Char)} (h : WellNested text) : Scanned text []
  | block {before inside : List (Placed Char)} {opened : List Nat} (opening : Nat)
      (h : Scanned before opened) (hinside : WellNested inside) :
      Scanned (before ++ ⟨opening, '{'⟩ :: inside) (opening :: opened)

namespace Scanned

variable {text more : List (Placed Char)} {opened : List Nat}

theorem append (h : Scanned text opened) (hmore : WellNested more) :
    Scanned (text ++ more) opened := by
  cases h with
  | flat h => exact .flat (h.append hmore)
  | block opening h hinside =>
      rw [List.append_assoc, List.cons_append]
      exact .block opening h (hinside.append hmore)

theorem opening (h : Scanned text opened) (offset : Nat) :
    Scanned (text ++ [⟨offset, '{'⟩]) (offset :: opened) :=
  .block offset h .empty

theorem closing {opening : Nat} (h : Scanned text (opening :: opened)) (offset : Nat) :
    Scanned (text ++ [⟨offset, '}'⟩]) opened := by
  cases h with
  | block _ h hinside =>
      rw [List.append_assoc, List.cons_append]
      exact h.append (.block opening offset hinside)

theorem wellNested (h : Scanned text []) : WellNested text := by
  cases h with
  | flat h => exact h

-- Where blocks are open, nothing closes more than was opened.
theorem unopened_eq_empty (h : Scanned text opened) : unopened text = ∅ := by
  refine Set.eq_empty_of_forall_notMem fun closing hclosing => ?_
  obtain ⟨hmem, hlone⟩ := hclosing
  suffices ∃ opening, Partners text opening closing by
    obtain ⟨opening, hpartners⟩ := this
    exact hlone opening hpartners
  clear hlone
  induction h with
  | flat h => exact (h.paired hmem).closes rfl
  | @block before inside _ opening _ hinside ih =>
      rcases List.mem_append.mp hmem with hbefore | hrest
      · exact (ih hbefore).imp fun _ hpartners => hpartners.append _
      · have hinside' : ⟨closing, '}'⟩ ∈ inside := by simpa using hrest
        refine ((hinside.paired hinside').closes rfl).imp fun _ hpartners => ?_
        exact (hpartners.prepend [⟨opening, '{'⟩]).prepend before

end Scanned

section Ordered

variable {before after : List (Placed Char)} {c : Placed Char}

-- No two characters stand at one place.
theorem split_unique (hordered : (before ++ c :: after).Pairwise (·.offset < ·.offset))
    {before' after' : List (Placed Char)} {c' : Placed Char} (hoffset : c.offset = c'.offset)
    (h : before ++ c :: after = before' ++ c' :: after') : before = before' ∧ after = after' := by
  induction before generalizing before' with
  | nil =>
      cases before' with
      | nil => exact ⟨rfl, (List.cons.inj h).2⟩
      | cons d before' =>
          obtain ⟨rfl, rfl⟩ := List.cons.inj h
          have hlater := List.rel_of_pairwise_cons hordered List.mem_append_cons_self
          exact absurd hoffset (Nat.ne_of_lt hlater)
  | cons d before ih =>
      cases before' with
      | nil =>
          obtain ⟨rfl, hrest⟩ := List.cons.inj h
          have hlater := List.rel_of_pairwise_cons hordered List.mem_append_cons_self
          exact absurd hoffset.symm (Nat.ne_of_lt hlater)
      | cons d' before' =>
          obtain ⟨rfl, hrest⟩ := List.cons.inj h
          obtain ⟨rfl, rfl⟩ := ih (List.pairwise_cons.mp hordered).2 hrest
          exact ⟨rfl, rfl⟩

theorem offset_lt_of_mem_before (hordered : (before ++ c :: after).Pairwise (·.offset < ·.offset))
    {d : Placed Char} (hd : d ∈ before) : d.offset < c.offset :=
  (List.pairwise_append.mp hordered).2.2 d hd c List.mem_cons_self

theorem offset_lt_of_mem_after (hordered : (before ++ c :: after).Pairwise (·.offset < ·.offset))
    {d : Placed Char} (hd : d ∈ after) : c.offset < d.offset :=
  List.rel_of_pairwise_cons (List.pairwise_append.mp hordered).2.1 hd

theorem isLeast_unopened {position : Nat}
    (hordered : (before ++ ⟨position, '}'⟩ :: after).Pairwise (·.offset < ·.offset))
    (hbefore : WellNested before) :
    IsLeast (unopened (before ++ ⟨position, '}'⟩ :: after)) position := by
  refine ⟨⟨by simp, ?_⟩, ?_⟩
  · rintro opening ⟨outer, inside, rest, hinside, heq⟩
    rw [← List.cons_append, ← List.append_assoc] at heq
    obtain ⟨rfl, -⟩ := split_unique hordered rfl heq
    have houter := hbefore.count_le (List.prefix_append outer _)
    have heven := hbefore.count_eq
    simp only [count_append, count_cons, hinside.count_eq, Char.reduceEq, reduceIte] at heven
    omega
  · rintro closing ⟨hmem, hlone⟩
    rcases List.mem_append.mp hmem with hearlier | hrest
    · obtain ⟨opening, hpartners⟩ := (hbefore.paired hearlier).closes rfl
      exact absurd (hpartners.append _) (hlone opening)
    · rcases List.mem_cons.mp hrest with heq | hlater
      · exact Nat.le_of_eq (congrArg Placed.offset heq).symm
      · exact Nat.le_of_lt (offset_lt_of_mem_after hordered hlater)

theorem isGreatest_unclosed {position : Nat}
    (hordered : (before ++ ⟨position, '{'⟩ :: after).Pairwise (·.offset < ·.offset))
    (hafter : WellNested after) :
    IsGreatest (unclosed (before ++ ⟨position, '{'⟩ :: after)) position := by
  refine ⟨⟨by simp, ?_⟩, ?_⟩
  · rintro closing ⟨outer, inside, rest, hinside, heq⟩
    obtain ⟨-, rfl⟩ := split_unique hordered rfl heq
    have hstart : inside ++ [⟨closing, '}'⟩] <+: inside ++ ⟨closing, '}'⟩ :: rest := ⟨rest, by simp⟩
    have hle := hafter.count_le hstart
    simp only [count_append, count_cons, count_nil, hinside.count_eq, Char.reduceEq,
      reduceIte] at hle
    omega
  · rintro opening ⟨hmem, hlone⟩
    rcases List.mem_append.mp hmem with hearlier | hrest
    · exact Nat.le_of_lt (offset_lt_of_mem_before hordered hearlier)
    · rcases List.mem_cons.mp hrest with heq | hlater
      · exact Nat.le_of_eq (congrArg Placed.offset heq)
      · obtain ⟨closing, hpartners⟩ := (hafter.paired hlater).closed rfl
        exact absurd ((hpartners.prepend [⟨position, '{'⟩]).prepend before) (hlone closing)

end Ordered

end Source

-- The brace that a fault is about.
def BraceFault.char : BraceFault → Char
  | .unclosed => '{'
  | .unopened => '}'

theorem BraceFault.utf8EncodeChar_char (fault : BraceFault) :
    String.utf8EncodeChar fault.char = [fault.char.toUInt8] := by
  cases fault <;> decide

theorem Source.Misplaced.stands {source : String} {fault : SyntaxFault}
    (h : Misplaced (withoutComments source) fault) :
    Stands source fault.position fault.brace.char := by
  cases h with
  | unopened hleast => exact mem_withoutComments_iff.mp hleast.1.1
  | unclosed _ hgreatest => exact mem_withoutComments_iff.mp hgreatest.1.1

variable {R : Type} [IntCast R]

namespace Nest

open Source

-- What has come of a text: the blocks that are open at its end, or the first brace that
-- closes nothing.
inductive Scan : List (Placed Char) → Except SyntaxFault (Nest R) → Prop
  | ok {text : List (Placed Char)} {nest : Nest R}
      (h : Scanned text (nest.around.map Placed.offset)) : Scan text (.ok nest)
  | error {before after : List (Placed Char)} {position : Nat} (h : WellNested before) :
      Scan (before ++ ⟨position, '}'⟩ :: after) (.error ⟨.unopened, position⟩)

variable {text : List (Placed Char)} {tokens : List (Placed Token)}

-- The end of a word opens and closes nothing.
theorem scan_finish {nest : Nest R} (pending : Token.Pending)
    (h : ∀ contents, Scan text (tokens.foldlM add ⟨contents, nest.around⟩)) :
    Scan text ((Token.finish pending ++ tokens).foldlM add nest) := by
  cases pending with
  | none => exact h nest.contents
  | some letters => exact h (_ :: nest.contents)

-- A closing brace ends the innermost block, or the text before it has none that is open.
theorem scan_closing (nest : Nest R) (h : Scanned text (nest.around.map Placed.offset))
    {offset : Nat} {rest : List (Placed Char)}
    (hrest : ∀ next : Nest R, Scanned (text ++ [⟨offset, '}'⟩]) (next.around.map Placed.offset) →
      Scan (text ++ ⟨offset, '}'⟩ :: rest) (tokens.foldlM add next)) :
    Scan (text ++ ⟨offset, '}'⟩ :: rest) ((⟨offset, .closing⟩ :: tokens).foldlM add nest) := by
  obtain ⟨contents, around⟩ := nest
  cases around with
  | nil => exact .error h.wellNested
  | cons outer around => exact hrest _ (h.closing offset)

theorem scan_cut (nest : Nest R) (pending : Token.Pending) (rest : List (Placed Char))
    (h : Scanned text (nest.around.map Placed.offset)) :
    Scan (text ++ rest) ((Token.cut pending rest).foldlM add nest) := by
  induction rest generalizing text nest pending with
  | nil =>
      rw [List.append_nil, Token.cut, ← List.append_nil (Token.finish pending)]
      exact scan_finish pending fun _ => .ok h
  | cons c rest ih =>
      obtain ⟨offset, item⟩ := c
      have hjoin : text ++ ⟨offset, item⟩ :: rest = text ++ [⟨offset, item⟩] ++ rest := by simp
      rw [Token.cut]
      dsimp only
      by_cases hblank : Text.isBlank item = true
      · rw [if_pos hblank, hjoin]
        exact scan_finish pending fun _ => ih _ none (h.append (wellNested_blank hblank))
      rw [if_neg hblank]
      by_cases hopening : item = '{'
      · obtain rfl := hopening
        rw [if_pos rfl, hjoin]
        exact scan_finish pending fun _ => ih _ none (h.opening offset)
      rw [if_neg hopening]
      by_cases hclosing : item = '}'
      · obtain rfl := hclosing
        rw [if_pos rfl]
        refine scan_finish pending fun contents => ?_
        refine scan_closing ⟨contents, nest.around⟩ h fun next hnext => ?_
        rw [hjoin]
        exact ih next none hnext
      · rw [if_neg hclosing, hjoin]
        exact ih nest _ (h.append (.letter hopening hclosing))

end Nest

namespace Program

open Source

variable {source : String}

theorem parse_eq_bind (source : String) :
    ∃ outcome : Except SyntaxFault (Nest R), Nest.Scan (withoutComments source) outcome ∧
      parse source = outcome.bind Nest.finish :=
  ⟨_, Nest.scan_cut Nest.outside none (withoutComments source) (.flat .empty), rfl⟩

theorem wellNested_of_parse {p : Program R} (h : parse source = .ok p) :
    WellNested (withoutComments source) := by
  obtain ⟨outcome, hscan, hparse⟩ := parse_eq_bind (R := R) source
  rw [hparse] at h
  generalize withoutComments source = text at *
  cases hscan with
  | error => contradiction
  | @ok _ nest hscanned =>
      have hdepth := (Nest.finish_eq_ok_iff.mp h).1
      rw [List.eq_nil_of_length_eq_zero hdepth] at hscanned
      exact hscanned.wellNested

theorem misplaced_of_parse {fault : SyntaxFault}
    (h : (parse source : Except SyntaxFault (Program R)) = .error fault) :
    Misplaced (withoutComments source) fault := by
  have hordered := pairwise_withoutComments source
  obtain ⟨outcome, hscan, hparse⟩ := parse_eq_bind (R := R) source
  rw [hparse] at h
  generalize withoutComments source = text at *
  cases hscan with
  | error hbefore =>
      cases h
      exact .unopened (isLeast_unopened hordered hbefore)
  | @ok _ nest hscanned =>
      obtain ⟨contents, around⟩ := nest
      cases around with
      | nil => contradiction
      | cons inner around =>
          cases h
          have hnone := hscanned.unopened_eq_empty
          cases hscanned with
          | block _ _ hinside => exact .unclosed hnone (isGreatest_unclosed hordered hinside)

-- The parser rejects a source if a brace of it is at fault, and points at that brace.
theorem parse_eq_error_iff {fault : SyntaxFault} :
    (parse source : Except SyntaxFault (Program R)) = .error fault ↔
      Misplaced (withoutComments source) fault := by
  refine ⟨misplaced_of_parse, fun hmisplaced => ?_⟩
  cases hparse : (parse source : Except SyntaxFault (Program R)) with
  | ok p => exact absurd hmisplaced ((wellNested_of_parse hparse).not_misplaced fault)
  | error fault' => rw [(misplaced_of_parse hparse).unique hmisplaced]

-- A fault stands at the first brace that closes nothing, or else at the last one that is never
-- closed. What is left without comments is what stands in none, in the order of the source.
theorem parse_faults_at_brace (source : String) :
    (∀ offset c, ⟨offset, c⟩ ∈ withoutComments source ↔ Stands source offset c) ∧
    (withoutComments source).Pairwise (·.offset < ·.offset) ∧
    (∀ fault, (parse source : Except SyntaxFault (Program R)) = .error fault ↔
      Misplaced (withoutComments source) fault) ∧
    ∀ fault, (parse source : Except SyntaxFault (Program R)) = .error fault →
      fault.position < source.utf8ByteSize ∧
      source.toByteArray[fault.position]? = some fault.brace.char.toUInt8 ∧
      Stands source fault.position fault.brace.char ∧ ¬InComment source fault.position := by
  refine ⟨fun _ _ => mem_withoutComments_iff, pairwise_withoutComments source,
    fun _ => parse_eq_error_iff, fun fault hfault => ?_⟩
  have hstands := (parse_eq_error_iff.mp hfault).stands
  have hbyte := hstands.byte_eq fault.brace.utf8EncodeChar_char
  exact ⟨(getElem?_eq_some_iff.mp hbyte).1, hbyte, hstands, hstands.not_inComment⟩

-- The comment closes nothing, and the letter before the brace takes two bytes.
theorem parse_faults_at_inner_brace :
    (parse "\x7b ( \x7d ) é \x7b \x7b\x7d" : Except SyntaxFault (Program Int)) =
      .error ⟨.unclosed, 11⟩ ∧
    Misplaced (withoutComments "\x7b ( \x7d ) é \x7b \x7b\x7d") ⟨.unclosed, 11⟩ ∧
    Stands "\x7b ( \x7d ) é \x7b \x7b\x7d" 11 '{' := by
  have htokens : Token.ofSource "\x7b ( \x7d ) é \x7b \x7b\x7d" =
      [⟨0, .opening⟩, ⟨8, .other "é"⟩, ⟨11, .opening⟩, ⟨13, .opening⟩, ⟨14, .closing⟩] := by
    decide +kernel
  have hparse : (parse "\x7b ( \x7d ) é \x7b \x7b\x7d" : Except SyntaxFault (Program Int)) =
      .error ⟨.unclosed, 11⟩ := by
    rw [parse, htokens]
    rfl
  obtain ⟨-, -, hfaults, hplaces⟩ :=
    parse_faults_at_brace (R := Int) "\x7b ( \x7d ) é \x7b \x7b\x7d"
  exact ⟨hparse, (hfaults _).mp hparse, (hplaces _ hparse).2.2.1⟩

end Program

end Skirmish
