import Skirmish.Language.Printer

namespace Skirmish

-- Text in which no comment is ever closed.
def Source.Uncommented (text : List Char) : Prop :=
  ∀ before after, text = before ++ '(' :: after → ')' ∉ after

-- A character that words are made of.
def Text.IsLetter (c : Char) : Prop := isBlank c = false ∧ c ≠ '{' ∧ c ≠ '}'

-- A token that is not cut where it is spelled out.
def Token.Joined : Token → Prop
  | .other spelling => spelling ≠ "" ∧ ∀ c ∈ spelling.toList, Text.IsLetter c
  | _ => True

namespace Source

theorem map_item_place (offset : Nat) (cs : List Char) : (place offset cs).map Placed.item = cs := by
  induction cs generalizing offset with
  | nil => rfl
  | cons c cs ih => simp [place, ih]

theorem uncommented_of_not_mem {text : List Char} (h : ')' ∉ text) : Uncommented text := by
  rintro before after rfl hclosed
  exact h (List.mem_append_right before (List.mem_cons_of_mem _ hclosed))

theorem uncomment_of_uncommented {cs : List (Placed Char)}
    (h : Uncommented (cs.map Placed.item)) : uncomment false cs = cs := by
  induction cs with
  | nil => rfl
  | cons c cs ih =>
      have hrest : Uncommented (cs.map Placed.item) := by
        intro before after heq
        exact h (c.item :: before) after (by rw [List.map_cons, heq, List.cons_append])
      have hopen : ¬(c.item = '(' ∧ cs.any (·.item = ')') = true) := by
        rintro ⟨hparen, hclosed⟩
        refine h [] (cs.map Placed.item) (by rw [List.map_cons, hparen, List.nil_append]) ?_
        simpa using hclosed
      rw [uncomment, if_neg hopen, ih hrest]

end Source

namespace Token

open Text

theorem cut_letter {c : Placed Char} (h : IsLetter c.item) (pending : Pending)
    (rest : List (Placed Char)) : cut pending (c :: rest) = cut (extend c pending) rest := by
  obtain ⟨hblank, hopening, hclosing⟩ := h
  rw [cut, if_neg (by simp [hblank]), if_neg hopening, if_neg hclosing]

theorem cut_letters {word : List (Placed Char)} (h : ∀ c ∈ word, IsLetter c.item)
    (letters : Placed (List Char)) (rest : List (Placed Char)) :
    cut (some letters) (word ++ rest) =
      cut (some { letters with item := (word.map Placed.item).reverse ++ letters.item }) rest := by
  induction word generalizing letters with
  | nil => rfl
  | cons c word ih =>
      rw [List.cons_append, cut_letter (h c List.mem_cons_self), extend,
        ih fun c hc => h c (List.mem_cons_of_mem _ hc)]
      simp

-- The end of a word is the end of the text, or a blank.
theorem cut_pending {rest : List (Placed Char)} (hrest : ∀ c ∈ rest.head?, isBlank c.item = true)
    (pending : Pending) : cut pending rest = finish pending ++ cut none rest := by
  cases rest with
  | nil => simp [cut, finish]
  | cons c rest =>
      have hblank := hrest c rfl
      simp [cut, hblank, finish]

theorem cut_spelling {token : Token} (htoken : token.Joined) {word rest : List (Placed Char)}
    (hword : word.map Placed.item = token.spelling.toList)
    (hrest : ∀ c ∈ rest.head?, isBlank c.item = true) :
    (cut none (word ++ rest)).map Placed.item = token :: (cut none rest).map Placed.item := by
  cases token with
  | opening =>
      change word.map Placed.item = ['{'] at hword
      obtain ⟨c, rfl, hc⟩ := List.map_eq_singleton_iff.mp hword
      rw [List.singleton_append, cut, if_neg (by rw [hc]; decide), if_pos hc]
      rfl
  | closing =>
      change word.map Placed.item = ['}'] at hword
      obtain ⟨c, rfl, hc⟩ := List.map_eq_singleton_iff.mp hword
      rw [List.singleton_append, cut, if_neg (by rw [hc]; decide), if_neg (by rw [hc]; decide),
        if_pos hc]
      rfl
  | other spelling =>
      obtain ⟨hne, hletters⟩ := htoken
      change word.map Placed.item = spelling.toList at hword
      rw [← hword, List.forall_mem_map] at hletters
      cases word with
      | nil => exact absurd (String.toList_eq_nil_iff.mp hword.symm) hne
      | cons c word =>
          have hspelled : (c.item :: word.map Placed.item) = spelling.toList := hword
          rw [List.cons_append, cut_letter (hletters c List.mem_cons_self), extend,
            cut_letters fun c hc => hletters c (List.mem_cons_of_mem _ hc), cut_pending hrest]
          simp [finish, hspelled]

theorem cut_textOf {tokens : List Token} (htokens : ∀ token ∈ tokens, token.Joined)
    {placed : List (Placed Char)} (hplaced : placed.map Placed.item = (textOf tokens).toList) :
    (cut none placed).map Placed.item = tokens := by
  unfold textOf at hplaced
  rw [String.toList_intercalate, List.map_map] at hplaced
  induction tokens generalizing placed with
  | nil =>
      obtain rfl := List.map_eq_nil_iff.mp hplaced
      rfl
  | cons token tokens ih =>
      have htoken := htokens token List.mem_cons_self
      have hrest := fun token h => htokens token (List.mem_cons_of_mem _ h)
      cases tokens with
      | nil =>
          rw [List.map_singleton, List.intercalate_singleton] at hplaced
          rw [← List.append_nil placed, cut_spelling htoken hplaced (by simp)]
          rfl
      | cons next tokens =>
          rw [List.map_cons, List.map_cons, List.intercalate_cons_cons, ← List.map_cons] at hplaced
          obtain ⟨spelled, rest, rfl, hspelled, hrest'⟩ := List.map_eq_append_iff.mp hplaced
          obtain ⟨word, space, rfl, hword, hspace⟩ := List.map_eq_append_iff.mp hspelled
          obtain ⟨c, rfl, hc⟩ := List.map_eq_singleton_iff.mp hspace
          have hblank : isBlank c.item = true := by rw [hc]; rfl
          rw [List.append_assoc, cut_spelling htoken hword (by simp [hblank]), List.singleton_append,
            cut, if_pos hblank]
          exact congrArg (token :: ·) (ih hrest hrest')

-- Joined tokens are read as they are printed.
theorem ofSource_textOf {tokens : List Token} (htokens : ∀ token ∈ tokens, token.Joined)
    (htext : Source.Uncommented (textOf tokens).toList) :
    (ofSource (textOf tokens)).map Placed.item = tokens := by
  have hitems := Source.map_item_place 0 (textOf tokens).toList
  unfold ofSource Source.withoutComments
  rw [Source.uncomment_of_uncommented (by rw [hitems]; exact htext)]
  exact cut_textOf htokens hitems

end Token

end Skirmish
