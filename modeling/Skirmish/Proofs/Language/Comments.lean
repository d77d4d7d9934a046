import Skirmish.Language.Source
import Skirmish.Proofs.Language.Cutting

namespace Skirmish.Source

-- The ways to cut a text in two where no comment is cut. A comment runs from an opening parenthesis
-- to the first closing one; an opening one with no closing one after it is text.
inductive Outside (text : List Char) : List Char → List Char → Prop
  | start : Outside text [] text
  | letter {before after : List Char} {c : Char} (h : Outside text before (c :: after))
      (hc : ¬(c = '(' ∧ ')' ∈ after)) : Outside text (before ++ [c]) after
  | comment {before inside after : List Char}
      (h : Outside text before ('(' :: (inside ++ ')' :: after))) (hinside : ')' ∉ inside) :
      Outside text (before ++ '(' :: (inside ++ [')'])) after

-- The bytes that some characters take up.
def bytes (cs : List Char) : Nat := (String.ofList cs).utf8ByteSize

-- A character stands at a byte of a source, and in no comment.
def Stands (source : String) (offset : Nat) (c : Char) : Prop :=
  ∃ before after, Outside source.toList before (c :: after) ∧ ¬(c = '(' ∧ ')' ∈ after) ∧
    offset = bytes before

-- A byte of a source is part of a comment.
def InComment (source : String) (offset : Nat) : Prop :=
  ∃ before inside after, Outside source.toList before ('(' :: (inside ++ ')' :: after)) ∧
    ')' ∉ inside ∧ bytes before ≤ offset ∧ offset < bytes (before ++ '(' :: (inside ++ [')']))

theorem bytes_append (cs ds : List Char) : bytes (cs ++ ds) = bytes cs + bytes ds := by
  unfold bytes
  rw [String.ofList_append, String.utf8ByteSize_append]

theorem bytes_singleton (c : Char) : bytes [c] = c.utf8Size := by
  unfold bytes
  rw [String.utf8ByteSize, String.toByteArray_ofList, List.utf8Encode_singleton,
    List.size_toByteArray, String.length_utf8EncodeChar]

theorem bytes_cons (c : Char) (cs : List Char) : bytes (c :: cs) = c.utf8Size + bytes cs := by
  rw [← List.singleton_append, bytes_append, bytes_singleton]

theorem Outside.eq_append {text before after : List Char} (h : Outside text before after) :
    text = before ++ after := by
  induction h with
  | start => rfl
  | letter _ _ ih => rw [ih, List.append_assoc, List.singleton_append]
  | comment _ _ ih =>
      rw [ih]
      simp

theorem offset_mem_place {cs : List Char} {offset : Nat} {placed : Placed Char}
    (h : placed ∈ place offset cs) : offset ≤ placed.offset := by
  induction cs generalizing offset with
  | nil => contradiction
  | cons c cs ih =>
      rw [place] at h
      rcases List.mem_cons.mp h with rfl | hrest
      · exact Nat.le_refl _
      · exact Nat.le_trans (Nat.le_add_right _ _) (ih hrest)

-- A character ends before the next one starts.
theorem pairwise_place (offset : Nat) (cs : List Char) :
    (place offset cs).Pairwise fun c d => c.offset + c.item.utf8Size ≤ d.offset := by
  induction cs generalizing offset with
  | nil => exact List.Pairwise.nil
  | cons c cs ih =>
      rw [place]
      exact .cons (fun _ => offset_mem_place) (ih _)

theorem uncomment_sublist (inComment : Bool) (cs : List (Placed Char)) :
    (uncomment inComment cs).Sublist cs := by
  induction cs generalizing inComment with
  | nil => cases inComment <;> exact .refl _
  | cons c cs ih =>
      cases inComment with
      | true => exact (ih _).cons c
      | false =>
          rw [uncomment]
          split
          · exact (ih _).cons c
          · exact (ih _).cons_cons c

theorem uncommented_iff_pairwise {text : List Char} :
    Uncommented text ↔ text.Pairwise fun c d => ¬(c = '(' ∧ d = ')') := by
  induction text with
  | nil => simp [Uncommented]
  | cons c cs ih =>
      rw [List.pairwise_cons, ← ih]
      constructor
      · intro h
        refine ⟨?_, fun before after heq => h (c :: before) after (congrArg (c :: ·) heq)⟩
        rintro d hd ⟨rfl, rfl⟩
        exact h [] cs rfl hd
      · rintro ⟨hfirst, hrest⟩ before after heq
        cases before with
        | nil =>
            cases heq
            exact fun hclosed => hfirst ')' hclosed ⟨rfl, rfl⟩
        | cons b before =>
            cases heq
            exact hrest before after rfl

-- No comment is left, nor made by leaving one out.
theorem uncommented_uncomment (inside : Bool) (cs : List (Placed Char)) :
    Uncommented ((uncomment inside cs).map Placed.item) := by
  rw [uncommented_iff_pairwise, List.pairwise_map]
  induction cs generalizing inside with
  | nil => cases inside <;> exact .nil
  | cons c cs ih =>
      cases inside with
      | true => exact ih _
      | false =>
          rw [uncomment]
          split
          · exact ih _
          · rename_i hkept
            refine .cons ?_ (ih _)
            rintro d hd ⟨hopen, hclosed⟩
            refine hkept ⟨hopen, List.any_eq_true.mpr ⟨d, (uncomment_sublist _ _).mem hd, ?_⟩⟩
            exact decide_eq_true hclosed

theorem apart_withoutComments (source : String) :
    (withoutComments source).Pairwise fun c d => c.offset + c.item.utf8Size ≤ d.offset :=
  (pairwise_place 0 source.toList).sublist (uncomment_sublist _ _)

-- The characters that are left stand in their order.
theorem pairwise_withoutComments (source : String) :
    (withoutComments source).Pairwise (·.offset < ·.offset) := by
  refine (apart_withoutComments source).imp fun {c d} hapart => ?_
  have hsize := c.item.utf8Size_pos
  omega

theorem any_place_iff (offset : Nat) (cs : List Char) :
    (place offset cs).any (·.item = ')') = true ↔ ')' ∈ cs := by
  have hitems : (')' ∈ (place offset cs).map Placed.item) ↔ ')' ∈ cs := by rw [map_item_place]
  rw [← hitems]
  simp

theorem uncomment_letter {c : Char} {after : List Char} (offset : Nat)
    (hc : ¬(c = '(' ∧ ')' ∈ after)) :
    uncomment false (place offset (c :: after)) =
      ⟨offset, c⟩ :: uncomment false (place (offset + bytes [c]) after) := by
  rw [← any_place_iff (offset + c.utf8Size)] at hc
  rw [place, uncomment, if_neg hc, bytes_singleton]

theorem uncomment_inside {inside after : List Char} (offset : Nat) (hinside : ')' ∉ inside) :
    uncomment true (place offset (inside ++ ')' :: after)) =
      uncomment false (place (offset + bytes (inside ++ [')'])) after) := by
  induction inside generalizing offset with
  | nil =>
      rw [List.nil_append, place, uncomment, bytes_append, bytes_singleton]
      rfl
  | cons c inside ih =>
      rw [List.mem_cons, not_or] at hinside
      obtain ⟨hc, hrest⟩ := hinside
      have hopen : decide (c ≠ ')') = true := decide_eq_true (Ne.symm hc)
      rw [List.cons_append, place, uncomment, hopen, ih _ hrest, List.cons_append, bytes_cons,
        Nat.add_assoc]

theorem uncomment_comment {inside after : List Char} (offset : Nat) (hinside : ')' ∉ inside) :
    uncomment false (place offset ('(' :: (inside ++ ')' :: after))) =
      uncomment false (place (offset + bytes ('(' :: (inside ++ [')']))) after) := by
  have hcloses : ')' ∈ inside ++ ')' :: after := by simp
  rw [← any_place_iff (offset + '('.utf8Size)] at hcloses
  rw [place, uncomment, if_pos ⟨rfl, hcloses⟩, uncomment_inside _ hinside, bytes_cons,
    Nat.add_assoc]

-- What is left of a text is what is left of it before some place outside of comments, and after.
theorem exists_uncomment_eq {text before after : List Char} (h : Outside text before after) :
    ∃ kept, (∀ placed ∈ kept, placed.offset + placed.item.utf8Size ≤ bytes before) ∧
      uncomment false (place 0 text) = kept ++ uncomment false (place (bytes before) after) := by
  induction h with
  | start => exact ⟨[], fun _ h => absurd h List.not_mem_nil, rfl⟩
  | @letter before after c _ hc ih =>
      obtain ⟨kept, hplaces, hkept⟩ := ih
      refine ⟨kept ++ [⟨bytes before, c⟩], fun placed hplaced => ?_, ?_⟩
      · rw [bytes_append, bytes_singleton]
        rcases List.mem_append.mp hplaced with hearlier | hlast
        · exact Nat.le_add_right_of_le (hplaces placed hearlier)
        · obtain rfl := List.mem_singleton.mp hlast
          exact Nat.le_refl _
      · rw [hkept, uncomment_letter _ hc, ← bytes_append, List.append_assoc, List.singleton_append]
  | @comment before inside after _ hinside ih =>
      obtain ⟨kept, hplaces, hkept⟩ := ih
      refine ⟨kept, fun placed hplaced => ?_, ?_⟩
      · rw [bytes_append]
        exact Nat.le_add_right_of_le (hplaces placed hplaced)
      · rw [hkept, uncomment_comment _ hinside, ← bytes_append]

-- A text goes on with a character in no comment or with a whole comment. The recursion is on the
-- length, since a comment is passed over at once.
@[elab_as_elim]
theorem scan_induction {motive : List Char → Prop} (nil : motive [])
    (letter : ∀ c after, ¬(c = '(' ∧ ')' ∈ after) → motive after → motive (c :: after))
    (comment : ∀ inside after, ')' ∉ inside → motive after →
      motive ('(' :: (inside ++ ')' :: after)))
    (text : List Char) : motive text :=
  match text with
  | [] => nil
  | c :: rest => by
      by_cases hc : c = '(' ∧ ')' ∈ rest
      · obtain ⟨rfl, hcloses⟩ := hc
        obtain ⟨inside, after, rfl, hinside⟩ := List.eq_append_cons_of_mem hcloses
        exact comment inside after hinside (scan_induction nil letter comment after)
      · exact letter c rest hc (scan_induction nil letter comment rest)
termination_by text.length
decreasing_by all_goals simp_all <;> omega

theorem exists_outside {text before after : List Char} {placed : Placed Char}
    (h : Outside text before after) (hmem : placed ∈ uncomment false (place (bytes before) after)) :
    ∃ before' after', Outside text before' (placed.item :: after') ∧
      ¬(placed.item = '(' ∧ ')' ∈ after') ∧ placed.offset = bytes before' := by
  induction after using scan_induction generalizing before with
  | nil => contradiction
  | letter c after hc ih =>
      rw [uncomment_letter _ hc, ← bytes_append] at hmem
      rcases List.mem_cons.mp hmem with rfl | hrest
      · exact ⟨before, after, h, hc, rfl⟩
      · exact ih (.letter h hc) hrest
  | comment inside after hinside ih =>
      rw [uncomment_comment _ hinside, ← bytes_append] at hmem
      exact ih (.comment h hinside) hmem

-- Leaving comments out leaves just what stands in none.
theorem mem_withoutComments_iff {source : String} {offset : Nat} {c : Char} :
    ⟨offset, c⟩ ∈ withoutComments source ↔ Stands source offset c := by
  constructor
  · intro h
    have hstart : bytes [] = 0 := rfl
    rw [withoutComments, ← hstart] at h
    exact exists_outside .start h
  · rintro ⟨before, after, houtside, hc, rfl⟩
    obtain ⟨kept, -, hkept⟩ := exists_uncomment_eq houtside
    rw [withoutComments, hkept, uncomment_letter _ hc]
    exact List.mem_append_right kept List.mem_cons_self

-- No byte of a character that stands in a source is part of a comment.
theorem Stands.not_inComment_of_mem {source : String} {offset byte : Nat} {c : Char}
    (h : Stands source offset c) (hstart : offset ≤ byte) (hend : byte < offset + c.utf8Size) :
    ¬InComment source byte := by
  rintro ⟨before, inside, after, houtside, hinside, hopened, hclosed⟩
  obtain ⟨kept, hplaces, hkept⟩ := exists_uncomment_eq houtside
  have hmem := mem_withoutComments_iff.mpr h
  rw [withoutComments, hkept, uncomment_comment _ hinside, ← bytes_append] at hmem
  rcases List.mem_append.mp hmem with hearlier | hlater
  · have hbefore : offset + c.utf8Size ≤ bytes before := hplaces _ hearlier
    omega
  · have hafter := offset_mem_place ((uncomment_sublist _ _).mem hlater)
    dsimp only at hafter
    omega

theorem Stands.not_inComment {source : String} {offset : Nat} {c : Char}
    (h : Stands source offset c) : ¬InComment source offset :=
  h.not_inComment_of_mem (Nat.le_refl _) (Nat.lt_add_of_pos_right c.utf8Size_pos)

theorem toList_toByteArray (source : String) :
    source.toByteArray.data.toList = source.toList.flatMap String.utf8EncodeChar := by
  rw [← String.utf8Encode_toList, List.utf8Encode, List.toList_data_toByteArray]

theorem getElem?_toByteArray (source : String) (offset : Nat) :
    source.toByteArray[offset]? = (source.toList.flatMap String.utf8EncodeChar)[offset]? := by
  rw [← toList_toByteArray, Array.getElem?_toList]
  rfl

theorem bytes_eq_length (cs : List Char) : bytes cs = (cs.flatMap String.utf8EncodeChar).length := by
  rw [bytes, String.utf8ByteSize, String.toByteArray_ofList, List.utf8Encode, List.size_toByteArray]

-- The bytes of a character are those that stand there.
theorem Stands.getElem?_eq {source : String} {offset : Nat} {c : Char} (h : Stands source offset c)
    {k : Nat} (hk : k < c.utf8Size) :
    source.toByteArray[offset + k]? = (String.utf8EncodeChar c)[k]? := by
  obtain ⟨before, after, houtside, -, rfl⟩ := h
  rw [← String.length_utf8EncodeChar] at hk
  rw [getElem?_toByteArray, houtside.eq_append, List.flatMap_append, List.flatMap_cons,
    bytes_eq_length, List.getElem?_append_right (Nat.le_add_right _ _), Nat.add_sub_cancel_left,
    List.getElem?_append_left hk]

-- A character of one byte is the byte that stands there.
theorem Stands.byte_eq {source : String} {offset : Nat} {c : Char} (h : Stands source offset c)
    {byte : UInt8} (hbyte : String.utf8EncodeChar c = [byte]) :
    source.toByteArray[offset]? = some byte := by
  have hfirst := h.getElem?_eq c.utf8Size_pos
  rwa [Nat.add_zero, hbyte] at hfirst

end Skirmish.Source
