import Mathlib.Data.List.Forall2
import Mathlib.Data.Set.Pairwise.Lattice
import Mathlib.Order.CompletePartialOrder
import Mathlib.Order.Interval.Set.Disjoint
import Skirmish.Proofs.Language.Comments

namespace Skirmish

namespace Source

open Relation

-- The text that is left of a source without its comments.
def stripped (source : String) : String :=
  String.ofList ((withoutComments source).map Placed.item)

-- The bytes that some characters take up, one after the other.
def occupied (cs : List (Placed Char)) : List Nat :=
  cs.flatMap fun c => List.range' c.offset c.item.utf8Size

-- The bytes of a source that are left without its comments, in the order of the text.
def offsets (source : String) : List Nat := occupied (withoutComments source)

-- The spans of bytes that the comments of a source take up.
def comments (source : String) : Set (Set Nat) :=
  {span | ∃ before inside after, Outside source.toList before ('(' :: (inside ++ ')' :: after)) ∧
    ')' ∉ inside ∧ span = Set.Ico (bytes before) (bytes (before ++ '(' :: (inside ++ [')'])))}

-- One step of a scan: over a character in no comment, or over a whole comment.
inductive Step : List Char × List Char → List Char × List Char → Prop
  | letter {before after : List Char} {c : Char} (hc : ¬(c = '(' ∧ ')' ∈ after)) :
      Step (before, c :: after) (before ++ [c], after)
  | comment {before inside after : List Char} (hinside : ')' ∉ inside) :
      Step (before, '(' :: (inside ++ ')' :: after)) (before ++ '(' :: (inside ++ [')']), after)

-- A place in the text and the place in the source that it comes from, with the same thing at both.
structure Moved {α : Type} (places : List Nat) (here there : Placed α) : Prop where
  offset : places[here.offset]? = some there.offset
  item : here.item = there.item

section Spans

variable {source : String} {text before after : List Char}

theorem Outside.steps (h : Outside text before after) :
    ReflTransGen Step ([], text) (before, after) := by
  induction h with
  | start => exact .refl
  | letter _ hc ih => exact ih.tail (.letter hc)
  | comment _ hinside ih => exact ih.tail (.comment hinside)

-- The first closing parenthesis of a text is where it is.
theorem comment_inj {inside inside' after' : List Char} (h : ')' ∉ inside) (h' : ')' ∉ inside')
    (heq : inside ++ ')' :: after = inside' ++ ')' :: after') : inside = inside' ∧ after = after' := by
  induction inside generalizing inside' with
  | nil =>
      cases inside' with
      | nil => exact ⟨rfl, (List.cons.inj heq).2⟩
      | cons c inside' =>
          obtain ⟨rfl, -⟩ := List.cons.inj heq
          exact absurd List.mem_cons_self h'
  | cons c inside ih =>
      cases inside' with
      | nil =>
          obtain ⟨rfl, -⟩ := List.cons.inj heq
          exact absurd List.mem_cons_self h
      | cons d inside' =>
          obtain ⟨rfl, hrest⟩ := List.cons.inj heq
          obtain ⟨rfl, rfl⟩ := ih (List.not_mem_of_not_mem_cons h)
            (List.not_mem_of_not_mem_cons h') hrest
          exact ⟨rfl, rfl⟩

theorem rightUnique_step : Relator.RightUnique Step := by
  intro place next next' h h'
  cases h with
  | letter hc =>
      cases h' with
      | letter => rfl
      | comment => exact absurd ⟨rfl, by simp⟩ hc
  | comment hinside =>
      generalize hplace : (_, _) = place' at h'
      cases h' with
      | letter hc =>
          obtain ⟨rfl, heq⟩ := Prod.mk.inj hplace
          obtain ⟨rfl, rfl⟩ := List.cons.inj heq
          exact absurd ⟨rfl, by simp⟩ hc
      | comment hinside' =>
          obtain ⟨rfl, heq⟩ := Prod.mk.inj hplace
          obtain ⟨rfl, rfl⟩ := comment_inj hinside hinside' (List.cons.inj heq).2
          rfl

theorem prefix_of_steps {place next : List Char × List Char} (h : ReflTransGen Step place next) :
    place.1 <+: next.1 := by
  induction h with
  | refl => exact List.prefix_refl _
  | tail _ hstep ih =>
      cases hstep with
      | letter => exact ih.trans (List.prefix_append _ _)
      | comment => exact ih.trans (List.prefix_append _ _)

theorem bytes_mono (h : before <+: text) : bytes before ≤ bytes text := by
  obtain ⟨rest, rfl⟩ := h
  rw [bytes_append]
  exact Nat.le_add_right _ _

theorem mem_sUnion_comments_iff {byte : Nat} : byte ∈ ⋃₀ comments source ↔ InComment source byte := by
  constructor
  · rintro ⟨_, ⟨before, inside, after, houtside, hinside, rfl⟩, hstart, hend⟩
    exact ⟨before, inside, after, houtside, hinside, hstart, hend⟩
  · rintro ⟨before, inside, after, houtside, hinside, hstart, hend⟩
    exact ⟨_, ⟨before, inside, after, houtside, hinside, rfl⟩, hstart, hend⟩

-- From one comment the scan gets to another only past its end.
theorem eq_or_prefix_of_steps {before' inside inside' after' : List Char} (hinside : ')' ∉ inside)
    (hinside' : ')' ∉ inside')
    (h : ReflTransGen Step (before, '(' :: (inside ++ ')' :: after))
      (before', '(' :: (inside' ++ ')' :: after'))) :
    (before = before' ∧ inside = inside') ∨ before ++ '(' :: (inside ++ [')']) <+: before' := by
  rcases ReflTransGen.cases_head h with heq | ⟨next, hstep, hrest⟩
  · obtain ⟨hbefore, hcomment⟩ := Prod.mk.inj heq
    exact .inl ⟨hbefore, (comment_inj hinside hinside' (List.cons.inj hcomment).2).1⟩
  · obtain rfl := rightUnique_step hstep (.comment hinside)
    exact .inr (prefix_of_steps hrest)

theorem pairwiseDisjoint_comments (source : String) : (comments source).PairwiseDisjoint id := by
  rintro _ ⟨before, inside, after, h, hinside, rfl⟩ _ ⟨before', inside', after', h', hinside', rfl⟩ hne
  refine Set.Ico_disjoint_Ico.mpr ?_
  rcases ReflTransGen.total_of_right_unique rightUnique_step h.steps h'.steps with hlater | hlater
  · rcases eq_or_prefix_of_steps hinside hinside' hlater with ⟨rfl, rfl⟩ | hends
    · exact absurd rfl hne
    · exact min_le_of_left_le (le_max_of_le_right (bytes_mono hends))
  · rcases eq_or_prefix_of_steps hinside' hinside hlater with ⟨rfl, rfl⟩ | hends
    · exact absurd rfl hne
    · exact min_le_of_right_le (le_max_of_le_left (bytes_mono hends))

theorem mem_offsets_iff {byte : Nat} :
    byte ∈ offsets source ↔
      ∃ offset c, Stands source offset c ∧ offset ≤ byte ∧ byte < offset + c.utf8Size := by
  simp only [offsets, occupied, List.mem_flatMap, List.mem_range'_1]
  constructor
  · rintro ⟨⟨offset, c⟩, hmem, hbyte⟩
    exact ⟨offset, c, mem_withoutComments_iff.mp hmem, hbyte⟩
  · rintro ⟨offset, c, hstands, hbyte⟩
    exact ⟨⟨offset, c⟩, mem_withoutComments_iff.mpr hstands, hbyte⟩

theorem Outside.finish (h : Outside text before after) : Outside text text [] := by
  induction after using scan_induction generalizing before with
  | nil =>
      have heq := h.eq_append
      rw [List.append_nil] at heq
      rwa [← heq] at h
  | letter c after hc ih => exact ih (.letter h hc)
  | comment inside after hinside ih => exact ih (.comment h hinside)

-- Each byte that a scan has passed is left or part of a comment.
theorem Outside.mem_offsets_or (h : Outside source.toList before after) {byte : Nat}
    (hbyte : byte < bytes before) : byte ∈ offsets source ∨ InComment source byte := by
  induction h with
  | start => contradiction
  | @letter before after c h hc ih =>
      rw [bytes_append, bytes_singleton] at hbyte
      by_cases hearlier : byte < bytes before
      · exact ih hearlier
      · have hstands : Stands source (bytes before) c := ⟨before, after, h, hc, rfl⟩
        exact .inl (mem_offsets_iff.mpr ⟨_, c, hstands, Nat.not_lt.mp hearlier, hbyte⟩)
  | @comment before inside after h hinside ih =>
      by_cases hearlier : byte < bytes before
      · exact ih hearlier
      · exact .inr ⟨before, inside, after, h, hinside, Nat.not_lt.mp hearlier, hbyte⟩

theorem bytes_toList (source : String) : bytes source.toList = source.utf8ByteSize := by
  rw [bytes, String.ofList_toList]

theorem InComment.lt_utf8ByteSize {byte : Nat} (h : InComment source byte) :
    byte < source.utf8ByteSize := by
  obtain ⟨before, inside, after, houtside, hinside, -, hend⟩ := h
  have hprefix : before ++ '(' :: (inside ++ [')']) <+: source.toList :=
    ⟨after, (houtside.comment hinside).eq_append.symm⟩
  rw [← bytes_toList]
  exact Nat.lt_of_lt_of_le hend (bytes_mono hprefix)

-- The bytes that are not left are those of the comments.
theorem removed_eq_sUnion_comments (source : String) :
    Set.Iio source.utf8ByteSize \ {byte | byte ∈ offsets source} = ⋃₀ comments source := by
  ext byte
  rw [mem_sUnion_comments_iff]
  constructor
  · rintro ⟨hbyte, hleft⟩
    rw [Set.mem_Iio, ← bytes_toList] at hbyte
    exact ((Outside.start.finish).mem_offsets_or hbyte).resolve_left hleft
  · intro hcomment
    refine ⟨hcomment.lt_utf8ByteSize, fun hleft => ?_⟩
    obtain ⟨offset, c, hstands, hstart, hend⟩ := mem_offsets_iff.mp hleft
    exact hstands.not_inComment_of_mem hstart hend hcomment

end Spans

section Bytes

variable {source : String}

theorem toList_stripped (source : String) :
    (stripped source).toList = (withoutComments source).map Placed.item := by
  rw [stripped, String.toList_ofList]

theorem pairwise_offsets (source : String) : (offsets source).Pairwise (· < ·) := by
  refine List.pairwise_flatMap.mpr ⟨fun c _ => List.pairwise_lt_range' 1, ?_⟩
  refine (apart_withoutComments source).imp fun {c d} hapart byte hbyte byte' hbyte' => ?_
  have hend := (List.mem_range'_1.mp hbyte).2
  have hstart := (List.mem_range'_1.mp hbyte').1
  omega

-- The bytes of the text are those of the source that are left.
theorem map_getElem?_offsets (source : String) :
    (offsets source).map (source.toByteArray[·]?) =
      ((stripped source).toList.flatMap String.utf8EncodeChar).map some := by
  rw [toList_stripped, offsets, occupied, List.map_flatMap, List.flatMap_map, List.map_flatMap]
  refine List.flatMap_congr fun c hc => ?_
  have hstands := mem_withoutComments_iff.mp hc
  refine List.ext_getElem (by simp) fun k hk hk' => ?_
  rw [List.length_map, List.length_range'] at hk
  simp [hstands.getElem?_eq hk]

theorem length_offsets (source : String) :
    (offsets source).length = (stripped source).utf8ByteSize := by
  have hlength := congrArg List.length (map_getElem?_offsets source)
  rwa [List.length_map, List.length_map, ← bytes_eq_length, bytes_toList] at hlength

theorem exists_byte_of_offset {k offset : Nat} (h : (offsets source)[k]? = some offset) :
    ∃ byte, (stripped source).toByteArray[k]? = some byte ∧ source.toByteArray[offset]? = some byte := by
  have hmap := congrArg (·[k]?) (map_getElem?_offsets source)
  simp only [List.getElem?_map, h, Option.map_some, ← getElem?_toByteArray] at hmap
  obtain ⟨byte, hbyte, hsource⟩ := Option.map_eq_some_iff.mp hmap.symm
  exact ⟨byte, hbyte, hsource.symm⟩

theorem occupied_place (offset : Nat) (cs : List Char) :
    occupied (place offset cs) = List.range' offset (bytes cs) := by
  induction cs generalizing offset with
  | nil => rfl
  | cons c cs ih =>
      have hrest : occupied (place (offset + c.utf8Size) cs) = _ := ih _
      rw [place, occupied, List.flatMap_cons, ← occupied, hrest, List.range'_append_1, bytes_cons]

-- No parenthesis that is left is ever closed.
theorem uncommented_stripped (source : String) : Uncommented (stripped source).toList := by
  rw [toList_stripped]
  exact uncommented_uncomment false (place 0 source.toList)

theorem withoutComments_stripped (source : String) :
    withoutComments (stripped source) = place 0 (stripped source).toList := by
  refine uncomment_of_uncommented ?_
  rw [map_item_place]
  exact uncommented_stripped source

theorem stripped_stripped (source : String) : stripped (stripped source) = stripped source := by
  rw [stripped, withoutComments_stripped, map_item_place, String.ofList_toList]

theorem offsets_stripped (source : String) :
    offsets (stripped source) = List.range (stripped source).utf8ByteSize := by
  rw [offsets, withoutComments_stripped, occupied_place, bytes_toList, List.range_eq_range']

end Bytes

section Places

variable {places : List Nat}

theorem moved_place_occupied (earlier : List Nat) (kept : List (Placed Char)) :
    List.Forall₂ (Moved (earlier ++ occupied kept)) (place earlier.length (kept.map Placed.item))
      kept := by
  induction kept generalizing earlier with
  | nil => exact .nil
  | cons c kept ih =>
      have hrest := ih (earlier ++ List.range' c.offset c.item.utf8Size)
      rw [List.length_append, List.length_range', List.append_assoc] at hrest
      refine .cons ⟨?_, rfl⟩ hrest
      have hsize := c.item.utf8Size_pos
      rw [List.getElem?_append_right (Nat.le_refl _), Nat.sub_self, occupied, List.flatMap_cons,
        List.getElem?_append_left (by simpa using hsize), List.getElem?_range' hsize]
      rfl

theorem moved_stripped (source : String) :
    List.Forall₂ (Moved (offsets source)) (place 0 (stripped source).toList)
      (withoutComments source) := by
  rw [toList_stripped]
  exact moved_place_occupied [] (withoutComments source)

end Places

end Source

namespace Token

open Source

variable {places : List Nat}

theorem moved_finish {here there : Pending} (h : Option.Rel (Moved places) here there) :
    List.Forall₂ (Moved places) (finish here) (finish there) := by
  cases h with
  | none => exact .nil
  | some h => exact .cons ⟨h.offset, by rw [h.item]⟩ .nil

theorem moved_extend {c d : Placed Char} (hc : Moved places c d) {here there : Pending}
    (h : Option.Rel (Moved places) here there) :
    Option.Rel (Moved places) (extend c here) (extend d there) := by
  cases h with
  | none => exact .some ⟨hc.offset, congrArg ([·]) hc.item⟩
  | some h => exact .some ⟨h.offset, congrArg₂ _ hc.item h.item⟩

theorem moved_cut {here there : List (Placed Char)} (h : List.Forall₂ (Moved places) here there)
    {pending pending' : Pending} (hpending : Option.Rel (Moved places) pending pending') :
    List.Forall₂ (Moved places) (cut pending here) (cut pending' there) := by
  induction h generalizing pending pending' with
  | nil => exact moved_finish hpending
  | @cons c d here there hc _ ih =>
      have hfinish := moved_finish hpending
      rw [cut, cut, ← hc.item]
      split_ifs
      · exact List.rel_append hfinish (ih .none)
      · exact List.rel_append hfinish (.cons ⟨hc.offset, rfl⟩ (ih .none))
      · exact List.rel_append hfinish (.cons ⟨hc.offset, rfl⟩ (ih .none))
      · exact ih (moved_extend hc hpending)

end Token

namespace Source

-- What is left is the source less its comments, byte by byte, and has none itself. The tokens of a
-- source are those of what is left, each at the byte of the source where its first one is from.
theorem stripping_removes_comments (source : String) :
    (offsets source).length = (stripped source).utf8ByteSize ∧
    (offsets source).Pairwise (· < ·) ∧
    (∀ k offset : Nat, (offsets source)[k]? = some offset →
      ∃ byte, (stripped source).toByteArray[k]? = some byte ∧
        source.toByteArray[offset]? = some byte) ∧
    (comments source).PairwiseDisjoint id ∧
    Set.Iio source.utf8ByteSize \ {byte | byte ∈ offsets source} = ⋃₀ comments source ∧
    Uncommented (stripped source).toList ∧
    stripped (stripped source) = stripped source ∧
    offsets (stripped source) = List.range (stripped source).utf8ByteSize ∧
    List.Forall₂ (Moved (offsets source)) (Token.cut none (place 0 (stripped source).toList))
      (Token.ofSource source) :=
  ⟨length_offsets source, pairwise_offsets source, fun _ _ => exists_byte_of_offset,
    pairwiseDisjoint_comments source, removed_eq_sUnion_comments source,
    uncommented_stripped source, stripped_stripped source, offsets_stripped source,
    Token.moved_cut (moved_stripped source) .none⟩

-- The inner opening parenthesis is part of the comment, which the first closing one ends.
theorem stripping_removes_comments_nested :
    stripped "é((x)y)(z" = "éy)(z" ∧ offsets "é((x)y)(z" = [0, 1, 6, 7, 8, 9] ∧
    5 ∈ ⋃₀ comments "é((x)y)(z" ∧ 7 ∉ ⋃₀ comments "é((x)y)(z" ∧ stripped "éy)(z" = "éy)(z" := by
  have hleft : withoutComments "é((x)y)(z" = [⟨0, 'é'⟩, ⟨6, 'y'⟩, ⟨7, ')'⟩, ⟨8, '('⟩, ⟨9, 'z'⟩] := by
    decide +kernel
  have hstripped : stripped "é((x)y)(z" = "éy)(z" := by
    rw [stripped, hleft]
    rfl
  have hoffsets : offsets "é((x)y)(z" = [0, 1, 6, 7, 8, 9] := by
    rw [offsets, hleft]
    rfl
  obtain ⟨-, -, -, -, hremoved, -, hagain, -, -⟩ := stripping_removes_comments "é((x)y)(z"
  rw [hstripped] at hagain
  rw [← hremoved, hoffsets]
  exact ⟨hstripped, rfl, by decide, by decide, hagain⟩

end Source

end Skirmish
