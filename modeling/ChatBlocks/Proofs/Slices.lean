import ChatBlocks.Markdown.Event
import ChatBlocks.Text.Cursor

/-!
# Offsets and slices

An offset has a cursor exactly when it is the number of bytes of some front part
of the text, and a range has a slice exactly when the text splits at its two
ends. Both are equivalences: where no such split exists, there is no cursor and
no slice.
-/

namespace ChatBlocks.Slices

open Markdown (Span)
open Text

def byteLength : List Char → Nat
  | [] => 0
  | character :: rest => character.utf8Size + byteLength rest

@[simp] theorem byte_length_append (first second : List Char) :
    byteLength (first ++ second) = byteLength first + byteLength second := by
  induction first with
  | nil => simp [byteLength]
  | cons character rest ih => simp only [List.cons_append, byteLength, ih, Nat.add_assoc]

@[simp] theorem byte_length_reverse (characters : List Char) :
    byteLength characters.reverse = byteLength characters := by
  induction characters with
  | nil => rfl
  | cons character rest ih =>
      simp only [List.reverse_cons, byte_length_append, ih, byteLength]
      omega

theorem utf8_byte_size_of_list (characters : List Char) :
    (String.ofList characters).utf8ByteSize = byteLength characters := by
  induction characters with
  | nil => rfl
  | cons character rest ih =>
      have split : String.ofList (character :: rest) =
          String.singleton character ++ String.ofList rest := by
        rw [← String.toList_inj]
        simp
      rw [split, String.utf8ByteSize_append, String.utf8ByteSize_singleton, ih, byteLength]

theorem utf8_byte_size (text : String) : text.utf8ByteSize = byteLength text.toList := by
  rw [← utf8_byte_size_of_list, String.ofList_toList]

theorem eq_nil_of_byte_length {characters : List Char} (none : byteLength characters = 0) :
    characters = [] := by
  cases characters with
  | nil => rfl
  | cons character rest =>
      have positive := character.utf8Size_pos
      rw [byteLength] at none
      omega

theorem advance_zero_eq_some_iff (before after : List Char) (cursor : Cursor) :
    Cursor.advance? before after 0 = some cursor ↔
      ∃ passed, after = passed ++ cursor.after ∧ cursor.before = passed.reverse ++ before ∧
        byteLength passed = 0 := by
  rw [Cursor.advance?]
  constructor
  · rintro ⟨⟩
    exact ⟨[], rfl, rfl, rfl⟩
  · rintro ⟨passed, same, behind, none⟩
    obtain rfl := eq_nil_of_byte_length none
    rw [same, List.nil_append, ← List.nil_append before, ← List.reverse_nil, ← behind]

theorem advance_eq_some_iff (before after : List Char) (bytes : Nat) (cursor : Cursor) :
    Cursor.advance? before after bytes = some cursor ↔
      ∃ passed, after = passed ++ cursor.after ∧ cursor.before = passed.reverse ++ before ∧
        byteLength passed = bytes := by
  induction after generalizing before bytes with
  | nil =>
      cases bytes with
      | zero => exact advance_zero_eq_some_iff before [] cursor
      | succ bytes =>
          rw [Cursor.advance?]
          constructor
          · rintro ⟨⟩
          · rintro ⟨passed, same, behind, length⟩
            obtain rfl : passed = [] := (List.append_eq_nil_iff.mp same.symm).1
            cases length
  | cons character rest ih =>
      cases bytes with
      | zero => exact advance_zero_eq_some_iff before (character :: rest) cursor
      | succ bytes =>
          rw [Cursor.advance?]
          constructor
          · intro advanced
            split at advanced
            · obtain ⟨passed, same, behind, length⟩ := (ih _ _).mp advanced
              refine ⟨character :: passed, by rw [same]; rfl, by rw [behind]; simp, ?_⟩
              rw [byteLength]
              omega
            · cases advanced
          · rintro ⟨passed, same, behind, length⟩
            cases passed with
            | nil => cases length
            | cons first more =>
                obtain ⟨rfl, tail⟩ := List.cons.inj same
                rw [byteLength] at length
                rw [if_pos (by omega), ih]
                exact ⟨more, tail, by rw [behind]; simp, by omega⟩

theorem cursor_eq_some_iff (text : String) (offset : Nat) (cursor : Cursor) :
    cursorAt? text offset = some cursor ↔
      text.toList = cursor.before.reverse ++ cursor.after ∧
        byteLength cursor.before = offset := by
  rw [cursorAt?, advance_eq_some_iff]
  constructor
  · rintro ⟨passed, same, behind, length⟩
    rw [List.append_nil] at behind
    rw [behind, List.reverse_reverse, byte_length_reverse]
    exact ⟨same, length⟩
  · rintro ⟨same, length⟩
    exact ⟨cursor.before.reverse, same, by simp, by simpa using length⟩

def IsSlice (source : String) (span : Span) (inside : String) : Prop :=
  ∃ before after : String, source = before ++ inside ++ after ∧
    before.utf8ByteSize = span.start ∧ (before ++ inside).utf8ByteSize = span.stop

theorem slice_eq_some_iff (source : String) (start stop : Nat) (inside : String) :
    slice? source start stop = some inside ↔ IsSlice source ⟨start, stop⟩ inside := by
  unfold slice? IsSlice
  constructor
  · intro found
    split at found
    · rename_i ordered
      obtain ⟨first, atStart, rest⟩ := Option.bind_eq_some_iff.mp found
      obtain ⟨last, atStop, result⟩ := Option.bind_eq_some_iff.mp rest
      obtain ⟨split, length⟩ := (cursor_eq_some_iff source start first).mp atStart
      obtain ⟨passed, same, behind, inner⟩ := (advance_eq_some_iff [] first.after _ last).mp atStop
      have text : inside = String.ofList passed := by
        rw [← Option.some.inj result, behind]
        simp
      refine ⟨String.ofList first.before.reverse, String.ofList last.after, ?_, ?_, ?_⟩
      · rw [← String.toList_inj, split, same, text]
        simp
      · rw [utf8_byte_size_of_list, byte_length_reverse]
        exact length
      · rw [text, String.utf8ByteSize_append, utf8_byte_size_of_list, utf8_byte_size_of_list,
          byte_length_reverse, length, inner]
        exact Nat.add_sub_cancel' ordered
    · cases found
  · rintro ⟨before, after, split, first, last⟩
    simp only [String.utf8ByteSize_append] at first last
    have ordered : start ≤ stop := by omega
    have atStart : cursorAt? source start =
        some ⟨before.toList.reverse, inside.toList ++ after.toList⟩ := by
      rw [cursor_eq_some_iff, split]
      refine ⟨by simp, ?_⟩
      rw [byte_length_reverse, ← utf8_byte_size]
      exact first
    have atStop : Cursor.advance? [] (inside.toList ++ after.toList) (stop - start) =
        some ⟨inside.toList.reverse, after.toList⟩ := by
      rw [advance_eq_some_iff]
      refine ⟨inside.toList, rfl, by simp, ?_⟩
      rw [← utf8_byte_size]
      omega
    simp [ordered, atStart, atStop]

theorem slice_eq_none {source : String} {span : Span}
    (invalid : ∀ inside, ¬IsSlice source span inside) :
    slice? source span.start span.stop = none := by
  cases found : slice? source span.start span.stop with
  | none => rfl
  | some inside =>
      exact absurd ((slice_eq_some_iff source span.start span.stop inside).mp found)
        (invalid inside)

theorem eq_of_same_byte_length {first second firstRest secondRest : List Char}
    (same : first ++ firstRest = second ++ secondRest)
    (length : byteLength first = byteLength second) : first = second := by
  induction first generalizing second with
  | nil => exact (eq_nil_of_byte_length length.symm).symm
  | cons character more ih =>
      have positive := character.utf8Size_pos
      cases second with
      | nil =>
          simp only [byteLength] at length
          omega
      | cons other otherMore =>
          obtain ⟨rfl, rest⟩ := List.cons.inj same
          simp only [byteLength] at length
          rw [ih rest (by omega)]

theorem prefix_eq_of_byte_size {first second firstRest secondRest : String}
    (same : first ++ firstRest = second ++ secondRest)
    (length : first.utf8ByteSize = second.utf8ByteSize) : first = second := by
  rw [← String.toList_inj] at same ⊢
  simp only [String.toList_append] at same
  rw [utf8_byte_size, utf8_byte_size] at length
  exact eq_of_same_byte_length same length

theorem slice_unique {source first second : String} {span : Span}
    (slice : IsSlice source span first) (other : IsSlice source span second) : first = second := by
  have found := (slice_eq_some_iff source span.start span.stop first).mpr slice
  have again := (slice_eq_some_iff source span.start span.stop second).mpr other
  exact Option.some.inj (found.symm.trans again)

theorem ends_of_empty {source : String} {span : Span} (slice : IsSlice source span "") :
    span.start = span.stop := by
  obtain ⟨before, after, -, atStart, atStop⟩ := slice
  rw [String.append_empty] at atStop
  exact atStart.symm.trans atStop

theorem slice_append {source first second : String} {start middle stop : Nat}
    (left : IsSlice source ⟨start, middle⟩ first) (right : IsSlice source ⟨middle, stop⟩ second) :
    IsSlice source ⟨start, stop⟩ (first ++ second) := by
  obtain ⟨before, after, split, atStart, atMiddle⟩ := left
  obtain ⟨otherBefore, rest, otherSplit, otherMiddle, atStop⟩ := right
  obtain rfl : before ++ first = otherBefore := by
    have same : before ++ first ++ after = otherBefore ++ (second ++ rest) := by
      rw [← split, otherSplit, String.append_assoc]
    exact prefix_eq_of_byte_size same (atMiddle.trans otherMiddle.symm)
  refine ⟨before, rest, ?_, atStart, ?_⟩
  · rw [otherSplit]
    simp only [String.append_assoc]
  · rw [← String.append_assoc]
    exact atStop

end ChatBlocks.Slices
