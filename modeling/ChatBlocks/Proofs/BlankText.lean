import ChatBlocks.Text.Blank
import ChatBlocks.Text.Lines
import Mathlib.Data.List.TakeWhile

/-!
# Blank texts

A text is blank exactly when trimming leaves nothing of it. Blankness of a text
put together from parts, or from lines, is blankness of every part.
-/

namespace ChatBlocks.BlankText

open Text

theorem all_drop_while {Item : Type} (drops : Item → Bool) (items : List Item) :
    (items.dropWhile drops).all drops = items.all drops := by
  induction items with
  | nil => rfl
  | cons item rest ih => by_cases dropped : drops item = true <;> simp [dropped, ih]

theorem trim_eq_empty_iff (text : String) : trim text = "" ↔ isBlank text = true := by
  have characters : trim text = "" ↔
      dropEndWhile isWhiteSpace (text.toList.dropWhile isWhiteSpace) = [] := by
    rw [trim, ← String.toList_inj]
    simp
  rw [characters, dropEndWhile, List.reverse_eq_nil_iff, List.dropWhile_eq_nil_iff,
    ← List.all_eq_true, List.all_reverse, all_drop_while]
  rfl

theorem is_blank_append (first second : String) :
    isBlank (first ++ second) = (isBlank first && isBlank second) := by
  simp [isBlank]

theorem is_blank_join_lines (lines : List String) :
    isBlank (joinLines lines) = lines.all isBlank := by
  induction lines with
  | nil => rfl
  | cons line rest ih =>
      cases rest with
      | nil => simp [joinLines]
      | cons next more =>
          have newline : isBlank "\n" = true := by decide
          simp only [joinLines, is_blank_append, newline, ih, Bool.and_true, List.all_cons]

theorem split_lines_ne_nil (characters : List Char) : splitLines characters ≠ [] := by
  cases characters with
  | nil => simp [splitLines]
  | cons character rest =>
      unfold splitLines
      split
      · simp
      · split <;> simp

theorem lines_ne_nil (text : String) : lines text ≠ [] := by
  simp [lines, split_lines_ne_nil]

end ChatBlocks.BlankText
