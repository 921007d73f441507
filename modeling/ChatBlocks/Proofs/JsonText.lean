import ChatBlocks.Block.Json
import ChatBlocks.Proofs.JsonReading
import ChatBlocks.Proofs.TextLines

/-!
# A written text as a whole

The text of a value is one JSON text: reading it as a whole gives the value
back. In the compact layout it is also one line, whatever characters its
strings hold, because a string escapes every line break and nothing else that
is written has one.
-/

namespace ChatBlocks.JsonText

open Json JsonLayout JsonScalars JsonReading

theorem parse_text (pretty : Bool) (value : Value) (fits : numbersFit value) :
    parseWithin? value.depth (value.text pretty) = some value := by
  have read := read_value_within (layoutOf pretty) value 0 value.depth
    (value.text pretty).toList [] (skip_before_text pretty value) (Nat.le_refl _) fits trivial
  rw [parseWithin?, read]
  rfl

theorem newline_not_mem_escape (character : Char) : '\n' ∉ escapeChar character := by
  have hex : ∀ value < 16, '\n' ≠ hexDigit value := by decide
  unfold escapeChar
  iterate 7
    split
    · decide
  split
  · rename_i control
    have high := hex (character.toNat / 16) (by omega)
    have low := hex (character.toNat % 16) (by omega)
    simp [high, low]
  · rename_i line_break _ _ _ _ _
    simp [eq_comm, line_break]

theorem newline_not_mem_quote (text : String) : '\n' ∉ (quote text).toList := by
  simp [quote_characters, newline_not_mem_escape]

theorem newline_not_mem_number (number : Number) : '\n' ∉ number.text.toList := by
  have digits := TextLines.digits_single_line
  have power : '\n' ∉ exponentText number.exponent := by
    cases number.exponent with
    | none => exact List.not_mem_nil
    | some exponent => simp [exponentText, digits]
  simp [number_characters, digits, power]

/-- The white space of a layout that breaks no line. -/
structure SingleLine (layout : Layout) : Prop where
  gap : ∀ level, '\n' ∉ layout.gap level
  after_colon : '\n' ∉ layout.afterColon

theorem compact_single_line : SingleLine .compact where
  gap _ := List.not_mem_nil
  after_colon := List.not_mem_nil

section Spelling

variable {layout : Layout} (single : SingleLine layout)
include single

theorem newline_not_mem_key (level : Nat) (key : String) :
    '\n' ∉ spellKey layout level key := by
  simp [spellKey, single.gap, newline_not_mem_quote, single.after_colon]

mutual

theorem newline_not_mem_spell : ∀ (value : Value) (level : Nat),
    '\n' ∉ spell layout level value
  | .null, _ => by simp [spell]
  | .bool true, _ => by simp [spell]
  | .bool false, _ => by simp [spell]
  | .number number, _ => by
      rw [spell]
      exact newline_not_mem_number number
  | .string text, _ => by
      rw [spell]
      exact newline_not_mem_quote text
  | .array [], _ => by simp [spell]
  | .array (first :: rest), level => by
      have elements := newline_not_mem_elements (first :: rest) (level + 1)
      simp [spell, elements, single.gap]
  | .object [], _ => by simp [spell]
  | .object (first :: rest), level => by
      have members := newline_not_mem_members (first :: rest) (level + 1)
      simp [spell, members, single.gap]

theorem newline_not_mem_elements : ∀ (values : List Value) (level : Nat),
    '\n' ∉ spellElements layout level values
  | [], _ => List.not_mem_nil
  | [value], level => by
      have own := newline_not_mem_spell value level
      simp [spellElements, own, single.gap]
  | value :: next :: rest, level => by
      have own := newline_not_mem_spell value level
      have later := newline_not_mem_elements (next :: rest) level
      simp [spellElements, own, later, single.gap]

theorem newline_not_mem_members : ∀ (members : List (String × Value)) (level : Nat),
    '\n' ∉ spellMembers layout level members
  | [], _ => List.not_mem_nil
  | [(key, value)], level => by
      have own := newline_not_mem_spell value level
      simp [spellMembers, newline_not_mem_key single, own]
  | (key, value) :: next :: rest, level => by
      have own := newline_not_mem_spell value level
      have later := newline_not_mem_members (next :: rest) level
      simp [spellMembers, newline_not_mem_key single, own, later]

end

end Spelling

theorem compact_text_single_line (value : Value) : '\n' ∉ (value.text false).toList := by
  rw [text_eq_spell]
  exact newline_not_mem_spell compact_single_line value 0

end ChatBlocks.JsonText
