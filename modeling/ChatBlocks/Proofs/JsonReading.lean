import ChatBlocks.Proofs.JsonLayout
import ChatBlocks.Proofs.JsonScalars

/-!
# Reading what was written

A value is read back from its characters in either layout, whatever follows it,
when it lies no deeper than the reader may go and its numbers fit a float. The
reader's fuel is twice the number of characters, which is enough: every step
into a container or to its next element has passed a character.
-/

namespace ChatBlocks.JsonReading

open Json JsonLayout JsonScalars
open Text (fitsFloat)

mutual

/-- Every number of a value fits a float. -/
def numbersFit : Value → Prop
  | .null => True
  | .bool _ => True
  | .string _ => True
  | .number number => fitsFloat number.mantissa.natAbs (number.exponent.getD 0) = true
  | .array elements => elementsFit elements
  | .object members => membersFit members

def elementsFit : List Value → Prop
  | [] => True
  | value :: rest => numbersFit value ∧ elementsFit rest

def membersFit : List (String × Value) → Prop
  | [] => True
  | (_, value) :: rest => numbersFit value ∧ membersFit rest

end

theorem skip_space_append {gap : List Char} (space : ∀ character ∈ gap, isSpace character = true)
    (rest : List Char) : skipSpace (gap ++ rest) = skipSpace rest :=
  List.dropWhile_append_of_pos space

theorem skip_space_solid {character : Char} (solid : isSpace character = false)
    (rest : List Char) : skipSpace (character :: rest) = character :: rest := by
  simp [skipSpace, solid]

@[simp] theorem skip_space_comma (rest : List Char) : skipSpace (',' :: rest) = ',' :: rest :=
  skip_space_solid rfl rest

@[simp] theorem skip_space_colon (rest : List Char) : skipSpace (':' :: rest) = ':' :: rest :=
  skip_space_solid rfl rest

@[simp] theorem skip_space_bracket (rest : List Char) : skipSpace (']' :: rest) = ']' :: rest :=
  skip_space_solid rfl rest

@[simp] theorem skip_space_brace (rest : List Char) :
    skipSpace ('\x7d' :: rest) = '\x7d' :: rest :=
  skip_space_solid rfl rest

/-- How a written value starts: not with white space, and not like the end of
an array. -/
structure StartsValue (character : Char) : Prop where
  solid : isSpace character = false
  not_bracket : character ≠ ']'

theorem digit_starts_value {character : Char} (digit : character.isDigit = true) :
    StartsValue character where
  solid := by
    have space : character ≠ ' ' := ne_of_digit digit rfl
    have newline : character ≠ '\n' := ne_of_digit digit rfl
    have tab : character ≠ '\t' := ne_of_digit digit rfl
    have carriage : character ≠ '\r' := ne_of_digit digit rfl
    simp [isSpace, space, newline, tab, carriage]
  not_bracket := ne_of_digit digit rfl

theorem number_head (number : Number) :
    ∃ head more, number.text.toList = head :: more ∧ StartsValue head ∧
      (head = '-' ∨ head.isDigit = true) := by
  obtain ⟨leading, more, digits, digit⟩ :=
    starts_with_digit number.mantissa.natAbs (exponentText number.exponent)
  rw [number_characters, digits]
  by_cases negative : number.mantissa < 0
  · refine ⟨'-', leading :: more, by rw [if_pos negative]; rfl, ?_, Or.inl rfl⟩
    constructor <;> decide
  · exact ⟨leading, more, by rw [if_neg negative]; rfl, digit_starts_value digit, Or.inr digit⟩

theorem spell_head (layout : Layout) (level : Nat) (value : Value) :
    ∃ head more, spell layout level value = head :: more ∧ StartsValue head := by
  cases value with
  | null => exact ⟨_, _, by rw [spell], by constructor <;> decide⟩
  | bool value =>
      cases value <;> exact ⟨_, _, by rw [spell], by constructor <;> decide⟩
  | number number =>
      obtain ⟨head, more, split, starts, -⟩ := number_head number
      exact ⟨head, more, by rw [spell, split], starts⟩
  | string text =>
      exact ⟨_, _, by rw [spell, quote_characters], by constructor <;> decide⟩
  | array elements =>
      cases elements <;> exact ⟨_, _, by rw [spell], by constructor <;> decide⟩
  | object members =>
      cases members <;> exact ⟨_, _, by rw [spell], by constructor <;> decide⟩

theorem ends_number_of_space {gap rest : List Char}
    (space : ∀ character ∈ gap, isSpace character = true) (ends : EndsNumber rest) :
    EndsNumber (gap ++ rest) := by
  cases gap with
  | nil => exact ends
  | cons character more =>
      have blank := space character List.mem_cons_self
      simp only [isSpace, Bool.or_eq_true, beq_iff_eq] at blank
      rcases blank with ((rfl | rfl) | rfl) | rfl <;> exact ⟨rfl, by decide, by decide, by decide⟩

variable (layout : Layout)

theorem skip_to_value {gap : List Char} (space : ∀ character ∈ gap, isSpace character = true)
    (level : Nat) (value : Value) (rest : List Char) :
    skipSpace (gap ++ (spell layout level value ++ rest)) = spell layout level value ++ rest := by
  obtain ⟨head, more, split, starts⟩ := spell_head layout level value
  rw [skip_space_append space, split, List.cons_append, skip_space_solid starts.solid]

theorem skip_to_key {gap : List Char} (space : ∀ character ∈ gap, isSpace character = true)
    (key : String) (rest : List Char) :
    skipSpace (gap ++ ((quote key).toList ++ rest)) = (quote key).toList ++ rest := by
  rw [skip_space_append space, quote_characters, List.cons_append, skip_space_solid rfl]

theorem skip_before_value (level : Nat) (value : Value) (rest : List Char) :
    skipSpace (spell layout level value ++ rest) = spell layout level value ++ rest := by
  have start := skip_to_value layout (List.forall_mem_nil _) level value rest
  rwa [List.nil_append] at start

theorem skip_before_key (key : String) (rest : List Char) :
    skipSpace ((quote key).toList ++ rest) = (quote key).toList ++ rest := by
  have start := skip_to_key (List.forall_mem_nil _) key rest
  rwa [List.nil_append] at start

theorem skip_to_closing (outer : Nat) {closing : Char} (solid : isSpace closing = false)
    (rest : List Char) : skipSpace (layout.gap outer ++ closing :: rest) = closing :: rest := by
  rw [skip_space_append (layout.gap_space outer), skip_space_solid solid]

theorem ends_number_of_later_elements (level outer : Nat) (values : List Value)
    (rest : List Char) :
    EndsNumber (laterElements layout level values ++ (layout.gap outer ++ ']' :: rest)) := by
  cases values with
  | nil =>
      rw [laterElements, List.flatMap_nil, List.nil_append]
      exact ends_number_of_space (layout.gap_space outer) ⟨rfl, by decide, by decide, by decide⟩
  | cons value more =>
      rw [later_elements_cons]
      exact ⟨rfl, by decide, by decide, by decide⟩

theorem ends_number_of_later_members (level outer : Nat) (members : List (String × Value))
    (rest : List Char) :
    EndsNumber (laterMembers layout level members ++ (layout.gap outer ++ '\x7d' :: rest)) := by
  cases members with
  | nil =>
      rw [laterMembers, List.flatMap_nil, List.nil_append]
      exact ends_number_of_space (layout.gap_space outer) ⟨rfl, by decide, by decide, by decide⟩
  | cons member more =>
      rw [later_members_cons]
      exact ⟨rfl, by decide, by decide, by decide⟩

theorem elements_head (level : Nat) (value : Value) (more : List Value) (rest : List Char) :
    ∃ head tail, skipSpace (spellElements layout level (value :: more) ++ rest) = head :: tail ∧
      head ≠ ']' := by
  obtain ⟨head, tail, split, starts⟩ := spell_head layout level value
  have start := skip_to_value layout (layout.gap_space level) level value
    (laterElements layout level more ++ rest)
  refine ⟨head, tail ++ (laterElements layout level more ++ rest), ?_, starts.not_bracket⟩
  rw [spell_elements_cons, List.append_assoc, List.append_assoc, start, split, List.cons_append]

theorem members_head (level : Nat) (key : String) (value : Value)
    (more : List (String × Value)) (rest : List Char) :
    ∃ tail, skipSpace (spellMembers layout level ((key, value) :: more) ++ rest) =
      (quote key).toList ++ ':' :: tail := by
  have start := skip_to_key (layout.gap_space level) key
  exact ⟨_, by
    rw [spell_members_cons, List.append_assoc, List.append_assoc, start, List.cons_append]⟩

mutual

/-- The fuel pays for every character twice: once for entering a value and once
for going on behind it. -/
theorem read_value : ∀ (value : Value) (level limit fuel : Nat) (input rest : List Char),
    skipSpace input = spell layout level value ++ rest → value.depth ≤ limit →
    numbersFit value → 2 * (spell layout level value).length ≤ fuel → EndsNumber rest →
    readValue .keep fuel limit input = some (value, rest)
  | value, level, limit, 0, input, rest => by
      intro start _ _ enough _
      obtain ⟨head, more, split, -⟩ := spell_head layout level value
      rw [split, List.length_cons] at enough
      omega
  | .null, level, limit, fuel + 1, input, rest => by
      intro start _ _ _ _
      rw [spell] at start
      simp [readValue, start, expect]
  | .bool true, level, limit, fuel + 1, input, rest => by
      intro start _ _ _ _
      rw [spell] at start
      simp [readValue, start, expect]
  | .bool false, level, limit, fuel + 1, input, rest => by
      intro start _ _ _ _
      rw [spell] at start
      simp [readValue, start, expect]
  | .number number, level, limit, fuel + 1, input, rest => by
      intro start _ fits _ ends
      obtain ⟨head, more, split, -, numeric⟩ := number_head number
      have read := read_number number rest ends fits
      rw [spell, split] at start
      rw [split] at read
      have other : ∀ sign : Char, sign ≠ '-' → sign.isDigit = false → head ≠ sign := by
        rintro sign minus digit rfl
        rcases numeric with same | isDigit
        · exact minus same
        · exact Bool.false_ne_true (digit.symm.trans isDigit)
      simp only [readValue, start, List.cons_append, other 'n' (by decide) rfl,
        other 't' (by decide) rfl, other 'f' (by decide) rfl, other '"' (by decide) rfl,
        other '[' (by decide) rfl, other '\x7b' (by decide) rfl, if_false, if_pos numeric]
      rw [← List.cons_append, read]
      rfl
  | .string text, level, limit, fuel + 1, input, rest => by
      intro start _ _ _ _
      have read := read_quoted text rest
      rw [spell, quote_characters, List.cons_append] at start
      rw [quote_characters, List.cons_append] at read
      simp only [readValue, start, read]
      rfl
  | .array [], level, limit, fuel + 1, input, rest => by
      intro start shallow _ _ _
      obtain ⟨limit, rfl⟩ := Nat.exists_eq_add_of_le' (Nat.le_of_add_left_le shallow)
      rw [spell] at start
      simp [readValue, start]
  | .array (first :: more), level, limit, fuel + 1, input, rest => by
      intro start shallow fits enough _
      obtain ⟨limit, rfl⟩ := Nat.exists_eq_add_of_le' (Nat.le_of_add_left_le shallow)
      simp only [spell, List.cons_append, List.append_assoc, List.nil_append] at start
      simp only [spell, List.length_append, List.length_cons, List.length_nil] at enough
      rw [Value.depth] at shallow
      obtain ⟨head, tail, split, open_⟩ := elements_head layout (level + 1) first more
        (layout.gap level ++ ']' :: rest)
      have read := read_elements (first :: more) (level + 1) level limit fuel [] rest
        (List.cons_ne_nil _ _) (by omega) fits (by omega)
      simp [readValue, start, split, open_, read]
  | .object [], level, limit, fuel + 1, input, rest => by
      intro start shallow _ _ _
      obtain ⟨limit, rfl⟩ := Nat.exists_eq_add_of_le' (Nat.le_of_add_left_le shallow)
      rw [spell] at start
      simp [readValue, start]
  | .object ((key, value) :: more), level, limit, fuel + 1, input, rest => by
      intro start shallow fits enough _
      obtain ⟨limit, rfl⟩ := Nat.exists_eq_add_of_le' (Nat.le_of_add_left_le shallow)
      simp only [spell, List.cons_append, List.append_assoc, List.nil_append] at start
      simp only [spell, List.length_append, List.length_cons, List.length_nil] at enough
      rw [Value.depth] at shallow
      obtain ⟨tail, split⟩ := members_head layout (level + 1) key value more
        (layout.gap level ++ '\x7d' :: rest)
      rw [quote_characters, List.cons_append] at split
      have read := read_members ((key, value) :: more) (level + 1) level limit fuel [] rest
        (List.cons_ne_nil _ _) (by omega) fits (by omega)
      simp [readValue, start, split, read]

theorem read_elements : ∀ (values : List Value) (level outer limit fuel : Nat)
    (elements : List Value) (rest : List Char), values ≠ [] → depthOfElements values ≤ limit →
    elementsFit values → 2 * (spellElements layout level values).length + 1 ≤ fuel →
    readElements .keep fuel limit elements
        (spellElements layout level values ++ (layout.gap outer ++ ']' :: rest)) =
      some (elements.reverse ++ values, rest)
  | [], _, _, _, _, _, _ => by
      intro nonempty _ _ _
      exact absurd rfl nonempty
  | value :: more, level, outer, limit, 0, elements, rest => by
      intro _ _ _ enough
      omega
  | value :: more, level, outer, limit, fuel + 1, elements, rest => by
      intro _ shallow fits enough
      have start := skip_to_value layout (layout.gap_space level) level value
        (laterElements layout level more ++ (layout.gap outer ++ ']' :: rest))
      rw [depthOfElements] at shallow
      simp only [spell_elements_cons, List.length_append] at enough
      have read := read_value value level limit fuel _ _ start (by omega) fits.1 (by omega)
        (ends_number_of_later_elements layout level outer more rest)
      simp only [spell_elements_cons, List.append_assoc, readElements, read]
      cases more with
      | nil =>
          have closing : skipSpace (layout.gap outer ++ ']' :: rest) = ']' :: rest :=
            skip_to_closing layout outer rfl rest
          simp [laterElements, closing]
      | cons next more =>
          rw [later_elements_cons, List.length_cons] at enough
          have later := read_elements (next :: more) level outer limit fuel (value :: elements)
            rest (List.cons_ne_nil _ _) (by omega) fits.2 (by omega)
          simp only [later_elements_cons, List.cons_append, skip_space_comma, later]
          simp

theorem read_members : ∀ (values : List (String × Value)) (level outer limit fuel : Nat)
    (members : List (String × Value)) (rest : List Char), values ≠ [] →
    depthOfMembers values ≤ limit → membersFit values →
    2 * (spellMembers layout level values).length + 1 ≤ fuel →
    readMembers .keep fuel limit members
        (spellMembers layout level values ++ (layout.gap outer ++ '\x7d' :: rest)) =
      some (members.reverse ++ values, rest)
  | [], _, _, _, _, _, _ => by
      intro nonempty _ _ _
      exact absurd rfl nonempty
  | (key, value) :: more, level, outer, limit, 0, members, rest => by
      intro _ _ _ enough
      omega
  | (key, value) :: more, level, outer, limit, fuel + 1, members, rest => by
      intro _ shallow fits enough
      have start := skip_to_value layout layout.after_colon_space level value
        (laterMembers layout level more ++ (layout.gap outer ++ '\x7d' :: rest))
      rw [depthOfMembers] at shallow
      simp only [spell_members_cons, List.length_append, List.length_cons] at enough
      have read := read_value value level limit fuel _ _ start (by omega) fits.1 (by omega)
        (ends_number_of_later_members layout level outer more rest)
      simp only [spell_members_cons, List.append_assoc, List.cons_append, readMembers,
        skip_to_key (layout.gap_space level), read_quoted, skip_space_colon, read]
      cases more with
      | nil =>
          have closing : skipSpace (layout.gap outer ++ '\x7d' :: rest) = '\x7d' :: rest :=
            skip_to_closing layout outer rfl rest
          simp [laterMembers, closing]
      | cons next more =>
          rw [later_members_cons, List.length_cons] at enough
          have later := read_members (next :: more) level outer limit fuel ((key, value) :: members)
            rest (List.cons_ne_nil _ _) (by omega) fits.2 (by omega)
          simp only [later_members_cons, List.cons_append, skip_space_comma, later]
          simp

end

theorem read_value_within (value : Value) (level limit : Nat) (input rest : List Char)
    (start : skipSpace input = spell layout level value ++ rest) (shallow : value.depth ≤ limit)
    (fits : numbersFit value) (ends : EndsNumber rest) :
    readValueWithin .keep limit input = some (value, rest) := by
  have whole : (skipSpace input).length ≤ input.length :=
    (List.dropWhile_sublist isSpace).length_le
  rw [start, List.length_append] at whole
  exact read_value layout value level limit _ input rest start shallow fits (by omega) ends

theorem skip_before_text (pretty : Bool) (value : Value) :
    skipSpace (value.text pretty).toList = spell (layoutOf pretty) 0 value ++ [] := by
  have start := skip_before_value (layoutOf pretty) 0 value []
  rw [List.append_nil, ← text_eq_spell] at start
  rw [start, List.append_nil, text_eq_spell]

/-- In either layout, two values are written with the same characters only when
they are the same value. -/
theorem value_of_text {pretty : Bool} {value other : Value} (fits : numbersFit value)
    (other_fits : numbersFit other) (same : value.text pretty = other.text pretty) :
    value = other := by
  -- A limit that lets both values pass makes the reader a left inverse of the writer.
  have read := read_value_within (layoutOf pretty) value 0 (max value.depth other.depth) _ []
    (skip_before_text pretty value) (Nat.le_max_left _ _) fits trivial
  have read_other := read_value_within (layoutOf pretty) other 0 (max value.depth other.depth) _ []
    (skip_before_text pretty other) (Nat.le_max_right _ _) other_fits trivial
  rw [same, read_other] at read
  exact (congrArg Prod.fst (Option.some.inj read)).symm

end ChatBlocks.JsonReading
