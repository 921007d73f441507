import ChatBlocks.Json.Printer
import ChatBlocks.Json.Reader

/-!
# Strings and numbers, written and read

A written string is read back whatever characters it holds and whatever follows
its closing quote. A written number is read back when it fits a float and what
follows cannot extend it: no digit, no point and no exponent mark.
-/

namespace ChatBlocks.JsonScalars

open Json
open Text (hexValue? decimalValue readDigits fitsFloat)

theorem hex_value_digit : ∀ value < 16, hexValue? (hexDigit value) = some value := by
  decide

theorem read_control_escape {character : Char} (control : character.toNat < 0x20)
    (rest : List Char) :
    readUnicodeEscape .keep
        ('0' :: '0' :: hexDigit (character.toNat / 16) :: hexDigit (character.toNat % 16) :: rest) =
      some (character, rest) := by
  have zero : hexValue? '0' = some 0 := rfl
  have high := hex_value_digit (character.toNat / 16) (by omega)
  have low := hex_value_digit (character.toNat % 16) (by omega)
  have code : ((0 * 16 + 0) * 16 + character.toNat / 16) * 16 + character.toNat % 16 =
      character.toNat := by omega
  have leading : ¬(0xD800 ≤ character.toNat ∧ character.toNat < 0xDC00) := by omega
  have trailing : ¬(0xDC00 ≤ character.toNat ∧ character.toNat < 0xE000) := by omega
  simp only [readUnicodeEscape, readHexQuad, zero, high, low, Option.bind_eq_bind,
    Option.bind_some, code, if_neg leading, if_neg trailing, Char.ofNat_toNat]

/-- One written character costs one step, however long its escape is. -/
theorem read_escaped_character (character : Char) (fuel : Nat) (content rest : List Char) :
    readStringContent .keep (fuel + 1) content (escapeChar character ++ rest) =
      readStringContent .keep fuel (character :: content) rest := by
  unfold escapeChar
  iterate 7
    split
    · rename_i same
      rw [same]
      rfl
  split
  · rename_i control
    simp [readStringContent, read_control_escape control]
  · rename_i quote backslash _ _ _ _ _ visible
    simp [readStringContent, quote, backslash, visible]

theorem read_string_content (characters : List Char) :
    ∀ (fuel : Nat) (content rest : List Char), characters.length < fuel →
      readStringContent .keep fuel content (characters.flatMap escapeChar ++ '"' :: rest) =
        some (String.ofList (content.reverse ++ characters), rest) := by
  induction characters with
  | nil =>
      intro fuel content rest enough
      obtain ⟨fuel, rfl⟩ := Nat.exists_eq_succ_of_ne_zero (Nat.ne_of_gt enough)
      simp [readStringContent]
  | cons character more ih =>
      intro fuel content rest enough
      obtain ⟨fuel, rfl⟩ := Nat.exists_eq_succ_of_ne_zero (Nat.ne_of_gt (Nat.zero_lt_of_lt enough))
      have later := ih fuel (character :: content) rest (by simpa using enough)
      rw [List.flatMap_cons, List.append_assoc, read_escaped_character, later]
      simp

theorem escape_nonempty (character : Char) : 1 ≤ (escapeChar character).length := by
  unfold escapeChar
  repeat' split
  all_goals simp

theorem length_le_escaped (characters : List Char) :
    characters.length ≤ (characters.flatMap escapeChar).length := by
  induction characters with
  | nil => simp
  | cons character rest ih =>
      have own := escape_nonempty character
      rw [List.flatMap_cons, List.length_append, List.length_cons]
      omega

theorem quote_characters (text : String) :
    (quote text).toList = '"' :: (text.toList.flatMap escapeChar ++ ['"']) := by
  simp [quote]

theorem read_quoted (text : String) (rest : List Char) :
    readString .keep ((quote text).toList ++ rest) = some (text, rest) := by
  have enough := length_le_escaped text.toList
  have content := read_string_content text.toList
    ((text.toList.flatMap escapeChar ++ '"' :: rest).length + 1) [] rest
    (by rw [List.length_append]; omega)
  rw [quote_characters]
  simp only [List.cons_append, List.append_assoc, List.nil_append, readString, if_true]
  rw [content]
  simp

def EndsNumber : List Char → Prop
  | [] => True
  | character :: _ =>
      character.isDigit = false ∧ character ≠ '.' ∧ character ≠ 'e' ∧ character ≠ 'E'

theorem read_digits (digits rest : List Char) (all : ∀ digit ∈ digits, digit.isDigit = true)
    (ends : ∀ next more, rest = next :: more → next.isDigit = false) :
    readDigits (digits ++ rest) = (digits, rest) := by
  have nothing : rest.takeWhile Char.isDigit = [] ∧ rest.dropWhile Char.isDigit = rest := by
    cases rest with
    | nil => exact ⟨rfl, rfl⟩
    | cons next more => simp [ends next more rfl]
  rw [readDigits, List.takeWhile_append_of_pos all, List.dropWhile_append_of_pos all, nothing.1,
    nothing.2, List.append_nil]

theorem to_digits_are_digits (number : Nat) :
    ∀ digit ∈ Nat.toDigits 10 number, digit.isDigit = true :=
  fun _ member => Nat.isDigit_of_mem_toDigits (by decide) (by decide) member

theorem starts_with_digit (number : Nat) (rest : List Char) :
    ∃ leading more, Nat.toDigits 10 number ++ rest = leading :: more ∧
      leading.isDigit = true := by
  obtain ⟨leading, tail, digits⟩ := List.exists_cons_of_ne_nil
    (Nat.toDigits_ne_nil (n := number) (b := 10))
  have member : leading ∈ Nat.toDigits 10 number := by
    rw [digits]
    exact List.mem_cons_self
  exact ⟨leading, tail ++ rest, by rw [digits]; rfl, to_digits_are_digits number leading member⟩

theorem ne_of_digit {digit other : Char} (isDigit : digit.isDigit = true)
    (otherwise : other.isDigit = false) : digit ≠ other := by
  rintro rfl
  exact Bool.false_ne_true (otherwise.symm.trans isDigit)

theorem decimal_value_to_digits (number : Nat) :
    decimalValue (Nat.toDigits 10 number) = number := by
  have same : ∀ digits, decimalValue digits = Nat.ofDigitChars 10 digits 0 := by
    intro digits
    rw [decimalValue, Nat.ofDigitChars_eq_foldl]
    simp only [Nat.mul_comm]
    rfl
  rw [same, Nat.ofDigitChars_ten_toDigits]

theorem leading_digit_ne_zero (number : Nat) (positive : 0 < number) :
    ∀ first more, Nat.toDigits 10 number = first :: more → first ≠ '0' := by
  have single : ∀ digit < 10, 0 < digit → Nat.digitChar digit ≠ '0' := by decide
  induction number using Nat.strongRecOn with
  | ind number ih =>
      intro first more digits
      rw [Nat.toDigits_eq_if (by decide)] at digits
      split at digits
      · rename_i small
        rw [← (List.cons.inj digits).1]
        exact single number small positive
      · rename_i large
        obtain ⟨leading, rest, front⟩ := List.exists_cons_of_ne_nil
          (Nat.toDigits_ne_nil (n := number / 10) (b := 10))
        rw [front] at digits
        rw [← (List.cons.inj digits).1]
        exact ih (number / 10) (by omega) (by omega) leading rest front

/-- The digits of a number are its whole integer part: they start with a zero
only when that is all of them. -/
theorem read_integer_part (number : Nat) (rest : List Char)
    (ends : ∀ next more, rest = next :: more → next.isDigit = false) :
    readIntegerPart (Nat.toDigits 10 number ++ rest) =
      some (Nat.toDigits 10 number, rest) := by
  have read := read_digits (Nat.toDigits 10 number) rest (to_digits_are_digits number) ends
  rw [readIntegerPart, read]
  cases digits : Nat.toDigits 10 number with
  | nil => exact absurd digits Nat.toDigits_ne_nil
  | cons first more =>
      by_cases zero : number = 0
      · obtain ⟨rfl, rfl⟩ : '0' = first ∧ [] = more := by
          rw [zero, Nat.toDigits_zero] at digits
          exact List.cons.inj digits
        rfl
      · have leading := leading_digit_ne_zero number (Nat.pos_of_ne_zero zero) first more digits
        simp [leading]

def exponentText : Option Int → List Char
  | none => []
  | some exponent =>
      'e' :: ((if exponent < 0 then ['-'] else []) ++ Nat.toDigits 10 exponent.natAbs)

theorem number_characters (number : Number) :
    number.text.toList =
      (if number.mantissa < 0 then ['-'] else []) ++
        (Nat.toDigits 10 number.mantissa.natAbs ++ exponentText number.exponent) := by
  obtain ⟨mantissa, exponent⟩ := number
  cases exponent with
  | none => by_cases negative : mantissa < 0 <;> simp [Number.text, exponentText, negative]
  | some exponent =>
      by_cases negative : mantissa < 0 <;> by_cases shrinks : exponent < 0 <;>
        simp [Number.text, exponentText, negative, shrinks]

theorem read_exponent_text (exponent : Option Int) (rest : List Char) (ends : EndsNumber rest) :
    readExponent (exponentText exponent ++ rest) = some (exponent, rest) := by
  cases exponent with
  | none =>
      cases rest with
      | nil => rfl
      | cons next more =>
          obtain ⟨-, -, lower, upper⟩ := ends
          simp [exponentText, readExponent, lower, upper]
  | some exponent =>
      have digits := read_digits (Nat.toDigits 10 exponent.natAbs) rest
        (to_digits_are_digits exponent.natAbs)
        (by rintro next more rfl; exact ends.1)
      have some_digit : (Nat.toDigits 10 exponent.natAbs).isEmpty = false := by
        simp [Nat.toDigits_ne_nil]
      by_cases shrinks : exponent < 0
      · have value : -(exponent.natAbs : Int) = exponent := by omega
        simp only [exponentText, if_pos shrinks, List.cons_append, List.nil_append, readExponent,
          true_or, if_true, digits, some_digit, decimal_value_to_digits, value]
        rfl
      · have value : (exponent.natAbs : Int) = exponent := by omega
        simp only [exponentText, if_neg shrinks, List.cons_append, List.nil_append, readExponent]
        obtain ⟨leading, more, split, digit⟩ := starts_with_digit exponent.natAbs rest
        have unsigned : leading ≠ '-' ∧ leading ≠ '+' :=
          ⟨ne_of_digit digit rfl, ne_of_digit digit rfl⟩
        rw [split] at digits ⊢
        simp [unsigned, digits, some_digit, decimal_value_to_digits, value]

theorem read_number (number : Number) (rest : List Char) (ends : EndsNumber rest)
    (fits : fitsFloat number.mantissa.natAbs (number.exponent.getD 0) = true) :
    readNumber .keep (number.text.toList ++ rest) = some (number, rest) := by
  obtain ⟨mantissa, exponent⟩ := number
  have behind : ∀ next more, exponentText exponent ++ rest = next :: more →
      next.isDigit = false ∧ next ≠ '.' := by
    intro next more split
    cases exponent with
    | none =>
        rw [exponentText, List.nil_append] at split
        rw [split] at ends
        exact ⟨ends.1, ends.2.1⟩
    | some exponent =>
        rw [exponentText, List.cons_append] at split
        rw [← (List.cons.inj split).1]
        decide
  have whole := read_integer_part mantissa.natAbs (exponentText exponent ++ rest)
    fun next more split => (behind next more split).1
  have fraction : readFraction (exponentText exponent ++ rest) =
      some (none, exponentText exponent ++ rest) := by
    unfold readFraction
    split
    · rename_i more split
      exact absurd rfl (behind '.' more split).2
    · rfl
  have power := read_exponent_text exponent rest ends
  rw [number_characters]
  simp only [List.append_assoc]
  by_cases negative : mantissa < 0
  · have value : -(mantissa.natAbs : Int) = mantissa := by omega
    have nonzero : ¬mantissa.natAbs = 0 := by omega
    simp only [if_pos negative, List.cons_append, List.nil_append, readNumber, whole, fraction,
      power, Option.bind_eq_bind, Option.bind_some, Option.getD_none, List.append_nil,
      decimal_value_to_digits]
    cases exponent <;> simp_all
  · have value : (mantissa.natAbs : Int) = mantissa := by omega
    obtain ⟨leading, more, split, digit⟩ :=
      starts_with_digit mantissa.natAbs (exponentText exponent ++ rest)
    have unsigned : ∀ tail, leading :: more = '-' :: tail → False := by
      intro tail same
      exact ne_of_digit digit rfl (List.cons.inj same).1
    rw [split] at whole
    rw [if_neg negative, List.nil_append, split, readNumber]
    · simp only [whole, fraction, power, Option.bind_eq_bind, Option.bind_some,
        Option.getD_none, List.append_nil, decimal_value_to_digits]
      cases exponent <;> simp_all
    · exact unsigned

end ChatBlocks.JsonScalars
