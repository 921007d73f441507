import ChatBlocks.Toml.Quoted

/-!
# Written TOML strings are read back

A string is read back from each form it can be written in: every character of a
basic form costs the reader one step, a literal form is taken as it is, and on
many lines the quotes that belong to the string are told from the three that
close it, because neither form has three bare ones in a row.
-/

namespace ChatBlocks.TomlStrings

open Toml
open Text (hexValue?)

theorem hex_value_digit : ∀ value < 16, hexValue? (upperHexDigit value) = some value := by
  decide

theorem read_code_escape {character : Char} (small : character.toNat < 256) (rest : List Char) :
    readCode 4
        ('0' :: '0' :: upperHexDigit (character.toNat / 16) ::
          upperHexDigit (character.toNat % 16) :: rest) =
      some (character, rest) := by
  have zero : hexValue? '0' = some 0 := rfl
  have high := hex_value_digit (character.toNat / 16) (by omega)
  have low := hex_value_digit (character.toNat % 16) (by omega)
  have code : ((0 * 16 + 0) * 16 + character.toNat / 16) * 16 + character.toNat % 16 =
      character.toNat := by omega
  have valid : character.toNat.isValidChar := character.valid
  simp only [readCode, readHexDigits, zero, high, low, Option.bind_eq_bind, Option.bind_some,
    code, if_pos valid, Char.ofNat_toNat]

/-- What the reader takes for one character: a letter behind a backslash that
no white space can be mistaken for. -/
def Escapes (character : Char) (written : List Char) : Prop :=
  ∃ letter tail, written = '\\' :: letter :: tail ∧
    isBlankChar letter = false ∧ letter ≠ '\n' ∧ letter ≠ '\r' ∧
    ∀ rest, readEscape (letter :: (tail ++ rest)) = some (character, rest)

theorem quote_escape : Escapes '"' ['\\', '"'] :=
  ⟨'"', [], rfl, by decide, by decide, by decide, fun _ => rfl⟩

theorem escape_basic_cases (manyLines : Bool) (character : Char) :
    (escapeBasic manyLines character = [character] ∧ character ≠ '\\' ∧
        (isPlainChar character = true ∨ manyLines = true ∧ character = '\n')) ∨
      Escapes character (escapeBasic manyLines character) := by
  unfold escapeBasic
  by_cases backslash : character = '\\'
  · subst backslash
    exact .inr ⟨'\\', [], rfl, by decide, by decide, by decide, fun _ => rfl⟩
  rw [if_neg backslash]
  iterate 4
    split
    · rename_i same
      exact .inr ⟨_, [], rfl, by decide, by decide, by decide, fun _ => by rw [same]; rfl⟩
  split
  · rename_i same
    cases manyLines with
    | true => exact .inl ⟨by rw [same]; rfl, backslash, .inr ⟨rfl, same⟩⟩
    | false =>
        exact .inr ⟨'n', [], rfl, by decide, by decide, by decide, fun _ => by rw [same]; rfl⟩
  split
  · rename_i plain
    exact .inl ⟨rfl, backslash, .inl plain⟩
  · rename_i control
    have small : character.toNat < 256 := by
      simp only [isPlainChar, Bool.or_eq_true, Bool.and_eq_true, decide_eq_true_eq, bne_iff_ne,
        not_or, not_and, Decidable.not_not] at control
      omega
    exact .inr ⟨'u', _, rfl, by decide, by decide, by decide,
      fun rest => by simpa [readEscape] using read_code_escape small rest⟩

theorem read_basic_escaped {character : Char} {written : List Char}
    (escapes : Escapes character written) (fuel : Nat) (content rest : List Char) :
    readBasic (fuel + 1) content (written ++ rest) = readBasic fuel (character :: content) rest := by
  obtain ⟨letter, tail, rfl, -, -, -, reads⟩ := escapes
  simp [readBasic, reads]

theorem read_basic_character {character : Char} (notQuote : character ≠ '"') (fuel : Nat)
    (content rest : List Char) :
    readBasic (fuel + 1) content (escapeBasic false character ++ rest) =
      readBasic fuel (character :: content) rest := by
  obtain ⟨itself, notBackslash, plain⟩ | escapes := escape_basic_cases false character
  · have plain : isPlainChar character = true := by simpa using plain
    rw [itself]
    simp [readBasic, notQuote, notBackslash, plain]
  · exact read_basic_escaped escapes fuel content rest

/-- The fuel is counted in characters of the string, each of which is written
with one character or more. -/
theorem read_basic_content (characters : List Char) :
    ∀ (fuel : Nat) (content rest : List Char), characters.length < fuel →
      readBasic fuel content (basicContent false 0 characters ++ '"' :: rest) =
        some (String.ofList (content.reverse ++ characters), rest) := by
  induction characters with
  | nil =>
      intro fuel content rest enough
      obtain ⟨fuel, rfl⟩ := Nat.exists_eq_succ_of_ne_zero (Nat.ne_of_gt enough)
      simp [readBasic, basicContent]
  | cons character more ih =>
      intro fuel content rest enough
      obtain ⟨fuel, rfl⟩ := Nat.exists_eq_succ_of_ne_zero (Nat.ne_of_gt (Nat.zero_lt_of_lt enough))
      have later := ih fuel (character :: content) rest (by simpa using enough)
      have own : readBasic (fuel + 1) content
          (basicContent false 0 (character :: more) ++ '"' :: rest) =
            readBasic fuel (character :: content)
              (basicContent false 0 more ++ '"' :: rest) := by
        by_cases isQuote : character = '"'
        · subst isQuote
          exact read_basic_escaped quote_escape fuel content _
        · rw [basicContent, if_neg isQuote, List.append_assoc]
          exact read_basic_character isQuote fuel content _
      rw [own, later]
      simp

theorem escape_nonempty (manyLines : Bool) (character : Char) :
    1 ≤ (escapeBasic manyLines character).length := by
  obtain ⟨itself, -⟩ | ⟨letter, tail, written, -⟩ := escape_basic_cases manyLines character
  · simp [itself]
  · simp [written]

theorem length_le_basic_content (manyLines : Bool) (characters : List Char) :
    ∀ quotes, characters.length ≤ (basicContent manyLines quotes characters).length := by
  induction characters with
  | nil => simp
  | cons character more ih =>
      intro quotes
      have own := escape_nonempty manyLines character
      have fresh := ih 0
      have running := ih (quotes + 1)
      rw [basicContent]
      split
      · split <;> simp only [List.length_cons] <;> omega
      · simp only [List.length_append, List.length_cons]
        omega

theorem read_literal_content (characters rest : List Char)
    (plain : ∀ character ∈ characters, isPlainChar character = true ∧ character ≠ '\'') :
    readLiteral (characters ++ '\'' :: rest) = some (String.ofList characters, rest) := by
  have own : (characters ++ '\'' :: rest).takeWhile
      (fun character => isPlainChar character && character != '\'') = characters := by
    rw [List.takeWhile_append_of_pos]
    · simp
    · intro character member
      simpa using plain character member
  simp [readLiteral, own]

theorem read_closing_at_end {mark : Char} {count : Nat} (few : count ≤ 2) {rest : List Char}
    (ends : rest.head? ≠ some mark) :
    readClosing mark (List.replicate count mark ++ mark :: mark :: mark :: rest) =
      some (count, rest) := by
  have next : ∀ character more, rest = character :: more → character ≠ mark := by
    rintro character more rfl same
    exact ends (by rw [same]; rfl)
  obtain rfl | rfl | rfl : count = 0 ∨ count = 1 ∨ count = 2 := by omega
  · match rest with
    | [] => simp [readClosing]
    | [first] => simp [readClosing, next first [] rfl]
    | first :: _ :: _ => simp [readClosing, next first _ rfl]
  · match rest with
    | [] => simp [readClosing]
    | first :: more => simp [readClosing, next first more rfl]
  · simp [readClosing, List.replicate]

theorem read_closing_inside {mark other : Char} (differs : other ≠ mark) {count : Nat}
    (few : count ≤ 2) (rest : List Char) :
    readClosing mark (List.replicate count mark ++ other :: rest) = none := by
  obtain rfl | rfl | rfl : count = 0 ∨ count = 1 ∨ count = 2 := by omega
  all_goals
    match rest with
    | [] => simp [readClosing, List.replicate, differs]
    | [_] => simp [readClosing, List.replicate, differs]
    | _ :: _ :: _ => simp [readClosing, List.replicate, differs]

theorem read_lines_escaped {character : Char} {written : List Char}
    (escapes : Escapes character written) (fuel : Nat) (content rest : List Char) :
    readBasicLines (fuel + 1) content (written ++ rest) =
      readBasicLines fuel (character :: content) rest := by
  obtain ⟨letter, tail, rfl, solid, notFeed, notReturn, reads⟩ := escapes
  have noLineEnd : readLineEnd (skipBlanks (letter :: (tail ++ rest))) = none := by
    rw [skipBlanks, List.dropWhile_cons_of_neg (by simp [solid])]
    simp [readLineEnd, notFeed, notReturn]
  simp [readBasicLines, noLineEnd, reads]

theorem read_lines_character {character : Char} (notQuote : character ≠ '"') (fuel : Nat)
    (content rest : List Char) :
    readBasicLines (fuel + 1) content (escapeBasic true character ++ rest) =
      readBasicLines fuel (character :: content) rest := by
  obtain ⟨itself, notBackslash, plain⟩ | escapes := escape_basic_cases true character
  · have plain : character = '\n' ∨ isPlainChar character = true := by
      simpa [or_comm] using plain
    rw [itself, List.singleton_append, readBasicLines, if_neg notQuote, if_neg notBackslash,
      if_pos plain]
  · exact read_lines_escaped escapes fuel content rest

theorem read_lines_quote {rest : List Char} (inside : readClosing '"' ('"' :: rest) = none)
    (fuel : Nat) (content : List Char) :
    readBasicLines (fuel + 1) content ('"' :: rest) = readBasicLines fuel ('"' :: content) rest := by
  simp [readBasicLines, inside]

theorem escape_basic_head {character : Char} (notQuote : character ≠ '"') (manyLines : Bool) :
    ∃ first more, escapeBasic manyLines character = first :: more ∧ first ≠ '"' := by
  obtain ⟨itself, -⟩ | ⟨letter, tail, written, -⟩ := escape_basic_cases manyLines character
  · exact ⟨character, [], itself, notQuote⟩
  · exact ⟨'\\', letter :: tail, written, by decide⟩

/-- Behind the quotes that a written string starts with it is over, or another
character stands there; with the quotes before they are two at most. -/
theorem basic_content_quotes (characters : List Char) : ∀ quotes ≤ 2,
    (∃ count, quotes + count ≤ 2 ∧ characters = List.replicate count '"' ∧
        basicContent true quotes characters = List.replicate count '"') ∨
      ∃ count other more, quotes + count ≤ 2 ∧ other ≠ '"' ∧
        basicContent true quotes characters = List.replicate count '"' ++ other :: more := by
  induction characters with
  | nil => exact fun quotes few => .inl ⟨0, few, rfl, rfl⟩
  | cons character rest ih =>
      intro quotes few
      by_cases isQuote : character = '"'
      · subst isQuote
        by_cases room : quotes < 2
        · have written : basicContent true quotes ('"' :: rest) =
              '"' :: basicContent true (quotes + 1) rest := by
            simp [basicContent, room]
          obtain ⟨count, fits, same, behind⟩ | ⟨count, other, more, fits, differs, behind⟩ :=
            ih (quotes + 1) room
          · exact .inl ⟨count + 1, by omega, by rw [same]; rfl, by rw [written, behind]; rfl⟩
          · exact .inr ⟨count + 1, other, more, by omega, differs, by
              rw [written, behind]; rfl⟩
        · exact .inr ⟨0, '\\', '"' :: basicContent true 0 rest, few, by decide, by
            simp [basicContent, room]⟩
      · obtain ⟨first, more, written, differs⟩ := escape_basic_head isQuote true
        exact .inr ⟨0, first, more ++ basicContent true 0 rest, few, differs, by
          simp [basicContent, isQuote, written]⟩

theorem read_lines_closing {count : Nat} (few : count ≤ 2) {rest : List Char}
    (ends : rest.head? ≠ some '"') (fuel : Nat) (content : List Char) :
    readBasicLines (fuel + 1) content
        (List.replicate count '"' ++ '"' :: '"' :: '"' :: rest) =
      some (String.ofList (content.reverse ++ List.replicate count '"'), rest) := by
  have closing := read_closing_at_end few ends
  cases count with
  | zero =>
      rw [List.replicate_zero, List.nil_append] at closing
      rw [List.replicate_zero, List.nil_append, readBasicLines, if_pos rfl, closing]
      rfl
  | succ count =>
      rw [List.replicate_succ, List.cons_append] at closing
      rw [List.replicate_succ, List.cons_append, readBasicLines, if_pos rfl, closing]
      rfl

theorem read_basic_lines_content {rest : List Char} (ends : rest.head? ≠ some '"')
    (characters : List Char) :
    ∀ (quotes fuel : Nat) (content : List Char), quotes ≤ 2 → characters.length < fuel →
      readBasicLines fuel content
          (basicContent true quotes characters ++ '"' :: '"' :: '"' :: rest) =
        some (String.ofList (content.reverse ++ characters), rest) := by
  induction characters with
  | nil =>
      intro quotes fuel content _ enough
      obtain ⟨fuel, rfl⟩ := Nat.exists_eq_succ_of_ne_zero (Nat.ne_of_gt enough)
      exact read_lines_closing (Nat.zero_le 2) ends fuel content
  | cons character more ih =>
      intro quotes fuel content few enough
      obtain ⟨fuel, rfl⟩ := Nat.exists_eq_succ_of_ne_zero (Nat.ne_of_gt (Nat.zero_lt_of_lt enough))
      have later := fun quotes (few : quotes ≤ 2) =>
        ih quotes fuel (character :: content) few (by simpa using enough)
      by_cases isQuote : character = '"'
      · subst isQuote
        obtain ⟨count, fits, same, whole⟩ | ⟨count, other, tail, fits, differs, front⟩ :=
          basic_content_quotes ('"' :: more) quotes few
        -- The string ends in these quotes.
        · rw [whole, read_lines_closing (by omega) ends, same]
        -- Another character follows, so the quote is one of the content.
        · by_cases room : quotes < 2
          · have written : basicContent true quotes ('"' :: more) =
                '"' :: basicContent true (quotes + 1) more := by
              simp [basicContent, room]
            have inside := read_closing_inside differs (Nat.le_of_add_left_le fits)
              (tail ++ '"' :: '"' :: '"' :: rest)
            rw [← List.cons_append, ← List.append_assoc, ← front, written, List.cons_append]
              at inside
            rw [written, List.cons_append, read_lines_quote inside, later (quotes + 1) room]
            simp
          · have written : basicContent true quotes ('"' :: more) =
                ['\\', '"'] ++ basicContent true 0 more := by
              simp [basicContent, room]
            rw [written, List.append_assoc, read_lines_escaped quote_escape,
              later 0 (by omega)]
            simp
      · rw [basicContent, if_neg isQuote, List.append_assoc, read_lines_character isQuote,
          later 0 (by omega)]
        simp

theorem le_longest_run_from (mark : Char) (characters : List Char) :
    ∀ current, current ≤ longestRunFrom mark current characters := by
  induction characters with
  | nil => exact Nat.le_refl
  | cons character rest ih =>
      intro current
      rw [longestRunFrom]
      split
      · exact Nat.le_of_succ_le (ih (current + 1))
      · exact Nat.le_max_left _ _

theorem not_mem_of_no_run {mark : Char} {characters : List Char}
    (none : longestRun mark characters = 0) : mark ∉ characters := by
  unfold longestRun at none
  induction characters with
  | nil => simp
  | cons character rest ih =>
      rw [longestRunFrom] at none
      split at none
      · have grown := le_longest_run_from mark rest (0 + 1)
        omega
      · rename_i differs
        have later : longestRunFrom mark 0 rest = 0 := by omega
        simpa [Ne.symm differs] using ih later

theorem leading_run {mark : Char} {limit : Nat} (characters : List Char) :
    ∀ current, longestRunFrom mark current characters ≤ limit →
      (∃ count, current + count ≤ limit ∧ characters = List.replicate count mark) ∨
        ∃ count other more, current + count ≤ limit ∧ other ≠ mark ∧
          characters = List.replicate count mark ++ other :: more := by
  induction characters with
  | nil => exact fun current few => .inl ⟨0, few, rfl⟩
  | cons character rest ih =>
      intro current few
      rw [longestRunFrom] at few
      split at few
      · rename_i same
        subst same
        obtain ⟨count, fits, behind⟩ | ⟨count, other, more, fits, differs, behind⟩ :=
          ih (current + 1) few
        · exact .inl ⟨count + 1, by omega, by rw [behind]; rfl⟩
        · exact .inr ⟨count + 1, other, more, by omega, differs, by rw [behind]; rfl⟩
      · rename_i differs
        exact .inr ⟨0, character, rest, by omega, differs, rfl⟩

theorem read_literal_closing {count : Nat} (few : count ≤ 2) {rest : List Char}
    (ends : rest.head? ≠ some '\'') (content : List Char) :
    readLiteralLines content
        (List.replicate count '\'' ++ '\'' :: '\'' :: '\'' :: rest) =
      some (String.ofList (content.reverse ++ List.replicate count '\''), rest) := by
  have closing := read_closing_at_end few ends
  cases count with
  | zero =>
      rw [List.replicate_zero, List.nil_append] at closing
      rw [List.replicate_zero, List.nil_append, readLiteralLines, if_pos rfl, closing]
      rfl
  | succ count =>
      rw [List.replicate_succ, List.cons_append] at closing
      rw [List.replicate_succ, List.cons_append, readLiteralLines, if_pos rfl, closing]
      rfl

theorem plain_of_no_escape {character : Char} (free : needsEscape character = false) :
    character = '\n' ∨ isPlainChar character = true := by
  by_cases feed : character = '\n'
  · exact .inl feed
  · simpa [needsEscape, feed] using free

theorem read_literal_lines_content {rest : List Char} (ends : rest.head? ≠ some '\'')
    (characters : List Char) (free : ∀ character ∈ characters, needsEscape character = false) :
    ∀ (current : Nat) (content : List Char), longestRunFrom '\'' current characters ≤ 2 →
      readLiteralLines content (characters ++ '\'' :: '\'' :: '\'' :: rest) =
        some (String.ofList (content.reverse ++ characters), rest) := by
  induction characters with
  | nil => exact fun _ content _ => read_literal_closing (Nat.zero_le 2) ends content
  | cons character more ih =>
      intro current content few
      obtain ⟨own, later⟩ := List.forall_mem_cons.mp free
      have ih := ih later
      obtain ⟨count, fits, whole⟩ | ⟨count, other, tail, fits, differs, front⟩ :=
        leading_run (character :: more) current few
      -- The string ends in these quotes.
      · rw [whole, read_literal_closing (by omega) ends]
      -- Another character follows, so a quote here is one of the content.
      · rw [longestRunFrom] at few
        split at few
        · rename_i same
          subst same
          have inside := read_closing_inside differs (Nat.le_of_add_left_le fits)
            (tail ++ '\'' :: '\'' :: '\'' :: rest)
          rw [← List.cons_append, ← List.append_assoc, ← front, List.cons_append] at inside
          rw [List.cons_append, readLiteralLines, if_pos rfl, inside]
          simp [ih (current + 1) ('\'' :: content) few]
        · rename_i notQuote
          rw [List.cons_append, readLiteralLines, if_neg notQuote,
            if_pos (plain_of_no_escape own),
            ih 0 (character :: content) (Nat.le_trans (Nat.le_max_right _ _) few)]
          simp

/-- What may stand first behind an opening mark without being dropped. -/
def StartsSolid (input : List Char) : Prop :=
  ∃ first more, input = first :: more ∧ first ≠ '\n' ∧ first ≠ '\r'

theorem solid_of_plain {character : Char} (plain : isPlainChar character = true) :
    character ≠ '\n' ∧ character ≠ '\r' :=
  ⟨by rintro rfl; exact absurd plain (by decide), by rintro rfl; exact absurd plain (by decide)⟩

/-- A string with a line feed is opened with one more, and only that one is
dropped. -/
theorem drop_opening {characters body : List Char}
    (solid : '\n' ∉ characters → StartsSolid body) :
    dropFirstLineEnd ((if characters.contains '\n' then ['\n'] else []) ++ body) = body := by
  by_cases feeds : '\n' ∈ characters
  · rw [if_pos (by simpa using feeds)]
    rfl
  · obtain ⟨first, more, rfl, notFeed, notReturn⟩ := solid feeds
    rw [if_neg (by simpa using feeds)]
    simp [dropFirstLineEnd, readLineEnd, notFeed, notReturn]

theorem basic_content_solid {characters : List Char} (feedless : '\n' ∉ characters)
    (rest : List Char) : StartsSolid (basicContent true 0 characters ++ '"' :: rest) := by
  cases characters with
  | nil => exact ⟨'"', rest, rfl, by decide, by decide⟩
  | cons character more =>
      by_cases isQuote : character = '"'
      · subst isQuote
        exact ⟨'"', _, rfl, by decide, by decide⟩
      · rw [basicContent, if_neg isQuote, List.append_assoc]
        obtain ⟨itself, -, plain⟩ | ⟨letter, tail, written, -⟩ := escape_basic_cases true character
        · have other : character ≠ '\n' := fun same => feedless (by simp [same])
          have plain : isPlainChar character = true := by simpa [other] using plain
          rw [itself]
          exact ⟨character, _, rfl, solid_of_plain plain⟩
        · rw [written]
          exact ⟨'\\', _, rfl, by decide, by decide⟩

theorem literal_content_solid {characters : List Char} (feedless : '\n' ∉ characters)
    (free : ∀ character ∈ characters, needsEscape character = false) (rest : List Char) :
    StartsSolid (characters ++ '\'' :: rest) := by
  cases characters with
  | nil => exact ⟨'\'', rest, rfl, by decide, by decide⟩
  | cons character more =>
      obtain rfl | plain := plain_of_no_escape (free character List.mem_cons_self)
      · exact absurd List.mem_cons_self feedless
      · exact ⟨character, _, rfl, solid_of_plain plain⟩

def Fits (characters : List Char) : StringForm → Prop
  | .basic => True
  | .basicLines => True
  | .literal => ∀ character ∈ characters, isPlainChar character = true ∧ character ≠ '\''
  | .literalLines =>
      (∀ character ∈ characters, needsEscape character = false) ∧ longestRun '\'' characters ≤ 2

theorem form_fits (characters : List Char) : Fits characters (StringForm.of characters) := by
  simp only [StringForm.of]
  split
  · trivial
  split
  · rename_i plain
    simp only [Bool.and_eq_true, Bool.not_eq_true', beq_iff_eq, List.any_eq_false,
      Bool.not_eq_true] at plain
    obtain ⟨⟨free, noQuote⟩, noFeed⟩ := plain
    intro character member
    have plain := plain_of_no_escape (free character member)
    have notFeed : character ≠ '\n' := by
      rintro rfl
      simp [member] at noFeed
    refine ⟨by simpa [notFeed] using plain, ?_⟩
    rintro rfl
    exact not_mem_of_no_run noQuote member
  split
  · trivial
  split
  · rename_i plain
    simpa [Fits] using plain
  split <;> trivial

theorem read_string_basic {input : List Char} (single : ∀ more, input ≠ '"' :: '"' :: more) :
    readString? ('"' :: input) = readBasic (input.length + 1) [] input := by
  rw [readString?]
  rintro more rfl
  exact single more rfl

theorem read_string_literal {input : List Char} (single : ∀ more, input ≠ '\'' :: '\'' :: more) :
    readString? ('\'' :: input) = readLiteral input := by
  rw [readString?]
  rintro more rfl
  exact single more rfl

theorem basic_content_single (characters rest more : List Char) :
    basicContent false 0 characters ++ '"' :: '\n' :: rest ≠ '"' :: '"' :: more := by
  cases characters with
  | nil => simp [basicContent]
  | cons character others =>
      by_cases isQuote : character = '"'
      · simp [basicContent, isQuote]
      · obtain ⟨first, tail, written, differs⟩ := escape_basic_head isQuote false
        simp [basicContent, isQuote, written, differs]

theorem literal_content_single {characters : List Char} (quoteless : '\'' ∉ characters)
    (rest more : List Char) : characters ++ '\'' :: '\n' :: rest ≠ '\'' :: '\'' :: more := by
  cases characters with
  | nil => simp
  | cons character others =>
      rintro same
      exact quoteless (by simp [(List.cons.inj same).1])

theorem read_basic_written (characters rest : List Char) :
    readString? (StringForm.basic.write characters ++ '\n' :: rest) =
      some (String.ofList characters, '\n' :: rest) := by
  have enough := length_le_basic_content false characters 0
  have content := read_basic_content characters
    ((basicContent false 0 characters ++ '"' :: '\n' :: rest).length + 1) [] ('\n' :: rest)
    (by rw [List.length_append]; omega)
  have dispatch := read_string_basic (basic_content_single characters rest)
  simpa [StringForm.write] using dispatch.trans content

theorem read_literal_written {characters : List Char} (fits : Fits characters .literal)
    (rest : List Char) :
    readString? (StringForm.literal.write characters ++ '\n' :: rest) =
      some (String.ofList characters, '\n' :: rest) := by
  have quoteless : '\'' ∉ characters := fun member => (fits '\'' member).2 rfl
  have content := read_literal_content characters ('\n' :: rest) fits
  have dispatch := read_string_literal (literal_content_single quoteless rest)
  simpa [StringForm.write] using dispatch.trans content

theorem read_basic_lines_written (characters rest : List Char) :
    readString? (StringForm.basicLines.write characters ++ '\n' :: rest) =
      some (String.ofList characters, '\n' :: rest) := by
  let body := basicContent true 0 characters ++ '"' :: '"' :: '"' :: '\n' :: rest
  have marks : StringForm.basicLines.write characters ++ '\n' :: rest =
      '"' :: '"' :: '"' :: ((if characters.contains '\n' then ['\n'] else []) ++ body) := by
    simp [StringForm.write, openLines, body]
  have opening : dropFirstLineEnd _ = body := drop_opening fun feedless =>
    basic_content_solid feedless ('"' :: '"' :: '\n' :: rest)
  have ends : ('\n' :: rest).head? ≠ some '"' := by simp
  have enough := length_le_basic_content true characters 0
  have content := read_basic_lines_content ends characters 0 (body.length + 1) [] (by omega)
    (by rw [List.length_append]; omega)
  simp only [marks, readString?, opening]
  exact content

theorem read_literal_lines_written {characters : List Char} (fits : Fits characters .literalLines)
    (rest : List Char) :
    readString? (StringForm.literalLines.write characters ++ '\n' :: rest) =
      some (String.ofList characters, '\n' :: rest) := by
  let body := characters ++ '\'' :: '\'' :: '\'' :: '\n' :: rest
  have marks : StringForm.literalLines.write characters ++ '\n' :: rest =
      '\'' :: '\'' :: '\'' :: ((if characters.contains '\n' then ['\n'] else []) ++ body) := by
    simp [StringForm.write, openLines, body]
  have opening : dropFirstLineEnd _ = body := drop_opening fun feedless =>
    literal_content_solid feedless fits.1 ('\'' :: '\'' :: '\n' :: rest)
  have ends : ('\n' :: rest).head? ≠ some '\'' := by simp
  have content := read_literal_lines_content ends characters fits.1 0 [] fits.2
  simp only [marks, readString?, opening]
  exact content

theorem read_written (characters rest : List Char) (form : StringForm)
    (fits : Fits characters form) :
    readString? (form.write characters ++ '\n' :: rest) =
      some (String.ofList characters, '\n' :: rest) := by
  cases form with
  | basic => exact read_basic_written characters rest
  | literal => exact read_literal_written fits rest
  | basicLines => exact read_basic_lines_written characters rest
  | literalLines => exact read_literal_lines_written fits rest

theorem read_quote (text : String) (rest : List Char) :
    readString? ((quote text).toList ++ '\n' :: rest) = some (text, '\n' :: rest) := by
  have written := read_written text.toList rest _ (form_fits text.toList)
  rw [String.ofList_toList] at written
  rw [quote, String.toList_ofList, written]

end ChatBlocks.TomlStrings
