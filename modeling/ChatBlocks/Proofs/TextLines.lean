import ChatBlocks.Proofs.BlankText

/-!
# Lines of texts that are put together

A text has one line more than it has line feeds, and the lines of texts that
are joined by line feeds are the lines of the texts in order. What stands
before a text on its first line changes that line alone.
-/

namespace ChatBlocks.TextLines

open Text

theorem split_lines_eq_split_on (characters : List Char) :
    splitLines characters = characters.splitOn '\n' := by
  induction characters with
  | nil => rfl
  | cons character rest ih =>
      rw [List.splitOn_eq_splitOnP] at ih
      rw [List.splitOn_eq_splitOnP, List.splitOnP_cons_eq_if_modifyHead, ← ih, splitLines]
      by_cases newline : character = '\n'
      · simp [newline]
      · have some_line := BlankText.split_lines_ne_nil rest
        cases split : splitLines rest with
        | nil => exact absurd split some_line
        | cons line more => simp [newline]

theorem join_lines_eq_intercalate (parts : List String) :
    joinLines parts = "\n".intercalate parts := by
  induction parts with
  | nil => simp [joinLines]
  | cons part rest ih => cases rest <;> simp_all [joinLines]

theorem join_lines_append {first second : List String} (some_first : first ≠ [])
    (some_second : second ≠ []) :
    joinLines (first ++ second) = joinLines first ++ "\n" ++ joinLines second := by
  simp only [join_lines_eq_intercalate]
  exact String.intercalate_append_of_ne_nil some_first some_second

theorem split_lines_append (first second : List Char) :
    splitLines (first ++ '\n' :: second) = splitLines first ++ splitLines second := by
  simp only [split_lines_eq_split_on, List.splitOn_eq_splitOnP]
  exact List.splitOnP_append_cons first second rfl

theorem join_split_lines (characters : List Char) :
    joinLines ((splitLines characters).map String.ofList) = String.ofList characters := by
  rw [← String.toList_inj, join_lines_eq_intercalate, String.toList_intercalate,
    split_lines_eq_split_on, List.map_map]
  simp [Function.comp_def]

theorem split_lines_join {parts : List (List Char)} (some_part : parts ≠ [])
    (single : ∀ part ∈ parts, '\n' ∉ part) :
    splitLines (joinLines (parts.map String.ofList)).toList = parts := by
  rw [join_lines_eq_intercalate, String.toList_intercalate, split_lines_eq_split_on, List.map_map]
  simp only [Function.comp_def, String.toList_ofList, List.map_id']
  exact List.splitOn_intercalate '\n' single some_part

/-- A text ends with a line feed exactly when its last line is empty and not its
only one. -/
theorem last_line_empty_iff {characters first : List Char} {rest : List (List Char)}
    (split : splitLines characters = first :: rest) :
    rest.getLast? = some [] ↔ characters.getLast? = some '\n' := by
  constructor
  · intro empty
    obtain ⟨front, rfl⟩ := List.getLast?_eq_some_iff.mp empty
    have whole := join_split_lines characters
    rw [split, ← List.cons_append, List.map_append,
      join_lines_append (by simp) (by simp), ← String.toList_inj, String.toList_ofList] at whole
    simp [← whole, joinLines]
  · intro ending
    obtain ⟨front, rfl⟩ := List.getLast?_eq_some_iff.mp ending
    obtain ⟨line, more, below⟩ := List.exists_cons_of_ne_nil (BlankText.split_lines_ne_nil front)
    rw [split_lines_append, below] at split
    obtain ⟨-, rfl⟩ := List.cons.inj split
    simp [splitLines]

theorem lines_append_newline (first second : String) :
    lines (first ++ "\n" ++ second) = lines first ++ lines second := by
  simp [lines, split_lines_append]

theorem lines_of_no_newline {text : String} (single : '\n' ∉ text.toList) :
    lines text = [text] := by
  simp [lines, split_lines_eq_split_on, List.splitOn_eq_singleton single]

theorem lines_join_lines {parts : List String} (some_part : parts ≠ []) :
    lines (joinLines parts) = parts.flatMap lines := by
  induction parts with
  | nil => exact absurd rfl some_part
  | cons part rest ih =>
      cases rest with
      | nil => simp [joinLines]
      | cons next more =>
          have later := ih (List.cons_ne_nil next more)
          rw [joinLines, lines_append_newline, later, ← List.flatMap_cons]

theorem length_lines (text : String) : (lines text).length = text.toList.count '\n' + 1 := by
  rw [lines, List.length_map]
  generalize text.toList = characters
  induction characters with
  | nil => rfl
  | cons character rest ih =>
      have some_line := BlankText.split_lines_ne_nil rest
      rw [splitLines]
      by_cases newline : character = '\n'
      · simp [newline, ih]
      · cases split : splitLines rest with
        | nil => exact absurd split some_line
        | cons line more =>
            rw [split] at ih
            simpa [newline] using ih

theorem length_lines_eq_one_iff (text : String) :
    (lines text).length = 1 ↔ '\n' ∉ text.toList := by
  rw [length_lines, Nat.add_eq_right, List.count_eq_zero]

theorem split_lines_append_front {front : List Char} (single : '\n' ∉ front)
    {characters line : List Char} {more : List (List Char)}
    (split : splitLines characters = line :: more) :
    splitLines (front ++ characters) = (front ++ line) :: more := by
  induction front with
  | nil => exact split
  | cons character rest ih =>
      rw [List.mem_cons, not_or] at single
      have later := ih single.2
      simp only [List.cons_append, splitLines, later, if_neg (Ne.symm single.1)]

theorem lines_append_front {front : String} (single : '\n' ∉ front.toList) {text line : String}
    {more : List String} (split : lines text = line :: more) :
    lines (front ++ text) = (front ++ line) :: more := by
  obtain ⟨characters, rest, cut, rfl, rfl⟩ := List.map_eq_cons_iff.mp split
  simp [lines, split_lines_append_front single cut]

theorem join_lines_front (front line : String) (rest : List String) :
    joinLines ((front ++ line) :: rest) = front ++ joinLines (line :: rest) := by
  cases rest <;> simp [joinLines, String.append_assoc]

theorem newline_not_mem_line {characters line : List Char} (member : line ∈ splitLines characters) :
    '\n' ∉ line := by
  induction characters generalizing line with
  | nil =>
      obtain rfl := List.mem_singleton.mp member
      exact List.not_mem_nil
  | cons character rest ih =>
      obtain ⟨first, more, below⟩ := List.exists_cons_of_ne_nil (BlankText.split_lines_ne_nil rest)
      rw [below] at ih
      rw [splitLines, below] at member
      by_cases newline : character = '\n'
      · rw [if_pos newline, List.mem_cons] at member
        rcases member with rfl | later
        · exact List.not_mem_nil
        · exact ih later
      · rw [if_neg newline, List.mem_cons] at member
        rcases member with rfl | later
        · simpa [Ne.symm newline] using ih List.mem_cons_self
        · exact ih (List.mem_cons_of_mem _ later)

theorem digits_single_line (number : Nat) : '\n' ∉ Nat.toDigits 10 number := by
  intro newline
  have digit := Nat.isDigit_of_mem_toDigits (by decide) (by decide) newline
  exact Bool.false_ne_true digit

end ChatBlocks.TextLines
