import ChatBlocks.Json.Printer
import ChatBlocks.Json.Reader

/-!
# The two layouts of a JSON text as one

The compact and the pretty layout write the same parts in the same order and
differ in the white space between them. `spell` writes a value with any white
space in those places, so what is proved of it holds of both layouts.
-/

namespace ChatBlocks.JsonLayout

open Json

structure Layout where
  /-- What stands at a level before an element, a member or a closing bracket. -/
  gap : Nat → List Char
  afterColon : List Char
  gap_space : ∀ level, ∀ character ∈ gap level, isSpace character = true
  after_colon_space : ∀ character ∈ afterColon, isSpace character = true

def Layout.compact : Layout where
  gap _ := []
  afterColon := []
  gap_space := by simp
  after_colon_space := by simp

def Layout.pretty : Layout where
  gap level := '\n' :: List.replicate (2 * level) ' '
  afterColon := [' ']
  gap_space := by
    intro level character member
    rcases List.mem_cons.mp member with rfl | space
    · rfl
    · rw [List.eq_of_mem_replicate space]
      rfl
  after_colon_space := by
    intro character member
    rw [List.mem_singleton.mp member]
    rfl

def spellKey (layout : Layout) (level : Nat) (key : String) : List Char :=
  layout.gap level ++ (quote key).toList ++ ':' :: layout.afterColon

mutual

def spell (layout : Layout) (level : Nat) : Value → List Char
  | .null => ['n', 'u', 'l', 'l']
  | .bool true => ['t', 'r', 'u', 'e']
  | .bool false => ['f', 'a', 'l', 's', 'e']
  | .number number => number.text.toList
  | .string text => (quote text).toList
  | .array [] => ['[', ']']
  | .array (first :: rest) =>
      '[' :: (spellElements layout (level + 1) (first :: rest) ++ layout.gap level ++ [']'])
  | .object [] => ['\x7b', '\x7d']
  | .object (first :: rest) =>
      '\x7b' :: (spellMembers layout (level + 1) (first :: rest) ++ layout.gap level ++ ['\x7d'])

def spellElements (layout : Layout) (level : Nat) : List Value → List Char
  | [] => []
  | [value] => layout.gap level ++ spell layout level value
  | value :: next :: rest =>
      layout.gap level ++ spell layout level value
        ++ ',' :: spellElements layout level (next :: rest)

def spellMembers (layout : Layout) (level : Nat) : List (String × Value) → List Char
  | [] => []
  | [(key, value)] => spellKey layout level key ++ spell layout level value
  | (key, value) :: next :: rest =>
      spellKey layout level key ++ spell layout level value
        ++ ',' :: spellMembers layout level (next :: rest)

end

def laterElements (layout : Layout) (level : Nat) (values : List Value) : List Char :=
  values.flatMap fun value => ',' :: (layout.gap level ++ spell layout level value)

def laterMembers (layout : Layout) (level : Nat) (members : List (String × Value)) : List Char :=
  members.flatMap fun (key, value) => ',' :: (spellKey layout level key ++ spell layout level value)

variable {layout : Layout}

theorem spell_elements_cons (level : Nat) (value : Value) (more : List Value) :
    spellElements layout level (value :: more) =
      layout.gap level ++ (spell layout level value ++ laterElements layout level more) := by
  induction more generalizing value with
  | nil => simp [spellElements, laterElements]
  | cons next more ih => simp [spellElements, ih next, laterElements]

theorem later_elements_cons (level : Nat) (value : Value) (more : List Value) :
    laterElements layout level (value :: more) =
      ',' :: spellElements layout level (value :: more) := by
  rw [spell_elements_cons]
  simp [laterElements]

theorem spell_members_cons (level : Nat) (key : String) (value : Value)
    (more : List (String × Value)) :
    spellMembers layout level ((key, value) :: more) =
      layout.gap level ++ ((quote key).toList ++ ':' :: (layout.afterColon
        ++ (spell layout level value ++ laterMembers layout level more))) := by
  induction more generalizing key value with
  | nil => simp [spellMembers, laterMembers, spellKey]
  | cons next more ih =>
      obtain ⟨nextKey, nextValue⟩ := next
      simp [spellMembers, ih nextKey nextValue, laterMembers, spellKey]

theorem later_members_cons (level : Nat) (member : String × Value)
    (more : List (String × Value)) :
    laterMembers layout level (member :: more) =
      ',' :: spellMembers layout level (member :: more) := by
  rw [spell_members_cons]
  simp [laterMembers, spellKey]

mutual

theorem compact_value : ∀ (value : Value) (level : Nat),
    value.compact.toList = spell .compact level value
  | .null, _ => rfl
  | .bool true, _ => rfl
  | .bool false, _ => rfl
  | .number _, _ => rfl
  | .string _, _ => rfl
  | .array [], _ => rfl
  | .array (first :: rest), level => by
      have elements := compact_elements (first :: rest) (level + 1)
      simp [Value.compact, spell, elements, Layout.compact]
  | .object [], _ => rfl
  | .object (first :: rest), level => by
      have members := compact_members (first :: rest) (level + 1)
      simp [Value.compact, spell, members, Layout.compact]

theorem compact_elements : ∀ (values : List Value) (level : Nat),
    (compactElements values).toList = spellElements .compact level values
  | [], _ => rfl
  | [value], level => compact_value value level
  | value :: next :: rest, level => by
      have own := compact_value value level
      have later := compact_elements (next :: rest) level
      simp [compactElements, spellElements, own, later, Layout.compact]

theorem compact_members : ∀ (members : List (String × Value)) (level : Nat),
    (compactMembers members).toList = spellMembers .compact level members
  | [], _ => rfl
  | [(key, value)], level => by
      have own := compact_value value level
      simp [compactMembers, spellMembers, spellKey, own, Layout.compact]
  | (key, value) :: next :: rest, level => by
      have own := compact_value value level
      have later := compact_members (next :: rest) level
      simp [compactMembers, spellMembers, spellKey, own, later, Layout.compact]

end

theorem line_break_gap (level : Nat) : (lineBreak level).toList = Layout.pretty.gap level := by
  simp [lineBreak, Layout.pretty]

mutual

theorem pretty_value : ∀ (value : Value) (level : Nat),
    (value.prettyAt level).toList = spell .pretty level value
  | .null, _ => by simp [Value.prettyAt, spell]
  | .bool true, _ => by simp [Value.prettyAt, spell]
  | .bool false, _ => by simp [Value.prettyAt, spell]
  | .number _, _ => by simp [Value.prettyAt, spell]
  | .string _, _ => by simp [Value.prettyAt, spell]
  | .array [], _ => by simp [Value.prettyAt, spell]
  | .array (first :: rest), level => by
      have elements := pretty_elements (first :: rest) (level + 1)
      simp [Value.prettyAt, spell, elements, line_break_gap]
  | .object [], _ => by simp [Value.prettyAt, spell]
  | .object (first :: rest), level => by
      have members := pretty_members (first :: rest) (level + 1)
      simp [Value.prettyAt, spell, members, line_break_gap]

theorem pretty_elements : ∀ (values : List Value) (level : Nat),
    (prettyElements level values).toList = spellElements .pretty level values
  | [], _ => rfl
  | [value], level => by
      have own := pretty_value value level
      simp [prettyElements, spellElements, own, line_break_gap]
  | value :: next :: rest, level => by
      have own := pretty_value value level
      have later := pretty_elements (next :: rest) level
      simp [prettyElements, spellElements, own, later, line_break_gap]

theorem pretty_members : ∀ (members : List (String × Value)) (level : Nat),
    (prettyMembers level members).toList = spellMembers .pretty level members
  | [], _ => rfl
  | [(key, value)], level => by
      have own := pretty_value value level
      simp [prettyMembers, spellMembers, spellKey, own, line_break_gap, Layout.pretty]
  | (key, value) :: next :: rest, level => by
      have own := pretty_value value level
      have later := pretty_members (next :: rest) level
      simp [prettyMembers, spellMembers, spellKey, own, later, line_break_gap, Layout.pretty]

end

def layoutOf (pretty : Bool) : Layout :=
  if pretty then .pretty else .compact

theorem text_eq_spell (pretty : Bool) (value : Value) :
    (value.text pretty).toList = spell (layoutOf pretty) 0 value := by
  cases pretty with
  | false => exact compact_value value 0
  | true => exact pretty_value value 0

end ChatBlocks.JsonLayout
