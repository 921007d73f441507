import ChatBlocks.Proofs.TomlStrings
import ChatBlocks.Toml.Printer
import ChatBlocks.Toml.Reader

/-!
# A settings file is read back

A line that is written for a bare key is read as one entry with that key alone,
so a file of settings with distinct keys is read as a table of just these
settings, in the same order.
-/

namespace ChatBlocks.SettingsText

open Toml
open TomlStrings (read_quote)

def settingValue : Setting → Value
  | .string text => .string text
  | .boolean value => .boolean value

def settingEntries (settings : List (String × Setting)) : Entries :=
  settings.map fun setting => (setting.1, settingValue setting.2)

def IsBareKey (key : String) : Prop :=
  key.toList ≠ [] ∧ ∀ character ∈ key.toList, isKeyChar character = true

instance (key : String) : Decidable (IsBareKey key) :=
  decidable_of_iff (key.toList.isEmpty = false ∧ key.toList.all isKeyChar = true)
    (by simp [IsBareKey])

theorem ne_of_key_char {character other : Char} (isKey : isKeyChar character = true)
    (otherwise : isKeyChar other = false) : character ≠ other := by
  rintro rfl
  exact Bool.false_ne_true (otherwise.symm.trans isKey)

theorem bare_key_head {key : String} (bare : IsBareKey key) :
    ∃ first more, key.toList = first :: more ∧ isKeyChar first = true := by
  obtain ⟨first, more, split⟩ := List.exists_cons_of_ne_nil bare.1
  exact ⟨first, more, split, bare.2 first (by simp [split])⟩

theorem read_key_part {key : String} (bare : IsBareKey key) (rest : List Char) :
    readKeyPart (key.toList ++ ' ' :: rest) = some (key, ' ' :: rest) := by
  have own : (key.toList ++ ' ' :: rest).takeWhile isKeyChar = key.toList := by
    rw [List.takeWhile_append_of_pos bare.2, List.takeWhile_cons_of_neg (by decide),
      List.append_nil]
  obtain ⟨first, more, split, isKey⟩ := bare_key_head bare
  have notBasic : first ≠ '"' := ne_of_key_char isKey (by decide)
  have notLiteral : first ≠ '\'' := ne_of_key_char isKey (by decide)
  have someKey : key.toList.isEmpty = false := by simp [split]
  unfold readKeyPart
  split
  · rename_i same
    rw [split] at same
    exact absurd (List.cons.inj same).1 notBasic
  · rename_i same
    rw [split] at same
    exact absurd (List.cons.inj same).1 notLiteral
  · simp [own, someKey]

theorem read_key {key : String} (bare : IsBareKey key) (fuel : Nat) (rest : List Char) :
    readKey (fuel + 1) (key.toList ++ ' ' :: '=' :: rest) = some ([key], '=' :: rest) := by
  have blanks : skipBlanks (' ' :: '=' :: rest) = '=' :: rest := by
    simp [skipBlanks, isBlankChar]
  simp [readKey, read_key_part bare, blanks]

theorem quote_head (text : String) :
    ∃ mark more, (quote text).toList = mark :: more ∧ (mark = '"' ∨ mark = '\'') := by
  rw [quote, String.toList_ofList]
  cases StringForm.of text.toList with
  | basic => exact ⟨'"', _, rfl, .inl rfl⟩
  | literal => exact ⟨'\'', _, rfl, .inr rfl⟩
  | basicLines => exact ⟨'"', _, rfl, .inl rfl⟩
  | literalLines => exact ⟨'\'', _, rfl, .inr rfl⟩

theorem setting_text_head (setting : Setting) :
    ∃ first more, setting.text.toList = first :: more ∧ isBlankChar first = false := by
  cases setting with
  | string text =>
      obtain ⟨mark, more, split, rfl | rfl⟩ := quote_head text
      · exact ⟨_, more, split, by decide⟩
      · exact ⟨_, more, split, by decide⟩
  | boolean value =>
      cases value with
      | true => exact ⟨'t', ['r', 'u', 'e'], rfl, by decide⟩
      | false => exact ⟨'f', ['a', 'l', 's', 'e'], rfl, by decide⟩

theorem read_boolean (value : Bool) (fuel limit : Nat) (rest : List Char) :
    readValue (fuel + 1) limit ((Setting.boolean value).text.toList ++ '\n' :: rest) =
      some (.boolean value, '\n' :: rest) := by
  have word : readScalarText ((Setting.boolean value).text.toList ++ '\n' :: rest) =
      ((Setting.boolean value).text.toList, '\n' :: rest) := by
    cases value <;> rfl
  have scalar : scalar? (Setting.boolean value).text.toList = some (.boolean value) := by
    cases value <;> rfl
  unfold readValue
  simp only [word, scalar, Option.map_some]
  cases value <;> rfl

theorem read_setting (setting : Setting) (fuel limit : Nat) (rest : List Char) :
    readValue (fuel + 1) limit (setting.text.toList ++ '\n' :: rest) =
      some (settingValue setting, '\n' :: rest) := by
  cases setting with
  | string text =>
      have content := read_quote text rest
      obtain ⟨mark, more, split, isMark⟩ := quote_head text
      rw [split] at content
      unfold readValue
      simp only [Setting.text, split, List.cons_append, if_pos isMark] at content ⊢
      rw [content]
      rfl
  | boolean value => exact read_boolean value fuel limit rest

theorem line_characters (key : String) (setting : Setting) (rest : List Char) :
    (settingLine key setting).toList ++ rest =
      key.toList ++ ' ' :: '=' :: ' ' :: (setting.text.toList ++ '\n' :: rest) := by
  simp [settingLine]

theorem read_entry {key : String} (bare : IsBareKey key) (setting : Setting) (fuel limit : Nat)
    (rest : List Char) :
    readEntry (fuel + 2) limit ((settingLine key setting).toList ++ rest) =
      some ([key], settingValue setting, '\n' :: rest) := by
  have blank : skipBlanks (' ' :: (setting.text.toList ++ '\n' :: rest)) =
      setting.text.toList ++ '\n' :: rest := by
    obtain ⟨first, more, split, solid⟩ := setting_text_head setting
    simp [split, skipBlanks, solid, show isBlankChar ' ' = true by rfl]
  have equals : skipBlanks ('=' :: ' ' :: (setting.text.toList ++ '\n' :: rest)) =
      '=' :: ' ' :: (setting.text.toList ++ '\n' :: rest) := rfl
  rw [line_characters]
  unfold readEntry
  simp only [read_key bare, equals, blank, read_setting, Option.map_some]

/-- A line opens with a character of its key, which no gap, header or comment
can open with. -/
theorem line_head {key : String} (bare : IsBareKey key) (setting : Setting) (rest : List Char) :
    ∃ first more, (settingLine key setting).toList ++ rest = first :: more ∧
      isKeyChar first = true := by
  obtain ⟨first, more, split, isKey⟩ := bare_key_head bare
  exact ⟨first, _, by rw [line_characters, split]; rfl, isKey⟩

theorem read_statement {key : String} (bare : IsBareKey key) (setting : Setting)
    (rest : List Char) :
    readStatement ((settingLine key setting).toList ++ rest) =
      some (.entry [key] (settingValue setting), '\n' :: rest) := by
  obtain ⟨first, more, split, isKey⟩ := line_head bare setting rest
  have notHeader : first ≠ '[' := ne_of_key_char isKey (by decide)
  have entry := fun fuel => read_entry bare setting fuel nestingLimit rest
  rw [split] at entry ⊢
  rw [readStatement, entry]
  · rfl
  · exact fun _ same => notHeader (List.cons.inj same).1
  · exact fun _ same => notHeader (List.cons.inj same).1

theorem skip_gaps_line {key : String} (bare : IsBareKey key) (setting : Setting)
    (rest : List Char) :
    skipGaps false ((settingLine key setting).toList ++ rest) =
      some ((settingLine key setting).toList ++ rest) := by
  obtain ⟨first, more, split, isKey⟩ := line_head bare setting rest
  have notFeed : first ≠ '\n' := ne_of_key_char isKey (by decide)
  have notReturn : first ≠ '\r' := ne_of_key_char isKey (by decide)
  have notSpace : first ≠ ' ' := ne_of_key_char isKey (by decide)
  have notTab : first ≠ '\t' := ne_of_key_char isKey (by decide)
  have notComment : first ≠ '#' := ne_of_key_char isKey (by decide)
  rw [split]
  simp [skipGaps, isBlankChar, notFeed, notReturn, notSpace, notTab, notComment]

structure WellKeyed (settings : List (String × Setting)) : Prop where
  bare : ∀ setting ∈ settings, IsBareKey setting.1
  distinct : (settings.map Prod.fst).Nodup

theorem apply_entry {entries : Entries} {key : String} (fresh : key ∉ entries.map Prod.fst)
    (value : Value) :
    Document.apply? ⟨entries, []⟩ (.entry [key] value) = some ⟨entries ++ [(key, value)], []⟩ := by
  have absent : entries.find? key = none := by
    simp only [Entries.find?, Option.map_eq_none_iff, List.find?_eq_none, beq_iff_eq]
    rintro entry member rfl
    exact fresh (List.mem_map_of_mem member)
  simp [ Document.apply?, Entries.alter?, Entries.insert?, absent, Entries.append]

theorem settings_text_cons (key : String) (setting : Setting)
    (rest : List (String × Setting)) :
    (settingsText ((key, setting) :: rest)).toList =
      (settingLine key setting).toList ++ (settingsText rest).toList := by
  simp [settingsText]

/-- Each line is one statement; the keys before it and behind it are others. -/
theorem read_settings_document (settings : List (String × Setting)) :
    ∀ (fuel : Nat) (entries : Entries), settings.length < fuel →
      (∀ setting ∈ settings, IsBareKey setting.1) →
      (entries.map Prod.fst ++ settings.map Prod.fst).Nodup →
      readDocument fuel ⟨entries, []⟩ (settingsText settings).toList =
        some ⟨entries ++ settingEntries settings, []⟩ := by
  induction settings with
  | nil =>
      intro fuel entries enough _ _
      obtain ⟨fuel, rfl⟩ := Nat.exists_eq_succ_of_ne_zero (Nat.ne_of_gt enough)
      simp [settingsText, readDocument, skipGaps, settingEntries]
  | cons own rest ih =>
      obtain ⟨key, setting⟩ := own
      intro fuel entries enough bare distinct
      obtain ⟨fuel, rfl⟩ := Nat.exists_eq_succ_of_ne_zero (Nat.ne_of_gt (Nat.zero_lt_of_lt enough))
      obtain ⟨bareKey, bareRest⟩ := List.forall_mem_cons.mp bare
      have fresh : key ∉ entries.map Prod.fst := by
        intro member
        exact (List.nodup_append.mp distinct).2.2 key member key (by simp) rfl
      have finish : finishLine ('\n' :: (settingsText rest).toList) =
          some (settingsText rest).toList := rfl
      have later := ih fuel (entries ++ [(key, settingValue setting)]) (by simpa using enough)
        bareRest (by simpa using distinct)
      obtain ⟨first, more, split, -⟩ := line_head bareKey setting (settingsText rest).toList
      have gaps := skip_gaps_line bareKey setting (settingsText rest).toList
      have statement := read_statement bareKey setting (settingsText rest).toList
      rw [split] at gaps statement
      rw [settings_text_cons, split, readDocument]
      simp only [gaps, statement, apply_entry fresh, finish, later]
      simp [settingEntries]

theorem length_le_settings_text (settings : List (String × Setting)) :
    settings.length ≤ (settingsText settings).toList.length := by
  induction settings with
  | nil => exact Nat.zero_le _
  | cons own rest ih =>
      have line : 1 ≤ (settingLine own.1 own.2).toList.length := by
        simp only [settingLine, String.toList_append, List.length_append]
        exact Nat.le_add_left 1 _
      rw [settings_text_cons, List.length_append, List.length_cons]
      omega

theorem parse_settings {settings : List (String × Setting)} (keyed : WellKeyed settings) :
    parse? (settingsText settings) = some (settingEntries settings) := by
  have noMark : dropOrderMark (settingsText settings).toList = (settingsText settings).toList := by
    cases settings with
    | nil => rfl
    | cons own rest =>
        obtain ⟨first, more, split, isKey⟩ := line_head (keyed.bare own List.mem_cons_self) own.2
          (settingsText rest).toList
        have notMark : first ≠ '\uFEFF' := ne_of_key_char isKey (by decide)
        rw [settings_text_cons, split, dropOrderMark, if_neg notMark]
  have document := read_settings_document settings ((settingsText settings).toList.length + 1) []
    (Nat.lt_succ_of_le (length_le_settings_text settings)) keyed.bare (by simpa using keyed.distinct)
  simp only [parse?, noMark, document]
  rfl

end ChatBlocks.SettingsText
