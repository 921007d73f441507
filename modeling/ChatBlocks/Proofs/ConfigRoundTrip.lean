import ChatBlocks.Config.File
import ChatBlocks.Proofs.SavedFiles
import ChatBlocks.Proofs.SettingsText

/-!
# A configuration that was saved is loaded again

Nothing is lost whatever the bullet is, and a file that holds some of the
preferences as they are saved, in any order, is loaded with the defaults for
the others.
-/

namespace ChatBlocks.ConfigRoundTrip

open Toml
open SavedFiles (files_of_save save_refusal)
open SettingsText (IsBareKey WellKeyed settingValue settingEntries parse_settings)

/-- The preferences whose keys are kept, and the defaults for the others. -/
def withDefaults (keep : String → Bool) (config : Config) : Config where
  bullet := if keep "bullet" then config.bullet else ({} : Config).bullet
  headerEmoji := if keep "header_emoji" then config.headerEmoji else ({} : Config).headerEmoji
  imageBlocks := if keep "image_blocks" then config.imageBlocks else ({} : Config).imageBlocks
  pretty := if keep "pretty" then config.pretty else ({} : Config).pretty

theorem settings_well_keyed (config : Config) : WellKeyed config.settings where
  bare := by
    have keys : ∀ key ∈ ["bullet", "header_emoji", "image_blocks", "pretty"], IsBareKey key := by
      decide
    exact fun setting member => keys setting.1 (List.mem_map_of_mem (f := Prod.fst) member)
  distinct := by
    have distinct : ["bullet", "header_emoji", "image_blocks", "pretty"].Nodup := by decide
    exact distinct

variable {config : Config} {keep : String → Bool} {written : List (String × Setting)}

theorem kept_well_keyed
    (same : written.Perm (config.settings.filter fun setting => keep setting.1)) :
    WellKeyed written where
  bare setting member :=
    (settings_well_keyed config).bare setting (List.mem_filter.mp (same.mem_iff.mp member)).1
  distinct :=
    (same.map Prod.fst).nodup_iff.mpr
      ((settings_well_keyed config).distinct.sublist (List.filter_sublist.map Prod.fst))

theorem find_setting {settings : List (String × Setting)}
    (distinct : (settings.map Prod.fst).Nodup) {key : String} {setting : Setting}
    (member : (key, setting) ∈ settings) :
    (settingEntries settings).find? key = some (settingValue setting) := by
  induction settings with
  | nil => cases member
  | cons own rest ih =>
      obtain ⟨fresh, distinct⟩ := List.nodup_cons.mp distinct
      obtain rfl | later := List.mem_cons.mp member
      · simp [settingEntries, Entries.find?]
      · have other : own.1 ≠ key := by
          rintro rfl
          exact fresh (List.mem_map.mpr ⟨_, later, rfl⟩)
        have found := ih distinct later
        simpa [settingEntries, Entries.find?, other] using found

theorem find_missing {settings : List (String × Setting)} {key : String}
    (missing : ∀ setting, (key, setting) ∉ settings) :
    (settingEntries settings).find? key = none := by
  simp only [Entries.find?, settingEntries, Option.map_eq_none_iff, List.find?_eq_none,
    List.forall_mem_map, beq_iff_eq]
  rintro ⟨own, setting⟩ member rfl
  exact missing setting member

theorem find_kept (same : written.Perm (config.settings.filter fun setting => keep setting.1))
    {key : String} {setting : Setting} (own : (key, setting) ∈ config.settings) :
    (settingEntries written).find? key =
      if keep key then some (settingValue setting) else none := by
  split
  · rename_i kept
    exact find_setting (kept_well_keyed same).distinct
      (same.mem_iff.mpr (List.mem_filter.mpr ⟨own, kept⟩))
  · rename_i dropped
    refine find_missing fun other member => dropped ?_
    exact (List.mem_filter.mp (same.mem_iff.mp member)).2

theorem string_kept (same : written.Perm (config.settings.filter fun setting => keep setting.1))
    {key text : String} (own : (key, .string text) ∈ config.settings) (default : String) :
    Config.stringEntry? (settingEntries written) key default =
      some (if keep key then text else default) := by
  rw [Config.stringEntry?, find_kept same own]
  by_cases kept : keep key = true <;> simp [kept, settingValue]

theorem boolean_kept (same : written.Perm (config.settings.filter fun setting => keep setting.1))
    {key : String} {value : Bool} (own : (key, .boolean value) ∈ config.settings)
    (default : Bool) :
    Config.booleanEntry? (settingEntries written) key default =
      some (if keep key then value else default) := by
  rw [Config.booleanEntry?, find_kept same own]
  by_cases kept : keep key = true <;> simp [kept, settingValue]

theorem read_kept (same : written.Perm (config.settings.filter fun setting => keep setting.1)) :
    Config.read (settingsText written) = .ok (withDefaults keep config) := by
  have parsed := parse_settings (kept_well_keyed same)
  have bullet : ("bullet", .string config.bullet) ∈ config.settings := by simp [Config.settings]
  have headerEmoji : ("header_emoji", .boolean config.headerEmoji) ∈ config.settings := by
    simp [Config.settings]
  have imageBlocks : ("image_blocks", .boolean config.imageBlocks) ∈ config.settings := by
    simp [Config.settings]
  have pretty : ("pretty", .boolean config.pretty) ∈ config.settings := by simp [Config.settings]
  simp only [Config.read, parsed, Config.ofEntries?, string_kept same bullet,
    boolean_kept same headerEmoji, boolean_kept same imageBlocks, boolean_kept same pretty]
  rfl

theorem decode_written (text : String) : decodeText text.toUTF8 = .ok text := by
  have valid : String.fromUTF8? text.toUTF8 = some text := dif_pos text.isValidUTF8
  rw [decodeText, valid]

theorem load_kept (same : written.Perm (config.settings.filter fun setting => keep setting.1))
    {files : Files} {path : String}
    (holds : files path = some (.ok (settingsText written).toUTF8)) :
    Config.loadFrom files path = .ok (some (withDefaults keep config)) := by
  have decoded : files.readText? path = some (.ok (settingsText written)) := by
    simp only [Files.readText?, holds, Option.map_some, decode_written]
  simp only [Config.loadFrom, decoded, read_kept same]

theorem load_saved {files : Files} {path : String}
    (holds : files path = some (.ok config.text.toUTF8)) :
    Config.loadFrom files path = .ok (some config) := by
  have all : config.settings.filter (fun _ => true) = config.settings :=
    List.filter_eq_self.mpr fun _ _ => rfl
  have loaded : Config.loadFrom files path = .ok (some (withDefaults (fun _ => true) config)) :=
    load_kept (List.Perm.of_eq all.symm) holds
  exact loaded

/-- A configuration is loaded as it was saved from anything that holds the bytes
written, and a tree of files does: the path is either refused whatever is saved
there, or what is loaded from it is the configuration. A file that holds the
settings of some keys alone, in any order, has the defaults for the others. -/
theorem saved_configurations_load (config : Config) :
    (∀ (files : Files) (path : String), files path = some (.ok config.text.toUTF8) →
      Config.loadFrom files path = .ok (some config)) ∧
    (∀ (tree : FileTree) (path : String),
      match config.saveTo tree path with
      | .ok saved => Config.loadFrom saved.files path = .ok (some config)
      | .error refusal => ∀ content, tree.saveFile path content = .error refusal) ∧
    ∀ (keep : String → Bool) (written : List (String × Setting)) (files : Files) (path : String),
      written.Perm (config.settings.filter fun setting => keep setting.1) →
      files path = some (.ok (settingsText written).toUTF8) →
      Config.loadFrom files path = .ok (some (withDefaults keep config)) := by
  refine ⟨fun files path holds => load_saved holds, ?_, ?_⟩
  · intro tree path
    split
    · rename_i saved written
      exact load_saved (files_of_save written)
    · rename_i refusal refused
      exact save_refusal refused
  · intro keep written files path same holds
    exact load_kept same holds

/-- Read from its bytes; saved into a directory that is made for it; and read
from two of its lines, the last one first. -/
theorem quotes_and_control_load :
    let config : Config := ⟨"\x01'''\n\"\"\"\\", false, true, false⟩
    let whole : Files := fun _ => some (.ok config.text.toUTF8)
    let lines := [("pretty", Setting.boolean false), ("bullet", Setting.string config.bullet)]
    let part : Files := fun _ => some (.ok (settingsText lines).toUTF8)
    Config.loadFrom whole "config.toml" = .ok (some config) ∧
    (∃ saved, config.saveTo {} "nested/config.toml" = .ok saved ∧
      Config.loadFrom saved.files "nested/config.toml" = .ok (some config)) ∧
    Config.loadFrom part "config.toml" = .ok (some ⟨config.bullet, true, false, false⟩) := by
  intro config whole lines part
  have kept : lines.Perm (config.settings.filter fun setting =>
      ["bullet", "pretty"].contains setting.1) := by decide
  obtain ⟨bytes, saved, someLines⟩ := saved_configurations_load config
  exact ⟨bytes whole "config.toml" rfl, ⟨_, rfl, saved {} "nested/config.toml"⟩,
    someLines ["bullet", "pretty"].contains lines part "config.toml" kept rfl⟩

end ChatBlocks.ConfigRoundTrip
