import ChatBlocks.CommandLine.Arguments
import Mathlib.Data.List.TakeWhile

/-!
# The flags of a command line

In a command line that asks for a conversion, a flag is set exactly when it is
one of the arguments before the first `--`. Whatever stands between the flags,
no argument sets a flag that is not given and none takes one back.
-/

namespace ChatBlocks.CommandLine.GivenFlags

/-- What the arguments so far say of the later ones and of the flags. -/
structure Flags where
  filesOnly : Bool
  compact : Bool
  tokens : Bool

def Flags.of (state : ArgumentState) : Flags :=
  ⟨state.filesOnly, state.invocation.compact, state.invocation.tokens⟩

def Flags.take (flags : Flags) (argument : String) : Flags :=
  if flags.filesOnly then flags
  else if argument = "--" then { flags with filesOnly := true }
  else if argument = "--compact" then { flags with compact := true }
  else if argument = "--tokens" then { flags with tokens := true }
  else flags

theorem split_option_eq (option : List Char) :
    splitOption option =
      (String.ofList (option.takeWhile (· != '=')),
        match option.dropWhile (· != '=') with
        | [] => none
        | _ :: value => some (String.ofList value)) := by
  have rest := @List.drop_left _ (option.takeWhile (· != '=')) (option.dropWhile (· != '='))
  rw [List.takeWhile_append_dropWhile] at rest
  simp only [splitOption, rest]
  cases option.dropWhile (· != '=') <;> rfl

theorem split_option_eq_iff {word : String} (plain : '=' ∉ word.toList) (option : List Char) :
    splitOption option = (word, none) ↔ option = word.toList := by
  rw [split_option_eq]
  constructor
  · intro split
    obtain ⟨name, value⟩ := Prod.mk.inj split
    have nothing : option.dropWhile (· != '=') = [] := by
      cases rest : option.dropWhile (· != '=') with
      | nil => rfl
      | cons character value' => simp [rest] at value
    have cut := List.takeWhile_append_dropWhile (p := (· != '=')) (l := option)
    rw [nothing, List.append_nil] at cut
    rw [← name, String.toList_ofList, cut]
  · rintro rfl
    have inside : ∀ character ∈ word.toList, (character != '=') = true := by
      intro character member
      exact bne_iff_ne.mpr fun same => plain (same ▸ member)
    have whole : word.toList.takeWhile (· != '=') = word.toList :=
      List.takeWhile_eq_self_iff.mpr inside
    have nothing : word.toList.dropWhile (· != '=') = [] :=
      List.dropWhile_eq_nil_iff.mpr inside
    rw [whole, nothing, String.ofList_toList]

theorem long_argument_eq_iff {argument : String} {option : List Char}
    (shape : argument.toList = '-' :: '-' :: option) (word : String)
    (plain : '=' ∉ word.toList) :
    argument = "--" ++ word ↔ splitOption option = (word, none) := by
  rw [split_option_eq_iff plain, ← String.toList_inj, shape]
  simp

variable {state after : ArgumentState}

theorem set_config_keeps_flags {path : String} (set : state.setConfig path = .ok after) :
    Flags.of after = Flags.of state := by
  unfold ArgumentState.setConfig at set
  split at set
  · exact absurd set nofun
  · split at set
    · exact absurd set nofun
    · rw [← Except.ok.inj set]
      rfl

theorem settle_keeps_flags (settled : state.settle = .ok after) :
    Flags.of after = Flags.of state := by
  unfold ArgumentState.settle at settled
  dsimp only at settled
  split at settled
  · rw [Except.ok.inj settled]
  · exact absurd settled nofun
  · rw [set_config_keeps_flags settled]
    rfl
  · split at settled
    · exact absurd settled nofun
    · rw [← Except.ok.inj settled]
      rfl

theorem settled_first {Result : Type} {next : ArgumentState → Except UsageError Result}
    {result : Result} (taken : (state.settle >>= next) = .ok result) :
    ∃ settled, Flags.of settled = Flags.of state ∧ next settled = .ok result := by
  cases settled : state.settle with
  | error error => simp [settled, bind, Except.bind] at taken
  | ok checked =>
      rw [settled] at taken
      exact ⟨checked, settle_keeps_flags settled, taken⟩

theorem take_file_keeps_flags {path : String} (taken : state.takeFile path = .ok after) :
    Flags.of after = Flags.of state := by
  unfold ArgumentState.takeFile at taken
  split at taken
  · exact absurd taken nofun
  · obtain ⟨settled, same, stored⟩ := settled_first taken
    rw [← Except.ok.inj stored, ← same]
    rfl

theorem take_compact_sets (taken : state.takeCompact = .ok after) :
    Flags.of after = { Flags.of state with compact := true } := by
  obtain ⟨settled, same, stored⟩ := settled_first taken
  split at stored
  · exact absurd stored nofun
  · rw [← Except.ok.inj stored, ← same]
    rfl

theorem take_tokens_sets (taken : state.takeTokens = .ok after) :
    Flags.of after = { Flags.of state with tokens := true } := by
  obtain ⟨settled, same, stored⟩ := settled_first taken
  split at stored
  · exact absurd stored nofun
  · rw [← Except.ok.inj stored, ← same]
    rfl

theorem take_config_keeps_flags {value : Option String}
    (taken : state.takeConfig value = .ok after) : Flags.of after = Flags.of state := by
  obtain ⟨settled, same, stored⟩ := settled_first taken
  cases value with
  | some path => rw [set_config_keeps_flags stored, same]
  | none =>
      rw [← Except.ok.inj stored, ← same]
      rfl

/-- A step goes on with these flags, or ends the reading without asking for a
conversion. -/
def Leads (flags : Flags) : Step → Prop
  | .finished request => ∀ invocation, request ≠ .convert invocation
  | .next after => Flags.of after = flags

variable {flags : Flags} {step : Step} {result : Except UsageError ArgumentState}

theorem leads_next (known : ∀ {after}, result = .ok after → Flags.of after = flags)
    (taken : result.map .next = .ok step) : Leads flags step := by
  cases result with
  | error error => exact absurd taken nofun
  | ok after =>
      rw [← Except.ok.inj taken]
      exact known rfl

theorem leads_finished {request : Request} (other : ∀ invocation, request ≠ .convert invocation)
    (taken : (result.map fun _ => Step.finished request) = .ok step) : Leads flags step := by
  cases result with
  | error error => exact absurd taken nofun
  | ok state =>
      rw [← Except.ok.inj taken]
      exact other

theorem without_value_taken {name : String} {value : Option String}
    {take : Except UsageError Step} (taken : withoutValue name value take = .ok step) :
    value = none ∧ take = .ok step := by
  cases value with
  | none => exact ⟨rfl, taken⟩
  | some value => exact absurd taken nofun

theorem take_long_leads {name : String} {value : Option String}
    (taken : takeLong state name value = .ok step) :
    Leads
      (if (name, value) = ("compact", none) then { Flags.of state with compact := true }
      else if (name, value) = ("tokens", none) then { Flags.of state with tokens := true }
      else Flags.of state) step := by
  unfold takeLong at taken
  split at taken
  · rename_i compact
    obtain ⟨bare, taken⟩ := without_value_taken taken
    rw [if_pos (by rw [compact, bare])]
    exact leads_next take_compact_sets taken
  split at taken
  · rename_i other tokens
    obtain ⟨bare, taken⟩ := without_value_taken taken
    rw [if_neg (by simp [other]), if_pos (by rw [tokens, bare])]
    exact leads_next take_tokens_sets taken
  rename_i compact tokens
  rw [if_neg (by simp [compact]), if_neg (by simp [tokens])]
  split at taken
  · exact leads_next take_config_keeps_flags taken
  split at taken
  · exact leads_finished (by simp) (without_value_taken taken).2
  split at taken
  · exact leads_finished (by simp) (without_value_taken taken).2
  · exact absurd taken nofun

theorem take_short_leads {letter : Char} (taken : takeShort state letter = .ok step) :
    Leads flags step := by
  unfold takeShort at taken
  split at taken
  · exact leads_finished (by simp) taken
  split at taken
  · exact leads_finished (by simp) taken
  · exact absurd taken nofun

theorem take_argument_leads {argument : String}
    (taken : takeArgument state argument = .ok step) :
    Leads ((Flags.of state).take argument) step := by
  unfold takeArgument at taken
  split at taken
  · rename_i only
    have skipped : (Flags.of state).take argument = Flags.of state := if_pos only
    rw [skipped]
    exact leads_next take_file_keeps_flags taken
  rename_i mixed
  have read : (Flags.of state).take argument = _ := if_neg mixed
  rw [read]
  split at taken
  · rename_i shape
    have separator : argument = "--" := String.toList_inj.mp shape
    rw [if_pos separator, ← Except.ok.inj taken]
    rfl
  · rename_i option named shape
    have separator : argument ≠ "--" := by
      rintro rfl
      exact named (List.cons.inj (List.cons.inj shape).2).2.symm
    have compact : argument = "--compact" ↔ _ :=
      long_argument_eq_iff shape "compact" (by decide)
    have tokens : argument = "--tokens" ↔ _ :=
      long_argument_eq_iff shape "tokens" (by decide)
    simp only [if_neg separator, compact, tokens]
    exact take_long_leads taken
  · exact take_short_leads taken
  · rename_i not_separator not_long not_short
    have other : ∀ rest : List Char, argument.toList ≠ '-' :: '-' :: rest := by
      intro rest shape
      exact not_short '-' rest shape
    have separator : argument ≠ "--" := fun same => other [] (by rw [same]; rfl)
    have compact : argument ≠ "--compact" := fun same => other _ (by rw [same]; rfl)
    have tokens : argument ≠ "--tokens" := fun same => other _ (by rw [same]; rfl)
    rw [if_neg separator, if_neg compact, if_neg tokens]
    split at taken
    · rw [← Except.ok.inj taken]
      rfl
    · exact leads_next take_file_keeps_flags taken

theorem take_arguments_flags (arguments : List String) :
    ∀ {state : ArgumentState} {invocation : Invocation},
      takeArguments state arguments = .ok (.convert invocation) →
        (arguments.foldl Flags.take (Flags.of state)).compact = invocation.compact ∧
          (arguments.foldl Flags.take (Flags.of state)).tokens = invocation.tokens := by
  induction arguments with
  | nil =>
      intro state invocation taken
      unfold takeArguments at taken
      cases settled : state.settle with
      | error error => simp [settled, Except.map] at taken
      | ok checked =>
          simp only [settled, Except.map, Except.ok.injEq, Request.convert.injEq] at taken
          rw [List.foldl_nil, ← settle_keeps_flags settled, ← taken]
          exact ⟨rfl, rfl⟩
  | cons argument rest ih =>
      intro state invocation taken
      unfold takeArguments at taken
      split at taken
      · exact absurd taken nofun
      · rename_i request step
        exact absurd (Except.ok.inj taken) (take_argument_leads step invocation)
      · rename_i next step
        have flags : Flags.of next = _ := take_argument_leads step
        rw [List.foldl_cons, ← flags]
        exact ih taken

theorem take_files_only {flags : Flags} (only : flags.filesOnly = true) (arguments : List String) :
    arguments.foldl Flags.take flags = flags := by
  induction arguments with
  | nil => rfl
  | cons argument rest ih =>
      rw [List.foldl_cons, Flags.take, if_pos only]
      exact ih

def optionsOf (arguments : List String) : List String :=
  arguments.takeWhile (· ≠ "--")

theorem take_option {flags : Flags} (mixed : flags.filesOnly = false) {argument : String}
    (separator : argument ≠ "--") :
    flags.take argument =
      ⟨false, flags.compact || argument == "--compact", flags.tokens || argument == "--tokens"⟩ := by
  obtain ⟨filesOnly, compact, tokens⟩ := flags
  obtain rfl : filesOnly = false := mixed
  by_cases givenCompact : argument = "--compact"
  · simp [Flags.take, givenCompact]
  · by_cases givenTokens : argument = "--tokens"
    · simp [Flags.take, givenTokens]
    · simp [Flags.take, separator, givenCompact, givenTokens]

theorem take_flags (arguments : List String) : ∀ flags : Flags, flags.filesOnly = false →
    ((arguments.foldl Flags.take flags).compact = true ↔
      flags.compact = true ∨ "--compact" ∈ optionsOf arguments) ∧
    ((arguments.foldl Flags.take flags).tokens = true ↔
      flags.tokens = true ∨ "--tokens" ∈ optionsOf arguments) := by
  induction arguments with
  | nil =>
      intro flags _
      simp [optionsOf]
  | cons argument rest ih =>
      intro flags mixed
      rw [List.foldl_cons]
      by_cases separator : argument = "--"
      · have taken : flags.take argument = { flags with filesOnly := true } := by
          simp [Flags.take, mixed, separator]
        rw [taken, take_files_only rfl]
        simp [optionsOf, separator]
      · have later := ih (flags.take argument) (by rw [take_option mixed separator])
        have options : optionsOf (argument :: rest) = argument :: optionsOf rest := by
          simp [optionsOf, separator]
        rw [later.1, later.2, options, take_option mixed separator]
        simp only [Bool.or_eq_true, beq_iff_eq, List.mem_cons, or_assoc, eq_comm (a := argument),
          and_self]

theorem flags_given_iff {arguments : List String} {invocation : Invocation}
    (read : readArguments arguments = .ok (.convert invocation)) :
    (invocation.compact = true ↔ "--compact" ∈ optionsOf arguments) ∧
      (invocation.tokens = true ↔ "--tokens" ∈ optionsOf arguments) := by
  obtain ⟨compact, tokens⟩ := take_arguments_flags arguments read
  have given := take_flags arguments (Flags.of {}) rfl
  rw [compact, tokens] at given
  simpa [Flags.of] using given

end ChatBlocks.CommandLine.GivenFlags
