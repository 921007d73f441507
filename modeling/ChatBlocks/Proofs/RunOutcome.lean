import ChatBlocks.CommandLine
import ChatBlocks.Proofs.GivenFlags
import ChatBlocks.Proofs.JsonText
import ChatBlocks.Proofs.MessageRoundTrip
import ChatBlocks.Proofs.TokenRoundTrip

/-!
# How a conversion run ends

The configuration is loaded before the input is read, and nothing is printed
before both are there. So a run has one of three endings: the configuration
fails, the input fails, or the run succeeds and prints what the configuration
and the flags say of the input.
-/

namespace ChatBlocks.CommandLine.RunOutcome

open Json GivenFlags

variable {files : Files} {environment : Environment} {arguments : List String}
  {standardInput : ByteArray} {invocation : Invocation} {wording : ConfigFault → String}

def valueOf (config : Config) (arguments : List String) (markdown : String) : Value :=
  if "--tokens" ∈ optionsOf arguments then
    .array (tokensToJson (config.converter.tokens markdown))
  else
    (config.converter.convert markdown).toJson

/-- The text that is written for an input, but for the newline behind it. -/
structure OneText (config : Config) (arguments : List String) (markdown text : String) :
    Prop where
  encodes : text = (valueOf config arguments markdown).text
    (config.pretty && !decide ("--compact" ∈ optionsOf arguments))
  parses : parseWithin? (valueOf config arguments markdown).depth text =
    some (valueOf config arguments markdown)
  reads_back : "--tokens" ∉ optionsOf arguments →
    Message.read text = .ok (config.converter.convert markdown)
  single_line : "--compact" ∈ optionsOf arguments ∨ config.pretty = false → '\n' ∉ text.toList

theorem value_fits (config : Config) (arguments : List String) (markdown : String) :
    JsonReading.numbersFit (valueOf config arguments markdown) := by
  unfold valueOf
  split
  · exact TokenRoundTrip.tokens_fit (config.converter.tokens markdown)
  · exact MessageRoundTrip.message_fits (config.converter.convert markdown)

theorem render_eq (accepted : readArguments arguments = .ok (.convert invocation))
    (config : Config) (markdown : String) :
    invocation.render config markdown = (valueOf config arguments markdown).text
      (config.pretty && !decide ("--compact" ∈ optionsOf arguments)) := by
  obtain ⟨compact, tokens⟩ := flags_given_iff accepted
  have layout : decide ("--compact" ∈ optionsOf arguments) = invocation.compact := by
    simp only [← compact, Bool.decide_eq_true]
  rw [layout]
  unfold Invocation.render valueOf
  simp only [← tokens]
  split <;> rfl

theorem render_one_text (accepted : readArguments arguments = .ok (.convert invocation))
    (config : Config) (markdown : String) :
    OneText config arguments markdown (invocation.render config markdown) := by
  have encodes := render_eq accepted config markdown
  constructor
  case encodes => exact encodes
  case parses =>
    rw [encodes]
    exact JsonText.parse_text _ _ (value_fits config arguments markdown)
  case reads_back =>
    intro blocks
    rw [encodes, valueOf, if_neg blocks]
    exact MessageRoundTrip.read_message _ (config.converter.convert markdown)
  case single_line =>
    intro one_line
    have layout : (config.pretty && !decide ("--compact" ∈ optionsOf arguments)) = false := by
      rcases one_line with compact | plain
      · simp [compact]
      · simp [plain]
    rw [encodes, layout]
    exact JsonText.compact_text_single_line (valueOf config arguments markdown)

inductive Ending (files : Files) (environment : Environment) (invocation : Invocation)
    (standardInput : ByteArray) : Except RunError String → Prop
  | configFails (error : ConfigError)
      (failed : Config.load files environment invocation.config = .error error) :
      Ending files environment invocation standardInput (.error (.config error))
  | inputFails (loaded : Option Config) (error : RunError)
      (config : Config.load files environment invocation.config = .ok loaded)
      (failed : invocation.readInput files standardInput = .error error) :
      Ending files environment invocation standardInput (.error error)
  | prints (loaded : Option Config) (markdown : String)
      (config : Config.load files environment invocation.config = .ok loaded)
      (input : invocation.readInput files standardInput = .ok markdown) :
      Ending files environment invocation standardInput
        (.ok (if Text.isBlank markdown then ""
          else invocation.render (loaded.getD {}) markdown ++ "\n"))

theorem load_config_eq :
    invocation.loadConfig files environment =
      match Config.load files environment invocation.config with
      | .error error => .error (.config error)
      | .ok loaded => .ok (loaded.getD {}) := by
  unfold Invocation.loadConfig
  cases Config.load files environment invocation.config with
  | error error => rfl
  | ok loaded => cases loaded <;> rfl

theorem print_ending :
    Ending files environment invocation standardInput
      (invocation.print files environment standardInput) := by
  unfold Invocation.print
  rw [load_config_eq]
  cases config : Config.load files environment invocation.config with
  | error error => exact .configFails error config
  | ok loaded =>
      cases input : invocation.readInput files standardInput with
      | error error => exact .inputFails loaded error config input
      | ok markdown =>
          have ending := Ending.prints loaded markdown config input
          rwa [apply_ite Except.ok] at ending

theorem run_of_printed (accepted : readArguments arguments = .ok (.convert invocation))
    {output : String} (printed : invocation.print files environment standardInput = .ok output) :
    run files environment arguments standardInput wording = ⟨0, output, ""⟩ := by
  simp only [run, accepted, printed]

theorem run_of_failed (accepted : readArguments arguments = .ok (.convert invocation))
    {error : RunError} (failed : invocation.print files environment standardInput = .error error) :
    run files environment arguments standardInput wording =
      ⟨1, "", "Error: " ++ error.message wording ++ "\n"⟩ := by
  simp only [run, accepted, failed]

theorem printed_empty_iff (blank : Bool) (text : String) :
    (if blank then "" else text ++ "\n") = "" ↔ blank = true := by
  cases blank with
  | true => simp
  | false =>
      have characters : (text ++ "\n").toList ≠ [] := by simp
      exact ⟨fun empty => absurd (congrArg String.toList empty) characters, nofun⟩

def prettyConfig (path : String) : Option (Except SystemError ByteArray) :=
  if path = "c.toml" then some (.ok "pretty = true".toUTF8) else none

def compactArguments : List String := ["--compact", "--config", "c.toml"]

def compactInvocation : Invocation := { compact := true, config := some "c.toml" }

end ChatBlocks.CommandLine.RunOutcome
