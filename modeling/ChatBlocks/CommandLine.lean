import ChatBlocks.Block.Json
import ChatBlocks.CommandLine.Arguments
import ChatBlocks.CommandLine.Help
import ChatBlocks.Config.File
import ChatBlocks.Input
import ChatBlocks.Token.Json

/-!
# The command line

A run is a function of the files, the environment, the arguments and the
standard input. It loads the configuration, reads the input and prints one
JSON text; blank input prints nothing. The first of these steps that fails
ends the run with code 1 and a message, and arguments that are not understood
end it with code 2.
-/

namespace ChatBlocks.CommandLine

structure Outcome where
  code : UInt8 := 0
  output : String := ""
  errors : String := ""
  deriving DecidableEq, Repr

inductive RunError where
  | config (error : ConfigError)
  | input (error : InputError)
  deriving DecidableEq, Repr

def joinMessages : List String → String
  | [] => ""
  | [text] => text
  | text :: next :: rest => text ++ ": " ++ joinMessages (next :: rest)

/-- The text of a failure: each error is followed by what caused it. -/
def RunError.message (error : RunError) (wording : ConfigFault → String) : String :=
  match error with
  | .config error => joinMessages ("loading configuration" :: error.messages wording)
  | .input error => joinMessages error.messages

def Invocation.loadConfig (invocation : Invocation) (files : Files) (environment : Environment) :
    Except RunError Config :=
  match Config.load files environment invocation.config with
  | .error error => .error (.config error)
  | .ok none => .ok {}
  | .ok (some config) => .ok config

def Invocation.readInput (invocation : Invocation) (files : Files) (standardInput : ByteArray) :
    Except RunError String :=
  let read :=
    match invocation.file with
    | some path => readInputFile files path
    | none => readInputBytes standardInput
  match read with
  | .error error => .error (.input error)
  | .ok markdown => .ok markdown

def Invocation.render (invocation : Invocation) (config : Config) (markdown : String) : String :=
  let pretty := config.pretty && !invocation.compact
  if invocation.tokens then
    tokensText pretty (config.converter.tokens markdown)
  else
    (config.converter.convert markdown).text pretty

def Invocation.print (invocation : Invocation) (files : Files) (environment : Environment)
    (standardInput : ByteArray) : Except RunError String := do
  let config ← invocation.loadConfig files environment
  let markdown ← invocation.readInput files standardInput
  if Text.isBlank markdown then .ok ""
  else .ok (invocation.render config markdown ++ "\n")

/-- A whole run at the default log level, at which nothing is logged: a level
asked for in the environment is left out, and so are the notes it would print
next to the errors. -/
def run (files : Files) (environment : Environment) (arguments : List String)
    (standardInput : ByteArray) (wording : ConfigFault → String := fun _ => "") : Outcome :=
  match readArguments arguments with
  | .error error => ⟨2, "", "error: " ++ error.message ++ "\n\n" ++ usageText⟩
  | .ok .help => ⟨0, helpText, ""⟩
  | .ok .version => ⟨0, versionText, ""⟩
  | .ok (.convert invocation) =>
      match invocation.print files environment standardInput with
      | .ok output => ⟨0, output, ""⟩
      | .error error => ⟨1, "", "Error: " ++ error.message wording ++ "\n"⟩

def pathsRead (environment : Environment) (arguments : List String) : List String :=
  match readArguments arguments with
  | .ok (.convert invocation) =>
      Config.loadPath environment invocation.config :: invocation.file.toList
  | _ => []

def variablesRead (arguments : List String) : List String :=
  match readArguments arguments with
  | .ok (.convert invocation) => "HOME" :: (invocation.config.toList.flatMap variableNames)
  | _ => []

def readsStandardInput (files : Files) (environment : Environment) (arguments : List String) :
    Bool :=
  match readArguments arguments with
  | .ok (.convert invocation) =>
      invocation.file.isNone && (invocation.loadConfig files environment).toOption.isSome
  | _ => false

end ChatBlocks.CommandLine
