/-!
# Arguments

At most one file is named, and each option is given at most once. An option
that takes a value has it after an equals sign or as the next argument, which
must not look like an option itself. After `--` every argument is a file, and
a single `-` is one too. Options are taken in order, so a request for help
wins over every later mistake.

A value is checked when the next argument that is understood is taken, or at
the end; an argument that is not understood is reported before that.
-/

namespace ChatBlocks.CommandLine

structure Invocation where
  /-- The Markdown file; standard input when there is none. -/
  file : Option String := none
  /-- Whether JSON is laid out on one line in any case. -/
  compact : Bool := false
  config : Option String := none
  /-- Whether tokens are printed in place of blocks. -/
  tokens : Bool := false
  deriving DecidableEq, Repr

inductive Request where
  | help
  | version
  | convert (invocation : Invocation)
  deriving DecidableEq, Repr

inductive UsageError where
  | unexpectedArgument (argument : String)
  | unexpectedValue (value option : String)
  | missingValue (name : String)
  | repeated (name : String)
  deriving DecidableEq, Repr

def UsageError.message : UsageError → String
  | .unexpectedArgument argument => "unexpected argument '" ++ argument ++ "' found"
  | .unexpectedValue value option =>
      "unexpected value '" ++ value ++ "' for '" ++ option ++ "' found; no more were expected"
  | .missingValue name => "a value is required for '" ++ name ++ "' but none was supplied"
  | .repeated name => "the argument '" ++ name ++ "' cannot be used multiple times"

def fileName : String := "[FILE]"

def configName : String := "--config <PATH>"

/-- A value that was taken and is not checked yet. -/
inductive Pending where
  | none
  /-- The configuration option, whose value is still to come. -/
  | configOption
  | configValue (path : String)
  | file (path : String)
  deriving DecidableEq, Repr

structure ArgumentState where
  invocation : Invocation := {}
  pending : Pending := .none
  hasFile : Bool := false
  /-- Whether only files may follow. -/
  filesOnly : Bool := false
  deriving DecidableEq, Repr

namespace ArgumentState

def setConfig (state : ArgumentState) (path : String) : Except UsageError ArgumentState :=
  if state.invocation.config.isSome then .error (.repeated configName)
  else if path.isEmpty then .error (.missingValue configName)
  else .ok { state with invocation := { state.invocation with config := some path } }

def settle (state : ArgumentState) : Except UsageError ArgumentState :=
  let cleared := { state with pending := .none }
  match state.pending with
  | .none => .ok state
  | .configOption => .error (.missingValue configName)
  | .configValue path => cleared.setConfig path
  | .file path =>
      if path.isEmpty then .error (.missingValue fileName)
      else .ok { cleared with invocation := { state.invocation with file := some path } }

def takeFile (state : ArgumentState) (path : String) : Except UsageError ArgumentState :=
  if state.hasFile then
    .error (.unexpectedArgument path)
  else do
    let state ← state.settle
    .ok { state with pending := .file path, hasFile := true }

def takeCompact (state : ArgumentState) : Except UsageError ArgumentState := do
  let state ← state.settle
  if state.invocation.compact then .error (.repeated "--compact")
  else .ok { state with invocation := { state.invocation with compact := true } }

def takeTokens (state : ArgumentState) : Except UsageError ArgumentState := do
  let state ← state.settle
  if state.invocation.tokens then .error (.repeated "--tokens")
  else .ok { state with invocation := { state.invocation with tokens := true } }

/-- Takes the configuration option, with its value if it has one already. -/
def takeConfig (state : ArgumentState) (value : Option String) :
    Except UsageError ArgumentState := do
  let state ← state.settle
  match value with
  | some path => state.setConfig path
  | none => .ok { state with pending := .configOption }

end ArgumentState

/-- What one argument leads to: the end, with an answer, or a next state. -/
inductive Step where
  | finished (request : Request)
  | next (state : ArgumentState)

def withoutValue (name : String) (value : Option String) (take : Except UsageError Step) :
    Except UsageError Step :=
  match value with
  | some value => .error (.unexpectedValue value name)
  | none => take

def takeLong (state : ArgumentState) (name : String) (value : Option String) :
    Except UsageError Step :=
  if name = "compact" then
    withoutValue "--compact" value (state.takeCompact.map .next)
  else if name = "tokens" then
    withoutValue "--tokens" value (state.takeTokens.map .next)
  else if name = "config" then
    (state.takeConfig value).map .next
  else if name = "help" then
    withoutValue "--help" value (state.settle.map fun _ => .finished .help)
  else if name = "version" then
    withoutValue "--version" value (state.settle.map fun _ => .finished .version)
  else
    .error (.unexpectedArgument ("--" ++ name))

/-- Takes an option of one letter; it ends the reading, whatever else stands
in the same argument. -/
def takeShort (state : ArgumentState) (letter : Char) : Except UsageError Step :=
  if letter = 'h' then state.settle.map fun _ => .finished .help
  else if letter = 'V' then state.settle.map fun _ => .finished .version
  else .error (.unexpectedArgument (String.ofList ['-', letter]))

def splitOption (option : List Char) : String × Option String :=
  let name := option.takeWhile (· != '=')
  match option.drop name.length with
  | [] => (String.ofList name, none)
  | _ :: value => (String.ofList name, some (String.ofList value))

def takeArgument (state : ArgumentState) (argument : String) : Except UsageError Step :=
  if state.filesOnly then
    (state.takeFile argument).map .next
  else
    match argument.toList with
    | ['-', '-'] => .ok (.next { state with filesOnly := true })
    | '-' :: '-' :: option =>
        let (name, value) := splitOption option
        takeLong state name value
    | '-' :: letter :: _ => takeShort state letter
    | _ =>
        if state.pending = .configOption then
          .ok (.next { state with pending := .configValue argument })
        else
          (state.takeFile argument).map .next

def takeArguments : ArgumentState → List String → Except UsageError Request
  | state, [] => state.settle.map fun state => .convert state.invocation
  | state, argument :: rest =>
      match takeArgument state argument with
      | .error error => .error error
      | .ok (.finished request) => .ok request
      | .ok (.next state) => takeArguments state rest

def readArguments (arguments : List String) : Except UsageError Request :=
  takeArguments {} arguments

end ChatBlocks.CommandLine
