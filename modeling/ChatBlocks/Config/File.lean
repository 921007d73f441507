import ChatBlocks.Config
import ChatBlocks.Environment
import ChatBlocks.FileTree

/-!
# Configuration files

A configuration is loaded from a path that was asked for, or from its place
below the home directory. Only the latter may be missing. Saving makes the
directories above the file first.
-/

namespace ChatBlocks

inductive ConfigError where
  | notFound (path : String)
  | unreadable (path : String) (fault : ReadFault)
  | unparsable (path : String) (fault : ConfigFault)
  deriving DecidableEq, Repr

namespace ConfigError

/-- The text of an error; without a wording, faults of a text stay unsaid. -/
def message (error : ConfigError) (wording : ConfigFault → String := fun _ => "") : String :=
  match error with
  | .notFound path => "Config file not found at " ++ path
  | .unreadable path fault => "Failed to read config file at " ++ path ++ ": " ++ fault.message
  | .unparsable path fault => "Failed to parse config file at " ++ path ++ ": " ++ wording fault

/-- The texts of an error and of what caused it. -/
def messages (error : ConfigError) (wording : ConfigFault → String) : List String :=
  match error with
  | .notFound _ => [error.message wording]
  | .unreadable _ fault => [error.message wording, fault.message]
  | .unparsable _ fault => [error.message wording, wording fault]

end ConfigError

namespace Config

/-- Loads the file at a path; none when nothing stands there. -/
def loadFrom (files : Files) (path : String) : Except ConfigError (Option Config) :=
  match files.readText? path with
  | none => .ok none
  | some (.error fault) => .error (.unreadable path fault)
  | some (.ok text) =>
      match read text with
      | .ok config => .ok (some config)
      | .error fault => .error (.unparsable path fault)

/-- Where the configuration is when no path is asked for. -/
def defaultPath (environment : Environment) : String :=
  environment.expandTilde "~/.config/md-blockkit" ++ "/config.toml"

def loadPath (environment : Environment) (requested : Option String) : String :=
  match requested with
  | some path => environment.expandPath path
  | none => defaultPath environment

/-- Loads the file that was asked for, or the one at the default path. -/
def load (files : Files) (environment : Environment) (requested : Option String) :
    Except ConfigError (Option Config) :=
  match loadFrom files (loadPath environment requested) with
  | .ok none =>
      if requested.isSome then .error (.notFound (loadPath environment requested)) else .ok none
  | loaded => loaded

def saveTo (config : Config) (tree : FileTree) (path : String) : Except SystemError FileTree :=
  tree.saveFile path config.text.toUTF8

end Config

end ChatBlocks
