import ChatBlocks.Text.Alphanumeric

/-!
# Environment and path expansion

A path may name environment variables and may start with the home directory.
A variable is written `$NAME`, `${NAME}` or `${NAME:-default}`; two dollar signs
stand for one, and any other dollar sign stands for itself. A value that is put
in is not expanded again, and a tilde that comes out of one keeps its place.
-/

namespace ChatBlocks

/-- What a process knows of its surroundings. -/
structure Environment where
  /-- The values of the variables that are set, each name once. -/
  values : List (String × String) := []
  /-- The home directory in the account database. -/
  accountHome : Option String := none

namespace Environment

def lookup? (environment : Environment) (name : String) : Option String :=
  (environment.values.find? fun entry => entry.1 == name).map Prod.snd

def set (environment : Environment) (name value : String) : Environment :=
  { environment with
    values := (name, value) :: environment.values.filter fun entry => entry.1 != name }

/-- The home directory: the variable `HOME`, or the account's if that is unset
or empty. -/
def home? (environment : Environment) : Option String :=
  match environment.lookup? "HOME" with
  | some home => if home.isEmpty then environment.accountHome else some home
  | none => environment.accountHome

end Environment

inductive PathPart where
  | literal (text : String)
  | variable (name : String)
  /-- A variable in braces, with its default and as it is written. -/
  | braced (name : String) (default : Option String) (written : String)
  deriving DecidableEq, Repr

def isVariableChar (character : Char) : Bool :=
  Text.isAlphanumeric character || character == '_'

/-- Cuts the text between braces at the first `:-`. A cut that would leave no
name is not made. -/
def splitDefault (inside : List Char) : List Char × Option (List Char) :=
  let rec go : List Char → List Char → List Char × Option (List Char)
    | before, ':' :: '-' :: rest => (before.reverse, some rest)
    | before, character :: rest => go (character :: before) rest
    | _, [] => (inside, none)
  match go [] inside with
  | ([], some _) => (inside, none)
  | split => split

def readPathPart (rest : List Char) : PathPart × List Char :=
  match rest with
  | '$' :: rest => (.literal "$", rest)
  | '\x7b' :: more =>
      let inside := more.takeWhile (· != '\x7d')
      match more.drop inside.length with
      | [] => (.literal "$\x7b", more)
      | _ :: rest =>
          let (name, default) := splitDefault inside
          (.braced (String.ofList name) (default.map String.ofList)
            ("$\x7b" ++ String.ofList inside ++ "\x7d"), rest)
  | _ =>
      let name := rest.takeWhile isVariableChar
      if name.isEmpty then (.literal "$", rest)
      else (.variable (String.ofList name), rest.drop name.length)

/-- Reads the parts of a path; the fuel bounds their number. -/
def readPathParts : Nat → List Char → List PathPart
  | 0, _ => []
  | _ + 1, [] => []
  | fuel + 1, character :: rest =>
      if character = '$' then
        let (part, rest) := readPathPart rest
        part :: readPathParts fuel rest
      else
        let text := (character :: rest).takeWhile (· != '$')
        .literal (String.ofList text) :: readPathParts fuel ((character :: rest).drop text.length)

def pathParts (path : String) : List PathPart :=
  readPathParts (path.toList.length + 1) path.toList

def variableNames (path : String) : List String :=
  (pathParts path).filterMap fun part =>
    match part with
    | .literal _ => none
    | .variable name => some name
    | .braced name _ _ => some name

namespace Environment

/-- The text of one part. A variable that is not set has none, unless it has a
default. A variable in braces that is empty counts as not set when there is a
default, and is left as it is written otherwise. -/
def expandPart? (environment : Environment) : PathPart → Option String
  | .literal text => some text
  | .variable name => environment.lookup? name
  | .braced name default written =>
      match environment.lookup? name with
      | some value => some (if value.isEmpty then default.getD written else value)
      | none => default

def expandParts? (environment : Environment) : List PathPart → Option String
  | [] => some ""
  | part :: rest => do
      let text ← environment.expandPart? part
      let more ← environment.expandParts? rest
      some (text ++ more)

/-- Puts the home directory in the place of a leading tilde that stands alone
or before a slash. -/
def expandTilde (environment : Environment) (path : String) : String :=
  match path.toList with
  | '~' :: rest =>
      if rest.isEmpty ∨ rest.head? = some '/' then
        match environment.home? with
        | some home => home ++ String.ofList rest
        | none => path
      else
        path
  | _ => path

def startsWithTilde (path : String) : Bool :=
  path.toList.head? == some '~'

/-- A path with its variables and its tilde expanded. A path that mentions a
variable without a value is left as it is. -/
def expandPath (environment : Environment) (path : String) : String :=
  match environment.expandParts? (pathParts path) with
  | none => path
  | some expanded =>
      if !startsWithTilde path && startsWithTilde expanded then
        expanded
      else
        environment.expandTilde expanded

end Environment

end ChatBlocks
