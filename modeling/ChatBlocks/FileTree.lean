import ChatBlocks.Files

/-!
# File trees

A file tree holds directories and files under absolute paths. A path text is
followed from the root or from the working directory, one part after another;
every part but the last has to be a directory.
-/

namespace ChatBlocks

inductive TreeEntry where
  | directory
  | file (content : ByteArray)

/-- Absolute places and what stands there. The root is a directory. -/
structure FileTree where
  workingDirectory : List String := []
  entries : List (List String × TreeEntry) := []

def splitPath : List Char → List (List Char)
  | [] => [[]]
  | character :: rest =>
      if character = '/' then
        [] :: splitPath rest
      else
        match splitPath rest with
        | [] => [[character]]
        | part :: parts => (character :: part) :: parts

def isAbsolutePath (path : String) : Bool :=
  path.toList.head? == some '/'

def endsInSlash (path : String) : Bool :=
  path.toList.getLast? == some '/'

/-- The parts of a path text; a slash at the end stands before a dot. -/
def partsOfPath (path : String) : List String :=
  let parts := ((splitPath path.toList).filter fun part => !part.isEmpty).map String.ofList
  if endsInSlash path then parts ++ ["."] else parts

namespace FileTree

def entry? (tree : FileTree) (place : List String) : Option TreeEntry :=
  match place with
  | [] => some .directory
  | _ => (tree.entries.find? fun entry => entry.1 == place).map Prod.snd

def put (tree : FileTree) (place : List String) (entry : TreeEntry) : FileTree :=
  { tree with entries := (tree.entries.filter fun other => other.1 != place) ++ [(place, entry)] }

/-- Follows parts from a place. The last one need not stand there. -/
def follow (tree : FileTree) : List String → List String → Except SystemError (List String)
  | place, [] => .ok place
  | place, part :: rest =>
      match tree.entry? place with
      | none => .error .noSuchFile
      | some (.file _) => .error .notADirectory
      | some .directory =>
          if part = "." then tree.follow place rest
          else if part = ".." then tree.follow place.dropLast rest
          else tree.follow (place ++ [part]) rest

def startOf (tree : FileTree) (path : String) : List String :=
  if isAbsolutePath path then [] else tree.workingDirectory

def locate (tree : FileTree) (path : String) : Except SystemError (List String) :=
  if path.isEmpty then .error .noSuchFile
  else tree.follow (tree.startOf path) (partsOfPath path)

def files (tree : FileTree) : Files := fun path =>
  match tree.locate path with
  | .error _ => none
  | .ok place =>
      match tree.entry? place with
      | none => none
      | some .directory => some (.error .isADirectory)
      | some (.file content) => some (.ok content)

def makeDirectories (tree : FileTree) : List String → List String → Except SystemError FileTree
  | _, [] => .ok tree
  | place, part :: rest =>
      if part = "." then
        tree.makeDirectories place rest
      else if part = ".." then
        tree.makeDirectories place.dropLast rest
      else
        let next := place ++ [part]
        match tree.entry? next with
        | some .directory => tree.makeDirectories next rest
        | some (.file _) => .error (if rest.isEmpty then .fileExists else .notADirectory)
        | none => (tree.put next .directory).makeDirectories next rest

def makeDirectory (tree : FileTree) (path : String) : Except SystemError FileTree :=
  tree.makeDirectories (tree.startOf path) (partsOfPath path)

def writeFile (tree : FileTree) (path : String) (content : ByteArray) :
    Except SystemError FileTree := do
  let parts := partsOfPath path
  match parts.getLast? with
  | none => if isAbsolutePath path then .error .isADirectory else .error .noSuchFile
  | some name =>
      let directory ← tree.follow (tree.startOf path) parts.dropLast
      match tree.entry? directory with
      | none => .error .noSuchFile
      | some (.file _) => .error .notADirectory
      | some .directory =>
          if name = "." ∨ name = ".." then
            .error .isADirectory
          else
            let place := directory ++ [name]
            match tree.entry? place with
            | some .directory => .error .isADirectory
            | _ => .ok (tree.put place (.file content))

/-- Writes a file, and makes the directories above it first. -/
def saveFile (tree : FileTree) (path : String) (content : ByteArray) :
    Except SystemError FileTree := do
  let parts := (partsOfPath path).filter (· != ".")
  let tree ← tree.makeDirectories (tree.startOf path) parts.dropLast
  tree.writeFile path content

/-- Removes what stands at a path, with all that is below it. -/
def remove (tree : FileTree) (path : String) : FileTree :=
  match tree.locate path with
  | .error _ => tree
  | .ok place => { tree with entries := tree.entries.filter fun entry => !place.isPrefixOf entry.1 }

end FileTree

end ChatBlocks
