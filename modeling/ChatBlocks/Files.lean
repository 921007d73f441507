/-!
# Reading files

A program that only reads sees the file system as a function: what stands at a
path. A text is read by decoding all bytes of a file as UTF-8.
-/

namespace ChatBlocks

inductive SystemError where
  | noSuchFile
  | permissionDenied
  | fileExists
  | notADirectory
  | isADirectory
  | other (text : String)
  deriving DecidableEq, Repr

def SystemError.message : SystemError → String
  | .noSuchFile => "No such file or directory (os error 2)"
  | .permissionDenied => "Permission denied (os error 13)"
  | .fileExists => "File exists (os error 17)"
  | .notADirectory => "Not a directory (os error 20)"
  | .isADirectory => "Is a directory (os error 21)"
  | .other text => text

inductive ReadFault where
  | refused (error : SystemError)
  | notUnicode
  deriving DecidableEq, Repr

def ReadFault.message : ReadFault → String
  | .refused error => error.message
  | .notUnicode => "stream did not contain valid UTF-8"

/-- What stands at a path: nothing, something that cannot be read, or bytes. -/
abbrev Files := String → Option (Except SystemError ByteArray)

def decodeText (bytes : ByteArray) : Except ReadFault String :=
  match String.fromUTF8? bytes with
  | some text => .ok text
  | none => .error .notUnicode

/-- The text of the file at a path, if anything stands there. -/
def Files.readText? (files : Files) (path : String) : Option (Except ReadFault String) :=
  (files path).map fun content =>
    match content with
    | .error error => .error (.refused error)
    | .ok bytes => decodeText bytes

end ChatBlocks
