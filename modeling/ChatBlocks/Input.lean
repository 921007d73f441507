import ChatBlocks.Files

/-!
# Input

Markdown is read from a file, or from bytes that were read elsewhere.
-/

namespace ChatBlocks

inductive InputError where
  | notFound (path : String)
  | unreadable (fault : ReadFault)
  deriving DecidableEq, Repr

namespace InputError

def message : InputError → String
  | .notFound path => "File not found at " ++ path
  | .unreadable fault => "IO error: " ++ fault.message

def messages : InputError → List String
  | .notFound path => [(notFound path).message]
  | .unreadable fault => [(unreadable fault).message, fault.message]

end InputError

def readInputBytes (bytes : ByteArray) : Except InputError String :=
  match decodeText bytes with
  | .ok text => .ok text
  | .error fault => .error (.unreadable fault)

def readInputFile (files : Files) (path : String) : Except InputError String :=
  match files.readText? path with
  | none => .error (.notFound path)
  | some (.ok text) => .ok text
  | some (.error fault) => .error (.unreadable fault)

end ChatBlocks
