import ChatBlocks.CommandLine

/-!
# The program

Looks up what a run may read, carries the run out and prints its outcome.
-/

namespace ChatBlocks.Main

/-- The system's code for a directory that was read as a file. -/
def isADirectoryCode : UInt32 := 21

def lookUp (path : String) : IO (Option (Except SystemError ByteArray)) := do
  try
    let content ← IO.FS.readBinFile path
    pure (some (.ok content))
  catch
    | .noFileOrDirectory .. => pure none
    | .inappropriateType _ code _ =>
        -- Otherwise the path leads through a file, so nothing stands there.
        if code == isADirectoryCode then pure (some (.error .isADirectory)) else pure none
    | .permissionDenied .. => pure (some (.error .permissionDenied))
    | error => pure (some (.error (.other (toString error))))

def lookUpAll (paths : List String) : IO Files := do
  let found ← paths.mapM fun path => do
    pure (path, ← lookUp path)
  pure fun path => (found.find? fun entry => entry.1 == path).bind Prod.snd

def lookUpEnvironment (names : List String) : IO Environment := do
  let values ← names.filterMapM fun name => do
    pure ((← IO.getEnv name).map fun value => (name, value))
  pure ⟨values, none⟩

partial def readAll (stream : IO.FS.Stream) (content : ByteArray) : IO ByteArray := do
  let part ← stream.read 65536
  if part.isEmpty then
    pure content
  else
    readAll stream (content ++ part)

def program (arguments : List String) : IO UInt32 := do
  let environment ← lookUpEnvironment (CommandLine.variablesRead arguments)
  let files ← lookUpAll (CommandLine.pathsRead environment arguments)
  let input ←
    if CommandLine.readsStandardInput files environment arguments then
      readAll (← IO.getStdin) ByteArray.empty
    else
      pure ByteArray.empty
  let outcome := CommandLine.run files environment arguments input
  (← IO.getStdout).putStr outcome.output
  (← IO.getStderr).putStr outcome.errors
  pure outcome.code.toUInt32

end ChatBlocks.Main

def main (arguments : List String) : IO UInt32 :=
  ChatBlocks.Main.program arguments
