import MiniLisp.Console.Session
import MiniLisp.Terminal.CommandLine
import MiniLisp.Terminal.Piped
import MiniLisp.Terminal.Typed

/-!
# The program

The program is run on a world that is made of the bytes on its input and of the file of its
history.  What it has then written is put out, and the file is written if it has changed.
-/

namespace MiniLisp

namespace Program

def readFile? (path : String) : IO (Option String) := do
  try
    return some (← IO.FS.readFile path)
  catch _ =>
    return none

/-- Write a file.  Not being able to is worth a warning only. -/
def writeFile (path content : String) : IO Unit := do
  try
    IO.FS.writeFile path content
  catch error =>
    IO.eprintln ("failed to save history: " ++ toString error)

def perform (arguments : Arguments) : IO UInt32 := do
  let home := (← IO.getEnv "HOME").filter (· ≠ "")
  let path := arguments.historyPath home
  let before ← path.mapM readFile?
  let input ←
    if arguments.words.isEmpty then (← IO.getStdin).readBinToEnd else pure ByteArray.empty
  let files := path.bind fun path => before.join.map fun content => (path, content)
  let world : Piped TypedText.ofLine? := .begin (InputLine.all input.data.toList) files.toList
  let (result, world) := run arguments home world
  IO.print world.output
  if let some path := path then
    if let some content := world.files.lookup path then
      if some content ≠ before.join then writeFile path content
  if let .error cause := result then
    IO.eprintln ("Error: " ++ cause)
  return (world.exitCode result).toUInt32

end Program

end MiniLisp

def main (arguments : List String) : IO UInt32 :=
  match MiniLisp.Invocation.ofCommandLine arguments with
  | .run arguments => MiniLisp.Program.perform arguments
  | .tellVersion => do
    IO.print MiniLisp.Invocation.versionText
    return 0
  | .tellUsage => do
    IO.print MiniLisp.Invocation.usageText
    return 0
  | .misuse => do
    IO.eprintln MiniLisp.Invocation.usageText
    return MiniLisp.Invocation.misuseCode.toUInt32
