import Flowchart.Command

/-!
# Command line

Runs the command with the process arguments: looks up the paths the command line names, reads
the chart text from standard input when no file is named, and writes what the run produces to
standard output, standard error and the output file.
-/

namespace Flowchart

partial def readAll (stream : IO.FS.Stream) (acc : String) : IO String := do
  let line ← stream.getLine
  if line.isEmpty then return acc else readAll stream (acc ++ line)

/-- What a path names on this machine, found by reading it. -/
def probe (path : String) : IO (Except FileError Entry) := do
  try
    let contents ← IO.FS.readFile path
    return .ok (.file contents)
  catch e =>
    return match e with
      | .inappropriateType _ 21 _ => .ok .directory
      | .inappropriateType _ 20 _ => .error .notDirectory
      | _ => .error .noEntry

end Flowchart

def main (args : List String) : IO UInt32 := do
  let probed ← (Flowchart.Command.paths args).mapM fun path => do
    return (path, ← Flowchart.probe path)
  let files := Flowchart.Files.ofList probed
  let readsInput := match Flowchart.Options.read files args with
    | .ok o => o.input.isNone
    | .error _ => false
  let input ← if readsInput then Flowchart.readAll (← IO.getStdin) "" else pure ""
  let stdout ← IO.getStdout
  let stderr ← IO.getStderr
  match Flowchart.Command.run files args input with
  | .error fault =>
    stderr.putStrLn (fault.kind ++ ": " ++ fault.message)
    stderr.flush
    return 1
  | .ok outcome =>
    match outcome.saved with
    | some (path, text) => IO.FS.writeFile path text
    | none => pure ()
    stdout.putStr outcome.stdout
    stdout.flush
    stderr.putStr outcome.stderr
    stderr.flush
    return outcome.exitCode.toUInt32
