import EventGraph.Preview.Launch

/-!
# The preview program

Looks up what the command line names, then prints what the launch comes to or plays the opened
story over standard input.
-/

namespace EventGraph.Preview

def refusalOf : IO.Error → Disk.Refusal
  | .noFileOrDirectory .. => .notFound
  | .inappropriateType .. => .notAFolder
  | _ => .deviceFailed

/-- What is at a path: a file, or a folder with its files. -/
def entryAt (path : String) : IO (Except Disk.Refusal Disk.Entry) := do
  let place := (← IO.currentDir) / path
  try
    if ← place.isDir then
      let mut entries : Disk.Folder := []
      for entry in ← place.readDir do
        let content : Disk.Entry ←
          if ← entry.path.isDir then pure (.folder [])
          else try pure (.file (← IO.FS.readBinFile entry.path)) catch _ => pure (.file .empty)
        entries := entries.put entry.fileName content
      return .ok (.folder entries)
    return .ok (.file (← IO.FS.readBinFile place))
  catch e => return .error (refusalOf e)

/-- Plays over standard input, writing as it goes on. -/
partial def playOn (story : Story Float32) (s : Playback.State) (input output : IO.FS.Stream) :
    IO Playback.State := do
  output.putStr (Playback.Session.shown story s)
  output.flush
  if (Playback.Session.ended? story s).isSome then return s
  let line ← input.getLine
  if line.isEmpty then return s
  match Playback.Session.respond story s line.toList with
  | none => return s
  | some (s, answer) =>
    output.putStr answer
    playOn story s input output

def writeLog (log : List LogEntry) : IO Unit := do
  for entry in log do
    IO.eprintln entry.written

end EventGraph.Preview

open EventGraph EventGraph.Preview in
def main (arguments : List String) : IO UInt32 := do
  let launched ← match Options.ofArguments arguments with
    | .error interruption => pure (Launch.ofInterruption interruption)
    | .ok o => pure (launch o (← entryAt o.configPath) (← entryAt o.directory))
  let output ← IO.getStdout
  match launched with
  | .closed exit text log =>
    writeLog log
    output.putStr text
    return exit.toUInt32
  | .opened o log =>
    writeLog log
    let s ← playOn o.story o.state (← IO.getStdin) output
    output.putStr (Playback.Session.storageLines s.storage)
    return 0
