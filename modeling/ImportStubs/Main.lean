import ImportStubs.Command

/-!
# Running the command

The outer layer reads the files that the arguments and the settings name, runs the command on them,
writes the log, and prints.
-/

namespace ImportStubs.Command

def failureOf : IO.Error → Source.Failure
  | .inappropriateType none _ _ => .directory
  | .inappropriateType (some _) _ _ => .throughFile
  | .invalidArgument .. => .nameTooLong
  | _ => .missing

def sourceAt (path : Text) : IO Source := do
  match path.toChars? with
  | none => return .unreadable .missing
  | some cs =>
    try
      return .file (← IO.FS.readBinFile (String.ofList cs)).toList
    catch e => return .unreadable (failureOf e)

def isOutput (path : Text) : Bool := ["/dev/stdout", "/dev/fd/1", "/proc/self/fd/1"].any path.is

/-- The files at some paths; every other path counts as missing. -/
def readFiles (paths : List Text) : IO Files := do
  let known ← (paths.filter fun path => !isOutput path).mapM fun path =>
    return (path, ← sourceAt path)
  let source (path : Text) : Source := (known.lookup path).getD (.unreadable .missing)
  return .ofSource source isOutput

/-- Clocks that stand still. -/
def clock (_ : Nat) : Log.Reading :=
  { universal := (⟨1970, 1, 1⟩, default), here := (⟨1970, 1, 1⟩, default) }

def showText (t : Text) : String := String.ofList (t.toChars?.getD [])

/-- Adds to the log file what has been logged, unless it is on the standard output already. -/
def writeLog (path log : Text) : IO Unit := do
  unless isOutput path do
    let handle ← IO.FS.Handle.mk (showText path) .append
    handle.putStr (showText log)

end ImportStubs.Command

open ImportStubs in
def main (arguments : List String) : IO UInt32 := do
  let arguments := arguments.map Text.ofString
  let named := Command.namedPaths arguments
  let files ← Command.readFiles named
  let settings := Command.settings? files arguments
  let files ← Command.readFiles (named ++ settings.toList.flatMap Command.settingsPaths)
  if let .error e := Command.Invocation.read files arguments then
    IO.eprintln ("Error: " ++ Command.showText e.message)
  let outcome := Command.run Command.clock files arguments
  if let some path := settings.bind Command.logPath? then
    try Command.writeLog path outcome.log catch _ => pure ()
  IO.print (Command.showText outcome.output)
  return outcome.exitCode.toUInt32
