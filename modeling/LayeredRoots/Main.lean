import LayeredRoots.Command.Footprint
import LayeredRoots.Storage.Snapshot

/-! # The program

    Takes a snapshot of the process, runs the program on it, and prints what
    the run leaves behind.  The snapshot is taken in rounds, because what there
    is to look at depends on what was seen before: first the variables file,
    then the files that variables and options name, then the rest. -/

namespace LayeredRoots.Outside

/-- The number of an error, which may come negated. -/
def errorNumber (code : UInt32) : UInt32 := if code < 0x80000000 then code else 0 - code

/-- Why the system refused to look at a path. -/
def readFault : IO.Error → ReadFault
  | .permissionDenied .. => .permissionDenied
  | .inappropriateType .. => .notADirectory
  | .invalidArgument _ code _ | .otherError code _ | .resourceExhausted _ code _ =>
    if errorNumber code = 36 then .nameTooLong
    else if errorNumber code = 40 then .tooManyLinks
    else .notFound
  | _ => .notFound

/-- What a path leads to.  The contents of a file are read if asked for. -/
def look (withContent : Bool) (p : Path) : IO (Except ReadFault Entry) := do
  match p.text? with
  | none => return .error .notFound
  | some text =>
    if text.isEmpty then return .error .notFound
    if text.toList.contains '\x00' then return .error .containsNul
    let base ← match ← IO.currentDir.toBaseIO with
      | .ok dir => pure dir
      | .error _ =>
        -- without a working directory only absolute paths lead anywhere
        if p.isAbsolute then IO.appPath else return .error .notFound
    let file := base / text
    match ← file.metadata.toBaseIO with
    | .error e => return .error (readFault e)
    | .ok data =>
      match data.type with
      | .dir => return .ok .dir
      | .file =>
        if !withContent then return .ok (.file [])
        match ← (IO.FS.readBinFile file).toBaseIO with
        | .error e => return .error (readFault e)
        | .ok bytes => return .ok (.file bytes.toList)
      | _ => return .ok .device

/-- The contents of a file of the system, or nothing. -/
def systemFile (name : String) : IO (Option ByteArray) := do
  return (← (IO.FS.readBinFile name).toBaseIO).toOption

/-- The process, as far as a snapshot shows it. -/
def machine : IO (Snapshot → Machine) := do
  let block ← systemFile "/proc/self/environ"
  let maps ← systemFile "/proc/self/maps"
  let workingDir := (← IO.currentDir.toBaseIO).toOption.map fun dir => Path.ofText dir.toString
  let program := Path.ofText (← IO.appPath).toString
  return fun seen =>
    { vars := Variables.ofBlock ((block.map ByteArray.toList).getD [])
      storage := seen.view
      workingDir := workingDir
      programDir := program.parent?
      maps := maps.bind fun bytes => Text.decode? bytes.toList }

/-- The words of the command line behind the name of the program. -/
def words (args : List String) : IO (List Bytes) := do
  match ← systemFile "/proc/self/cmdline" with
  | some block => return ((block.toList.splitOn 0).drop 1).take args.length
  | none => return args.map Text.encode

/-- What is seen at the paths that a run asks about. -/
def survey (m : Machine) (words : List Bytes) : IO Snapshot := do
  let contents ← (Command.Program.contentPlaces m words).mapM fun p => do
    return (p, ← look true p)
  let others ← (Command.Program.otherPlaces m words).mapM fun p => do
    return (p, ← look false p)
  return ⟨contents ++ others⟩

end LayeredRoots.Outside

open LayeredRoots in
/-- Prints what a run of the program leaves behind, and ends as it does. -/
def main (args : List String) : IO UInt32 := do
  let machine ← Outside.machine
  let words ← Outside.words args
  let first ← Outside.survey (machine .empty) words
  let second ← Outside.survey (machine first) words
  let third ← Outside.survey (machine second) words
  let ending := Command.Program.run (machine third) words
  IO.print ending.out
  IO.eprint ending.err
  for entry in ending.log do IO.eprintln entry
  return ending.exitCode.toUInt32
