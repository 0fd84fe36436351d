import LayeredRoots.Command.Find
import LayeredRoots.Command.Help
import LayeredRoots.Command.Roots
import LayeredRoots.EnvFile.Load
import LayeredRoots.Machine

/-! # The program

    A run of the program is a function of the process it runs in and of the
    words of its command line:

    - the variables file is loaded first, so it can name a configuration, and a
      value in it that cannot be assigned ends the run;
    - a command line that asks for no command gets help, whatever the
      configuration is;
    - the configuration is loaded before anything is looked up. -/

namespace LayeredRoots.Command

/-- What a run leaves behind. -/
structure Ending where
  exitCode : Nat
  out      : String
  err      : String
  /-- What is told beside the results, entry by entry. -/
  log      : List String
  deriving DecidableEq, Repr

namespace Ending

/-- The exit code of a wrong use. -/
def usageCode : Nat := 2

/-- The exit code of a broken precondition. -/
def misuseCode : Nat := 101

/-- What is said below a wrong use. -/
def usageHint : String := "For more information, try '--help'."

/-- The end of a run that does no work, where `configured` is the configuration
    that a variable names. -/
def ofStop (configured : Option Bytes) : Stop → Ending
  | @Stop.help page => ⟨0, page.text configured, "", []⟩
  | .version => ⟨0, versionText, "", []⟩
  | .fault f => ⟨usageCode, "", s!"error: {f.message}\n\n{usageHint}\n", []⟩

/-- The end of a run whose command has written to two streams.  Resources that
    were not found have been told already; every other failure is told now. -/
def ofCommand (s : Streams) (failure : Option Failure) (log : List String) : Ending :=
  match failure with
  | none => ⟨0, s.out.text, s.err.text, log⟩
  | some (.notFound failed total) =>
    ⟨(Failure.notFound failed total).exitCode, s.out.text, s.err.text, log⟩
  | some failure =>
    ⟨failure.exitCode, s.out.text, s.err.text ++ s!"Error: {failure.message}\n", log⟩

/-- The end of a run that broke a precondition. -/
def ofMisuse (m : Misuse) (log : List String) : Ending :=
  ⟨misuseCode, "", m.message ++ "\n", log⟩

/-- The end of a run whose variables file asks for an impossible assignment. -/
def ofUnassignable (u : EnvFile.Unassignable) : Ending := ⟨misuseCode, "", u.message ++ "\n", []⟩

end Ending

namespace Program

/-- Streams that nothing was written to and that take everything. -/
def freshStreams : Streams := ⟨.empty none, .empty none⟩

/-- A warning as an entry of the log. -/
def warningEntry (resource : String) : String :=
  Note.logEntry (DeprecationLog.warning resource) [("resource_path", resource)]

/-- Performs a task. -/
def perform (r : Resolver) : Task → Finding FindReport
  | .find resources json => find r resources json freshStreams
  | .roots =>
    let (out, failure) := roots r (.empty none)
    .of (.ok ⟨⟨out, .empty none⟩, failure⟩)

/-- The configuration that a command line names, or the standard one. -/
def configuration (storage : Storage) : Option Path → Except Config.LoadFault Config
  | some path => Config.load storage path
  | none => .ok Config.standard

/-- The configuration that a variable of a process names. -/
def configured (m : Machine) : Option Bytes := m.environment.get CommandLine.configVariable

/-- What a command line asks of a process. -/
def commandLine (m : Machine) (words : List Bytes) : Except Stop CommandLine :=
  CommandLine.ofWords (configured m) words

/-- The process with the variables of its variables file. -/
def prepared (m : Machine) : Except EnvFile.Unassignable Machine :=
  (EnvFile.load m.storage m.workingDir m.vars).map fun vars => { m with vars }

/-- Performs a task with the resolver for a configuration. -/
def runTask (m : Machine) (c : Config) (verbose : Bool) (task : Task) : Ending :=
  let (r, notes) := m.resolver c
  let f := (perform r task).noting notes
  let (_, warned) := (DeprecationLog.fresh c.warnPolicy).record f.directories
  let log := (if verbose then f.notes.map Note.entry else []) ++ warned.map warningEntry
  match f.outcome with
  | .error m => .ofMisuse m log
  | .ok report => .ofCommand report.streams report.failure log

/-- A run of the program in a process whose variables file is loaded. -/
def runPrepared (m : Machine) (words : List Bytes) : Ending :=
  match commandLine m words with
  | .error stop => .ofStop (configured m) stop
  | .ok line =>
    match line.task with
    | none => .ofStop (configured m) (@Stop.help (.level .top))
    | some task =>
      match configuration m.storage line.config with
      | .error fault => .ofCommand freshStreams (some (.configuration fault)) []
      | .ok c => runTask m c line.verbose task

/-- A run of the program. -/
def run (m : Machine) (words : List Bytes) : Ending :=
  match prepared m with
  | .error u => .ofUnassignable u
  | .ok m => runPrepared m words

end Program
end LayeredRoots.Command
