import LayeredRoots.Config.Load
import LayeredRoots.Resolution.Json

/-! # Failures of commands

    Each kind of failure has an exit code of its own. -/

namespace LayeredRoots.Command

/-- Why text could not be written. -/
inductive WriteFault where
  /-- A sink took no more text. -/
  | sinkFull
  /-- A path has no form as text. -/
  | unwritable (fault : Resolution.UnwritablePath)
  deriving DecidableEq, Repr

def WriteFault.message : WriteFault → String
  | sinkFull => "sink full"
  | unwritable fault => fault.message

/-- The fault of a text that was not written to its end. -/
def WriteFault.ofComplete (complete : Bool) : Option WriteFault :=
  if complete then none else some sinkFull

/-- Why a command failed. -/
inductive Failure where
  /-- Some resources were not found. -/
  | notFound (failed total : Nat)
  /-- A resource path is empty. -/
  | emptyPath
  /-- Output could not be written. -/
  | output (fault : WriteFault)
  /-- The configuration could not be loaded. -/
  | configuration (fault : Config.LoadFault)

namespace Failure

/-- The text of a failure. -/
def message : Failure → String
  | notFound failed total => s!"{failed} of {total} resource paths could not be resolved"
  | emptyPath => "Invalid arguments: resource paths must not be empty"
  | output fault => "IO error: " ++ fault.message
  | configuration fault => "Configuration error: " ++ fault.message

/-- The exit code of a program that ends with a failure. -/
def exitCode : Failure → Nat
  | notFound .. => 1
  | emptyPath => 2
  | output _ => 74
  | configuration _ => 78

end Failure
end LayeredRoots.Command
