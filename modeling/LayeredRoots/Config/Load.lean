import LayeredRoots.Config.Reader
import LayeredRoots.Config.Validity
import LayeredRoots.Storage.Basic

/-! # Loading a configuration

    A configuration file is read, parsed and validated, in this order; the
    first of the three that fails gives the fault.  So a configuration that was
    loaded is valid. -/

namespace LayeredRoots.Config

/-- Why a configuration could not be loaded. -/
inductive LoadFault where
  | unreadable (path : Path) (why : ReadFault)
  | unparsable (path : Path) (why : Json.Fault)
  | invalid (flaw : Flaw)

/-- The text of a failed load. -/
def LoadFault.message : LoadFault → String
  | unreadable path why => s!"Failed to read config file {path.display}: {why.message}"
  | unparsable path why => s!"Failed to parse config file {path.display}: {why.message}"
  | invalid flaw => flaw.message

/-- The configuration in a file. -/
def load (storage : Storage) (path : Path) : Except LoadFault Config :=
  match storage.readText path with
  | .error why => .error (.unreadable path why)
  | .ok text =>
    match ofJson text with
    | .error why => .error (.unparsable path why)
    | .ok c =>
      match c.validate with
      | .error flaw => .error (.invalid flaw)
      | .ok c => .ok c

end LayeredRoots.Config
