import LayeredRoots.Bundle.Runfiles
import LayeredRoots.Marker
import LayeredRoots.Resolver.Basic

/-! # The process a resolver runs in

    What a process can see at one moment: its variables, the files, where it
    runs, where its program lies and what is mapped into it. -/

namespace LayeredRoots

structure Machine where
  vars       : Variables
  storage    : Storage
  /-- The working directory.  There is none once it was removed. -/
  workingDir : Option Path
  /-- The directory of the running program. -/
  programDir : Option Path
  /-- The table of mapped files, if it can be read. -/
  maps       : Option String

namespace Machine

/-- The variables as they are looked up. -/
def environment (m : Machine) : Environment := m.vars.processView

/-- The directory of an install marker. -/
def markerDir (m : Machine) : Marker → Option Path
  | .absent => none
  | .fixed dir => some dir
  | .executable => m.programDir
  | .library name => m.maps.bind (mappedDirectory? · name)

/-- The runfiles of the process. -/
def runfiles? (m : Machine) : Option Runfiles × List Note :=
  Runfiles.discover? m.environment m.storage

/-- The resolver of a process over runfiles that were found before. -/
def resolverOver (m : Machine) (runfiles : Option Runfiles) (c : Config) : Resolver where
  config      := c
  environment := m.environment
  files       := m.storage.toFiles
  bundle      := Runfiles.bundleOf m.storage.toFiles runfiles
  markerDir   := m.markerDir c.marker
  workingDir  := m.workingDir

/-- The resolver that a process builds for a configuration. -/
def resolver (m : Machine) (c : Config) : Resolver × List Note :=
  let (runfiles, notes) := m.runfiles?
  (m.resolverOver runfiles c, notes)

/-! ### Small facts -/

/-- The resolver of a process looks at the runfiles that the process has. -/
theorem fst_resolver (m : Machine) (c : Config) :
    (m.resolver c).1 = m.resolverOver m.runfiles?.1 c := rfl

end Machine
end LayeredRoots
