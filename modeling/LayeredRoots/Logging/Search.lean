import LayeredRoots.Command.Find
import LayeredRoots.Deprecation

/-! # Searches that write a log

    A process warns at the moment at which a search comes across a directory,
    and the log that decides about the warning is a state that all searches
    share.  The operations here run in that order: each takes the log as the
    one before it left it.

    - `warnDirectory` is the only place that reads or writes the log.  Its
      callers do not ask whether there was a warning.
    - A broken precondition ends an operation.  What was told before it stays
      told. -/

namespace LayeredRoots

/-- What a process has told so far. -/
structure Course where
  log      : DeprecationLog
  /-- The resources that were warned about. -/
  warnings : List String
  notes    : List Note
  deriving DecidableEq, Repr

/-- The course that starts with a log. -/
def Course.start (log : DeprecationLog) : Course := ⟨log, [], []⟩

/-- Operations that tell something while they run. -/
abbrev Logging : Type → Type := ExceptT Misuse (StateM Course)

namespace Logging

/-- What an operation comes to that starts in a course. -/
def runFrom {α : Type} (m : Logging α) (c : Course) : Except Misuse α × Course :=
  (m.run.run c).run

/-- Tells notes. -/
def note (notes : List Note) : Logging Unit :=
  modify fun c => { c with notes := c.notes ++ notes }

/-- Warns about a resource that is a directory, if its log says so, and tells
    whether it did. -/
def warnDirectory (resource : String) : Logging Bool := do
  let c ← get
  let warns := c.log.warns resource
  set { c with
    log := c.log.insert resource
    warnings := if warns then c.warnings ++ [resource] else c.warnings }
  return warns

variable (r : Resolver) (resource : String)

/-! ### One root -/

/-- A resource below a directory that serves as root. -/
def checkRoot (origin : String) (root : Path) : Logging Resolution :=
  if origin.isEmpty then throw .undescribedRoot
  else if root.isEmpty then throw .emptyRoot
  else if !isRelativeResource resource then throw (.rootedRequest resource)
  else if !r.files.isFile (root.joinText r.config.sentinel) then
    ofExcept (Resolver.refuse resource (.noSentinel origin root r.config.sentinel))
  else do
    let file := root.joinText resource
    if r.files.isDir file then
      let _ ← warnDirectory resource
      ofExcept (Resolution.success resource file)
    else if r.files.isFile file then ofExcept (Resolution.success resource file)
    else ofExcept (Resolver.refuse resource (.noSuchFile origin root file))

/-! ### One source -/

def probeVariable : Logging (Option Resolution) :=
  match r.variableRoot? with
  | none => return none
  | some root => do
    if r.files.isDir root then some <$> checkRoot r resource r.variableDescription root
    else
      note [.rootMissing r.config.rootVariable root]
      return none

/-- The directory of a resource below the root of the bundle. -/
def directory : Logging (Option Path) :=
  match r.bundle.root r.config.sentinel with
  | .error fault => do
    note [.bundleRootUnknown resource fault.message]
    return none
  | .ok root => do
    let place := root.joinText resource
    if r.files.isDir place then
      let _ ← warnDirectory resource
      return some place
    else return none

/-- A missing resource of the bundle where its subtree moved. -/
def relocated : Logging (Option Path) := do
  let (place, notes) :=
    r.bundle.relocated? r.config.namespacePrefix r.config.relocations resource
  note notes
  return place

def probeBundle : Logging (Option Resolution) :=
  if !r.bundle.available then return none
  else
    match r.bundle.locate resource with
    | .ok place => some <$> ofExcept (Resolution.success resource place)
    | .error reason => do
      match ← directory r resource with
      | some dir => some <$> ofExcept (Resolution.success resource dir)
      | none =>
        match ← relocated r resource with
        | some place => some <$> ofExcept (Resolution.success resource place)
        | none => some <$> ofExcept (Resolver.refuse resource (Resolver.bundleFailure reason))

def probeInstallTree : Logging (Option Resolution) :=
  match r.installRoot? with
  | none => do
    note [.noMarker]
    return none
  | some root => do
    if r.files.isDir root then some <$> checkRoot r resource markerDescription root
    else
      note [.installRootMissing root]
      return none

/-- What one source says about a resource. -/
def probe (source : Source) : Logging (Option Resolution) :=
  match source with
  | .rootVariable => probeVariable r resource
  | .bundle => probeBundle r resource
  | .installTree => probeInstallTree r resource

/-! ### All sources -/

/-- The first of the given sources that has a root settles a resource. -/
def search : List Source → Logging Resolution
  | [] => ofExcept (Resolver.refuse resource (.noRoots r.config.rootVariable))
  | source :: rest => do
    match ← probe r resource source with
    | some resolution => return resolution
    | none => search rest

/-- Looks a resource up. -/
def resolve : Logging Resolution :=
  if resource.isEmpty then throw .emptyRequest
  else if !isRelativeResource resource then ofExcept (Resolver.refuse resource .notRelative)
  else if !Text.hasPrefix r.config.namespacePrefix resource then
    ofExcept (Resolver.refuse resource (.outsideNamespace r.config.namespacePrefix))
  else search r resource r.config.candidateOrder

/-- Looks a resource up and asks for its path. -/
def resolvePath : Logging (Except Resolution.NotFound Path) :=
  Resolution.absolutePath <$> resolve r resource

/-! ### Many resources -/

open Command in
/-- Looks up resources in order, where `failed` were not found before. -/
def findAll (json : Bool) (s : Streams) (failed : Nat) : List String → Logging FindProgress
  | [] => return ⟨s, failed, none⟩
  | resource :: rest => do
    let resolution ← resolve r resource
    let failed := if resolution.isSuccess then failed else failed + 1
    match writeResolution json s resolution with
    | (s, some fault) => return ⟨s, failed, some fault⟩
    | (s, none) => findAll json s failed rest

open Command in
/-- Looks up resources and reports about them. -/
def find (resources : List String) (json : Bool) (s : Streams) : Logging FindReport := do
  if resources.any String.isEmpty then return ⟨s, some .emptyPath⟩
  else
    let p ← findAll r json s 0 resources
    match p.fault with
    | some fault => return ⟨p.streams, some (.output fault)⟩
    | none =>
      if p.failed = 0 then return ⟨p.streams, none⟩
      else return ⟨p.streams, some (.notFound p.failed resources.length)⟩

end Logging
end LayeredRoots
