import LayeredRoots.Bundle.Table
import LayeredRoots.Command.Find
import LayeredRoots.Command.Roots
import LayeredRoots.Machine
import LayeredRoots.Storage.Disk

/-! # Sessions

    A session asks a resolver one question after the other while variables and
    files change around it.  Its state is a value, and `step` is the whole of
    what happens:

    - the bundle of the process is found when a resolver is built, and from
      then on only the existence of its files is looked at anew;
    - a resolver has a log of its own, or shares one that outlives it;
    - variables, files, bundle and marker are those of the process unless the
      session was given others. -/

namespace LayeredRoots

/-! ### The process of a session -/

/-- A file that is mapped into a process. -/
structure Mapping where
  /-- Where the file was when it was mapped. -/
  place   : Place
  /-- Whether it was removed since.  A new file at its place is another one. -/
  removed : Bool
  deriving DecidableEq, Repr

/-- What the table of mapped files shows for a mapping: its path on one line,
    and whether it was removed. -/
def Mapping.label (m : Mapping) : Bytes :=
  let path := (Disk.pathOf m.place).bytes.flatMap fun b =>
    if b = 10 then Text.encode "\\012" else [b]
  if m.removed then path ++ Text.encode " (deleted)" else path

/-- A process whose variables and files can change. -/
structure World where
  vars       : Variables
  disk       : Disk
  /-- Where the process was started. -/
  home       : Path
  /-- The directory that the process runs in. -/
  origin     : Origin
  programDir : Path
  /-- The files that are mapped into the process, in the order in which they
      were. -/
  mapped     : List Mapping
  deriving DecidableEq, Repr

namespace World

/-- A process that starts in a directory and maps files.  A path that leads to
    no file maps nothing. -/
def start (vars : Variables) (disk : Disk) (workingDir programDir : Path)
    (mapped : List Path) : World :=
  let here := Disk.placeOf workingDir
  let map? (p : Path) : Option Mapping :=
    match disk.follow Disk.maxLinks (if p.isAbsolute then [] else here) p.pieces with
    | .error _ => none
    | .ok place =>
      match disk.entry? place with
      | some (.file _) => some ⟨place, false⟩
      | _ => none
  ⟨vars, disk, workingDir, .dir here, programDir, mapped.filterMap map?⟩

/-- The process with another disk.  What is no longer there was removed. -/
def withDisk (w : World) (disk : Disk) : World :=
  let origin :=
    match w.origin with
    | .dir place => if disk.entry? place = some .dir then .dir place else .removed place.tail
    | .removed above => .removed above
  let mapped := w.mapped.map fun m =>
    { m with removed := m.removed || (disk.entry? m.place).isNone }
  { w with disk, origin, mapped }

/-- The table of mapped files.  Addresses are given out downwards, so the file
    that was mapped last comes first.  It is no text if a label is none. -/
def maps (w : World) : Option String :=
  (w.mapped.reverse.mapM fun m => Text.decode? m.label).map fun labels =>
    String.join (labels.map fun l => s!"7f0000000000-7f0000001000 r--p 00000000 00:00 0 {l}\n")

/-- The path of the working directory. -/
def workingDir (w : World) : Option Path :=
  match w.origin with
  | .dir place => some (Disk.pathOf place)
  | .removed _ => none

/-- What the process sees now. -/
def machine (w : World) : Machine where
  vars       := w.vars
  storage    := w.disk.view w.origin
  workingDir := w.workingDir
  programDir := some w.programDir
  maps       := w.maps

end World

/-! ### The state of a session -/

/-- The bundle that a session was given. -/
inductive GivenBundle where
  | absent
  | runfiles (r : Runfiles)
  | table (t : BundleTable)
  deriving DecidableEq, Repr

/-- Whose deprecation log a resolver writes. -/
inductive LogOwner where
  /-- Each resolver has a fresh one with the policy of its configuration. -/
  | resolver
  /-- The session was given one. -/
  | session
  /-- The whole process shares one. -/
  | process
  deriving DecidableEq, Repr

structure Session where
  world      : World
  vars       : Option Variables
  files      : Option MemoryFiles
  bundle     : Option GivenBundle
  marker     : Option Marker
  /-- Whose log a resolver gets when it is built. -/
  owner      : LogOwner
  config     : Config
  /-- The runfiles found when the resolver was built. -/
  discovered : Option Runfiles
  /-- Whether the resolver writes the log of the process. -/
  shares     : Bool
  /-- The log of the resolver, if it does not. -/
  log        : DeprecationLog
  processLog : DeprecationLog
  deriving DecidableEq, Repr

namespace Session

/-- The variables that the resolver sees. -/
def environment (s : Session) : Environment :=
  match s.vars with
  | some vs => vs.view
  | none => s.world.machine.environment

/-- The files that the resolver sees. -/
def visibleFiles (s : Session) : Files :=
  match s.files with
  | some m => m.view
  | none => s.world.machine.storage.toFiles

/-- The bundle of runfiles that were found, or the one that was given. -/
def bundleOr (s : Session) (found : Option Runfiles) : Bundle :=
  let files := s.world.machine.storage.toFiles
  match s.bundle with
  | none => Runfiles.bundleOf files found
  | some .absent => .absent
  | some (.runfiles r) => r.bundle files
  | some (.table t) => t.bundle

/-- The install marker of the resolver. -/
def currentMarker (s : Session) : Marker := s.marker.getD s.config.marker

/-- The resolver at this moment. -/
def resolver (s : Session) : Resolver where
  config      := s.config
  environment := s.environment
  files       := s.visibleFiles
  bundle      := s.bundleOr s.discovered
  markerDir   := s.world.machine.markerDir s.currentMarker
  workingDir  := s.world.workingDir

/-- The log that the resolver writes. -/
def currentLog (s : Session) : DeprecationLog := if s.shares then s.processLog else s.log

/-- The session with another log of the resolver. -/
def setLog (s : Session) (log : DeprecationLog) : Session :=
  if s.shares then { s with processLog := log } else { s with log }

/-- The session with a new resolver, and the notes of finding its bundle. -/
def rebuild (s : Session) (c : Config) : Session × List Note :=
  -- the bundle is that of the process even where variables or files were given
  let (discovered, notes) := s.world.machine.runfiles?
  let log := if s.owner = .resolver then .fresh c.warnPolicy else s.log
  ({ s with config := c, discovered, log, shares := s.owner = .process }, notes)

/-! ### Starting -/

/-- What a session starts from. -/
structure Setup where
  world     : World
  vars      : Option Variables
  files     : Option MemoryFiles
  bundle    : Option GivenBundle
  marker    : Option Marker
  owner     : LogOwner
  /-- The policy of the log that the session was given. -/
  policy    : WarnPolicy

/-- A session over a configuration. -/
def start (setup : Setup) (c : Config) : Session :=
  let blank : Session :=
    { world := setup.world, vars := setup.vars, files := setup.files,
      bundle := setup.bundle, marker := setup.marker, owner := setup.owner,
      config := c, discovered := none, shares := false,
      log := .fresh setup.policy, processLog := .fresh .once }
  (blank.rebuild c).1

/-- A session over the resolver that a process uses by default.  It shares the
    log of the process until it is rebuilt. -/
def startStandard (setup : Setup) : Session :=
  let s := start setup Config.standard
  if setup.owner = .resolver then { s with shares := true } else s

/-- A session over a configuration file. -/
def startFromFile (setup : Setup) (path : Path) : Except Command.Failure Session :=
  match Config.load setup.world.machine.storage path with
  | .error fault => .error (.configuration fault)
  | .ok c => .ok (start setup c)

/-! ### Steps -/

inductive Step where
  | resolve (resource : String)
  | resolvePath (resource : String)
  /-- Asks a resolver that is built for this one question from the standard
      layout and the process. -/
  | freeResolve (resource : String)
  | freeResolvePath (resource : String)
  | probe (source : Source) (resource : String)
  | candidates
  | roots (limit : Option Nat)
  | find (resources : List String) (json : Bool) (outLimit errLimit : Option Nat)
  | warn (resource : String)
  | hasWarned (resource : String)
  | resetLog
  | policy
  | config
  | rebuild (c : Config)
  | setVariable (name : String) (value : Bytes)
  | unsetVariable (name : String)
  | addDir (path : Path)
  | addFile (path : Path) (content : Bytes)
  | remove (path : Path)
  | isDir (path : Path)
  | isFile (path : Path)
  | getVariable (name : String)
  | discoverRunfiles
  | readManifest (path : Path)
  | bundleAvailable
  | locate (resource : String)
  | markerDir
  deriving DecidableEq, Repr

inductive Answer where
  | done
  | misuse (m : Misuse)
  | resolution (r : Resolution)
  | path (p : Except Resolution.NotFound Path)
  | probed (r : Option Resolution)
  | reports (rs : List RootReport)
  | printed (out : Command.Sink) (failure : Option Command.Failure)
  | found (report : Command.FindReport)
  | flag (b : Bool)
  | policy (p : WarnPolicy)
  | config (c : Config)
  | value (raw nonEmpty : Option Bytes)
  | runfiles (r : Option Runfiles)
  | manifest (r : Except ReadFault Runfiles)
  | located (p : Except String Path)
  | place (p : Option Path)

/-- What one step comes to. -/
structure Reply where
  session  : Session
  answer   : Answer
  /-- The resources that were warned about. -/
  warnings : List String
  notes    : List Note

/-- A step that only answers. -/
def say (s : Session) (answer : Answer) : Reply := ⟨s, answer, [], []⟩

/-- The answer of a finding, with its deprecations recorded in a log. -/
def record {α : Type} (s : Session) (log : DeprecationLog)
    (put : Session → DeprecationLog → Session) (f : Finding α) (answer : α → Answer) : Reply :=
  let (log, warnings) := log.record f.directories
  let answer := match f.outcome with
    | .ok a => answer a
    | .error m => .misuse m
  ⟨put s log, answer, warnings, f.notes⟩

/-- The answer of the resolver. -/
def tell {α : Type} (s : Session) (f : Finding α) (answer : α → Answer) : Reply :=
  s.record s.currentLog setLog f answer

/-- The answer of a resolver that is built for this one question. -/
def tellFree {α : Type} (s : Session) (ask : Resolver → Finding α) (answer : α → Answer) :
    Reply :=
  let (r, notes) := s.world.machine.resolver Config.standard
  s.record s.processLog (fun s log => { s with processLog := log }) ((ask r).noting notes) answer

/-- The session with other files at a path.  Files on disk are changed from
    outside the process: a relative path starts where the process was started,
    even if that directory was removed since. -/
def changeFiles (s : Session) (path : Path) (memory : MemoryFiles → Path → MemoryFiles)
    (disk : Disk → Path → Disk) : Session :=
  match s.files with
  | some m => { s with files := some (memory m path) }
  | none => { s with world := s.world.withDisk (disk s.world.disk (s.world.home.join path)) }

/-- The session with other variables. -/
def changeVariables (s : Session) (change : Variables → Variables) : Session :=
  match s.vars with
  | some vs => { s with vars := some (change vs) }
  | none => { s with world := { s.world with vars := change s.world.vars } }

/-- The bundle to ask directly: the one that was given, or one found now. -/
def askedBundle (s : Session) : Bundle × List Note :=
  match s.bundle with
  | some _ => (s.bundleOr none, [])
  | none =>
    let (found, notes) := s.world.machine.runfiles?
    (s.bundleOr found, notes)

/-- What happens in one step. -/
def step (s : Session) : Step → Reply
  | .resolve resource => s.tell (s.resolver.resolve resource) .resolution
  | .resolvePath resource => s.tell (s.resolver.resolvePath resource) .path
  | .freeResolve resource => s.tellFree (·.resolve resource) .resolution
  | .freeResolvePath resource => s.tellFree (·.resolvePath resource) .path
  | .probe source resource => s.tell (s.resolver.probe source resource) .probed
  | .candidates => s.say (.reports s.resolver.candidates)
  | .roots limit =>
    let (out, failure) := Command.roots s.resolver (.empty limit)
    s.say (.printed out failure)
  | .find resources json outLimit errLimit =>
    s.tell (Command.find s.resolver resources json ⟨.empty outLimit, .empty errLimit⟩) .found
  | .warn resource =>
    let (log, warnings) := s.currentLog.record [resource]
    ⟨s.setLog log, .flag !warnings.isEmpty, warnings, []⟩
  | .hasWarned resource => s.say (.flag (s.currentLog.hasWarned resource))
  | .resetLog => (s.setLog s.currentLog.reset).say .done
  | .policy => s.say (.policy s.currentLog.policy)
  | .config => s.say (.config s.config)
  | .rebuild c =>
    let (s, notes) := s.rebuild c
    ⟨s, .done, [], notes⟩
  | .setVariable name value => (s.changeVariables (·.set name value)).say .done
  | .unsetVariable name => (s.changeVariables (·.unset name)).say .done
  | .addDir path => (s.changeFiles path .addDir .makeDir).say .done
  | .addFile path content => (s.changeFiles path .addFile (·.write · content)).say .done
  | .remove path => (s.changeFiles path .remove .remove).say .done
  | .isDir path => s.say (.flag (s.visibleFiles.isDir path))
  | .isFile path => s.say (.flag (s.visibleFiles.isFile path))
  | .getVariable name =>
    s.say (.value (s.environment.get name) (s.environment.getNonEmpty name))
  | .discoverRunfiles =>
    let (found, notes) := Runfiles.discover? s.environment s.world.machine.storage
    ⟨s, .runfiles found, [], notes⟩
  | .readManifest path => s.say (.manifest (Runfiles.readManifest s.world.machine.storage path))
  | .bundleAvailable =>
    let (bundle, notes) := s.askedBundle
    ⟨s, .flag bundle.available, [], notes⟩
  | .locate resource =>
    let (bundle, notes) := s.askedBundle
    ⟨s, .located (bundle.locate resource), [], notes⟩
  | .markerDir => s.say (.place (s.world.machine.markerDir s.currentMarker))

/-- The replies of a row of steps. -/
def run (s : Session) : List Step → List Reply
  | [] => []
  | step :: rest =>
    let reply := s.step step
    reply :: reply.session.run rest

end Session
end LayeredRoots
