import LayeredRoots.Command.Program
import LayeredRoots.Logging.Search
import LayeredRoots.Session

/-! # Processes whose searches write a log

    A session and the program, with every search run from the log that it
    writes.  A session has two logs to choose from: that of its resolver, and
    that of the process, which the free look-ups write. -/

namespace LayeredRoots

namespace Session

/-- What a step does with a log. -/
inductive Operation where
  /-- On the log of the resolver. -/
  | own (m : Logging Answer)
  /-- On the log of the process. -/
  | free (m : Logging Answer)

/-- A question to a resolver that is built for it. -/
def freely (s : Session) (ask : Resolver → Logging Answer) : Logging Answer := do
  let (r, notes) := s.world.machine.resolver Config.standard
  Logging.note notes
  ask r

/-- What a step does with a log, if it looks anything up or warns. -/
def operation? (s : Session) : Step → Option Operation
  | .resolve resource => some (.own (.resolution <$> Logging.resolve s.resolver resource))
  | .resolvePath resource => some (.own (.path <$> Logging.resolvePath s.resolver resource))
  | .freeResolve resource =>
    some (.free (s.freely fun r => .resolution <$> Logging.resolve r resource))
  | .freeResolvePath resource =>
    some (.free (s.freely fun r => .path <$> Logging.resolvePath r resource))
  | .probe source resource => some (.own (.probed <$> Logging.probe s.resolver resource source))
  | .find resources json outLimit errLimit =>
    some (.own (.found <$>
      Logging.find s.resolver resources json ⟨.empty outLimit, .empty errLimit⟩))
  | .warn resource => some (.own (.flag <$> Logging.warnDirectory resource))
  | _ => none

/-- The reply of an operation that starts with a log. -/
def conduct (s : Session) (log : DeprecationLog) (put : Session → DeprecationLog → Session)
    (m : Logging Answer) : Reply :=
  let (outcome, c) := m.runFrom (.start log)
  let answer := match outcome with
    | .ok a => a
    | .error m => .misuse m
  ⟨put s c.log, answer, c.warnings, c.notes⟩

/-- The reply of an operation. -/
def perform (s : Session) : Operation → Reply
  | .own m => s.conduct s.currentLog setLog m
  | .free m => s.conduct s.processLog (fun s log => { s with processLog := log }) m

/-- What happens in one step. -/
def stepLogging (s : Session) (step : Step) : Reply :=
  match s.operation? step with
  | some operation => s.perform operation
  | none => s.step step

/-- The replies of a row of steps. -/
def runLogging (s : Session) : List Step → List Reply
  | [] => []
  | step :: rest =>
    let reply := s.stepLogging step
    reply :: reply.session.runLogging rest

end Session

namespace Command.Program

/-- Performs a task. -/
def performLogging (r : Resolver) : Task → Logging FindReport
  | .find resources json => Logging.find r resources json freshStreams
  | .roots =>
    let (out, failure) := roots r (.empty none)
    return ⟨⟨out, .empty none⟩, failure⟩

/-- Performs a task with the resolver for a configuration and a log of its own. -/
def runTaskLogging (m : Machine) (c : Config) (verbose : Bool) (task : Task) : Ending :=
  let (r, notes) := m.resolver c
  let task : Logging FindReport := do
    Logging.note notes
    performLogging r task
  let (outcome, course) := task.runFrom (.start (.fresh c.warnPolicy))
  let log := (if verbose then course.notes.map Note.entry else []) ++
    course.warnings.map warningEntry
  match outcome with
  | .error m => .ofMisuse m log
  | .ok report => .ofCommand report.streams report.failure log

end Command.Program
end LayeredRoots
