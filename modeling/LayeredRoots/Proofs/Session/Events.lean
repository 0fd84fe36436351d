import LayeredRoots.Session

/-! # Events of a session

    What happens in a session is a row of events: steps that the session is
    asked to take, and changes around it that nobody asks for.  Only building
    a new resolver changes anything about the one that is there; all other
    events write logs, variables or files (`sameResolver_happen`). -/

namespace LayeredRoots.Session

/-- What happens in a session. -/
inductive Event where
  | step (step : Step)
  /-- A change around the session, of whatever kind: other variables, other
      files, another state of the process. -/
  | change (world : World) (vars : Option Variables) (files : Option MemoryFiles)
  deriving DecidableEq

/-- What an event comes to. -/
def happen (s : Session) : Event → Reply
  | .step step => s.step step
  | .change world vars files => { s with world, vars, files }.say .done

/-- The session after a row of events. -/
def after (s : Session) : List Event → Session
  | [] => s
  | e :: rest => (s.happen e).session.after rest

theorem after_append (s : Session) (es fs : List Event) :
    s.after (es ++ fs) = (s.after es).after fs := by
  induction es generalizing s with
  | nil => rfl
  | cons e rest ih => exact ih _

/-! ### The resolver -/

/-- Whether an event builds a new resolver. -/
def Event.builds : Event → Bool
  | .step (.rebuild _) => true
  | _ => false

theorem Event.builds_iff {e : Event} : e.builds = true ↔ ∃ c, e = .step (.rebuild c) := by
  constructor
  · intro h
    cases e with
    | change => cases h
    | step step => cases step <;> first | exact ⟨_, rfl⟩ | cases h
  · rintro ⟨c, rfl⟩
    rfl

/-- The resolver of one session is that of the other, as it was built. -/
structure SameResolver (s t : Session) : Prop where
  owner      : t.owner = s.owner
  bundle     : t.bundle = s.bundle
  marker     : t.marker = s.marker
  config     : t.config = s.config
  discovered : t.discovered = s.discovered
  shares     : t.shares = s.shares

theorem sameResolver_setLog (s : Session) (log : DeprecationLog) :
    s.SameResolver (s.setLog log) := by
  unfold setLog
  split <;> exact ⟨rfl, rfl, rfl, rfl, rfl, rfl⟩

theorem sameResolver_changeVariables (s : Session) (change : Variables → Variables) :
    s.SameResolver (s.changeVariables change) := by
  unfold changeVariables
  split <;> exact ⟨rfl, rfl, rfl, rfl, rfl, rfl⟩

theorem sameResolver_changeFiles (s : Session) (path : Path)
    (memory : MemoryFiles → Path → MemoryFiles) (disk : Disk → Path → Disk) :
    s.SameResolver (s.changeFiles path memory disk) := by
  unfold changeFiles
  split <;> exact ⟨rfl, rfl, rfl, rfl, rfl, rfl⟩

/-- **One event** leaves the resolver that is there, unless it builds one. -/
theorem sameResolver_happen (s : Session) {e : Event} (h : e.builds = false) :
    s.SameResolver (s.happen e).session := by
  cases e with
  | change world vars files => exact ⟨rfl, rfl, rfl, rfl, rfl, rfl⟩
  | step step =>
    cases step with
    | rebuild c => cases h
    | resolve | resolvePath | probe | find | warn | resetLog => exact sameResolver_setLog _ _
    | setVariable | unsetVariable => exact sameResolver_changeVariables _ _
    | addDir path => exact sameResolver_changeFiles s path .addDir .makeDir
    | addFile path content =>
      exact sameResolver_changeFiles s path .addFile (·.write · content)
    | remove path => exact sameResolver_changeFiles s path .remove .remove
    | freeResolve | freeResolvePath | candidates | roots | hasWarned | policy | config | isDir
      | isFile | getVariable | discoverRunfiles | readManifest | bundleAvailable | locate
      | markerDir =>
      exact ⟨rfl, rfl, rfl, rfl, rfl, rfl⟩

end LayeredRoots.Session
