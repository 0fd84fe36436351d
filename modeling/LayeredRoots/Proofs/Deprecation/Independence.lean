import LayeredRoots.Proofs.Deprecation.Session
import LayeredRoots.Proofs.Logging.Session

/-! # Look-ups have no memory

    A look-up reads the configuration, the variables, the files, the bundle and
    the marker.  It writes a deprecation log, and although it has the log at hand
    all the while, nothing that it comes to depends on it.  So what was asked
    before, and what any log remembers of it, makes no difference to an answer
    about resources or roots:

    * `withoutLog`: a session as a look-up sees it.
    * `reply_withoutLog`: one step answers from that alone, and so does one whose
      searches run with the log (`replyLogging_withoutLog`).
    * `withoutLog_happen`: only changes of the surroundings, and new resolvers,
      touch it.
    * `resolution_has_no_memory`: sessions that differ in their logs, and in
      what is asked on the way, go on giving the same answers. -/

namespace LayeredRoots

/-! ### Resolvers with another policy -/

namespace Resolver

/-- The resolver with another policy for warnings. -/
def withPolicy (r : Resolver) (policy : WarnPolicy) : Resolver :=
  { r with config := r.config.withWarnPolicy policy }

variable (r : Resolver) (policy : WarnPolicy)

@[simp] theorem probe_withPolicy (source : Source) (resource : String) :
    (r.withPolicy policy).probe source resource = r.probe source resource := by
  cases source <;> rfl

theorem search_withPolicy (resource : String) (order : List Source) :
    (r.withPolicy policy).search resource order = r.search resource order := by
  induction order with
  | nil => rfl
  | cons source rest ih => rw [search, search, probe_withPolicy, ih]

@[simp] theorem resolve_withPolicy (resource : String) :
    (r.withPolicy policy).resolve resource = r.resolve resource := by
  unfold resolve
  rw [search_withPolicy]
  rfl

@[simp] theorem resolvePath_withPolicy (resource : String) :
    (r.withPolicy policy).resolvePath resource = r.resolvePath resource := by
  rw [resolvePath, resolvePath, resolve_withPolicy]

@[simp] theorem candidates_withPolicy :
    (r.withPolicy policy).candidates = r.candidates := by
  have hreport : (r.withPolicy policy).report = r.report := by
    funext source
    cases source <;> rfl
  rw [candidates, candidates, hreport]
  rfl

end Resolver

namespace Command

variable (r : Resolver) (policy : WarnPolicy)

@[simp] theorem roots_withPolicy (s : Sink) : roots (r.withPolicy policy) s = roots r s := by
  rw [roots, roots, Resolver.candidates_withPolicy]

theorem findAll_withPolicy (json : Bool) (s : Streams) (failed : Nat) (resources : List String) :
    findAll (r.withPolicy policy) json s failed resources = findAll r json s failed resources := by
  induction resources generalizing s failed with
  | nil => rfl
  | cons resource rest ih => simp only [findAll, Resolver.resolve_withPolicy, ih]

@[simp] theorem find_withPolicy (resources : List String) (json : Bool) (s : Streams) :
    find (r.withPolicy policy) resources json s = find r resources json s := by
  rw [find, find, findAll_withPolicy]

end Command

/-! ### Sessions without their logs -/

namespace Session

/-- The session with logs and policies that are always the same ones. -/
def withoutLog (s : Session) : Session :=
  { s with
    owner := .session
    config := s.config.withWarnPolicy .once
    shares := false
    log := .fresh .once
    processLog := .fresh .once }

/-- Steps whose answer is about a log. -/
def Step.asksAboutLog : Step → Bool
  | .warn _ | .hasWarned _ | .policy | .config => true
  | _ => false

/-- The change that an event makes to the surroundings of a session or to its
    resolver, if it makes one. -/
def Event.change? : Event → Option Event
  | .step (.rebuild c) => some (.step (.rebuild (c.withWarnPolicy .once)))
  | .step (.setVariable name value) => some (.step (.setVariable name value))
  | .step (.unsetVariable name) => some (.step (.unsetVariable name))
  | .step (.addDir path) => some (.step (.addDir path))
  | .step (.addFile path content) => some (.step (.addFile path content))
  | .step (.remove path) => some (.step (.remove path))
  | .change world vars files => some (.change world vars files)
  | .step _ => none

@[simp] theorem withWarnPolicy_withWarnPolicy (c : Config) (policy other : WarnPolicy) :
    (c.withWarnPolicy other).withWarnPolicy policy = c.withWarnPolicy policy := rfl

@[simp] theorem withoutLog_setLog (s : Session) (log : DeprecationLog) :
    (s.setLog log).withoutLog = s.withoutLog := by
  unfold setLog
  split <;> rfl

theorem resolver_withoutLog (s : Session) :
    s.withoutLog.resolver = s.resolver.withPolicy .once := rfl

/-- A session starts alike whatever policy its configuration has, and whoever
    owns its log. -/
theorem withoutLog_start (setup : Setup) (c : Config) (owner : LogOwner)
    (policy limit : WarnPolicy) :
    (start { setup with owner, policy } (c.withWarnPolicy limit)).withoutLog =
      (start setup c).withoutLog := rfl

theorem Event.change?_of_change? {e f : Event} (h : e.change? = some f) :
    f.change? = some f := by
  cases e with
  | change world vars files =>
    cases h
    rfl
  | step q => cases q <;> cases h <;> rfl

/-! ### One event -/

/-- What a finding answers does not depend on the log that it is recorded in. -/
theorem answer_tell {α : Type} (s t : Session) (f : Finding α) (answer : α → Answer) :
    (s.tell f answer).answer = (t.tell f answer).answer ∧
    (s.tell f answer).notes = (t.tell f answer).notes := ⟨rfl, rfl⟩

/-- A session answers as without its logs. -/
theorem reply_withoutLog (s : Session) {q : Step} (hq : q.asksAboutLog = false) :
    (s.withoutLog.step q).answer = (s.step q).answer ∧
    (s.withoutLog.step q).notes = (s.step q).notes := by
  cases q with
  | resolve p =>
    simp only [step, resolver_withoutLog, Resolver.resolve_withPolicy]
    exact answer_tell _ _ _ _
  | resolvePath p =>
    simp only [step, resolver_withoutLog, Resolver.resolvePath_withPolicy]
    exact answer_tell _ _ _ _
  | probe source p =>
    simp only [step, resolver_withoutLog, Resolver.probe_withPolicy]
    exact answer_tell _ _ _ _
  | find ps json outLimit errLimit =>
    simp only [step, resolver_withoutLog, Command.find_withPolicy]
    exact answer_tell _ _ _ _
  | candidates => simp [step, say, resolver_withoutLog]
  | roots limit => simp [step, say, resolver_withoutLog]
  | warn | hasWarned | policy | config => cases hq
  | freeResolve | freeResolvePath | resetLog | rebuild | setVariable | unsetVariable | addDir
    | addFile | remove | isDir | isFile | getVariable | discoverRunfiles | readManifest
    | bundleAvailable | locate | markerDir =>
    exact ⟨rfl, rfl⟩

/-- The same where searches have the log at hand while they run. -/
theorem replyLogging_withoutLog (s : Session) {q : Step} (hq : q.asksAboutLog = false) :
    (s.withoutLog.stepLogging q).answer = (s.stepLogging q).answer ∧
    (s.withoutLog.stepLogging q).notes = (s.stepLogging q).notes := by
  rw [stepLogging_eq_step, stepLogging_eq_step]
  exact reply_withoutLog s hq

/-- An event leaves a session as a look-up sees it, but for the change that it
    makes. -/
theorem withoutLog_happen (s : Session) (e : Event) :
    (s.happen e).session.withoutLog =
      match e.change? with
      | some f => (s.withoutLog.happen f).session.withoutLog
      | none => s.withoutLog := by
  cases e with
  | change world vars files => rfl
  | step q =>
    cases q with
    -- a log is all that these write
    | resolve | resolvePath | probe | find | warn | resetLog => exact withoutLog_setLog _ _
    -- whose variables and files change does not depend on a log
    | setVariable | unsetVariable =>
      simp only [Event.change?, happen, step, changeVariables, say]
      cases hvars : s.vars <;> simp [withoutLog, hvars]
    | addDir | addFile | remove =>
      simp only [Event.change?, happen, step, changeFiles, say]
      cases hfiles : s.files <;> simp [withoutLog, hfiles]
    | rebuild c => rfl
    | freeResolve | freeResolvePath | candidates | roots | hasWarned | policy | config | isDir
      | isFile | getVariable | discoverRunfiles | readManifest | bundleAvailable | locate
      | markerDir =>
      rfl

/-! ### A row of events -/

/-- What is left of a session after a row of events, seen without its logs, are
    the changes among them. -/
theorem withoutLog_after (s : Session) (es : List Event) :
    (s.after es).withoutLog = (s.withoutLog.after (es.filterMap Event.change?)).withoutLog := by
  have hrun : ∀ (es : List Event) (s t : Session), s.withoutLog = t.withoutLog →
      (s.after es).withoutLog = (t.after (es.filterMap Event.change?)).withoutLog := by
    intro es
    induction es with
    | nil => exact fun s t h => h
    | cons e rest ih =>
      intro s t h
      have hstep := withoutLog_happen s e
      cases hchange : e.change? with
      | none =>
        -- the other session waits
        rw [List.filterMap_cons_none hchange]
        rw [hchange] at hstep
        exact ih _ _ (hstep.trans h)
      | some f =>
        rw [List.filterMap_cons_some hchange]
        have hother := withoutLog_happen t f
        rw [hchange, h] at hstep
        rw [Event.change?_of_change? hchange] at hother
        exact ih _ _ (hstep.trans hother.symm)
  exact hrun es s s.withoutLog rfl

/-- **Look-ups have no memory.**  Two sessions that start alike but for their
    logs, and that go through the same changes, give the same answer to every
    question about resources and roots, whatever else they were asked on the
    way, and note the same about it. -/
theorem resolution_has_no_memory (s t : Session) (hstart : s.withoutLog = t.withoutLog)
    (es fs : List Event) (hchanges : es.filterMap Event.change? = fs.filterMap Event.change?)
    (q : Step) (hq : q.asksAboutLog = false) :
    ((s.after es).step q).answer = ((t.after fs).step q).answer ∧
    ((s.after es).step q).notes = ((t.after fs).step q).notes := by
  have halike : (s.after es).withoutLog = (t.after fs).withoutLog := by
    rw [withoutLog_after s es, withoutLog_after t fs, hstart, hchanges]
  obtain ⟨hanswer, hnotes⟩ := reply_withoutLog (s.after es) hq
  obtain ⟨hother, hmore⟩ := reply_withoutLog (t.after fs) hq
  rw [← hanswer, ← hnotes, ← hother, ← hmore, halike]
  exact ⟨rfl, rfl⟩

/-- What a session over `oneDirectory` starts from, if all its resolvers write
    one log. -/
def oneDirectorySetup : Setup where
  world := .start ⟨[]⟩ ⟨[]⟩ (Path.ofText "/") (Path.ofText "/") []
  vars := some ⟨[("PROJECT_RESOURCE_ROOT", Text.encode "/r")]⟩
  files := some oneDirectory
  bundle := some .absent
  marker := none
  owner := .session
  policy := .once

/-- The same session with a log for each resolver that always warns. -/
def alwaysWarning : Session :=
  start { oneDirectorySetup with owner := .resolver, policy := .always }
    (Config.standard.withWarnPolicy .always)

/-- The directory is removed and made again. -/
def madeAgain : List Event :=
  [.step (.remove (Path.ofText "/r/project/models")),
    .step (.addDir (Path.ofText "/r/project/models"))]

/-- A session that was asked for the directory before and one that was not find
    it alike, and only the second one warns. -/
theorem resolution_has_no_memory_oneDirectory :
    ((start oneDirectorySetup .standard).withoutLog = alwaysWarning.withoutLog ∧
      (.step (.resolve "project/models") :: madeAgain).filterMap Event.change? =
        madeAgain.filterMap Event.change? ∧
      (Step.resolve "project/models").asksAboutLog = false) ∧
    (((start oneDirectorySetup .standard).after
        (.step (.resolve "project/models") :: madeAgain)).step
          (.resolve "project/models")).answer =
      ((alwaysWarning.after madeAgain).step (.resolve "project/models")).answer ∧
    (((start oneDirectorySetup .standard).after
        (.step (.resolve "project/models") :: madeAgain)).step
          (.resolve "project/models")).warnings = [] ∧
    ((alwaysWarning.after madeAgain).step (.resolve "project/models")).warnings =
      ["project/models"] := by
  have hstart : (start oneDirectorySetup .standard).withoutLog = alwaysWarning.withoutLog :=
    (withoutLog_start oneDirectorySetup _ _ _ _).symm
  have hchanges : (.step (.resolve "project/models") :: madeAgain).filterMap Event.change? =
      madeAgain.filterMap Event.change? := rfl
  refine ⟨⟨hstart, hchanges, rfl⟩, ?_, by decide +kernel, by decide +kernel⟩
  exact (resolution_has_no_memory _ _ hstart _ _ hchanges (.resolve "project/models") rfl).1

end Session
end LayeredRoots
