import LayeredRoots.Proofs.Deprecation.Tally
import LayeredRoots.Proofs.Session.Events
import Mathlib.Data.List.Infix

/-! # Warnings over whole sessions

    The log of a session outlives its resolvers.  Between two resets it
    records exactly the occurrences of resources as directories: a warning
    that was asked for, or a look-up that handed out the path of a directory.
    What the log answers and what it warns about follows from the occurrences
    alone, whatever else is asked, built or changed in between.

    * `happen_records`: what one event does to the log.
    * `after_records`: what a stretch of events without a reset does to it.
    * `warnings_follow_occurrences`: what that means for its answers and
      warnings, at every point of a session. -/

namespace LayeredRoots.Session

/-! ### Warnings -/

/-- The resources that are warned about during a row of events. -/
def warningsOver (s : Session) : List Event → List String
  | [] => []
  | e :: rest => (s.happen e).warnings ++ (s.happen e).session.warningsOver rest

/-! ### Occurrences -/

/-- The path that an answer hands out. -/
def Answer.path? : Answer → Option Path
  | .resolution r => r.absolutePath?
  | .path (.ok target) => some target
  | .probed (some r) => r.absolutePath?
  | _ => none

/-- The resources that occur as directories in an event: those that were looked
    up and found as a directory, and those that a warning was asked for. -/
def occurrences (s : Session) (e : Event) : List String :=
  match e with
  | .step (.resolve p) | .step (.resolvePath p) | .step (.probe _ p) =>
    if (s.happen e).answer.path?.any s.visibleFiles.isDir then [p] else []
  | .step (.find ps json outLimit errLimit) =>
    (Command.lookedUp s.resolver json ⟨.empty outLimit, .empty errLimit⟩ ps).filter
      s.resolver.findsDirectory
  | .step (.warn p) => [p]
  | _ => []

/-- The occurrences during a row of events. -/
def occurrencesOver (s : Session) : List Event → List String
  | [] => []
  | e :: rest => s.occurrences e ++ (s.happen e).session.occurrencesOver rest

/-- Events that ask for relative resources, and ask nobody but the resolver of
    the session. -/
def Event.Admitted : Event → Prop
  | .step (.resolve p) | .step (.resolvePath p) | .step (.probe _ p) =>
    isRelativeResource p = true
  | .step (.find ps _ _ _) => ∀ p ∈ ps, isRelativeResource p = true
  | .step (.freeResolve _) | .step (.freeResolvePath _) => False
  | _ => True

/-- A new resolver of the session would write the log of the one before. -/
structure KeepsLog (s : Session) : Prop where
  owner  : s.owner ≠ .resolver
  shares : s.shares = decide (s.owner = .process)

/-- Every resolver that is built during a row of events writes the log of the
    one before. -/
def KeepsLogOver (s : Session) (es : List Event) : Prop :=
  (∃ c, Event.step (.rebuild c) ∈ es) → s.KeepsLog

/-! ### One event -/

@[simp] theorem currentLog_setLog (s : Session) (log : DeprecationLog) :
    (s.setLog log).currentLog = log := by
  unfold setLog currentLog
  cases s.shares <;> simp

theorem currentLog_changeFiles (s : Session) (path : Path)
    (memory : MemoryFiles → Path → MemoryFiles) (disk : Disk → Path → Disk) :
    (s.changeFiles path memory disk).currentLog = s.currentLog := by
  unfold changeFiles
  split <;> rfl

theorem currentLog_changeVariables (s : Session) (change : Variables → Variables) :
    (s.changeVariables change).currentLog = s.currentLog := by
  unfold changeVariables
  split <;> rfl

theorem KeepsLog.currentLog_rebuild {s : Session} (h : s.KeepsLog) (c : Config) :
    (s.rebuild c).1.currentLog = s.currentLog := by
  have hshares := h.shares
  have howner := h.owner
  simp only [rebuild, currentLog, howner, if_false, ← hshares]

/-- The log of a session records what its resolver reports. -/
theorem currentLog_tell {α : Type} (s : Session) (f : Finding α) (answer : α → Answer) :
    (s.tell f answer).session.currentLog = (s.currentLog.record f.directories).1 := by
  simp [tell, record]

theorem warnings_tell {α : Type} (s : Session) (f : Finding α) (answer : α → Answer) :
    (s.tell f answer).warnings = (s.currentLog.record f.directories).2 := rfl

section asking

variable {s : Session} {p : String} (htree : s.resolver.OverOneTree)
    (hp : isRelativeResource p = true)
include htree hp

theorem directories_resolve_eq_occurrences :
    (s.resolver.resolve p).directories = s.occurrences (.step (.resolve p)) := by
  have hpath : (s.happen (.step (.resolve p))).answer.path? =
      Resolution.handedOut? ((s.resolver.resolve p).outcome.map some) := by
    simp only [happen, step, tell, record]
    cases (s.resolver.resolve p).outcome <;> rfl
  rw [occurrences, hpath]
  exact s.resolver.told_resolve_sighting htree hp

theorem directories_resolvePath_eq_occurrences :
    (s.resolver.resolvePath p).directories = s.occurrences (.step (.resolvePath p)) := by
  have hpath : (s.happen (.step (.resolvePath p))).answer.path? =
      Resolution.handedOut? ((s.resolver.resolve p).outcome.map some) := by
    simp only [happen, step, tell, record, Resolver.resolvePath, Finding.map]
    cases (s.resolver.resolve p).outcome with
    | error m => rfl
    | ok resolution => cases resolution <;> rfl
  rw [occurrences, hpath]
  exact s.resolver.told_resolve_sighting htree hp

theorem directories_probe_eq_occurrences (source : Source) :
    (s.resolver.probe source p).directories = s.occurrences (.step (.probe source p)) := by
  have hpath : (s.happen (.step (.probe source p))).answer.path? =
      Resolution.handedOut? (s.resolver.probe source p).outcome := by
    simp only [happen, step, tell, record]
    cases (s.resolver.probe source p).outcome with
    | error m => rfl
    | ok found => cases found <;> rfl
  rw [occurrences, hpath]
  exact s.resolver.told_probe_sighting htree hp source

end asking

/-- **One event.**  Unless it resets the log, an event records its occurrences
    there, and warns accordingly. -/
theorem happen_records {s : Session} {e : Event} (hlog : s.KeepsLogOver [e])
    (htree : s.resolver.OverOneTree) (hadmitted : e.Admitted) (hreset : e ≠ .step .resetLog) :
    (s.happen e).session.currentLog = (s.currentLog.record (s.occurrences e)).1 ∧
    (s.happen e).warnings = (s.currentLog.record (s.occurrences e)).2 := by
  cases e with
  | change world vars files => exact ⟨rfl, rfl⟩
  | step step =>
    cases step with
    | resolve p =>
      rw [← directories_resolve_eq_occurrences htree hadmitted]
      exact ⟨currentLog_tell .., warnings_tell ..⟩
    | resolvePath p =>
      rw [← directories_resolvePath_eq_occurrences htree hadmitted]
      exact ⟨currentLog_tell .., warnings_tell ..⟩
    | probe source p =>
      rw [← directories_probe_eq_occurrences htree hadmitted source]
      exact ⟨currentLog_tell .., warnings_tell ..⟩
    | find ps json outLimit errLimit =>
      rw [occurrences, ← Command.directories_find htree json hadmitted]
      exact ⟨currentLog_tell .., warnings_tell ..⟩
    | warn p => exact ⟨currentLog_setLog .., rfl⟩
    | resetLog => exact absurd rfl hreset
    | freeResolve p => exact hadmitted.elim
    | freeResolvePath p => exact hadmitted.elim
    | rebuild c =>
      have hkeeps : s.KeepsLog := hlog ⟨c, List.mem_singleton_self _⟩
      exact ⟨hkeeps.currentLog_rebuild c, rfl⟩
    | setVariable name value => exact ⟨currentLog_changeVariables .., rfl⟩
    | unsetVariable name => exact ⟨currentLog_changeVariables .., rfl⟩
    | addDir path => exact ⟨currentLog_changeFiles .., rfl⟩
    | addFile path content => exact ⟨currentLog_changeFiles .., rfl⟩
    | remove path => exact ⟨currentLog_changeFiles .., rfl⟩
    | candidates | roots | hasWarned | policy | config | isDir | isFile | getVariable
      | discoverRunfiles | readManifest | bundleAvailable | locate | markerDir =>
      exact ⟨rfl, rfl⟩

/-! ### Sessions on disk -/

/-- The resolver looks at the disk, and so does its bundle. -/
structure OnDisk (s : Session) : Prop where
  files  : s.files = none
  bundle : ∀ t, s.bundle ≠ some (.table t)

theorem OnDisk.overOneTree {s : Session} (h : s.OnDisk) : s.resolver.OverOneTree where
  bundle := by
    have hfiles : s.visibleFiles = s.world.machine.storage.toFiles := by
      simp [visibleFiles, h.files]
    show ∃ found, s.bundleOr s.discovered = Runfiles.bundleOf s.visibleFiles found
    rw [hfiles, bundleOr]
    cases hbundle : s.bundle with
    | none => exact ⟨s.discovered, rfl⟩
    | some given =>
      cases given with
      | absent => exact ⟨none, rfl⟩
      | runfiles runfiles => exact ⟨some runfiles, rfl⟩
      | table t => exact absurd hbundle (h.bundle t)
  separate := by
    have hfiles : s.visibleFiles = s.world.machine.storage.toFiles := by
      simp [visibleFiles, h.files]
    show s.visibleFiles.Separate
    rw [hfiles]
    exact Disk.separate_view _ _
  isDir_empty := by
    have hfiles : s.visibleFiles = s.world.machine.storage.toFiles := by
      simp [visibleFiles, h.files]
    show s.visibleFiles.isDir ⟨[]⟩ = false
    rw [hfiles]
    rfl

theorem OnDisk.of_eq {s t : Session} (h : s.OnDisk) (hfiles : t.files = s.files)
    (hbundle : t.bundle = s.bundle) : t.OnDisk :=
  ⟨hfiles ▸ h.files, by rw [hbundle]; exact h.bundle⟩

theorem OnDisk.setLog {s : Session} (h : s.OnDisk) (log : DeprecationLog) :
    (s.setLog log).OnDisk := by
  unfold Session.setLog
  split <;> exact h.of_eq rfl rfl

theorem OnDisk.step {s : Session} (h : s.OnDisk) (step : Step) : (s.step step).session.OnDisk := by
  cases step with
  | resolve | resolvePath | probe | find | warn | resetLog => exact h.setLog _
  | setVariable | unsetVariable =>
    simp only [Session.step, changeVariables, say]
    split <;> exact h.of_eq rfl rfl
  | addDir | addFile | remove =>
    simp only [Session.step, changeFiles, say, h.files]
    exact h.of_eq h.files.symm rfl
  | freeResolve | freeResolvePath | rebuild | candidates | roots | hasWarned | policy | config
    | isDir | isFile | getVariable | discoverRunfiles | readManifest | bundleAvailable | locate
    | markerDir =>
    exact h.of_eq rfl rfl

/-! ### A row of events -/

theorem KeepsLog.happen {s : Session} (h : s.KeepsLog) (e : Event) :
    (s.happen e).session.KeepsLog := by
  cases hbuilds : e.builds with
  | false =>
    have hsame := s.sameResolver_happen hbuilds
    exact ⟨by rw [hsame.owner]; exact h.owner, by rw [hsame.shares, hsame.owner, h.shares]⟩
  | true =>
    obtain ⟨c, rfl⟩ := Event.builds_iff.1 hbuilds
    exact ⟨h.owner, rfl⟩

theorem KeepsLog.after {s : Session} (h : s.KeepsLog) (es : List Event) :
    (s.after es).KeepsLog := by
  induction es generalizing s with
  | nil => exact h
  | cons e rest ih => exact ih (h.happen e)

theorem KeepsLogOver.head {s : Session} {e : Event} {es : List Event}
    (h : s.KeepsLogOver (e :: es)) : s.KeepsLogOver [e] := by
  rintro ⟨c, hc⟩
  exact h ⟨c, List.mem_singleton.1 hc ▸ List.mem_cons_self⟩

theorem KeepsLogOver.tail {s : Session} {e : Event} {es : List Event}
    (h : s.KeepsLogOver (e :: es)) : (s.happen e).session.KeepsLogOver es := by
  rintro ⟨c, hc⟩
  exact (h ⟨c, List.mem_cons_of_mem _ hc⟩).happen e

theorem KeepsLogOver.left {s : Session} {es fs : List Event} (h : s.KeepsLogOver (es ++ fs)) :
    s.KeepsLogOver es := by
  rintro ⟨c, hc⟩
  exact h ⟨c, List.mem_append_left _ hc⟩

theorem KeepsLogOver.right {s : Session} {es fs : List Event} (h : s.KeepsLogOver (es ++ fs)) :
    (s.after es).KeepsLogOver fs := by
  rintro ⟨c, hc⟩
  exact (h ⟨c, List.mem_append_right _ hc⟩).after es

/-- At every point of a row of events the resolver and its bundle share one
    tree of files. -/
def OverOneTree (s : Session) (es : List Event) : Prop :=
  ∀ row, row <+: es → (s.after row).resolver.OverOneTree

/-- On disk the steps of a session never leave the one tree. -/
theorem OnDisk.overOneTree_steps {s : Session} (h : s.OnDisk) (steps : List Step) :
    s.OverOneTree (steps.map .step) := by
  intro row hrow
  induction steps generalizing s row with
  | nil =>
    obtain rfl := List.prefix_nil.1 hrow
    exact h.overOneTree
  | cons step rest ih =>
    cases row with
    | nil => exact h.overOneTree
    | cons e row =>
      obtain ⟨rfl, hrest⟩ := List.cons_prefix_cons.1 hrow
      exact ih (h.step step) row hrest

theorem OverOneTree.head {s : Session} {es : List Event} (h : s.OverOneTree es) :
    s.resolver.OverOneTree := h [] (List.nil_prefix)

theorem OverOneTree.tail {s : Session} {e : Event} {es : List Event}
    (h : s.OverOneTree (e :: es)) : (s.happen e).session.OverOneTree es := by
  intro row hrow
  exact h (e :: row) (List.cons_prefix_cons.2 ⟨rfl, hrow⟩)

theorem OverOneTree.left {s : Session} {es fs : List Event} (h : s.OverOneTree (es ++ fs)) :
    s.OverOneTree es := by
  intro row hrow
  exact h row (hrow.trans (List.prefix_append es fs))

theorem OverOneTree.right {s : Session} {es fs : List Event} (h : s.OverOneTree (es ++ fs)) :
    (s.after es).OverOneTree fs := by
  intro row hrow
  rw [← after_append]
  exact h (es ++ row) ((List.prefix_append_right_inj es).2 hrow)

/-- **A stretch without a reset.**  The log records the occurrences of the whole
    stretch, and warns accordingly. -/
theorem after_records {s : Session} {es : List Event} (hlog : s.KeepsLogOver es)
    (htree : s.OverOneTree es) (hadmitted : ∀ e ∈ es, e.Admitted)
    (hreset : Event.step .resetLog ∉ es) :
    (s.after es).currentLog = (s.currentLog.record (s.occurrencesOver es)).1 ∧
    s.warningsOver es = (s.currentLog.record (s.occurrencesOver es)).2 := by
  -- the log is the state of the induction: the rest starts from what it records
  induction es generalizing s with
  | nil => exact ⟨rfl, rfl⟩
  | cons e rest ih =>
    have hfirst : e ≠ .step .resetLog := by
      rintro rfl
      exact hreset List.mem_cons_self
    obtain ⟨hnow, hwarned⟩ :=
      happen_records hlog.head htree.head (hadmitted e List.mem_cons_self) hfirst
    obtain ⟨hlater, hrest⟩ := ih hlog.tail htree.tail
      (fun f hf => hadmitted f (List.mem_cons_of_mem _ hf))
      (fun hmem => hreset (List.mem_cons_of_mem _ hmem))
    rw [occurrencesOver, DeprecationLog.record_append, ← hnow, ← hwarned]
    exact ⟨hlater, by rw [warningsOver, hrest]⟩

theorem policy_happen {s : Session} {e : Event} (hlog : s.KeepsLogOver [e])
    (htree : s.resolver.OverOneTree) (hadmitted : e.Admitted) :
    (s.happen e).session.currentLog.policy = s.currentLog.policy := by
  by_cases hreset : e = .step .resetLog
  · subst hreset
    show (s.setLog s.currentLog.reset).currentLog.policy = s.currentLog.policy
    rw [currentLog_setLog]
    rfl
  · rw [(happen_records hlog htree hadmitted hreset).1, DeprecationLog.policy_record]

/-- The policy of a log is for its whole life. -/
theorem policy_after {s : Session} {es : List Event} (hlog : s.KeepsLogOver es)
    (htree : s.OverOneTree es) (hadmitted : ∀ e ∈ es, e.Admitted) :
    (s.after es).currentLog.policy = s.currentLog.policy := by
  induction es generalizing s with
  | nil => rfl
  | cons e rest ih =>
    have hfirst := policy_happen hlog.head htree.head (hadmitted e List.mem_cons_self)
    have hrest := ih hlog.tail htree.tail
      (fun f hf => hadmitted f (List.mem_cons_of_mem _ hf))
    exact hrest.trans hfirst

/-- The events up to here end in a reset, unless there are none. -/
def UpToReset (es : List Event) : Prop := es = [] ∨ ∃ row, es = row ++ [.step .resetLog]

theorem warned_after_upToReset {s : Session} {es : List Event} (hempty : s.currentLog.warned = [])
    (h : UpToReset es) : (s.after es).currentLog.warned = [] := by
  rcases h with rfl | ⟨row, rfl⟩
  · exact hempty
  · rw [after_append]
    show ((s.after row).setLog (s.after row).currentLog.reset).currentLog.warned = []
    rw [currentLog_setLog]
    rfl

/-- **Warnings follow occurrences.**  Take any point of a session whose log was
    empty at the start, and what happened since the last reset before that
    point.  A resource counts as warned about exactly if it occurred since.  A
    log that warns once warned about it once or not at all, accordingly; a log
    that always warns did so as often as it occurred. -/
theorem warnings_follow_occurrences (s : Session) (hempty : s.currentLog.warned = [])
    (before since : List Event) (hlog : s.KeepsLogOver (before ++ since))
    (hbefore : UpToReset before) (hsince : Event.step .resetLog ∉ since)
    (hadmitted : ∀ e ∈ before ++ since, e.Admitted) (htree : s.OverOneTree (before ++ since))
    (p : String) :
    ((s.after (before ++ since)).step (.hasWarned p)).answer =
      .flag (decide (p ∈ (s.after before).occurrencesOver since)) ∧
    (s.currentLog.policy = .once →
      ((s.after before).warningsOver since).count p =
        if p ∈ (s.after before).occurrencesOver since then 1 else 0) ∧
    (s.currentLog.policy = .always →
      ((s.after before).warningsOver since).count p =
        ((s.after before).occurrencesOver since).count p) := by
  -- nothing from before the last reset is remembered
  have hnothing := warned_after_upToReset hempty hbefore
  have hpolicy := policy_after hlog.left htree.left fun e he =>
    hadmitted e (List.mem_append_left _ he)
  obtain ⟨hafter, hwarnings⟩ := after_records hlog.right htree.right
    (fun e he => hadmitted e (List.mem_append_right _ he)) hsince
  refine ⟨?_, ?_, ?_⟩
  · have hmem : p ∈ ((s.after before).after since).currentLog.warned ↔
        p ∈ (s.after before).occurrencesOver since := by
      rw [hafter, DeprecationLog.mem_warned_record, hnothing]
      simp
    rw [after_append]
    show Answer.flag (decide (p ∈ ((s.after before).after since).currentLog.warned)) = _
    rw [decide_eq_decide.2 hmem]
  · intro honce
    rw [hwarnings, DeprecationLog.count_record_of_once (hpolicy.trans honce), hnothing]
    simp
  · intro halways
    rw [hwarnings, DeprecationLog.record_of_always (hpolicy.trans halways)]

/-- A root in memory with one directory in it. -/
def oneDirectory : MemoryFiles :=
  (MemoryFiles.empty.addFile (Path.ofText "/r/project/.resource-root-sentinel")).addDir
    (Path.ofText "/r/project/models")

/-- A session over that root, which warns once. -/
def overOneDirectory : Session :=
  start
    { world := .start ⟨[]⟩ ⟨[]⟩ (Path.ofText "/") (Path.ofText "/") []
      vars := some ⟨[("PROJECT_RESOURCE_ROOT", Text.encode "/r")]⟩
      files := some oneDirectory
      bundle := some .absent
      marker := none
      owner := .session
      policy := .once } .standard

/-- The directory is found and the log reset. -/
def untilReset : List Event :=
  [.step (.resolve "project/models"), .step (.warn "project/x"), .step .resetLog]

/-- The directory is found three times more, by different resolvers. -/
def sinceReset : List Event :=
  [.step (.resolve "project/models"), .step (.rebuild .standard),
    .step (.probe .rootVariable "project/models"),
    .step (.find ["project/models", "project/none"] false none none)]

theorem overOneTree_overOneDirectory :
    overOneDirectory.OverOneTree (untilReset ++ sinceReset) := by
  have hseparate : oneDirectory.view.Separate := MemoryFiles.separate_view (by decide +kernel)
  have hempty : oneDirectory.view.isDir ⟨[]⟩ = false := by decide +kernel
  intro row hrow
  rw [← List.mem_inits] at hrow
  simp only [untilReset, sinceReset, List.cons_append, List.nil_append, List.inits, List.map_cons,
    List.map_nil, List.mem_cons, List.not_mem_nil, or_false] at hrow
  rcases hrow with rfl | rfl | rfl | rfl | rfl | rfl | rfl | rfl <;>
    exact ⟨⟨none, rfl⟩, hseparate, hempty⟩

/-- Three occurrences since the reset, and one warning. -/
theorem warnings_follow_occurrences_oneDirectory :
    ((overOneDirectory.after untilReset).occurrencesOver sinceReset).count "project/models" = 3 ∧
    ((overOneDirectory.after (untilReset ++ sinceReset)).step (.hasWarned "project/models")).answer =
      .flag true ∧
    ((overOneDirectory.after untilReset).warningsOver sinceReset).count "project/models" = 1 := by
  have hcount :
      ((overOneDirectory.after untilReset).occurrencesOver sinceReset).count "project/models" = 3 :=
    by decide +kernel
  have hoccurs : "project/models" ∈ (overOneDirectory.after untilReset).occurrencesOver sinceReset :=
    List.count_pos_iff.1 (by rw [hcount]; decide)
  have hkeeps : overOneDirectory.KeepsLog := ⟨by decide, rfl⟩
  have hreset : UpToReset untilReset :=
    .inr ⟨[.step (.resolve "project/models"), .step (.warn "project/x")], rfl⟩
  have hadmitted : ∀ e ∈ untilReset ++ sinceReset, e.Admitted := by
    have hmodels : isRelativeResource "project/models" = true := by decide
    have hnone : isRelativeResource "project/none" = true := by decide
    simp [untilReset, sinceReset, Event.Admitted, hmodels, hnone]
  obtain ⟨hanswer, honce, -⟩ := warnings_follow_occurrences overOneDirectory rfl untilReset sinceReset
    (fun _ => hkeeps) hreset (by decide) hadmitted overOneTree_overOneDirectory "project/models"
  rw [decide_eq_true hoccurs] at hanswer
  rw [if_pos hoccurs] at honce
  exact ⟨hcount, hanswer, honce rfl⟩

end LayeredRoots.Session
