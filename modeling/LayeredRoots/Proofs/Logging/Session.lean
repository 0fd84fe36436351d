import LayeredRoots.Logging.Session
import LayeredRoots.Proofs.Logging.Following

/-! # Processes record what their searches would have written

    A session records the directories of a finding when the search is over.  Its
    replies are those of the session whose searches write the log as they go.

    * `stepLogging_eq_step`: one step, by the operation it performs.
    * `runLogging_eq_run`: **a whole session**, with the log of one step carried into
      the next.
    * `runTaskLogging_eq_runTask`: the program. -/

namespace LayeredRoots

namespace Session

variable {α : Type} {m : Logging α} {f : Finding α} (s : Session)

/-! ### One operation -/

/-- Recording a finding is running an operation that follows it. -/
theorem conduct_of_follows (log : DeprecationLog) (put : Session → DeprecationLog → Session)
    (h : m.Follows f) (answer : α → Answer) :
    s.conduct log put (answer <$> m) = s.record log put f answer := by
  unfold conduct record
  rw [h.map answer, Course.behind_start]
  cases houtcome : f.outcome <;> simp [Finding.map, houtcome, Except.map]

theorem perform_own (h : m.Follows f) (answer : α → Answer) :
    s.perform (.own (answer <$> m)) = s.tell f answer :=
  s.conduct_of_follows _ _ h answer

theorem perform_free {ask : Resolver → Logging α} {search : Resolver → Finding α}
    (h : ∀ r, (ask r).Follows (search r)) (answer : α → Answer) :
    s.perform (.free (s.freely fun r => answer <$> ask r)) = s.tellFree search answer := by
  have hfollows := (h (s.world.machine.resolver Config.standard).1).noting
    (s.world.machine.resolver Config.standard).2
  have hfreely : (s.freely fun r => answer <$> ask r) = answer <$>
      (Logging.note (s.world.machine.resolver Config.standard).2 >>= fun _ =>
        ask (s.world.machine.resolver Config.standard).1) := by
    simp [freely]
  rw [hfreely]
  exact s.conduct_of_follows s.processLog (fun s log => { s with processLog := log }) hfollows
    answer

theorem perform_warn (resource : String) :
    s.perform (.own (.flag <$> Logging.warnDirectory resource)) = s.step (.warn resource) := by
  have hrun : (Answer.flag <$> Logging.warnDirectory resource).runFrom (.start s.currentLog) =
      (.ok (.flag (s.currentLog.warns resource)),
        ⟨(s.currentLog.record [resource]).1, (s.currentLog.record [resource]).2, []⟩) := by
    rw [map_eq_pure_bind, Logging.runFrom_bind, Logging.runFrom_warnDirectory,
      Course.behind_start]
    rfl
  have hwarned : (!(s.currentLog.record [resource]).2.isEmpty) = s.currentLog.warns resource := by
    cases hwarns : s.currentLog.warns resource <;> simp [DeprecationLog.record, hwarns]
  have hstep : s.step (.warn resource) =
      ⟨s.setLog (s.currentLog.record [resource]).1, .flag (s.currentLog.warns resource),
        (s.currentLog.record [resource]).2, []⟩ := by
    rw [← hwarned]
    rfl
  rw [hstep]
  simp only [perform, conduct]
  rw [hrun]

/-! ### Steps -/

/-- **One step** replies what its operation comes to. -/
theorem stepLogging_eq_step (step : Step) : s.stepLogging step = s.step step := by
  cases step with
  | resolve resource => exact s.perform_own (Logging.follows_resolve s.resolver resource) _
  | resolvePath resource => exact s.perform_own (Logging.follows_resolvePath s.resolver resource) _
  | freeResolve resource =>
    exact s.perform_free (fun r => Logging.follows_resolve r resource) _
  | freeResolvePath resource =>
    exact s.perform_free (fun r => Logging.follows_resolvePath r resource) _
  | probe source resource =>
    exact s.perform_own (Logging.follows_probe s.resolver resource source) _
  | find resources json outLimit errLimit =>
    exact s.perform_own (Logging.follows_find s.resolver json resources _) _
  | warn resource => exact s.perform_warn resource
  | candidates | roots | hasWarned | resetLog | policy | config | rebuild | setVariable
    | unsetVariable | addDir | addFile | remove | isDir | isFile | getVariable
    | discoverRunfiles | readManifest | bundleAvailable | locate | markerDir => rfl

/-- **A whole session** replies what its operations come to, each with the log as
    the one before it left it. -/
theorem runLogging_eq_run (steps : List Step) : s.runLogging steps = s.run steps := by
  induction steps generalizing s with
  | nil => rfl
  | cons step rest ih =>
    rw [runLogging, run, stepLogging_eq_step]
    exact congrArg _ (ih _)

/-- Other steps warn about nothing. -/
theorem warnings_of_no_operation {step : Step} (h : s.operation? step = none) :
    (s.step step).warnings = [] := by
  cases step <;> first | rfl | cases h

end Session

namespace Command.Program

theorem follows_perform (r : Resolver) (task : Task) :
    (performLogging r task).Follows (perform r task) := by
  cases task with
  | find resources json => exact Logging.follows_find r json resources _
  | roots => exact Logging.follows_pure _

/-- **The program** logs what its task tells while it runs. -/
theorem runTaskLogging_eq_runTask (m : Machine) (c : Config) (verbose : Bool) (task : Task) :
    runTaskLogging m c verbose task = runTask m c verbose task := by
  have h := (follows_perform (m.resolver c).1 task).noting (m.resolver c).2
    (.start (.fresh c.warnPolicy))
  cases houtcome : (perform (m.resolver c).1 task).outcome <;>
    simp [runTaskLogging, runTask, h, Course.behind_start, houtcome]

end Command.Program
end LayeredRoots
