import LayeredRoots.Command.Program
import LayeredRoots.Proofs.Command.Folding

/-! # Exit codes of the program

    Several things can be wrong with one run, and the first that is looked at
    decides both the exit code and what has been written by then.  A variables
    file that cannot be loaded comes before everything else; once it is loaded,

    1. a command line without a command gets help, and nothing is loaded;
    2. a configuration that cannot be loaded ends every command;
    3. an empty path among the resources ends a search before anything is
       looked up;
    4. a path that is no text ends a search in JSON where it comes up;
    5. a search that comes to its end has succeeded if all its results have.

    No resolver breaks a precondition, because the empty path leads nowhere in a
    tree of files. -/

namespace LayeredRoots.Command

variable {r : Resolver} {resources : List String} {results : List Resolution}

/-! ### A search from its results -/

/-- A search in JSON that comes to a path that is no text says so. -/
theorem outcome_find_of_unwritable (hnames : "" ∉ resources) (h : Answers r resources results)
    (hunwritable : ∃ x ∈ results, x.isUnwritable = true) {s : Streams} (hs : s.Unlimited) :
    ∃ report fault, (find r resources true s).outcome = .ok report ∧
      report.failure = some (.output (.unwritable fault)) := by
  obtain ⟨progress, fault, hprogress, hfault⟩ := outcome_findAll_of_unwritable h hs hunwritable 0
  refine ⟨⟨progress.streams, some (.output (.unwritable fault))⟩, fault, ?_, rfl⟩
  simp only [find, any_isEmpty_eq_false hnames, Bool.false_eq_true, if_false, Finding.map,
    hprogress, Except.map, hfault]

namespace Program

variable {m loaded : Machine} {words : List Bytes} {line : CommandLine} {c : Config}

theorem unlimited_freshStreams : freshStreams.Unlimited := ⟨rfl, rfl⟩

theorem freshStreams_more (out err : String) :
    (freshStreams.more out err).out.text = out ∧ (freshStreams.more out err).err.text = err := by
  simp [freshStreams, Streams.more, Sink.empty]

/-! ### One run -/

/-- The variables file changes the variables of a process and nothing else. -/
theorem exists_vars_of_prepared (h : prepared m = .ok loaded) :
    ∃ vars, EnvFile.load m.storage m.workingDir m.vars = .ok vars ∧
      loaded = { m with vars } := by
  unfold prepared at h
  cases hload : EnvFile.load m.storage m.workingDir m.vars with
  | error u =>
    rw [hload] at h
    cases h
  | ok vars =>
    rw [hload] at h
    exact ⟨vars, rfl, (Except.ok.inj h).symm⟩

theorem storage_of_prepared (h : prepared m = .ok loaded) : loaded.storage = m.storage := by
  obtain ⟨vars, -, rfl⟩ := exists_vars_of_prepared h
  rfl

theorem run_of_prepared (h : prepared m = .ok loaded) (words : List Bytes) :
    run m words = runPrepared loaded words := by
  rw [run, h]

/-- A variables file that asks for an impossible assignment ends the run. -/
theorem run_of_unassignable {u : EnvFile.Unassignable} (h : prepared m = .error u)
    (words : List Bytes) : run m words = .ofUnassignable u := by
  rw [run, h]

/-- A command line without a command gets help, whatever there is to load. -/
theorem run_of_no_task (hline : commandLine m words = .ok line) (htask : line.task = none) :
    runPrepared m words = .ofStop (configured m) (@Stop.help (.level .top)) := by
  simp only [runPrepared, hline, htask]

/-- A configuration that cannot be loaded ends the run. -/
theorem run_of_loadFault (hline : commandLine m words = .ok line) {task : Task}
    (htask : line.task = some task) {fault : Config.LoadFault}
    (hfault : configuration m.storage line.config = .error fault) :
    runPrepared m words = ⟨78, "", s!"Error: {(Failure.configuration fault).message}\n", []⟩ := by
  simp only [runPrepared, hline, htask, hfault, Ending.ofCommand, Failure.exitCode, freshStreams,
    Sink.empty, String.empty_append]

theorem run_of_task (hline : commandLine m words = .ok line) {task : Task}
    (htask : line.task = some task) (hconfig : configuration m.storage line.config = .ok c) :
    runPrepared m words = runTask m c line.verbose task := by
  simp only [runPrepared, hline, htask, hconfig]

/-- What a performed task has written stands in the ending. -/
theorem exists_runTask_eq (task : Task) {report : FindReport} (verbose : Bool)
    (h : (perform (m.resolver c).1 task).outcome = .ok report) :
    ∃ log, runTask m c verbose task = .ofCommand report.streams report.failure log := by
  simp only [runTask, Finding.outcome_noting, h]
  exact ⟨_, rfl⟩

/-! ### One task -/

/-- The reports of all sources are written, in the order in which they are
    tried. -/
theorem outcome_perform_roots (r : Resolver) :
    ∃ s, (perform r .roots).outcome = .ok ⟨s, none⟩ ∧ s.err.text = "" ∧
      s.out.text = String.join
        (r.config.candidateOrder.map fun source => (r.report source).display ++ "\n") := by
  have hlines := writeLines_of_unlimited (s := .empty none) rfl
    (r.candidates.map RootReport.displayPieces)
  have hreports : (r.candidates.map RootReport.displayPieces).map
      (fun row => String.join row ++ "\n") =
      r.config.candidateOrder.map fun source => (r.report source).display ++ "\n" := by
    rw [Resolver.candidates, List.map_map, List.map_map]
    rfl
  rw [hreports] at hlines
  refine ⟨_, by simp only [perform, roots, hlines]; rfl, rfl, ?_⟩
  simp [Sink.empty]

/-- **A performed search.**  Its exit code and its diagnostics tell what the
    results are. -/
theorem exitCode_runTask_find (hr : (m.resolver c).1.Grounded) (hnames : "" ∉ resources)
    (json verbose : Bool) :
    ∃ results, Answers (m.resolver c).1 resources results ∧
      ((json = true ∧ ∃ x ∈ results, x.isUnwritable = true) →
        (runTask m c verbose (.find resources json)).exitCode = 74) ∧
      (¬(json = true ∧ ∃ x ∈ results, x.isUnwritable = true) →
        ((runTask m c verbose (.find resources json)).exitCode =
          if ∀ x ∈ results, x.isSuccess = true then 0 else 1) ∧
        (runTask m c verbose (.find resources json)).err =
          if json then ""
          else String.join ((results.filterMap (·.errorMessage?)).map (· ++ "\n"))) := by
  obtain ⟨results, hresults⟩ := exists_answers hr fun resource hmem (he : resource = "") =>
    hnames (he ▸ hmem)
  refine ⟨results, hresults, ?_, ?_⟩
  · rintro ⟨rfl, hunwritable⟩
    obtain ⟨report, fault, hreport, hfailure⟩ :=
      outcome_find_of_unwritable hnames hresults hunwritable unlimited_freshStreams
    obtain ⟨log, hend⟩ := exists_runTask_eq (.find resources true) verbose hreport
    rw [hend, hfailure]
    rfl
  · intro hwritable
    have hfirm : json = true → ∀ x ∈ results, x.isUnwritable = false :=
      fun hjson x hx => Bool.eq_false_iff.2 fun hyes => hwritable ⟨hjson, x, hx, hyes⟩
    have hfound : (find (m.resolver c).1 resources json freshStreams).outcome = _ :=
      congrArg Prod.fst (told_find_of_writable hnames hresults unlimited_freshStreams hfirm)
    obtain ⟨log, hend⟩ := exists_runTask_eq (.find resources json) verbose hfound
    obtain ⟨-, herr⟩ := freshStreams_more (String.join (results.map (·.outText json)))
      (String.join (results.map (·.errText json)))
    rw [hend, ← join_errText, verdict]
    by_cases hzero : failures results = 0
    · rw [if_pos hzero, if_pos ((failures_eq_zero_iff results).1 hzero)]
      exact ⟨rfl, herr⟩
    · rw [if_neg hzero, if_neg (mt (failures_eq_zero_iff results).2 hzero)]
      exact ⟨rfl, herr⟩

/-- **Exit codes follow the precedence of faults.**  A variables file with an
    impossible assignment ends a run before its command line is read.  Once the
    file is loaded, for a command line that asks for work or for none:

    * without a command there is help and code 0, whatever the configuration;
    * a configuration that cannot be loaded gives code 78 and one message;
    * an empty path gives code 2, and no resolver looks anything up;
    * a search gives 74 if a path cannot be written in JSON, else 0 or 1, as all
      results are successes or not, and the diagnostics are its messages;
    * the roots are always listed, one report for each source in order. -/
theorem exit_codes_by_precedence (m : Machine) (words : List Bytes)
    (hdir : m.storage.isDir ⟨[]⟩ = false) (hfile : m.storage.isFile ⟨[]⟩ = false) :
    (∀ u, prepared m = .error u → run m words = .ofUnassignable u) ∧
    ∀ loaded, prepared m = .ok loaded → ∀ line, commandLine loaded words = .ok line →
      (line.task = none →
        run m words = .ofStop (configured loaded) (@Stop.help (.level .top)) ∧
        (run m words).exitCode = 0) ∧
      ∀ task, line.task = some task →
        (∀ path fault, line.config = some path → Config.load m.storage path = .error fault →
          run m words = ⟨78, "", s!"Error: {(Failure.configuration fault).message}\n", []⟩) ∧
        ∀ c, configuration m.storage line.config = .ok c →
          (∀ resources json, task = .find resources json → "" ∈ resources →
            (run m words).exitCode = 2 ∧ (run m words).out = "" ∧
            ∀ r s, find r resources json s = .of (.ok ⟨s, some .emptyPath⟩)) ∧
          (∀ resources json, task = .find resources json → "" ∉ resources →
            ∃ results, Answers (loaded.resolver c).1 resources results ∧
              ((json = true ∧ ∃ x ∈ results, x.isUnwritable = true) →
                (run m words).exitCode = 74) ∧
              (¬(json = true ∧ ∃ x ∈ results, x.isUnwritable = true) →
                ((run m words).exitCode = if ∀ x ∈ results, x.isSuccess = true then 0 else 1) ∧
                (run m words).err =
                  if json then ""
                  else String.join ((results.filterMap (·.errorMessage?)).map (· ++ "\n")))) ∧
          (task = .roots →
            (run m words).exitCode = 0 ∧ (run m words).err = "" ∧
            (run m words).out = String.join (c.candidateOrder.map fun source =>
              ((loaded.resolver c).1.report source).display ++ "\n")) := by
  refine ⟨fun u hu => run_of_unassignable hu words, ?_⟩
  intro loaded hloaded line hline
  rw [run_of_prepared hloaded, ← storage_of_prepared hloaded]
  rw [← storage_of_prepared hloaded] at hdir hfile
  refine ⟨?_, ?_⟩
  · intro htask
    rw [run_of_no_task hline htask]
    exact ⟨rfl, rfl⟩
  · intro task htask
    refine ⟨?_, ?_⟩
    · intro path fault hpath hfault
      refine run_of_loadFault hline htask ?_
      rw [hpath]
      exact hfault
    · intro c hconfig
      rw [run_of_task hline htask hconfig]
      refine ⟨?_, ?_, ?_⟩
      · rintro resources json rfl hempty
        have hperform : (perform (loaded.resolver c).1 (.find resources json)).outcome =
            .ok ⟨freshStreams, some .emptyPath⟩ := by
          rw [perform, find_of_emptyPath _ hempty]
          rfl
        obtain ⟨log, hend⟩ := exists_runTask_eq _ line.verbose hperform
        rw [hend]
        exact ⟨rfl, rfl, fun r s => find_of_emptyPath r hempty json s⟩
      · rintro resources json rfl hnames
        have hgrounded : (loaded.resolver c).1.Grounded := by
          rw [Machine.fst_resolver]
          exact .of_runfiles loaded.runfiles?.1 rfl hdir hfile
        exact exitCode_runTask_find hgrounded hnames json line.verbose
      · rintro rfl
        obtain ⟨s, hperform, herr, hout⟩ := outcome_perform_roots (loaded.resolver c).1
        obtain ⟨log, hend⟩ := exists_runTask_eq _ line.verbose hperform
        rw [hend]
        exact ⟨rfl, herr, hout⟩

/-- A process whose variable names a complete root, and that can read no file. -/
def besideData : Machine where
  vars := ⟨[("PROJECT_RESOURCE_ROOT", Text.encode "data")]⟩
  storage :=
    { (MemoryFiles.empty.addFile (Path.ofText "/w/data/project/.resource-root-sentinel")
        |>.addFile (Path.ofText "/w/data/project/x.txt")).view with
      read := fun _ => .error .notFound }
  workingDir := some (Path.ofText "/w")
  programDir := none
  maps := none

/-- A search for two resources in it, of which one lies outside the namespace,
    ends with code 1 and the message about that one. -/
theorem exit_codes_by_precedence_besideData :
    let words := ["find", "project/x.txt", "other/x"].map Text.encode
    prepared besideData = .ok besideData ∧
    commandLine besideData words =
      .ok ⟨none, false, some (.find ["project/x.txt", "other/x"] false)⟩ ∧
    besideData.storage.isDir ⟨[]⟩ = false ∧ besideData.storage.isFile ⟨[]⟩ = false ∧
    configuration besideData.storage none = .ok Config.standard ∧
    (run besideData words).exitCode = 1 ∧
    (run besideData words).err = "Resource path 'other/x' does not start with project/.\n" := by
  intro words
  have hprepared : prepared besideData = .ok besideData := rfl
  have hline : commandLine besideData words =
      .ok ⟨none, false, some (.find ["project/x.txt", "other/x"] false)⟩ := by decide +kernel
  have hdir : besideData.storage.isDir ⟨[]⟩ = false := by decide +kernel
  have hfile : besideData.storage.isFile ⟨[]⟩ = false := by decide +kernel
  have hfound : ((besideData.resolver Config.standard).1.resolve "project/x.txt").outcome =
      .ok (.found "project/x.txt" (Path.ofText "/w/data/project/x.txt")) := by decide +kernel
  have hoffside : ((besideData.resolver Config.standard).1.resolve "other/x").outcome =
      .ok (.failed "other/x" "Resource path 'other/x' does not start with project/.") := by
    decide +kernel
  refine ⟨hprepared, hline, hdir, hfile, rfl, ?_⟩
  obtain ⟨-, hends⟩ := exit_codes_by_precedence besideData words hdir hfile
  obtain ⟨results, hresults, -, hsearched⟩ :=
    ((hends _ hprepared _ hline).2 _ rfl).2 Config.standard rfl |>.2.1 _ _ rfl (by decide)
  obtain ⟨x, xs, hx, hxs, rfl⟩ := List.forall₂_cons_left_iff.1 hresults
  obtain ⟨y, ys, hy, hys, rfl⟩ := List.forall₂_cons_left_iff.1 hxs
  obtain rfl := List.forall₂_nil_left_iff.1 hys
  obtain rfl := Except.ok.inj (hx.symm.trans hfound)
  obtain rfl := Except.ok.inj (hy.symm.trans hoffside)
  obtain ⟨hcode, herr⟩ := hsearched (by simp)
  exact ⟨hcode, herr⟩

end Program
end LayeredRoots.Command
