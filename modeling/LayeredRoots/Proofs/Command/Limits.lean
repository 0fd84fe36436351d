import LayeredRoots.Proofs.Command.JsonLines

/-! # Commands that run out of room

    A line that cannot be written ends a command where it comes up, and nothing
    behind it has an effect.

    - Up to that line everything is as without limits, and without such a line
      the whole command is.
    - The fault is told in place of the failures that were counted by then.
    - Behind the lines in front of it, the stream that refuses a line may hold a
      part of it: pieces are taken whole, so a piece with a line break in it can
      fill a stream and stay.  A stream that was full before the line holds nothing
      of it, and neither is anything left of a line without line breaks of its own,
      such as every line in JSON.

    * `told_findAll_of_refused`: the step at which a search ends.
    * `findAll_append_of_fault`: what stands behind that step does not count.
    * `full_streams_end_commands`: **a command ends at the first line that is
      refused**, and else does not notice the limits. -/

namespace LayeredRoots.Command

variable {r : Resolver} {json : Bool} {s : Streams} {resource : String}
  {resources front back : List String} {results : List Resolution} {x : Resolution} {k : Nat}

/-! ### Without limits -/

/-- Streams with the same text on them that take everything. -/
def Streams.unlimited (s : Streams) : Streams :=
  ⟨{ s.out with limit := none }, { s.err with limit := none }⟩

def FindProgress.unlimited (p : FindProgress) : FindProgress :=
  { p with streams := p.streams.unlimited }

def FindReport.unlimited (report : FindReport) : FindReport :=
  { report with streams := report.streams.unlimited }

theorem Streams.unlimited_unlimited (s : Streams) : s.unlimited.Unlimited := ⟨rfl, rfl⟩

theorem Streams.unlimited_more (s : Streams) (out err : String) :
    (s.more out err).unlimited = s.unlimited.more out err := rfl

/-- What fits with limits fits without. -/
theorem Streams.takes_unlimited (h : s.takes json x = true) : s.unlimited.takes json x = true := by
  refine takes_of_unlimited s.unlimited_unlimited ?_
  rintro rfl
  rw [takes, Bool.and_eq_true, Bool.and_eq_true] at h
  simpa using h.1.1

theorem Streams.fits_unlimited (h : s.fits json results = true) :
    s.unlimited.fits json results = true := by
  induction results generalizing s with
  | nil => rfl
  | cons x rest ih =>
    rw [fits, Bool.and_eq_true] at h
    rw [fits, takes_unlimited h.1, ← unlimited_more, ih h.2]
    rfl

/-! ### The line that is refused -/

/-- The line about the resource at `k` is the first that cannot be written: the
    lines about those in front of it are, and behind them there is no room for
    it, or its path has no form in JSON. -/
structure FirstRefused (r : Resolver) (resources : List String) (json : Bool) (s : Streams)
    (k : Nat) (results : List Resolution) (x : Resolution) : Prop where
  answers : Answers r (resources.take k) results
  fits    : s.fits json results = true
  outcome : resources[k]?.map (fun resource => (r.resolve resource).outcome) = some (.ok x)
  refused : (s.after json results).takes json x = false

theorem FirstRefused.exists_resource (h : FirstRefused r resources json s k results x) :
    ∃ resource, resources.take (k + 1) = resources.take k ++ [resource] ∧
      (r.resolve resource).outcome = .ok x := by
  obtain ⟨resource, hresource, hx⟩ := Option.map_eq_some_iff.1 h.outcome
  exact ⟨resource, by rw [List.take_add_one, hresource]; rfl, hx⟩

/-- Behind a line that is written, the first that is refused stays the first. -/
theorem FirstRefused.cons {first : Resolution} (hfirst : (r.resolve resource).outcome = .ok first)
    (htakes : s.takes json first = true)
    (h : FirstRefused r resources json (s.more (first.outText json) (first.errText json)) k
      results x) :
    FirstRefused r (resource :: resources) json s (k + 1) (first :: results) x where
  answers := .cons hfirst h.answers
  fits := by
    rw [Streams.fits, htakes, h.fits]
    rfl
  outcome := h.outcome
  refused := by
    rw [Streams.after_cons]
    exact h.refused

/-! ### A search that ends early -/

/-- What a search leaves behind if the line about its last resource is refused. -/
theorem told_findAll_of_refused (h : Answers r front results) (hfits : s.fits json results = true)
    (hx : (r.resolve resource).outcome = .ok x)
    (hrefused : (s.after json results).takes json x = false) (failed : Nat) :
    ∃ out err count, (findAll r json s failed (front ++ [resource])).told =
        (.ok ⟨(s.after json results).more out err, count, some (faultOf json x)⟩,
          directoriesOf r (front ++ [resource])) ∧
      (s.after json results).out.Keeps (x.outText json) out ∧
      (s.after json results).err.Keeps (x.errText json) err := by
  obtain ⟨out, err, hwrite, hout, herr⟩ := exists_writeResolution hrefused
  have hlast : directoriesOf r [resource] = (r.resolve resource).directories :=
    List.flatMap_singleton ..
  refine ⟨out, err, if x.isSuccess then failed + failures results else failed + failures results + 1,
    ?_, hout, herr⟩
  rw [told_findAll_append_of_fits h hfits, directoriesOf_append, hlast]
  simp only [findAll, hx, hwrite]

/-- A search that a line has ended is over. -/
theorem findAll_append_of_fault {failed : Nat} {p : FindProgress}
    (h : (findAll r json s failed front).outcome = .ok p) (hfault : p.fault.isSome = true)
    (back : List String) :
    findAll r json s failed (front ++ back) = findAll r json s failed front := by
  -- the fault is somewhere in the front, whatever the streams are by then
  induction front generalizing s failed with
  | nil =>
    obtain rfl := Except.ok.inj h
    cases hfault
  | cons resource rest ih =>
    rw [List.cons_append, findAll, findAll]
    rw [findAll] at h
    cases hx : (r.resolve resource).outcome with
    | error m => rfl
    | ok x =>
      simp only [hx] at h ⊢
      cases hwrite : writeResolution json s x with
      | mk t fault =>
        rw [hwrite] at h
        cases fault with
        | some fault => rfl
        | none =>
          have hrest := ih h
          simp only [hrest]

theorem findAll_take_of_fault {failed n : Nat} {p : FindProgress}
    (h : (findAll r json s failed (resources.take n)).outcome = .ok p)
    (hfault : p.fault.isSome = true) :
    findAll r json s failed resources = findAll r json s failed (resources.take n) := by
  conv_lhs => rw [← List.take_append_drop n resources]
  exact findAll_append_of_fault h hfault _

/-- A search whose lines are all written does not notice the limits. -/
theorem findAll_unlimited (h : ∀ k results x, ¬FirstRefused r resources json s k results x)
    (failed : Nat) :
    (findAll r json s failed resources).map FindProgress.unlimited =
      findAll r json s.unlimited failed resources := by
  induction resources generalizing s failed with
  | nil => rfl
  | cons resource rest ih =>
    cases hx : (r.resolve resource).outcome with
    | error m =>
      simp only [findAll, hx]
      rfl
    | ok x =>
      -- a first line that is refused is the first that is
      have htakes : s.takes json x = true := by
        rw [← Bool.not_eq_false]
        intro hrefused
        refine h 0 [] x ⟨.nil, rfl, by simp [hx], ?_⟩
        rwa [Streams.after_nil]
      have hrest := ih (s := s.more (x.outText json) (x.errText json))
        fun k results y hrefused => h _ _ _ (hrefused.cons hx htakes)
      simp only [findAll, hx, writeResolution_of_takes htakes,
        writeResolution_of_takes (Streams.takes_unlimited htakes), ← Streams.unlimited_more,
        ← hrest]
      rfl

/-! ### Reports -/

/-- The lines about roots. -/
def reportText (reports : List RootReport) : String :=
  String.join (reports.map fun report => String.join report.displayPieces ++ "\n")

theorem reportText_cons (report : RootReport) (reports : List RootReport) :
    reportText (report :: reports) =
      String.join report.displayPieces ++ "\n" ++ reportText reports := by
  rw [reportText, List.map_cons, String.join_cons, reportText]

/-- Reports are written up to the first that there is no room for. -/
theorem writeLines_reports (t : Sink) (reports : List RootReport) :
    (t.takes (reportText reports) = true ∧
      writeLines t (reports.map RootReport.displayPieces) = (t.more (reportText reports), none)) ∨
    ∃ front report back cut, reports = front ++ report :: back ∧
      t.takes (reportText front) = true ∧
      (t.more (reportText front)).takes (report.display ++ "\n") = false ∧
      writeLines t (reports.map RootReport.displayPieces) =
        (t.more (reportText front ++ cut), some .sinkFull) ∧
      (t.more (reportText front)).BreaksOff (report.display ++ "\n") cut := by
  induction reports generalizing t with
  | nil => exact .inl ⟨t.takes_empty, by simp [writeLines, reportText]⟩
  | cons first rest ih =>
    rw [List.map_cons, writeLines]
    cases hfirst : t.takes (String.join first.displayPieces ++ "\n") with
    | false =>
      obtain ⟨cut, hcut, hbreaks⟩ := Sink.exists_writeLine hfirst
      refine .inr ⟨[], first, rest, cut, rfl, t.takes_empty, ?_, ?_, ?_⟩
      · simpa [reportText, RootReport.display] using hfirst
      · simp [hcut, reportText]
      · simpa [reportText, RootReport.display] using hbreaks
    | true =>
      simp only [Sink.writeLine_of_takes hfirst]
      rcases ih (t.more (String.join first.displayPieces ++ "\n")) with ⟨hrest, hwrite⟩ |
        ⟨front, report, back, cut, rfl, hfront, hreport, hwrite, hbreaks⟩
      · refine .inl ⟨?_, ?_⟩
        · rw [reportText_cons, Sink.takes_append, hfirst, hrest]
          rfl
        · rw [hwrite, reportText_cons, Sink.more_more]
      · refine .inr ⟨first :: front, report, back, cut, rfl, ?_, ?_, ?_, ?_⟩
        · rw [reportText_cons, Sink.takes_append, hfirst, hfront]
          rfl
        · rwa [reportText_cons, ← Sink.more_more]
        · simp only [hwrite, reportText_cons, Sink.more_more, String.append_assoc]
        · rwa [reportText_cons, ← Sink.more_more]

/-! ### Commands -/

/-- A search that ends early ends its command, which does not look at its count of
    failures any more. -/
theorem find_of_fault (hnames : "" ∉ resources) {p : FindProgress} {fault : WriteFault}
    (h : (findAll r json s 0 resources).outcome = .ok p) (hfault : p.fault = some fault) :
    find r resources json s = { findAll r json s 0 resources with
      outcome := .ok ⟨p.streams, some (.output fault)⟩ } := by
  rw [find, any_isEmpty_eq_false hnames, if_neg Bool.false_ne_true, Finding.map, h, Except.map]
  simp only [hfault]

theorem not_mem_take (hnames : "" ∉ resources) (k : Nat) : "" ∉ resources.take k :=
  fun hempty => hnames (List.mem_of_mem_take hempty)

/-- In JSON nothing is left of a line that is refused. -/
theorem keeps_json {t : Streams} {out err : String} (hout : t.out.Keeps (x.outText true) out)
    (herr : t.err.Keeps (x.errText true) err) : out = "" ∧ err = "" := by
  refine ⟨?_, by simpa [Sink.Keeps, Resolution.errText] using herr⟩
  cases htakes : t.out.takes (x.outText true) with
  | true => simpa [Sink.Keeps, htakes] using hout
  | false =>
    rw [Sink.Keeps, htakes] at hout
    cases hline : x.toJson with
    | error fault => simp [Resolution.outText, hline, Except.toOption] at htakes
    | ok line =>
      rw [Resolution.outText_of_toJson hline] at hout
      exact hout.eq_empty (Resolution.isRow_of_toJson hline).noFeed

/-- A search without a refused line makes the same command as one without limits. -/
theorem find_unlimited (hnames : "" ∉ resources)
    (h : ∀ k results x, ¬FirstRefused r resources json s k results x) :
    (find r resources json s).map FindReport.unlimited = find r resources json s.unlimited := by
  rw [find, find, any_isEmpty_eq_false hnames, if_neg Bool.false_ne_true,
    if_neg Bool.false_ne_true, ← findAll_unlimited h]
  simp only [Finding.map, Finding.mk.injEq, and_true]
  cases (findAll r json s 0 resources).outcome with
  | error m => rfl
  | ok p =>
    obtain ⟨t, failed, fault⟩ := p
    cases fault with
    | some fault => rfl
    | none =>
      by_cases hzero : failed = 0
      · simp [Except.map, FindProgress.unlimited, FindReport.unlimited, hzero]
      · simp [Except.map, FindProgress.unlimited, FindReport.unlimited, hzero]

/-- **A command ends at the first line that is refused.**  A find command without
    empty paths that comes to such a line fails with its fault, however many
    resources were not found by then.  The streams have what they have without
    limits behind the resources in front.  Behind that, only the one that refuses
    the line may have a part of it, and none if it was full before.  The resources
    further on might as well not be there, for the log too.

    Without such a line, the command does all that it does without limits.  And a
    command about roots writes the reports in front of the first that there is no
    room for, and fails there. -/
theorem full_streams_end_commands (r : Resolver) (resources : List String)
    (hnames : "" ∉ resources) (json : Bool) (s : Streams) :
    (∀ k results x, FirstRefused r resources json s k results x →
      ∃ out err,
        (find r resources json s).outcome =
          .ok ⟨(s.after json results).more out err, some (.output (faultOf json x))⟩ ∧
        (s.after json results).out.Keeps (x.outText json) out ∧
        (s.after json results).err.Keeps (x.errText json) err ∧
        (json = true → out = "" ∧ err = "") ∧
        (find r (resources.take k) json s.unlimited).outcome =
          .ok ⟨(s.after json results).unlimited, verdict (failures results) k⟩ ∧
        find r resources json s = find r (resources.take (k + 1)) json s ∧
        ∀ log : DeprecationLog, log.record (find r resources json s).directories =
          recordAll r log (resources.take (k + 1))) ∧
    ((∀ k results x, ¬FirstRefused r resources json s k results x) →
      (find r resources json s).map FindReport.unlimited = find r resources json s.unlimited) ∧
    ∀ t : Sink,
      (t.takes (reportText r.candidates) = true ∧
        roots r t = (t.more (reportText r.candidates), none)) ∨
      ∃ front report back cut, r.candidates = front ++ report :: back ∧
        t.takes (reportText front) = true ∧
        (t.more (reportText front)).takes (report.display ++ "\n") = false ∧
        roots r t = (t.more (reportText front ++ cut), some (.output .sinkFull)) ∧
        (t.more (reportText front)).BreaksOff (report.display ++ "\n") cut := by
  refine ⟨?_, find_unlimited hnames, ?_⟩
  · intro k results x h
    obtain ⟨resource, htake, hx⟩ := h.exists_resource
    obtain ⟨out, err, count, htold, hout, herr⟩ :=
      told_findAll_of_refused h.answers h.fits hx h.refused 0
    rw [← htake] at htold
    obtain ⟨houtcome, hdirectories⟩ := Prod.ext_iff.1 htold
    -- neither the search nor the command gets to what stands behind the line
    have hsearch := findAll_take_of_fault houtcome rfl
    have hfront := find_of_fault (not_mem_take hnames (k + 1)) houtcome rfl
    have hfind : find r resources json s = find r (resources.take (k + 1)) json s := by
      rw [find_of_fault hnames (hsearch ▸ houtcome) rfl, hsearch, hfront]
    have hlength : (resources.take k).length = k := by
      obtain ⟨resource, hresource, -⟩ := Option.map_eq_some_iff.1 h.outcome
      exact List.length_take_of_le (List.getElem?_eq_some_iff.1 hresource).1.le
    have hunlimited := congrArg Prod.fst
      (told_find_of_fits (not_mem_take hnames k) h.answers (Streams.fits_unlimited h.fits))
    rw [hlength] at hunlimited
    refine ⟨out, err, ?_, hout, herr, ?_, hunlimited, hfind, ?_⟩
    · rw [hfind, hfront]
    · rintro rfl
      exact keeps_json hout herr
    · intro log
      rw [hfind, hfront, ← record_directoriesOf]
      exact congrArg log.record hdirectories
  · intro t
    rcases writeLines_reports t r.candidates with ⟨htakes, hwrite⟩ |
      ⟨front, report, back, cut, hsplit, hfront, hreport, hwrite, hbreaks⟩
    · refine .inl ⟨htakes, ?_⟩
      simp only [roots, hwrite]
      rfl
    · refine .inr ⟨front, report, back, cut, hsplit, hfront, hreport, ?_, hbreaks⟩
      simp only [roots, hwrite]
      rfl

/-- A line with a line break in it fills a sink with room for one line, and stays
    without its end, although no line was written. -/
theorem begun_line_is_kept :
    ¬∀ (r : Resolver) (resources : List String) (_ : "" ∉ resources) (json : Bool) (s : Streams)
      (k : Nat) (results : List Resolution) (x : Resolution),
      FirstRefused r resources json s k results x →
        ∃ failure, (find r resources json s).outcome = .ok ⟨s.after json results, failure⟩ := by
  intro h
  let s : Streams := ⟨.empty none, .empty (some 1)⟩
  have hmessage : (Resolver.bundledTwice.resolve "x\ny").outcome = .ok (.failed "x\ny"
      "Resource path 'x\ny' does not start with project/.") := by decide +kernel
  have hkept : ((find .bundledTwice ["x\ny", "z"] false s).outcome.toOption.map
      (·.streams.err.text)) = some "Resource path 'x\ny' does not start with project/." := by
    decide +kernel
  obtain ⟨failure, hfind⟩ := h .bundledTwice ["x\ny", "z"] (by decide) false s 0 [] _
    ⟨.nil, rfl, congrArg some hmessage, by decide +kernel⟩
  rw [hfind, Streams.after_nil] at hkept
  have hnothing : "" = "Resource path 'x\ny' does not start with project/." :=
    Option.some.inj hkept
  exact absurd hnothing (by decide)

/-- The output has room for one path, and the second of two ends the command, which
    fails to write although a resource between them was not found.  The last
    resource is not looked up, so the log has not heard of it. -/
theorem full_streams_end_commands_bundledTwice :
    let r := Resolver.bundledTwice
    let s : Streams := ⟨.empty (some 1), .empty none⟩
    let resources := ["project/models", "other/x", "project/models", "project/none"]
    "" ∉ resources ∧
    (find r resources false s).outcome =
      .ok ⟨⟨⟨"/b/project/models\n", some 1⟩,
          ⟨"Resource path 'other/x' does not start with project/.\n", none⟩⟩,
        some (.output .sinkFull)⟩ ∧
    ((DeprecationLog.fresh .always).record (find r resources false s).directories).2 =
      ["project/models", "project/models"] := by
  intro r s resources
  have hmodels : (r.resolve "project/models").outcome =
      .ok (.found "project/models" (Path.ofText "/b/project/models")) := by decide +kernel
  have hother : (r.resolve "other/x").outcome = .ok (.failed "other/x"
      "Resource path 'other/x' does not start with project/.") := by decide +kernel
  have hrefused : FirstRefused r resources false s 2 _ _ :=
    ⟨.cons hmodels (.cons hother .nil), by decide +kernel, congrArg some hmodels,
      by decide +kernel⟩
  obtain ⟨hends, -⟩ := full_streams_end_commands r resources (by decide) false s
  obtain ⟨out, err, hfind, hout, herr, -, -, -, hlog⟩ := hends 2 _ _ hrefused
  rw [Sink.Keeps, if_neg (by decide +kernel)] at hout
  rw [Sink.Keeps, if_pos (by decide +kernel)] at herr
  have hbreaks : Sink.BreaksOff _ ((Path.ofText "/b/project/models").display ++ "\n") out := hout
  obtain rfl := hbreaks.eq_empty (by decide +kernel)
  have hwritten : s.after false
      [.found "project/models" (Path.ofText "/b/project/models"),
        .failed "other/x" "Resource path 'other/x' does not start with project/."] =
      ⟨⟨"/b/project/models\n", some 1⟩,
        ⟨"Resource path 'other/x' does not start with project/.\n", none⟩⟩ := by
    decide +kernel
  refine ⟨by decide, ?_, ?_⟩
  · rw [hfind, herr, Streams.more_empty, hwritten]
    rfl
  · rw [hlog]
    decide +kernel

end LayeredRoots.Command
