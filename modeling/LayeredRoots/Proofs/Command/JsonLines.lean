import LayeredRoots.Proofs.Command.Folding
import LayeredRoots.Proofs.Json.Texts
import LayeredRoots.Proofs.Text.Lines

/-! # Lines of JSON

    A find command in JSON writes one line about each resource, and nothing is
    lost on the way: who splits the output at its line feeds and reads each line
    for itself has the results of all searches.

    - **Framing.**  No control character gets into the written form of a result,
      so a result is one line (`isRow_of_toJson`).
    - **Content.**  A result is written as two strings by name, and which of the
      names comes second says whether there is a path (`Says`).

    * `toJson_inj`: different results have different lines.
    * `json_lines_tell_results`: **the lines of a command tell its results**, for
      any names, paths and messages, and any streams that had room for them. -/

namespace LayeredRoots

open Json

/-! ### The line of a result -/

namespace Resolution

variable {x y : Resolution} {line : String}

/-- The members of the object that says a result. -/
inductive Says : Resolution → List (String × String) → Prop where
  | empty : Says .empty [("resource_path", "")]
  | found (resource : String) {path : Path} {text : String} (htext : path.text? = some text) :
      Says (.found resource path) [("resource_path", resource), ("absolute_path", text)]
  | failed (resource message : String) :
      Says (.failed resource message) [("resource_path", resource), ("error_message", message)]

/-- A result is written as the members that say it. -/
theorem exists_says_of_toJson (h : x.toJson = .ok line) :
    ∃ fields, x.Says fields ∧ line = writeTexts fields := by
  cases x with
  | empty => exact ⟨_, .empty, (Except.ok.inj h).symm⟩
  | failed resource message => exact ⟨_, .failed resource message, (Except.ok.inj h).symm⟩
  | found resource path =>
    rw [toJson] at h
    cases htext : path.text? with
    | none => simp [htext] at h
    | some text =>
      simp only [htext] at h
      exact ⟨_, .found resource htext, (Except.ok.inj h).symm⟩

/-- The members say which result it is. -/
theorem Says.inj {fields fields' : List (String × String)} (hx : x.Says fields)
    (hy : y.Says fields') (h : fields = fields') : x = y := by
  cases hx with
  | empty =>
    cases hy with
    | empty => rfl
    | found | failed => simp at h
  | failed =>
    cases hy with
    | failed => simpa using h
    | empty | found => simp at h
  | found resource htext =>
    cases hy with
    | found resource' htext' =>
      obtain ⟨rfl, rfl⟩ : resource = resource' ∧ _ = _ := by simpa using h
      rw [← Path.ofText_of_text? htext, ← Path.ofText_of_text? htext']
    | empty | failed => simp at h

/-- **One line, one result.** -/
theorem toJson_inj (hx : x.toJson = .ok line) (hy : y.toJson = .ok line) : x = y := by
  obtain ⟨fields, hfields, rfl⟩ := exists_says_of_toJson hx
  obtain ⟨fields', hfields', hline⟩ := exists_says_of_toJson hy
  exact hfields.inj hfields' (writeTexts_inj hline)

/-- A result is written on one line, which has no line end in it. -/
theorem isRow_of_toJson (h : x.toJson = .ok line) : Text.IsRow line := by
  obtain ⟨fields, -, rfl⟩ := exists_says_of_toJson h
  have hplain := isPlain_writeTexts fields
  refine ⟨?_, ?_, ?_⟩
  · rw [writeTexts, writeObject]
    exact fun hempty => absurd (String.append_eq_empty_iff.1 hempty).2 (by decide)
  · intro hfeed
    exact absurd (hplain _ hfeed) (by decide)
  · intro hreturn
    exact absurd (hplain _ (List.mem_of_getLast? hreturn)) (by decide)

end Resolution

/-! ### All lines -/

theorem Text.written_join (rows : List String) :
    Written rows (String.join (rows.map (· ++ "\n"))) := by
  induction rows with
  | nil => exact .nil
  | cons row rest ih =>
    rw [List.map_cons, String.join_cons]
    exact .feed row ih

namespace Command

variable {r : Resolver} {resources : List String} {results : List Resolution} {lines : List String}
  {s : Streams}

/-- Lines that there is room for are those of all results. -/
theorem exists_serialized_of_fits (h : s.fits true results = true) :
    ∃ lines, Serialized results lines := by
  induction results generalizing s with
  | nil => exact ⟨[], .nil⟩
  | cons x rest ih =>
    rw [Streams.fits, Bool.and_eq_true] at h
    obtain ⟨lines, hlines⟩ := ih h.2
    have hwritable : x.isUnwritable = false := by
      have htakes := h.1
      rw [Streams.takes, Bool.and_eq_true, Bool.and_eq_true] at htakes
      simpa using htakes.1.1
    obtain ⟨line, hline⟩ := Resolution.exists_toJson_of_writable hwritable
    exact ⟨line :: lines, .cons hline hlines⟩

theorem Serialized.isRow (h : Serialized results lines) : ∀ line ∈ lines, Text.IsRow line := by
  induction h with
  | nil => simp
  | cons hline _ ih => exact List.forall_mem_cons.2 ⟨Resolution.isRow_of_toJson hline, ih⟩

/-- A line that tells what a resolver answers for a resource. -/
inductive Tells (r : Resolver) (resource line : String) : Prop where
  | path {path : Path} {text : String}
      (houtcome : (r.resolve resource).outcome = .ok (.found resource path))
      (htext : path = Path.ofText text)
      (hread : readDocument readTexts line =
        .ok [("resource_path", resource), ("absolute_path", text)])
  | message {message : String}
      (houtcome : (r.resolve resource).outcome = .ok (.failed resource message))
      (hread : readDocument readTexts line =
        .ok [("resource_path", resource), ("error_message", message)])

/-- The line of a result tells it, since the result names the resource. -/
theorem tells_of_toJson {resource line : String} {x : Resolution}
    (hx : (r.resolve resource).outcome = .ok x) (hline : x.toJson = .ok line) :
    Tells r resource line := by
  have hwell := Resolver.ensures_wellFormed r resource x hx
  obtain ⟨fields, hfields, rfl⟩ := Resolution.exists_says_of_toJson hline
  have hread := readDocument_writeTexts fields
  cases hfields with
  -- no search comes to the empty result
  | empty => cases hwell.not_empty
  | found name htext =>
    obtain rfl : name = resource := hwell.resourcePath
    exact .path hx (Path.ofText_of_text? htext).symm hread
  | failed name message =>
    obtain rfl : name = resource := hwell.resourcePath
    exact .message hx hread

theorem tells_of_serialized (hresults : Answers r resources results)
    (hlines : Serialized results lines) : List.Forall₂ (Tells r) resources lines := by
  induction hresults generalizing lines with
  | nil =>
    cases hlines
    exact .nil
  | cons hx _ ih =>
    cases hlines with
    | cons hline hrest => exact .cons (tells_of_toJson hx hline) (ih hrest)

/-- **The lines of a command tell its results.**  A find command in JSON that did
    not fail to write has written one line about each resource, in order, and
    nothing else.  Its text splits into these lines, and each reads as an object of
    two strings: the resource, and the path of its result or the message.  No line
    is that of two results. -/
theorem json_lines_tell_results (r : Resolver) {resources : List String} (hnames : "" ∉ resources)
    {s : Streams} {report : FindReport} (hfind : (find r resources true s).outcome = .ok report)
    (hwritten : ∀ fault, report.failure ≠ some (.output fault)) :
    (∃ lines : List String,
      report.streams = s.more (String.join (lines.map (· ++ "\n"))) "" ∧
      Text.lines (String.join (lines.map (· ++ "\n"))) = lines ∧
      (∀ line ∈ lines, '\n' ∉ line.toList) ∧
      lines.length = resources.length ∧
      List.Forall₂ (Tells r) resources lines) ∧
    ∀ (x y : Resolution) (line : String), x.toJson = .ok line → y.toJson = .ok line → x = y := by
  refine ⟨?_, fun x y line => Resolution.toJson_inj⟩
  obtain ⟨results, hresults, hfits⟩ := exists_answers_of_find hnames report hfind hwritten
  obtain ⟨lines, hlines⟩ := exists_serialized_of_fits hfits
  have htells := tells_of_serialized hresults hlines
  refine ⟨lines, ?_, ?_, ?_, htells.length_eq.symm, htells⟩
  · have htold := congrArg Prod.fst (told_find_of_fits hnames hresults hfits)
    have hreport : Except.ok report = Except.ok _ := hfind.symm.trans htold
    rw [Except.ok.inj hreport, Streams.after_json s hlines]
  · exact Text.lines_of_written (Text.written_join lines) hlines.isRow
  · exact fun line hline => (hlines.isRow line hline).noFeed

/-- A resolver over a root with a line break in its name, and a resource with a
    quote, a backslash and a tab in its own. -/
def oddNames : Resolver where
  config := .standard
  environment := (Variables.mk [("PROJECT_RESOURCE_ROOT", Text.encode "/o\n")]).view
  files := (MemoryFiles.empty.addFile (Path.ofText "/o\n/project/.resource-root-sentinel")
    |>.addFile (Path.ofText "/o\n/project/\"a\\\t")).view
  bundle := (BundleTable.mk false [] []).bundle
  markerDir := none
  workingDir := none

/-- Two resources with odd names, of which one is found: the output has one line
    about each. -/
theorem json_lines_tell_results_oddNames :
    let s : Streams := ⟨.empty none, .empty none⟩
    ∃ report found failed,
      (find oddNames ["project/\"a\\\t", "other\r\n"] true s).outcome = .ok report ∧
      report.failure = some (.notFound 1 2) ∧
      Text.lines report.streams.out.text = [found, failed] ∧
      Tells oddNames "project/\"a\\\t" found ∧ Tells oddNames "other\r\n" failed := by
  intro s
  have hfound : (oddNames.resolve "project/\"a\\\t").outcome =
      .ok (.found "project/\"a\\\t" (Path.ofText "/o\n/project/\"a\\\t")) := by decide +kernel
  have hfailed : (oddNames.resolve "other\r\n").outcome = .ok (.failed "other\r\n"
      "Resource path 'other\r\n' does not start with project/.") := by decide +kernel
  have hanswers : Answers oddNames ["project/\"a\\\t", "other\r\n"]
      [.found "project/\"a\\\t" (Path.ofText "/o\n/project/\"a\\\t"), .failed "other\r\n"
        "Resource path 'other\r\n' does not start with project/."] :=
    .cons hfound (.cons hfailed .nil)
  have htold : (find oddNames ["project/\"a\\\t", "other\r\n"] true s).told = _ :=
    told_find_of_writable (by decide) hanswers ⟨rfl, rfl⟩
      (fun _ => by simp [Resolution.isUnwritable, Resolution.absolutePath?])
  obtain ⟨report, hfind, hfailure⟩ : ∃ report,
      (find oddNames ["project/\"a\\\t", "other\r\n"] true s).outcome = .ok report ∧
        report.failure = some (.notFound 1 2) :=
    ⟨_, congrArg Prod.fst htold, by simp [verdict, failures, Resolution.isSuccess]⟩
  obtain ⟨⟨lines, hstreams, hlines, -, -, htells⟩, -⟩ :=
    json_lines_tell_results oddNames (by decide) hfind (by simp [hfailure])
  obtain ⟨found, failed, rfl⟩ : ∃ found failed, lines = [found, failed] :=
    List.length_eq_two.1 htells.length_eq.symm
  rw [List.forall₂_cons, List.forall₂_cons] at htells
  have hout (text : String) : (s.more text "").out.text = text := by
    simp [s, Streams.more, Sink.empty]
  refine ⟨report, found, failed, hfind, hfailure, ?_, htells.1, htells.2.1⟩
  rw [hstreams, hout]
  exact hlines

end Command
end LayeredRoots
