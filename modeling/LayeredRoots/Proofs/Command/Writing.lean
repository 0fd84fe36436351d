import LayeredRoots.Command.Find
import LayeredRoots.Command.Roots
import LayeredRoots.Proofs.Command.Room
import LayeredRoots.Proofs.Search.Totality
import Mathlib.Data.List.Forall2

/-! # What the commands write

    As long as there is room, a command writes the line of every result or
    report, one behind the other:

    - a result is one line, on the output or among the diagnostics
      (`Resolution.outText`, `Resolution.errText`);
    - in JSON all lines go to the output, and a path that is no text ends the
      command where it comes up;
    - a line that there is no room for ends it too, and the stream may keep what
      it took of this line (`exists_writeResolution`).

    The lines are stated for any streams that something was written to before,
    so that a search over several resources is one induction over its results. -/

namespace LayeredRoots

/-! ### The line of a result -/

namespace Resolution

/-- Whether the path of a result has no form in JSON. -/
def isUnwritable (x : Resolution) : Bool := x.absolutePath?.any (·.text?.isNone)

/-- What is written about a result to the output. -/
def outText (json : Bool) (x : Resolution) : String :=
  if json then (x.toJson.toOption.map (· ++ "\n")).getD ""
  else (x.absolutePath?.map (·.display ++ "\n")).getD ""

/-- What is written about a result to the diagnostics. -/
def errText (json : Bool) (x : Resolution) : String :=
  if json then "" else (x.errorMessage?.map (· ++ "\n")).getD ""

theorem exists_toJson_of_writable {x : Resolution} (h : x.isUnwritable = false) :
    ∃ line, x.toJson = .ok line := by
  cases x with
  | empty | failed => exact ⟨_, rfl⟩
  | found resource path =>
    obtain ⟨text, htext⟩ : ∃ text, path.text? = some text := by
      simpa [isUnwritable, absolutePath?, Option.isSome_iff_exists] using h
    exact ⟨_, by rw [toJson, htext]⟩

theorem exists_toJson_of_unwritable {x : Resolution} (h : x.isUnwritable = true) :
    ∃ fault, x.toJson = .error fault := by
  cases x with
  | empty | failed => simp [isUnwritable, absolutePath?] at h
  | found resource path =>
    have htext : path.text? = none := by simpa [isUnwritable, absolutePath?] using h
    exact ⟨_, by rw [toJson, htext]⟩

theorem outText_of_toJson {x : Resolution} {line : String} (h : x.toJson = .ok line) :
    x.outText true = line ++ "\n" := by
  simp [outText, h, Except.toOption]

end Resolution

namespace Command

/-! ### Lines of reports -/

/-- Lines of reports that there is room for stand one behind the other. -/
theorem writeLines_of_takes {s : Sink} {rows : List (List String)}
    (h : s.takes (String.join (rows.map fun row => String.join row ++ "\n")) = true) :
    writeLines s rows =
      (s.more (String.join (rows.map fun row => String.join row ++ "\n")), none) := by
  induction rows generalizing s with
  | nil => simp [writeLines]
  | cons row rest ih =>
    rw [List.map_cons, String.join_cons, Sink.takes_append, Bool.and_eq_true] at h
    rw [writeLines, Sink.writeLine_of_takes h.1]
    simp only [ih h.2, Sink.more_more, List.map_cons, String.join_cons]

theorem writeLines_of_unlimited {s : Sink} (h : s.limit = none) (rows : List (List String)) :
    writeLines s rows =
      ({ s with text := s.text ++ String.join (rows.map fun row => String.join row ++ "\n") },
        none) :=
  writeLines_of_takes (Sink.takes_of_unlimited h _)

/-! ### Streams -/

/-- Streams that take everything. -/
structure Streams.Unlimited (s : Streams) : Prop where
  out : s.out.limit = none
  err : s.err.limit = none

/-- Streams with more text on them. -/
def Streams.more (s : Streams) (out err : String) : Streams :=
  ⟨{ s.out with text := s.out.text ++ out }, { s.err with text := s.err.text ++ err }⟩

theorem Streams.Unlimited.more {s : Streams} (h : s.Unlimited) (out err : String) :
    (s.more out err).Unlimited := ⟨h.out, h.err⟩

theorem Streams.more_more (s : Streams) (out err out' err' : String) :
    (s.more out err).more out' err' = s.more (out ++ out') (err ++ err') := by
  simp [Streams.more, String.append_assoc]

theorem Streams.more_empty (s : Streams) : s.more "" "" = s := by
  simp [Streams.more]

/-- Lines that only some results have. -/
theorem join_map_getD {α β : Type} (part? : α → Option β) (line : β → String) (xs : List α) :
    String.join (xs.map fun x => ((part? x).map line).getD "") =
      String.join ((xs.filterMap part?).map line) := by
  induction xs with
  | nil => rfl
  | cons x rest ih =>
    rw [List.map_cons, String.join_cons, ih, List.filterMap_cons]
    cases part? x <;> simp [String.join_cons]

namespace Streams

variable {s : Streams} {pieces : List String}

theorem writeOut_of_takes (h : s.out.takes (String.join pieces ++ "\n") = true) :
    s.writeOut pieces = (s.more (String.join pieces ++ "\n") "", none) := by
  simp [writeOut, Sink.writeLine_of_takes h, WriteFault.ofComplete, more, Sink.more]

theorem writeErr_of_takes (h : s.err.takes (String.join pieces ++ "\n") = true) :
    s.writeErr pieces = (s.more "" (String.join pieces ++ "\n"), none) := by
  simp [writeErr, Sink.writeLine_of_takes h, WriteFault.ofComplete, more, Sink.more]

theorem exists_writeOut (h : s.out.takes (String.join pieces ++ "\n") = false) :
    ∃ cut, s.writeOut pieces = (s.more cut "", some .sinkFull) ∧
      s.out.BreaksOff (String.join pieces ++ "\n") cut := by
  obtain ⟨cut, hcut, hbreaks⟩ := Sink.exists_writeLine h
  exact ⟨cut, by simp [writeOut, hcut, WriteFault.ofComplete, more, Sink.more], hbreaks⟩

theorem exists_writeErr (h : s.err.takes (String.join pieces ++ "\n") = false) :
    ∃ cut, s.writeErr pieces = (s.more "" cut, some .sinkFull) ∧
      s.err.BreaksOff (String.join pieces ++ "\n") cut := by
  obtain ⟨cut, hcut, hbreaks⟩ := Sink.exists_writeLine h
  exact ⟨cut, by simp [writeErr, hcut, WriteFault.ofComplete, more, Sink.more], hbreaks⟩

end Streams

/-- What a sink keeps of a line with which a command ends: the part in front of the
    place where it breaks off.  A sink that has room for the line is not the one
    that refused it, and keeps nothing. -/
def Sink.Keeps (s : Sink) (line cut : String) : Prop :=
  if s.takes line then cut = "" else s.BreaksOff line cut

@[simp] theorem Sink.keeps_empty (s : Sink) : s.Keeps "" "" := by
  simp [Keeps]

theorem Sink.BreaksOff.keeps {s : Sink} {line cut : String} (h : s.BreaksOff line cut)
    (htakes : s.takes line = false) : s.Keeps line cut := by
  rw [Keeps, htakes]
  exact h

/-! ### One result -/

/-- Whether the line about a result can be written to its end. -/
def Streams.takes (s : Streams) (json : Bool) (x : Resolution) : Bool :=
  !(json && x.isUnwritable) && s.out.takes (x.outText json) && s.err.takes (x.errText json)

theorem Streams.takes_of_unlimited {s : Streams} (hs : s.Unlimited) {json : Bool} {x : Resolution}
    (h : json = true → x.isUnwritable = false) : s.takes json x = true := by
  have hwritable : (json && x.isUnwritable) = false := by
    cases json with
    | true => exact h rfl
    | false => rfl
  simp [takes, hwritable, Sink.takes_of_unlimited hs.out, Sink.takes_of_unlimited hs.err]

/-- Why the line about a result is not there as a whole. -/
def faultOf (json : Bool) (x : Resolution) : WriteFault :=
  match json, x.toJson with
  | true, .error fault => .unwritable fault
  | _, _ => .sinkFull

section writeResolution

variable {s : Streams} {json : Bool} {x : Resolution}

/-- Where the line about a result goes. -/
inductive LineOf (json : Bool) (x : Resolution) : Prop where
  /-- In JSON a path that is no text has no line. -/
  | missing {fault : Resolution.UnwritablePath} (hjson : json = true)
      (hunwritable : x.isUnwritable = true) (hfault : faultOf json x = .unwritable fault)
      (hout : x.outText json = "") (herr : x.errText json = "")
      (hwrite : ∀ s, writeResolution json s x = (s, some (.unwritable fault)))
  | out {pieces : List String} (hwritable : (json && x.isUnwritable) = false)
      (hfault : faultOf json x = .sinkFull)
      (hout : x.outText json = String.join pieces ++ "\n") (herr : x.errText json = "")
      (hwrite : ∀ s : Streams, writeResolution json s x = s.writeOut pieces)
  | err {pieces : List String} (hwritable : (json && x.isUnwritable) = false)
      (hfault : faultOf json x = .sinkFull)
      (hout : x.outText json = "") (herr : x.errText json = String.join pieces ++ "\n")
      (hwrite : ∀ s : Streams, writeResolution json s x = s.writeErr pieces)

/-- The line about a result goes to one of the streams, unless there is none. -/
theorem lineOf (json : Bool) (x : Resolution) : LineOf json x := by
  cases json with
  | true =>
    cases hunwritable : x.isUnwritable with
    | true =>
      obtain ⟨fault, hfault⟩ := Resolution.exists_toJson_of_unwritable hunwritable
      have hsaid : faultOf true x = .unwritable fault := by simp [faultOf, hfault]
      have hout : x.outText true = "" := by simp [Resolution.outText, hfault, Except.toOption]
      exact .missing rfl hunwritable hsaid hout rfl fun s => by simp [writeResolution, hfault]
    | false =>
      obtain ⟨line, hline⟩ := Resolution.exists_toJson_of_writable hunwritable
      have hout : x.outText true = String.join [line] ++ "\n" := by
        simp [Resolution.outText_of_toJson hline, String.join_cons]
      exact .out hunwritable (by simp [faultOf, hline]) hout rfl (by simp [writeResolution, hline])
  | false =>
    have hmessage {message : String} (h : x.errorMessage? = some message) :
        x.errText false = String.join [message] ++ "\n" := by
      simp [Resolution.errText, h, String.join_cons]
    cases x with
    | found resource path =>
      have hout : (Resolution.found resource path).outText false =
          String.join path.displayPieces ++ "\n" := by
        simp [Resolution.outText, Resolution.absolutePath?, Path.displayPieces,
          Text.join_lossyPieces, Path.display]
      exact .out rfl rfl hout rfl fun _ => rfl
    | empty | failed => exact .err rfl rfl rfl (hmessage rfl) fun _ => rfl

/-- A result is written on a line of its own. -/
theorem writeResolution_of_takes (h : s.takes json x = true) :
    writeResolution json s x = (s.more (x.outText json) (x.errText json), none) := by
  rw [Streams.takes, Bool.and_eq_true, Bool.and_eq_true, Bool.not_eq_true'] at h
  obtain ⟨⟨hwritable, hout⟩, herr⟩ := h
  cases lineOf json x with
  | missing hjson hunwritable =>
    rw [hjson, hunwritable] at hwritable
    cases hwritable
  | out _ _ hline hnone hwrite =>
    rw [hline] at hout
    rw [hwrite, hline, hnone, Streams.writeOut_of_takes hout]
  | err _ _ hnone hline hwrite =>
    rw [hline] at herr
    rw [hwrite, hline, hnone, Streams.writeErr_of_takes herr]

/-- A line that cannot be written to its end leaves at most a part of it, on the
    stream that it was meant for. -/
theorem exists_writeResolution (h : s.takes json x = false) :
    ∃ out err, writeResolution json s x = (s.more out err, some (faultOf json x)) ∧
      s.out.Keeps (x.outText json) out ∧ s.err.Keeps (x.errText json) err := by
  cases lineOf json x with
  | missing _ _ hfault hout herr hwrite =>
    refine ⟨"", "", ?_, ?_, ?_⟩
    · rw [hwrite, hfault, Streams.more_empty]
    · simp [hout]
    · simp [herr]
  | @out pieces hwritable hfault hline hnone hwrite =>
    -- the other stream takes nothing at all, so it is this one that is full
    have hfull : s.out.takes (String.join pieces ++ "\n") = false := by
      simpa [Streams.takes, hwritable, hline, hnone] using h
    obtain ⟨cut, hcut, hbreaks⟩ := Streams.exists_writeOut hfull
    refine ⟨cut, "", ?_, ?_, ?_⟩
    · rw [hwrite, hfault, hcut]
    · rw [hline]
      exact hbreaks.keeps hfull
    · simp [hnone]
  | @err pieces hwritable hfault hnone hline hwrite =>
    have hfull : s.err.takes (String.join pieces ++ "\n") = false := by
      simpa [Streams.takes, hwritable, hline, hnone] using h
    obtain ⟨cut, hcut, hbreaks⟩ := Streams.exists_writeErr hfull
    refine ⟨"", cut, ?_, ?_, ?_⟩
    · rw [hwrite, hfault, hcut]
    · simp [hnone]
    · rw [hline]
      exact hbreaks.keeps hfull

/-- What is written without a fault is written to its end. -/
theorem takes_of_writeResolution {t : Streams} (h : writeResolution json s x = (t, none)) :
    s.takes json x = true := by
  cases htakes : s.takes json x with
  | true => rfl
  | false =>
    obtain ⟨out, err, hwrite, -⟩ := exists_writeResolution htakes
    rw [hwrite] at h
    cases h

end writeResolution

/-- A path that is no text is not written in JSON. -/
theorem writeResolution_of_unwritable (s : Streams) {x : Resolution}
    (h : x.isUnwritable = true) :
    ∃ fault, writeResolution true s x = (s, some (.unwritable fault)) := by
  obtain ⟨fault, hfault⟩ := Resolution.exists_toJson_of_unwritable h
  exact ⟨fault, by simp [writeResolution, hfault]⟩

/-! ### All results -/

/-- What a resolver answers for resources, one after the other. -/
def Answers (r : Resolver) (resources : List String) (results : List Resolution) : Prop :=
  List.Forall₂ (fun resource x => (r.resolve resource).outcome = .ok x) resources results

/-- Resources that have names are all answered. -/
theorem exists_answers {r : Resolver} (hr : r.Grounded) {resources : List String}
    (h : ∀ resource ∈ resources, resource ≠ "") : ∃ results, Answers r resources results := by
  induction resources with
  | nil => exact ⟨[], .nil⟩
  | cons resource rest ih =>
    obtain ⟨x, hx⟩ := Resolver.exists_ok_resolve hr (h resource List.mem_cons_self)
    obtain ⟨xs, hxs⟩ := ih fun other hmem => h other (List.mem_cons_of_mem _ hmem)
    exact ⟨x :: xs, .cons hx hxs⟩

/-- How many results are no success. -/
def failures (results : List Resolution) : Nat := results.countP (!·.isSuccess)

theorem failures_eq_zero_iff (results : List Resolution) :
    failures results = 0 ↔ ∀ x ∈ results, x.isSuccess = true := by
  simp [failures, List.countP_eq_zero]

/-- Whether there is room for the lines about results, one behind the other. -/
def Streams.fits (s : Streams) (json : Bool) : List Resolution → Bool
  | [] => true
  | x :: rest => s.takes json x && (s.more (x.outText json) (x.errText json)).fits json rest

theorem Streams.fits_of_unlimited {s : Streams} (hs : s.Unlimited) {json : Bool}
    {results : List Resolution} (h : json = true → ∀ x ∈ results, x.isUnwritable = false) :
    s.fits json results = true := by
  induction results generalizing s with
  | nil => rfl
  | cons x rest ih =>
    have hfirst := takes_of_unlimited hs fun hjson => h hjson x List.mem_cons_self
    have hrest := ih (hs.more (x.outText json) (x.errText json))
      fun hjson y hy => h hjson y (List.mem_cons_of_mem _ hy)
    rw [fits, hfirst, hrest]
    rfl

section findAll

variable {r : Resolver} {resources : List String} {results : List Resolution} {s : Streams}
  {json : Bool}

/-- **All lines are written** and all failures counted, if the lines can be
    written. -/
theorem outcome_findAll_of_fits (h : Answers r resources results)
    (hfits : s.fits json results = true) (failed : Nat) :
    (findAll r json s failed resources).outcome =
      .ok ⟨s.more (String.join (results.map (·.outText json)))
        (String.join (results.map (·.errText json))), failed + failures results, none⟩ := by
  induction h generalizing s failed with
  | nil => simp [findAll, failures, Streams.more_empty]
  | @cons resource x resources results hx _ ih =>
    rw [Streams.fits, Bool.and_eq_true] at hfits
    have hrest := ih hfits.2
    have hcount : (if x.isSuccess then failed else failed + 1) + failures results =
        failed + failures (x :: results) := by
      cases hsuccess : x.isSuccess <;> simp [failures, hsuccess]
      omega
    simp only [findAll, hx, writeResolution_of_takes hfits.1, hrest, hcount, Streams.more_more,
      List.map_cons, String.join_cons]

/-- In JSON a path that is no text ends the search. -/
theorem outcome_findAll_of_unwritable (h : Answers r resources results) (hs : s.Unlimited)
    (hunwritable : ∃ x ∈ results, x.isUnwritable = true) (failed : Nat) :
    ∃ progress fault, (findAll r true s failed resources).outcome = .ok progress ∧
      progress.fault = some (.unwritable fault) := by
  induction h generalizing s failed with
  | nil => simp at hunwritable
  | @cons resource x resources results hx _ ih =>
    cases hfirst : x.isUnwritable with
    | true =>
      obtain ⟨fault, hfault⟩ := writeResolution_of_unwritable s hfirst
      exact ⟨⟨s, if x.isSuccess then failed else failed + 1, some (.unwritable fault)⟩, fault,
        by simp only [findAll, hx, hfault], rfl⟩
    | false =>
      have hline : writeResolution true s x = (s.more (x.outText true) (x.errText true), none) :=
        writeResolution_of_takes (Streams.takes_of_unlimited hs fun _ => hfirst)
      have hlater : ∃ y ∈ results, y.isUnwritable = true := by
        obtain ⟨y, hy, hyes⟩ := hunwritable
        obtain rfl | hy := List.mem_cons.1 hy
        · simp [hfirst] at hyes
        · exact ⟨y, hy, hyes⟩
      obtain ⟨progress, fault, hprogress, hfault⟩ :=
        ih (s := s.more (x.outText true) (x.errText true)) (hs.more _ _) hlater
          (if x.isSuccess then failed else failed + 1)
      exact ⟨progress, fault, by simp only [findAll, hx, hline, hprogress], hfault⟩

end findAll

end Command
end LayeredRoots
