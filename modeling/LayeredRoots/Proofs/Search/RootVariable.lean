import LayeredRoots.Proofs.Search.Anchoring
import LayeredRoots.Proofs.Search.Prediction

/-! # What the root variable is read as

    A resolver looks at the variables and the working directory for one thing
    only, the root that the root variable names.  So two processes that make the
    same of it are one to a resolver (`resolve_inProcess`).

    - A value that is not empty is made absolute, and what it was made into is
      read as it stands, wherever the process works.  Reading is idempotent.
    - The empty value stays empty and names no directory.  Searches pass it over
      like an unset variable, except for a note that this root is missing.

    * `told_search_congr`: what a search tells follows from what its probes tell.
    * `root_variable_read_once`: **a value is as good as what it is read as.** -/

namespace LayeredRoots.Resolver

variable {r : Resolver} {environment : Environment} {workingDir : Option Path} {resource : String}

/-- The resolver with other variables, in another working directory. -/
def inProcess (r : Resolver) (environment : Environment) (workingDir : Option Path) : Resolver :=
  { r with environment := environment, workingDir := workingDir }

/-! ### Processes that name the same root -/

section same

variable (h : (r.inProcess environment workingDir).variableRoot? = r.variableRoot?)
include h

theorem report_inProcess (source : Source) :
    (r.inProcess environment workingDir).report source = r.report source := by
  cases source with
  | rootVariable =>
    rw [report, report, reportVariable, reportVariable, h]
    rfl
  | bundle | installTree => rfl

theorem candidates_inProcess : (r.inProcess environment workingDir).candidates = r.candidates :=
  List.map_congr_left fun source _ => report_inProcess h source

theorem probe_inProcess (source : Source) (resource : String) :
    (r.inProcess environment workingDir).probe source resource = r.probe source resource := by
  cases source with
  | rootVariable =>
    rw [probe, probe, probeVariable, probeVariable, h]
    rfl
  | bundle | installTree => rfl

theorem search_inProcess (resource : String) (order : List Source) :
    (r.inProcess environment workingDir).search resource order = r.search resource order := by
  induction order with
  | nil => rfl
  | cons source rest ih => rw [search, search, probe_inProcess h, ih]

theorem resolve_inProcess (resource : String) :
    (r.inProcess environment workingDir).resolve resource = r.resolve resource := by
  unfold resolve
  rw [search_inProcess h]
  rfl

end same

/-! ### Probes that tell the same -/

section told

variable {s : Resolver} (hconfig : s.config = r.config)
  (h : ∀ source, (s.probe source resource).told = (r.probe source resource).told)
include hconfig h

/-- What a search tells follows from what the probes of it tell. -/
theorem told_search_congr (order : List Source) :
    (s.search resource order).told = (r.search resource order).told := by
  induction order with
  | nil => rw [search, search, hconfig]
  | cons source rest ih =>
    obtain ⟨houtcome, hdirectories⟩ := Prod.ext_iff.1 (h source)
    have hprobe : (s.probe source resource).outcome = (r.probe source resource).outcome := houtcome
    rw [search, search, hprobe]
    cases (r.probe source resource).outcome with
    | error m => exact Prod.ext rfl hdirectories
    | ok found =>
      cases found with
      | none => exact ih
      | some resolution => exact Prod.ext rfl hdirectories

theorem told_resolve_of_told_probe : (s.resolve resource).told = (r.resolve resource).told := by
  by_cases hresource : isRelativeResource resource = true
  · by_cases hnamespace : Text.hasPrefix r.config.namespacePrefix resource = true
    · rw [resolve_eq_search hresource hnamespace,
        resolve_eq_search (r := s) hresource (by rw [hconfig, hnamespace]), hconfig]
      exact told_search_congr hconfig h _
    · simp [resolve, hresource, hnamespace, hconfig]
  · simp [resolve, hresource]

end told

/-! ### The value of the variable -/

/-- An absolute path is read as it stands. -/
theorem absolute_of_isAbsolute {path : Path} (h : path.isAbsolute = true) :
    r.absolute path = path := by
  simp [absolute, h]

/-- The empty value names a root that is not there, and says so in a note. -/
theorem probe_rootVariable_of_empty
    (hvalue : r.environment.get r.config.rootVariable = some [])
    (hdir : r.files.isDir ⟨[]⟩ = false) (resource : String) :
    r.probe .rootVariable resource =
      (Finding.of (.ok none)).noting [.rootMissing r.config.rootVariable ⟨[]⟩] := by
  have hroot : r.variableRoot? = some ⟨[]⟩ := by
    rw [variableRoot?, hvalue]
    rfl
  rw [probe, probeVariable, hroot]
  simp [hdir]

theorem probe_rootVariable_of_unset (hvalue : r.environment.get r.config.rootVariable = none)
    (resource : String) : r.probe .rootVariable resource = .of (.ok none) := by
  have hroot : r.variableRoot? = none := by
    rw [variableRoot?, hvalue]
    rfl
  rw [probe, probeVariable, hroot]

/-- **A value is as good as what it is read as.**  In an absolute working directory a
    value of the root variable that is not empty is read as an absolute path.  A
    process in any working directory whose variable has this path for its value gets
    the same reports, the same from each source and the same from each search, down
    to the notes, and reads the path as it is.  The empty value is as good as none:
    to the caller and to a deprecation log, probes of the variable and searches come
    to the same without it. -/
theorem root_variable_read_once (r : Resolver) (dir : Path) (hdir : r.workingDir = some dir)
    (habsolute : dir.isAbsolute = true) (value : Bytes)
    (hvalue : r.environment.get r.config.rootVariable = some value) :
    (value ≠ [] → ∃ root, (r.report .rootVariable).root = some root ∧ root.isAbsolute = true ∧
      ∀ (environment : Environment) (workingDir : Option Path),
        environment.get r.config.rootVariable = some root.bytes →
        (r.inProcess environment workingDir).candidates = r.candidates ∧
        (∀ resource, (r.inProcess environment workingDir).resolve resource = r.resolve resource) ∧
        (∀ source resource,
          (r.inProcess environment workingDir).probe source resource = r.probe source resource) ∧
        ((r.inProcess environment workingDir).report .rootVariable).root = some root) ∧
    (value = [] → r.files.isDir ⟨[]⟩ = false →
      ∀ (environment : Environment) (workingDir : Option Path),
        environment.get r.config.rootVariable = none →
        ∀ resource, let unset := r.inProcess environment workingDir
          (r.resolve resource).outcome = (unset.resolve resource).outcome ∧
          (r.probe .rootVariable resource).outcome =
            (unset.probe .rootVariable resource).outcome ∧
          ∀ log : DeprecationLog,
            log.record (r.resolve resource).directories =
              log.record (unset.resolve resource).directories ∧
            log.record (r.probe .rootVariable resource).directories =
              log.record (unset.probe .rootVariable resource).directories) := by
  refine ⟨?_, ?_⟩
  · intro hne
    have hroot : r.variableRoot? = some (r.absolute ⟨value⟩) := by
      rw [variableRoot?, hvalue]
      rfl
    have hfull : (r.absolute ⟨value⟩).isAbsolute = true :=
      isAbsolute_absolute_of_ne hdir habsolute (by simpa [Path.isEmpty] using hne)
    refine ⟨r.absolute ⟨value⟩, hroot, hfull, ?_⟩
    intro environment workingDir hset
    -- the path is absolute, so the other process reads it as it stands
    have hsame : (r.inProcess environment workingDir).variableRoot? =
        some (r.absolute ⟨value⟩) := by
      have hget : (r.inProcess environment workingDir).environment.get
          (r.inProcess environment workingDir).config.rootVariable =
          some (r.absolute ⟨value⟩).bytes := hset
      rw [variableRoot?, hget, Option.map_some, absolute_of_isAbsolute hfull]
    have hboth := hsame.trans hroot.symm
    exact ⟨candidates_inProcess hboth, resolve_inProcess hboth, probe_inProcess hboth, hsame⟩
  · rintro rfl hempty environment workingDir hunset resource unset
    have hprobe : (unset.probe .rootVariable resource).told =
        (r.probe .rootVariable resource).told := by
      rw [probe_rootVariable_of_empty hvalue hempty, probe_rootVariable_of_unset hunset]
      rfl
    have hsources (source : Source) :
        (unset.probe source resource).told = (r.probe source resource).told := by
      cases source with
      | rootVariable => exact hprobe
      | bundle | installTree => rfl
    have hconfig : unset.config = r.config := rfl
    have hresolve := told_resolve_of_told_probe hconfig hsources
    obtain ⟨hfound, htold⟩ := Prod.ext_iff.1 hresolve
    obtain ⟨hprobed, hprobeTold⟩ := Prod.ext_iff.1 hprobe
    exact ⟨hfound.symm, hprobed.symm,
      fun log => ⟨congrArg log.record htold.symm, congrArg log.record hprobeTold.symm⟩⟩

/-- The bare root under another name, and the path that this name is read as; and
    the empty name in place of none. -/
theorem root_variable_read_once_bareRoot :
    let named (name : String) := bareRoot.inProcess
      (Variables.mk [("PROJECT_RESOURCE_ROOT", Text.encode name)]).view (some (Path.ofText "/w"))
    let elsewhere := bareRoot.inProcess
      (Variables.mk [("PROJECT_RESOURCE_ROOT", Text.encode "/w/data/")]).view none
    ((named "./data//").report .rootVariable).root = some (Path.ofText "/w/data/") ∧
    elsewhere.candidates = (named "./data//").candidates ∧
    (∀ resource, elsewhere.resolve resource = (named "./data//").resolve resource) ∧
    ∀ resource, ((named "").resolve resource).outcome =
      ((bareRoot.inProcess (Variables.mk []).view none).resolve resource).outcome := by
  intro named elsewhere
  have hroot : ((named "./data//").report .rootVariable).root = some (Path.ofText "/w/data/") := by
    decide +kernel
  obtain ⟨hread, -⟩ := root_variable_read_once (named "./data//") (Path.ofText "/w") rfl
    (by decide +kernel) (Text.encode "./data//") (by decide +kernel)
  obtain ⟨root, hnamed, -, hsame⟩ := hread (by decide +kernel)
  obtain rfl : root = Path.ofText "/w/data/" := Option.some.inj (hnamed.symm.trans hroot)
  obtain ⟨hcandidates, hresolve, -⟩ := hsame
    (Variables.mk [("PROJECT_RESOURCE_ROOT", Text.encode "/w/data/")]).view none (by decide +kernel)
  obtain ⟨-, hempty⟩ := root_variable_read_once (named "") (Path.ofText "/w") rfl
    (by decide +kernel) [] (by decide +kernel)
  refine ⟨hroot, hcandidates, hresolve, fun resource => ?_⟩
  exact (hempty rfl (by decide +kernel) (Variables.mk []).view none (by decide +kernel) resource).1

end LayeredRoots.Resolver
