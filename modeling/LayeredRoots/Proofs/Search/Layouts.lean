import LayeredRoots.Proofs.Bundle.Directory
import LayeredRoots.Proofs.Config.Valid
import LayeredRoots.Proofs.Search.Outcome
import LayeredRoots.Proofs.Storage.Spelling

/-! # Layouts of one tree

    A tree of resources can be deployed in three ways: the root variable names
    it, it serves as runfiles, or it lies next to the install marker.  A
    resource is settled alike in all of them, although the sources look at it
    in different orders and the runfiles do not know the root of the tree.

    The sources write the root of the tree in different ways.  All that is asked
    of the files is that this makes no difference for the sentinel and the
    resource (`LooksAlike`): files that never mind keep that promise, and so does
    a disk if no path is too long.

    * `Settled`: what there is to find out about a resource in a tree.
    * `settled_checkRoot`: a root from the variable or the marker settles it.
    * `settled_probeBundle`: the runfiles settle it, with the root that they
      recover from the sentinel.
    * `layouts_agree`: any two layouts agree. -/

namespace LayeredRoots

/-- A directory that carries the sentinel of a configuration. -/
structure Tree (c : Config) (files : Files) (dir : Path) : Prop where
  isAbsolute : dir.isAbsolute = true
  isDir      : files.isDir dir = true
  sentinel   : files.isFile (dir.joinText c.sentinel) = true

/-- What a search tells about a resource that is looked for in one tree: there
    is a directory at its place, or a regular file, or neither.  The place may
    be written in any way. -/
inductive Settled (files : Files) (dir : Path) (resource : String) :
    Except Misuse Resolution × List String → Prop where
  | directory (place : Path) (hdir : files.isDir (dir.joinText resource) = true)
      (hplace : place.components = (dir.joinText resource).components) :
      Settled files dir resource (.ok (.found resource place), [resource])
  | file (place : Path) (hdir : files.isDir (dir.joinText resource) = false)
      (hfile : files.isFile (dir.joinText resource) = true)
      (hplace : place.components = (dir.joinText resource).components) :
      Settled files dir resource (.ok (.found resource place), [])
  | nothing (message : String) (hdir : files.isDir (dir.joinText resource) = false)
      (hfile : files.isFile (dir.joinText resource) = false) :
      Settled files dir resource (.ok (.failed resource message), [])

/-- Two results for a resource that is looked for at a place: both found it
    there, however the place is written, or neither did. -/
inductive Resolution.Agree (resource : String) (place : Path) : Resolution → Resolution → Prop where
  | found (path other : Path) (hpath : path.same place = true) (hother : other.same place = true) :
      Agree resource place (.found resource path) (.found resource other)
  | failed (message other : String) :
      Agree resource place (.failed resource message) (.failed resource other)

/-- Whoever settles a resource in a tree comes to the same. -/
theorem Settled.agree {files : Files} {dir : Path} {resource : String}
    {a b : Except Misuse Resolution × List String} (ha : Settled files dir resource a)
    (hb : Settled files dir resource b) :
    ∃ x y, a.1 = .ok x ∧ b.1 = .ok y ∧ Resolution.Agree resource (dir.joinText resource) x y ∧
      (x.isSuccess = true ↔ files.isDir (dir.joinText resource) = true ∨
        files.isFile (dir.joinText resource) = true) ∧
      a.2 = b.2 := by
  cases ha with
  | directory place hdir hplace =>
    cases hb with
    | directory other _ hother =>
      exact ⟨_, _, rfl, rfl, .found place other (decide_eq_true hplace) (decide_eq_true hother),
        iff_of_true rfl (.inl hdir), rfl⟩
    | file _ hnot | nothing _ hnot => simp [hdir] at hnot
  | file place hdir hfile hplace =>
    cases hb with
    | directory _ hnot => simp [hdir] at hnot
    | file other _ _ hother =>
      exact ⟨_, _, rfl, rfl, .found place other (decide_eq_true hplace) (decide_eq_true hother),
        iff_of_true rfl (.inr hfile), rfl⟩
    | nothing _ _ hnot => simp [hfile] at hnot
  | nothing message hdir hfile =>
    cases hb with
    | directory _ hnot => simp [hdir] at hnot
    | file _ _ hnot => simp [hfile] at hnot
    | nothing other =>
      have hnowhere : ¬(files.isDir (dir.joinText resource) = true ∨
          files.isFile (dir.joinText resource) = true) := by simp [hdir, hfile]
      exact ⟨_, _, rfl, rfl, .failed message other, iff_of_false Bool.false_ne_true hnowhere, rfl⟩

namespace Resolver

/-- The ways to deploy a tree, each with a resolver that looks nowhere else. -/
inductive Deploys (c : Config) (files : Files) (dir : Path) : Resolver → Prop where
  /-- The root variable names the tree. -/
  | byVariable (r : Resolver) (hconfig : r.config = c.withCandidateOrder [.rootVariable])
      (hfiles : r.files = files) (hvalue : r.environment.get c.rootVariable = some dir.bytes) :
      Deploys c files dir r
  /-- The tree serves as runfiles. -/
  | asRunfiles (r : Resolver) (hconfig : r.config = c.withCandidateOrder [.bundle])
      (hfiles : r.files = files) (hbundle : r.bundle = (Runfiles.directory dir).bundle files) :
      Deploys c files dir r
  /-- The tree lies next to the install marker, its path written in any way. -/
  | byMarker (r : Resolver) (hconfig : r.config = c.withCandidateOrder [.installTree])
      (hfiles : r.files = files) (markerDir : Path) (hmarker : r.markerDir = some markerDir)
      (hsame : (markerDir.joinText c.installShare).same dir = true)
      (hdir : files.isDir (markerDir.joinText c.installShare) = true) :
      Deploys c files dir r

/-- Whatever a resolver takes for the root of a tree, what a search asks for
    there is as in the tree. -/
def LooksAlike (r : Resolver) (dir : Path) (resource : String) : Prop :=
  ∀ source ∈ r.config.candidateOrder, ∀ root, (r.report source).root = some root →
    root.same dir = true → ∀ text ∈ [r.config.sentinel, resource], r.files.AlikeAt root dir text

theorem looksAlike_of_alikeBelow {r : Resolver} (h : r.files.AlikeBelow) (dir : Path)
    (resource : String) : r.LooksAlike dir resource :=
  fun _ _ _ _ hsame text _ => h.alikeAt hsame text

/-- A disk keeps the promise as long as no path is too long. -/
theorem looksAlike_of_disk {r : Resolver} {d : Disk} {o : Origin} {dir : Path} {resource : String}
    (hfiles : r.files = (d.view o).toFiles) (hdir : dir.isAbsolute = true)
    (htree : ∀ text ∈ [r.config.sentinel, resource],
      (dir.joinText text).bytes.length < Disk.pathLimit)
    (hroots : ∀ source ∈ r.config.candidateOrder, ∀ root, (r.report source).root = some root →
      ∀ text ∈ [r.config.sentinel, resource], (root.joinText text).bytes.length < Disk.pathLimit) :
    r.LooksAlike dir resource := by
  intro source hsource root hroot hsame text htext
  have hcomponents : root.components = dir.components := of_decide_eq_true hsame
  have habsolute : root.isAbsolute = true := by
    rw [Path.isAbsolute_iff_head?, hcomponents]
    exact Path.isAbsolute_iff_head?.1 hdir
  rw [hfiles]
  exact Disk.alikeAt_view habsolute hsame (hroots source hsource root hroot text htext)
    (htree text htext)

/-! ### One source -/

section sources

variable {r : Resolver} {dir : Path} {resource : String}

theorem isEmpty_of_same {root : Path} (h : root.same dir = true) (hdir : dir.isEmpty = false) :
    root.isEmpty = false := by
  have hsteps : root.components = dir.components := of_decide_eq_true h
  rw [← Bool.not_eq_true, ← Path.components_eq_nil_iff] at hdir ⊢
  rwa [hsteps]

/-- The root of a tree settles a resource, however the root is written. -/
theorem settled_checkRoot {origin : String} {root : Path} (horigin : origin.isEmpty = false)
    (hresource : isRelativeResource resource = true) (hdir : dir.isEmpty = false)
    (hsame : root.same dir = true) (halike : r.files.AlikeAt root dir resource)
    (hcarries : r.files.isFile (root.joinText r.config.sentinel) = true) :
    Settled r.files dir resource (r.checkRoot origin root resource).told := by
  have hroot := isEmpty_of_same hsame hdir
  have hplace : (root.joinText resource).components = (dir.joinText resource).components :=
    Path.components_join_congr (of_decide_eq_true hsame) _
  have hdirs := halike.isDir
  have hfiles := halike.isFile
  cases hisDir : r.files.isDir (dir.joinText resource) with
  | true =>
    rw [told_checkRoot_of_isDir horigin hroot hresource hcarries (hdirs.trans hisDir)]
    exact .directory _ hisDir hplace
  | false =>
    cases hisFile : r.files.isFile (dir.joinText resource) with
    | true =>
      rw [told_checkRoot_of_isFile horigin hroot hresource hcarries (hdirs.trans hisDir)
        (hfiles.trans hisFile)]
      exact .file _ hisDir hisFile hplace
    | false =>
      rw [told_checkRoot_of_missing horigin hroot hresource hcarries (hdirs.trans hisDir)
        (hfiles.trans hisFile)]
      exact .nothing _ hisDir hisFile

theorem report_bundle_of_root {root : Path} (havailable : r.bundle.available = true)
    (hroot : r.bundle.root r.config.sentinel = .ok root) :
    r.report .bundle = ⟨.bundle, bundleDescription, some root, .usable⟩ := by
  simp [report, reportBundle, havailable, hroot]

/-- Runfiles over a tree settle a resource.  A regular file is found at once;
    for a directory the root has to be recovered first. -/
theorem settled_probeBundle (hbundle : r.bundle = (Runfiles.directory dir).bundle r.files)
    (hresource : isRelativeResource resource = true) (hseparate : r.files.Separate)
    (hdir : dir.isEmpty = false)
    (hroot : ∃ root, r.bundle.root r.config.sentinel = .ok root ∧ root.same dir = true ∧
      r.files.AlikeAt root dir resource)
    (hrules : r.config.relocations = []) :
    ∃ told, Settled r.files dir resource told ∧
      (r.probeBundle resource).told = (told.1.map some, told.2) := by
  have hname := isEmpty_of_isRelativeResource hresource
  have havailable : r.bundle.available = true := by
    rw [hbundle]
    rfl
  obtain ⟨root, hroot, hsame, halike⟩ := hroot
  cases hisFile : r.files.isFile (dir.joinText resource) with
  | true =>
    have hplace : r.bundle.locate resource = .ok (dir.joinText resource) := by
      rw [hbundle]
      exact Runfiles.locate_directory_of_isFile hisFile
    have hpath : (dir.joinText resource).isEmpty = false := Path.join_ne_empty hdir
    -- the bundle never asks for a directory here, but none can be there
    refine ⟨_, .file _ (hseparate.isDir_of_isFile hisFile) hisFile rfl, ?_⟩
    rw [told_probeBundle_of_located havailable hplace, Resolution.success_eq_ok hname hpath]
  | false =>
    obtain ⟨reason, hmiss⟩ : ∃ reason, r.bundle.locate resource = .error reason := by
      rw [hbundle]
      exact ⟨_, Runfiles.locate_directory_of_missing hisFile⟩
    have hdirectory := @Bundle.directory?_of_root _ resource r.files _ _ hroot
    rw [halike.isDir] at hdirectory
    cases hisDir : r.files.isDir (dir.joinText resource) with
    | true =>
      rw [hisDir, if_pos rfl] at hdirectory
      have hplace : (root.joinText resource).components = (dir.joinText resource).components :=
        Path.components_join_congr (of_decide_eq_true hsame) _
      have hpath : (root.joinText resource).isEmpty = false :=
        Path.join_ne_empty (isEmpty_of_same hsame hdir)
      refine ⟨_, .directory _ hisDir hplace, ?_⟩
      rw [told_probeBundle_of_directory havailable hmiss hdirectory,
        Resolution.success_eq_ok hname hpath]
    | false =>
      rw [hisDir, if_neg (by simp)] at hdirectory
      -- no rule, no other place to look at
      have hmoved : (r.bundle.relocated? r.config.namespacePrefix r.config.relocations
          resource).1 = none := by
        rw [hrules]
        exact Bundle.relocated?_nil _
      refine ⟨_, .nothing ((bundleFailure reason).message resource) hisDir hisFile, ?_⟩
      rw [told_probeBundle_of_misses ⟨havailable, hmiss, hdirectory, hmoved⟩,
        refuse_eq_ok hname (bundleFailure_ne reason)]

end sources

/-! ### One layout -/

/-- A path that starts with the namespace leads down from a root. -/
theorem isRelativeResource_below_namespace {c : Config} (hvalid : c.flaw? = none)
    {resource : String} (h : Text.hasPrefix c.namespacePrefix resource = true) :
    isRelativeResource resource = true := by
  obtain ⟨hnonempty, -, hrelative⟩ :=
    (c.prefixFlaw?_eq_none_iff).1 ((c.flaw?_eq_none_iff).1 hvalid).1
  obtain ⟨rest, rfl⟩ := Text.hasPrefix_iff.1 h
  have hname : (c.namespacePrefix ++ rest).isEmpty = false := by
    have hne : c.namespacePrefix ≠ "" := by simpa using hnonempty
    simpa using fun hnil : c.namespacePrefix = "" => absurd hnil hne
  rw [isRelativeResource, Text.hasPrefix_slash_append hnonempty, hrelative, hname]
  rfl

/-- A directory that is the root of a source settles a resource there. -/
theorem settled_probe {r : Resolver} {source : Source} {root dir : Path} {resource : String}
    (hsource : source ≠ .bundle) (htried : source ∈ r.config.candidateOrder)
    (hroot : (r.report source).root = some root) (hisDir : r.files.isDir root = true)
    (hresource : isRelativeResource resource = true) (halike : r.LooksAlike dir resource)
    (hdir : dir.isEmpty = false) (hsame : root.same dir = true)
    (hsentinel : r.files.isFile (dir.joinText r.config.sentinel) = true) :
    r.hasRoot source = true ∧
    ∃ told, Settled r.files dir resource told ∧
      (r.probe source resource).told = (told.1.map some, told.2) := by
  have hpresent : r.hasRoot source = true := by
    cases source with
    | bundle => exact absurd rfl hsource
    | rootVariable =>
      have hvariable : r.variableRoot? = some root := hroot
      simp [hasRoot, report, reportVariable, isPresent_directoryStatus, hvariable, hisDir]
    | installTree =>
      have hinstall : r.installRoot? = some root := hroot
      simp [hasRoot, report, reportInstallTree, isPresent_directoryStatus, hinstall, hisDir]
  obtain ⟨other, hother, -, heq⟩ := probe_eq_checkRoot resource hsource hpresent
  obtain rfl : root = other := Option.some.inj (hroot.symm.trans hother)
  have hthere := halike source htried root hroot hsame
  have hcarries : r.files.isFile (root.joinText r.config.sentinel) = true := by
    rw [(hthere _ (by simp)).isFile, hsentinel]
  have hsettled := settled_checkRoot (r := r) (description_report_ne_empty r source) hresource
    hdir hsame (hthere resource (by simp)) hcarries
  exact ⟨hpresent, _, hsettled, by rw [heq, Finding.told_map]⟩

/-- The only source of a resolver settles its searches. -/
theorem settled_resolve_of_only {r : Resolver} {source : Source} {dir : Path} {resource : String}
    (horder : r.config.candidateOrder = [source])
    (hresource : isRelativeResource resource = true)
    (hnamespace : Text.hasPrefix r.config.namespacePrefix resource = true)
    (hprobe : r.hasRoot source = true ∧
      ∃ told, Settled r.files dir resource told ∧
        (r.probe source resource).told = (told.1.map some, told.2)) :
    Settled r.files dir resource (r.resolve resource).told := by
  obtain ⟨hroot, told, hsettled, hprobe⟩ := hprobe
  have hfirst : r.config.candidateOrder.find? r.hasRoot = some source := by
    simp [horder, hroot]
  rw [resolve_eq_search hresource hnamespace, told_search_of_probe hfirst (congrArg Prod.fst hprobe),
    hprobe]
  exact hsettled

section deployed

variable {c : Config} {files : Files} {dir : Path} {resource : String}
    (hvalid : c.flaw? = none) (hrules : c.relocations = [])
    (hhere : (Path.ofText c.namespacePrefix).components.head? ≠ some .here)
    (hseparate : files.Separate) (htree : Tree c files dir)
    (hnamespace : Text.hasPrefix c.namespacePrefix resource = true)
include hvalid hrules hhere hseparate htree hnamespace

/-- **One layout.**  However a tree is deployed, a resource is settled as it
    lies there. -/
theorem settled_resolve {r : Resolver} (hr : Deploys c files dir r)
    (halike : r.LooksAlike dir resource) :
    Settled files dir resource (r.resolve resource).told := by
  have hresource := isRelativeResource_below_namespace hvalid hnamespace
  have hdir := Path.isEmpty_of_isAbsolute htree.isAbsolute
  cases hr with
  | byVariable hconfig hfiles hvalue =>
    subst hfiles
    have hroot : r.variableRoot? = some dir := by
      simp [variableRoot?, hconfig, Config.withCandidateOrder, hvalue, absolute, htree.isAbsolute]
    refine settled_resolve_of_only (by rw [hconfig]; rfl) hresource (by rwa [hconfig]) ?_
    have htried : Source.rootVariable ∈ r.config.candidateOrder := by
      simp [hconfig, Config.withCandidateOrder]
    exact settled_probe (by simp) htried hroot htree.isDir hresource halike hdir
      (decide_eq_true rfl) (by rw [hconfig]; exact htree.sentinel)
  | asRunfiles hconfig hfiles hbundle =>
    subst hfiles
    -- the sentinel has no leading `.`, so its steps end its place in the tree
    have hsentinel := Config.hasPrefix_sentinel hvalid
    have hplain : (Path.ofText c.sentinel).components.head? ≠ some .here := by
      rwa [Config.head?_below_namespace hvalid hsentinel]
    have hfound := Runfiles.root_directory hdir (Config.isAbsolute_below_namespace hvalid hsentinel)
      htree.sentinel hplain (Config.sentinel_ne_empty hvalid)
    have hrecovered : r.bundle.root r.config.sentinel = .ok dir.trimmed := by
      rw [hbundle, hconfig]
      exact hfound
    have hsame : dir.trimmed.same dir = true := decide_eq_true (Path.components_trimmed hdir)
    have havailable : r.bundle.available = true := by
      rw [hbundle]
      rfl
    have hreport : (r.report .bundle).root = some dir.trimmed := by
      rw [report_bundle_of_root havailable hrecovered]
    have htried : Source.bundle ∈ r.config.candidateOrder := by
      simp [hconfig, Config.withCandidateOrder]
    refine settled_resolve_of_only (by rw [hconfig]; rfl) hresource (by rwa [hconfig]) ⟨?_, ?_⟩
    · rw [hasRoot_bundle, havailable]
    · have hnone : r.config.relocations = [] := by
        rw [hconfig]
        exact hrules
      exact settled_probeBundle hbundle hresource hseparate hdir ⟨_, hrecovered, hsame,
        halike .bundle htried _ hreport hsame resource (by simp)⟩ hnone
  | byMarker hconfig hfiles markerDir hmarker hsame hmarkerDir =>
    subst hfiles
    have hroot : r.installRoot? = some (markerDir.joinText c.installShare) := by
      simp [installRoot?, hconfig, Config.withCandidateOrder, hmarker]
    refine settled_resolve_of_only (by rw [hconfig]; rfl) hresource (by rwa [hconfig]) ?_
    have htried : Source.installTree ∈ r.config.candidateOrder := by
      simp [hconfig, Config.withCandidateOrder]
    exact settled_probe (by simp) htried hroot hmarkerDir hresource halike hdir hsame
      (by rw [hconfig]; exact htree.sentinel)

/-- **Layouts agree.**  Two layouts of a tree come to the same for a resource:
    both find it, if a directory or a regular file is at its place in the tree,
    and hand out paths with the steps of that place, or both fail.  They leave
    and emit the same in a log. -/
theorem layouts_agree {r s : Resolver} (hr : Deploys c files dir r) (hs : Deploys c files dir s)
    (halike : r.LooksAlike dir resource) (hother : s.LooksAlike dir resource) :
    ∃ x y, (r.resolve resource).outcome = .ok x ∧ (s.resolve resource).outcome = .ok y ∧
      Resolution.Agree resource (dir.joinText resource) x y ∧
      (x.isSuccess = true ↔ files.isDir (dir.joinText resource) = true ∨
        files.isFile (dir.joinText resource) = true) ∧
      ∀ log : DeprecationLog,
        log.record (r.resolve resource).directories = log.record (s.resolve resource).directories := by
  have hsettled := settled_resolve hvalid hrules hhere hseparate htree hnamespace hr halike
  have hsettled' := settled_resolve hvalid hrules hhere hseparate htree hnamespace hs hother
  obtain ⟨x, y, hx, hy, hagree, hsuccess, hdirectories⟩ := hsettled.agree hsettled'
  refine ⟨x, y, hx, hy, hagree, hsuccess, ?_⟩
  intro log
  exact congrArg log.record hdirectories

end deployed

/-- A resolver over a share directory, which looks for it in one place only. -/
def overShareOf (files : Files) (markerDir : Path) (source : Source) : Resolver where
  config := Config.standard.withCandidateOrder [source]
  environment := (Variables.mk [("PROJECT_RESOURCE_ROOT", Text.encode "/opt/lib/../share")]).view
  files := files
  bundle := (Runfiles.directory (Path.ofText "/opt/lib/../share")).bundle files
  markerDir := some markerDir
  workingDir := none

/-- A share directory with one directory in it. -/
def shareFiles : MemoryFiles :=
  (MemoryFiles.empty.addFile (Path.ofText "/opt/lib/../share/project/.resource-root-sentinel")).addDir
    (Path.ofText "/opt/lib/../share/project/models")

/-- A resolver over that directory in memory. -/
def overShare (source : Source) : Resolver :=
  overShareOf shareFiles.view (Path.ofText "/opt/lib") source

/-- The same directory on disk. -/
def shareDisk : Disk :=
  ⟨[([Text.encode "opt"], .dir), ([Text.encode "lib", Text.encode "opt"], .dir),
    ([Text.encode "share", Text.encode "opt"], .dir),
    ([Text.encode "project", Text.encode "share", Text.encode "opt"], .dir),
    ([Text.encode ".resource-root-sentinel", Text.encode "project", Text.encode "share",
      Text.encode "opt"], .file []),
    ([Text.encode "models", Text.encode "project", Text.encode "share", Text.encode "opt"], .dir)]⟩

/-- A resolver over that directory on disk, with the marker written in another
    way. -/
def overShareDisk (source : Source) : Resolver :=
  overShareOf (shareDisk.view (.dir [])).toFiles (Path.ofText "/opt//lib/.") source

/-- Two layouts of the share directory agree about the directory in it. -/
def AgreeOverShare (r s : Resolver) : Prop :=
  let place := (Path.ofText "/opt/lib/../share").joinText "project/models"
  ∃ x y, (r.resolve "project/models").outcome = .ok x ∧
    (s.resolve "project/models").outcome = .ok y ∧ Resolution.Agree "project/models" place x y ∧
    (x.isSuccess = true ↔ r.files.isDir place = true ∨ r.files.isFile place = true) ∧
    ∀ log : DeprecationLog,
      log.record (r.resolve "project/models").directories =
        log.record (s.resolve "project/models").directories

/-- The directory is found as runfiles and next to the marker, in memory and on
    disk. -/
theorem layouts_agree_overShare :
    ((overShare .bundle).resolve "project/models").directories = ["project/models"] ∧
    AgreeOverShare (overShare .bundle) (overShare .installTree) ∧
    AgreeOverShare (overShareDisk .bundle) (overShareDisk .installTree) := by
  let dir := Path.ofText "/opt/lib/../share"
  have hvalid : Config.standard.flaw? = none := by decide +kernel
  refine ⟨by decide +kernel, ?_, ?_⟩
  · have hseparate : shareFiles.view.Separate := MemoryFiles.separate_view (by decide +kernel)
    have htree : Tree Config.standard shareFiles.view dir :=
      ⟨by decide +kernel, by decide +kernel, by decide +kernel⟩
    have hbundle : Deploys Config.standard shareFiles.view dir (overShare .bundle) :=
      .asRunfiles _ rfl rfl rfl
    have hmarker : Deploys Config.standard shareFiles.view dir (overShare .installTree) :=
      .byMarker _ rfl rfl (Path.ofText "/opt/lib") rfl (by decide +kernel) (by decide +kernel)
    exact layouts_agree hvalid rfl (by decide +kernel) hseparate htree (by decide) hbundle hmarker
      (looksAlike_of_alikeBelow shareFiles.alikeBelow_view _ _)
      (looksAlike_of_alikeBelow shareFiles.alikeBelow_view _ _)
  · let files := (shareDisk.view (.dir [])).toFiles
    have hsentinel : files.isFile (dir.joinText Config.standard.sentinel) = true :=
      Disk.isFile_of_direct? [] (by decide +kernel)
    have htree : Tree Config.standard files dir :=
      ⟨by decide +kernel, Disk.isDir_of_direct? (by decide +kernel), hsentinel⟩
    have hbundle : Deploys Config.standard files dir (overShareDisk .bundle) :=
      .asRunfiles _ rfl rfl rfl
    have hmarker : Deploys Config.standard files dir (overShareDisk .installTree) :=
      .byMarker _ rfl rfl (Path.ofText "/opt//lib/.") rfl (by decide +kernel)
        (Disk.isDir_of_direct? (by decide +kernel))
    have hrecovered : (overShareDisk .bundle).bundle.root Config.standard.sentinel =
        .ok dir.trimmed :=
      Runfiles.root_directory (by decide +kernel) (by decide +kernel) hsentinel (by decide +kernel)
        (by decide)
    -- all paths that a search comes to are short
    have halike : (overShareDisk .bundle).LooksAlike dir "project/models" := by
      refine looksAlike_of_disk rfl (by decide +kernel) (by decide +kernel) ?_
      intro source hsource root hroot
      obtain rfl := List.mem_singleton.1 hsource
      rw [report_bundle_of_root rfl hrecovered] at hroot
      obtain rfl := Option.some.inj hroot
      decide +kernel
    have hother : (overShareDisk .installTree).LooksAlike dir "project/models" := by
      refine looksAlike_of_disk rfl (by decide +kernel) (by decide +kernel) ?_
      intro source hsource root hroot
      obtain rfl := List.mem_singleton.1 hsource
      obtain rfl := Option.some.inj hroot
      decide +kernel
    exact layouts_agree hvalid rfl (by decide +kernel) (Disk.separate_view _ _) htree (by decide)
      hbundle hmarker halike hother

end Resolver
end LayeredRoots
