import LayeredRoots.Proofs.Config.Demands
import LayeredRoots.Proofs.Search.DirectoryBundle
import LayeredRoots.Proofs.Search.Relocations
import LayeredRoots.Proofs.Search.Routes

/-! # Confinement to a root

    Joining throws the root away where the other side is absolute.  A search joins
    resource paths, and paths that rules make from them, to four kinds of roots
    (`Joined`).  All these paths start with the namespace, which is a relative
    directory, so they are relative whatever a resource or the target of a rule
    looks like, and the root stays.

    * `components_joinText_below_namespace`: the namespace comes right behind the
      root, and the rest behind the namespace.
    * `Joined.components`: what a root gains is the steps of the path that was
      asked for, less a leading `.`.
    * `Joined.exists_below`: without `..` nothing leaves the namespace below the
      root.

    A leading `.` is kept where there is no root to stand in front of it.  This
    needs runfiles in `.`, of which the recovered root is the empty path
    (`leading_dot_kept`). -/

namespace LayeredRoots

/-! ### Steps -/

namespace Path

/-- The steps of a path, less a leading `.`. -/
def withoutHere (p : Path) : List Component :=
  match p.components with
  | .here :: rest => rest
  | steps => steps

/-- What a relative path adds behind others is all but a leading `.`. -/
theorem steps_eq_withoutHere {p : Path} (h : p.isAbsolute = false) : p.steps = p.withoutHere := by
  by_cases hhere : p.components.head? = some .here
  · rw [withoutHere, components_of_here hhere]
  · have hsteps := components_eq_steps h hhere
    unfold withoutHere
    split
    · next rest hrest =>
      rw [hrest] at hhere
      exact absurd rfl hhere
    · exact hsteps.symm

/-- Whether a path goes up does not depend on how it starts. -/
theorem up_mem_steps_iff {p : Path} : Component.up ∈ p.steps ↔ Component.up ∈ p.components := by
  obtain ⟨head, rest, hp⟩ := List.exists_cons_of_ne_nil p.pieces_ne_nil
  have hlead : Component.up ∈ (Component.ofPiece? head).toList ↔
      Component.up ∈ (leadOf head rest).toList := by
    unfold leadOf
    split
    · next hroot => simp [hroot.1]
    · split
      · next hdot => simp [hdot, Component.ofPiece?]
      · exact Iff.rfl
  have hsteps : p.steps = (Component.ofPiece? head).toList ++ rest.filterMap Component.ofPiece? := by
    rw [steps, hp, List.filterMap_cons]
    cases Component.ofPiece? head <;> rfl
  rw [hsteps, components_of_pieces hp, List.mem_append, List.mem_append, hlead]

/-- A text behind one that ends in a separator adds its steps. -/
theorem steps_ofText_append {s : String} (h : Text.endsIn '/' s = true) (t : String) :
    (ofText (s ++ t)).steps = (ofText s).steps ++ (ofText t).steps := by
  obtain ⟨front, hfront⟩ := Text.exists_encode_eq h
  have hsteps (tail : Bytes) : steps ⟨front ++ slash :: tail⟩ = steps ⟨front⟩ ++ steps ⟨tail⟩ := by
    rw [steps, pieces_append_slash, List.filterMap_append]
    rfl
  have hempty : steps ⟨[]⟩ = [] := rfl
  simp only [ofText, Text.encode_append, hfront, List.append_assoc, List.singleton_append]
  rw [hsteps, hsteps, hempty, List.append_nil]

end Path

namespace Config

/-- The target of a rule is a directory. -/
theorem endsIn_target {c : Config} (hvalid : c.flaw? = none) {rule : Relocation}
    (h : rule ∈ c.relocations) : Text.endsIn '/' rule.target = true := by
  obtain ⟨-, -, -, -, -, -, hrules⟩ := (c.flaw?_eq_none_iff).1 hvalid
  obtain ⟨-, htarget⟩ := relocationFlaw?_eq_none_iff.1 (hrules rule h)
  exact endsIn_slash_iff.2 htarget

/-- **Below the namespace.**  What follows the namespace in a text comes behind the
    namespace below any root. -/
theorem components_joinText_below_namespace {c : Config} (hvalid : c.flaw? = none) (root : Path)
    (rest : String) :
    (root.joinText (c.namespacePrefix ++ rest)).components =
      (root.joinText c.namespacePrefix).components ++ (Path.ofText rest).steps := by
  obtain ⟨-, hends, -⟩ := (c.prefixFlaw?_eq_none_iff).1 ((c.flaw?_eq_none_iff).1 hvalid).1
  cases hroot : root.isEmpty with
  | true =>
    rw [Path.joinText, Path.joinText, Path.join_of_isEmpty hroot, Path.join_of_isEmpty hroot]
    exact components_below_namespace hvalid rest
  | false =>
    have hnamespace : (Path.ofText c.namespacePrefix).isAbsolute = false :=
      isAbsolute_below_namespace hvalid (Text.hasPrefix_iff.2 ⟨"", (String.append_empty).symm⟩)
    have hlong : (Path.ofText (c.namespacePrefix ++ rest)).isAbsolute = false :=
      isAbsolute_below_namespace hvalid (Text.hasPrefix_iff.2 ⟨rest, rfl⟩)
    rw [Path.joinText, Path.joinText, Path.components_join hroot hlong,
      Path.components_join hroot hnamespace, Path.steps_ofText_append hends, List.append_assoc]

end Config

namespace Resolver

variable {r : Resolver} {resource asked : String} {rule : Option Relocation} {root path : Path}

/-! ### Joined paths -/

/-- How a search joins a path to a root: the rule that it follows, if it does, the
    root, the path that it asks for there, and what comes out. -/
inductive Joined (r : Resolver) (resource : String) : Option Relocation → Path → String → Path → Prop
    where
  /-- The variable or the marker names the root. -/
  | named (source : Source) (root : Path) (hsource : source ≠ .bundle)
      (hfirst : r.firstRoot? = some source) (hroot : (r.report source).root = some root)
      (hnonempty : root.isEmpty = false) :
      Joined r resource none root resource (root.joinText resource)
  /-- The root is the directory of the runfiles. -/
  | direct (dir : Path) (files : Files) (hfirst : r.firstRoot? = some .bundle)
      (hbundle : r.bundle = (Runfiles.directory dir).bundle files) (hnonempty : dir.isEmpty = false)
      (hfile : files.isFile (dir.joinText resource) = true) :
      Joined r resource none dir resource (dir.joinText resource)
  /-- The root is the directory of the runfiles, and a rule leads elsewhere. -/
  | moved (dir : Path) (files : Files) (used : Relocation) (suffix : String)
      (hfirst : r.firstRoot? = some .bundle)
      (hbundle : r.bundle = (Runfiles.directory dir).bundle files) (hnonempty : dir.isEmpty = false)
      (hused : used ∈ r.config.relocations) (hresource : resource = r.config.namespacePrefix ++ suffix)
      (hcaptures : used.captures suffix = true)
      (hfile : files.isFile (dir.joinText (used.moved r.config.namespacePrefix suffix)) = true) :
      Joined r resource (some used) dir (used.moved r.config.namespacePrefix suffix)
        (dir.joinText (used.moved r.config.namespacePrefix suffix))
  /-- The root is recovered from the place of the sentinel. -/
  | recovered (dir : Path) (files : Files) (root : Path) (hfirst : r.firstRoot? = some .bundle)
      (hbundle : r.bundle = (Runfiles.directory dir).bundle files) (hnonempty : dir.isEmpty = false)
      (hroot : r.bundle.root r.config.sentinel = .ok root)
      (hdir : r.files.isDir (root.joinText resource) = true) :
      Joined r resource none root resource (root.joinText resource)

/-- A route through a directory is a join. -/
theorem exists_joined {named : String} (h : (r.resolve resource).outcome = .ok (.found named path))
    (hdirectory : r.firstRoot? = some .bundle → ∃ dir files, dir.isEmpty = false ∧
      r.bundle = (Runfiles.directory dir).bundle files) :
    ∃ rule root asked, r.Joined resource rule root asked path := by
  obtain ⟨-, hroute⟩ := route_of_resolve h
  cases hroute with
  | below source root hsource hfirst hroot hnonempty _ _ _ =>
    exact ⟨none, root, resource, .named source root hsource hfirst hroot hnonempty⟩
  | bundled asked place _ hfirst hbundled =>
    obtain ⟨dir, files, hnonempty, hbundle⟩ := hdirectory hfirst
    cases hbundled with
    | mapped _ hplace =>
      rw [hbundle] at hplace
      obtain ⟨rfl, hfile⟩ := Runfiles.locate_directory_iff.1 (Runfiles.locate_bundle_iff.1 hplace)
      exact ⟨none, dir, resource, .direct dir files hfirst hbundle hnonempty hfile⟩
    | directory _ _ root _ _ hroot hdir =>
      exact ⟨none, root, resource, .recovered dir files root hfirst hbundle hnonempty hroot hdir⟩
    | moved _ _ _ _ hmoved hplace =>
      rw [hbundle] at hplace
      obtain ⟨rfl, hfile⟩ := Runfiles.locate_directory_iff.1 (Runfiles.locate_bundle_iff.1 hplace)
      obtain ⟨used, hused, suffix, hresource, hcaptures, rfl⟩ := Bundle.mem_movedPaths_iff.1 hmoved
      exact ⟨some used, dir, _, .moved dir files used suffix hfirst hbundle hnonempty hused hresource
        hcaptures hfile⟩

namespace Joined

/-- What comes out is what was asked for, seen from the root. -/
theorem eq_joinText (h : r.Joined resource rule root asked path) : path = root.joinText asked := by
  cases h with
  | named | direct | moved | recovered => rfl

/-- Every path that is joined starts with the namespace if the resource does. -/
theorem hasPrefix (h : r.Joined resource rule root asked path)
    (hresource : Text.hasPrefix r.config.namespacePrefix resource = true) :
    Text.hasPrefix r.config.namespacePrefix asked = true := by
  cases h with
  | named | direct | recovered => exact hresource
  | moved _ _ used suffix => exact used.hasPrefix_moved r.config.namespacePrefix suffix

section valid

variable (hvalid : r.config.flaw? = none)
  (hresource : Text.hasPrefix r.config.namespacePrefix resource = true)
include hvalid hresource

/-- **No root is thrown away.** -/
theorem components (h : r.Joined resource rule root asked path) (hroot : root.isEmpty = false) :
    path.components = root.components ++ (Path.ofText asked).withoutHere := by
  have hrelative := Config.isAbsolute_below_namespace hvalid (h.hasPrefix hresource)
  rw [h.eq_joinText, Path.joinText, Path.components_join hroot hrelative,
    Path.steps_eq_withoutHere hrelative]

omit hresource in
/-- **An empty root** is recovered from runfiles in `.`, below a namespace that
    starts with `.` as well. -/
theorem of_empty_root (h : r.Joined resource rule root asked path) (hroot : root.isEmpty = true) :
    rule = none ∧ asked = resource ∧ path = Path.ofText resource ∧ r.firstRoot? = some .bundle ∧
      (Path.ofText r.config.namespacePrefix).components.head? = some .here ∧
      ∃ dir files, r.bundle = (Runfiles.directory dir).bundle files ∧ dir.components = [.here] := by
  cases h with
  | named _ _ _ _ _ hnonempty => exact absurd hroot (ne_true_of_eq_false hnonempty)
  | direct _ _ _ _ hnonempty => exact absurd hroot (ne_true_of_eq_false hnonempty)
  | moved _ _ _ _ _ _ hnonempty => exact absurd hroot (ne_true_of_eq_false hnonempty)
  | recovered dir files _ hfirst hbundle hnonempty hrecovered _ =>
    obtain ⟨place, hplace, hsteps⟩ := Bundle.locate_of_root hrecovered
    rw [hbundle] at hplace
    obtain ⟨rfl, -⟩ := Runfiles.locate_directory_iff.1 (Runfiles.locate_bundle_iff.1 hplace)
    have hsentinel :=
      Config.isAbsolute_below_namespace hvalid (Config.hasPrefix_sentinel hvalid)
    -- nothing lies above the sentinel, so the directory is a part of the sentinel's path
    rw [Path.components_eq_nil_iff.2 hroot, List.nil_append, Path.joinText,
      Path.components_join hnonempty hsentinel] at hsteps
    have hdir : dir.components ≠ [] := by
      rw [Ne, Path.components_eq_nil_iff, hnonempty]
      exact Bool.false_ne_true
    have hhere : (Path.ofText r.config.sentinel).components.head? = some .here := by
      by_contra hplain
      rw [Path.components_eq_steps hsentinel hplain] at hsteps
      exact hdir (List.append_left_eq_self.1 hsteps)
    rw [Path.components_of_here hhere, ← List.singleton_append] at hsteps
    rw [Config.head?_below_namespace hvalid (Config.hasPrefix_sentinel hvalid)] at hhere
    exact ⟨rfl, rfl, Path.join_of_isEmpty hroot _, hfirst, hhere, dir, files, hbundle,
      List.append_cancel_right hsteps⟩

/-- **Without `..`** a path goes down from the namespace below its root. -/
theorem exists_below (h : r.Joined resource rule root asked path)
    (hup : Component.up ∉ (Path.ofText resource).components)
    (hrule : ∀ used, rule = some used → Component.up ∉ (Path.ofText used.target).components) :
    ∃ below, path.components =
        (root.joinText r.config.namespacePrefix).components ++ below ∧
      ∀ step ∈ below, ∃ bytes, step = .name bytes := by
  obtain ⟨suffix, rfl⟩ := Text.hasPrefix_iff.1 hresource
  have hsuffix : Component.up ∉ (Path.ofText suffix).steps := by
    intro hmem
    apply hup
    rw [Config.components_below_namespace hvalid]
    exact List.mem_append_right _ hmem
  -- what follows the namespace never goes up
  have hdown (rest : String) (hrest : Component.up ∉ (Path.ofText rest).steps)
      (hasked : asked = r.config.namespacePrefix ++ rest) :
      ∃ below, path.components =
          (root.joinText r.config.namespacePrefix).components ++ below ∧
        ∀ step ∈ below, ∃ bytes, step = .name bytes := by
    refine ⟨(Path.ofText rest).steps, ?_, ?_⟩
    · rw [h.eq_joinText, hasked, Config.components_joinText_below_namespace hvalid]
    · intro step hstep
      apply Path.exists_name_of_mem_steps hstep
      intro h
      obtain rfl := h
      exact hrest hstep
  cases h with
  | named | direct | recovered => exact hdown suffix hsuffix rfl
  | moved _ _ used rest _ _ _ hused hsame _ _ =>
    obtain rfl : suffix = rest := by simpa using hsame
    apply hdown (used.target ++ suffix)
    · rw [Path.steps_ofText_append (Config.endsIn_target hvalid hused), List.mem_append, not_or,
        Path.up_mem_steps_iff]
      exact ⟨hrule used rfl, hsuffix⟩
    · rw [Relocation.moved, String.append_assoc]

end valid
end Joined

/-- **Confinement.**  For a valid configuration, what is found through the variable,
    the marker or a directory of runfiles lies below a root.  The path that was
    joined to the root starts with the namespace, and its steps come behind those of
    the root, less a leading `.`.  The empty root that runfiles in `.` may have
    leaves the path as it is.

    Without `..` in the resource and in the target of the rule the path is that of
    the namespace below the root, with names behind it. -/
theorem found_path_confined (r : Resolver) (hvalid : r.config.flaw? = none)
    (resource named : String) (path : Path)
    (hfound : (r.resolve resource).outcome = .ok (.found named path))
    (hdirectory : r.firstRoot? = some .bundle → ∃ dir files, dir.isEmpty = false ∧
      r.bundle = (Runfiles.directory dir).bundle files) :
    (∃ rule root asked, r.Joined resource rule root asked path) ∧
    ∀ rule root asked, r.Joined resource rule root asked path →
      Text.hasPrefix r.config.namespacePrefix asked = true ∧
      (root.isEmpty = false →
        path.components = root.components ++ (Path.ofText asked).withoutHere) ∧
      (root.isEmpty = true →
        rule = none ∧ asked = resource ∧ path = Path.ofText resource ∧
          r.firstRoot? = some .bundle ∧
          (Path.ofText r.config.namespacePrefix).components.head? = some .here ∧
          ∃ dir files, r.bundle = (Runfiles.directory dir).bundle files ∧
            dir.components = [.here]) ∧
      (Component.up ∉ (Path.ofText resource).components →
        (∀ used, rule = some used → Component.up ∉ (Path.ofText used.target).components) →
        ∃ below, path.components =
            (root.joinText r.config.namespacePrefix).components ++ below ∧
          ∀ step ∈ below, ∃ bytes, step = .name bytes) := by
  obtain ⟨-, hresource⟩ := requested_of_found hfound
  refine ⟨exists_joined hfound hdirectory, ?_⟩
  intro rule root asked hjoined
  exact ⟨hjoined.hasPrefix hresource, hjoined.components hvalid hresource,
    hjoined.of_empty_root hvalid, hjoined.exists_below hvalid hresource⟩

/-- A resolver that has nothing but a directory of runfiles. -/
def runfilesOnly (dir : Path) (tree : MemoryFiles) (c : Config) : Resolver where
  config := c
  environment := (Variables.mk []).view
  files := tree.view
  bundle := (Runfiles.directory dir).bundle tree.view
  markerDir := none
  workingDir := none

/-- Runfiles with a model in the attic, and a rule with a rooted target that leads
    to it. -/
def rootedTarget : Resolver :=
  runfilesOnly (Path.ofText "/r")
    (MemoryFiles.empty.addFile (Path.ofText "/r/project/attic/models/a"))
    (Config.standard.withRelocation ⟨"models", "/attic/"⟩)

/-- The rooted target stays below the root, and below the namespace. -/
theorem found_path_confined_rootedTarget :
    let path := Path.ofText "/r/project//attic/models/a"
    rootedTarget.config.flaw? = none ∧
    (rootedTarget.resolve "project/models/a").outcome =
      .ok (.found "project/models/a" path) ∧
    path.components = (Path.ofText "/r").components ++
      (Path.ofText "project//attic/models/a").withoutHere ∧
    ∃ below, path.components = (Path.ofText "/r/project").components ++ below ∧
      ∀ step ∈ below, ∃ bytes, step = .name bytes := by
  intro path
  have hvalid : rootedTarget.config.flaw? = none := by decide +kernel
  have hfound : (rootedTarget.resolve "project/models/a").outcome =
      .ok (.found "project/models/a" path) := by decide +kernel
  have hnonempty : (Path.ofText "/r").isEmpty = false := by decide +kernel
  obtain ⟨-, hjoined⟩ := found_path_confined rootedTarget hvalid _ _ _ hfound
    (fun _ => ⟨Path.ofText "/r", _, hnonempty, rfl⟩)
  have hmoved : rootedTarget.Joined "project/models/a" (some ⟨"models", "/attic/"⟩) (Path.ofText "/r")
      "project//attic/models/a" path := by
    have hjoin := Joined.moved (r := rootedTarget) (Path.ofText "/r") _ ⟨"models", "/attic/"⟩
      "models/a" (by decide +kernel) rfl hnonempty List.mem_cons_self rfl (by decide +kernel)
      (by decide +kernel)
    have hasked : Relocation.moved ⟨"models", "/attic/"⟩ rootedTarget.config.namespacePrefix
        "models/a" = "project//attic/models/a" := by decide +kernel
    have hpath : (Path.ofText "/r").joinText "project//attic/models/a" = path := by decide +kernel
    rw [hasked, hpath] at hjoin
    exact hjoin
  obtain ⟨-, hcomponents, -, hbelow⟩ := hjoined _ _ _ hmoved
  refine ⟨hvalid, hfound, hcomponents hnonempty, ?_⟩
  have hnamespace : ((Path.ofText "/r").joinText rootedTarget.config.namespacePrefix).components =
      (Path.ofText "/r/project").components := by decide +kernel
  rw [← hnamespace]
  apply hbelow (by decide +kernel)
  intro used hused
  obtain rfl := Option.some.inj hused
  decide +kernel

/-- Runfiles in `.`, below a namespace that starts with `.` as well. -/
def dottedRunfiles : Resolver :=
  runfilesOnly (Path.ofText ".")
    ((MemoryFiles.empty.addFile (Path.ofText "./project/.resource-root-sentinel")).addDir
      (Path.ofText "./project/models"))
    dottedNamespace

/-- A leading `.` is not always dropped where a path is joined to its root. -/
theorem leading_dot_kept :
    ¬ ∀ (r : Resolver) (resource named : String) (path : Path) (rule : Option Relocation)
        (root : Path) (asked : String), r.config.flaw? = none →
      (r.resolve resource).outcome = .ok (.found named path) →
      r.Joined resource rule root asked path →
      path.components = root.components ++ (Path.ofText asked).withoutHere := by
  intro h
  have hcomponents := h dottedRunfiles "./project/models" "./project/models"
    (Path.ofText "./project/models") none ⟨[]⟩ "./project/models" (by decide +kernel)
    (by decide +kernel)
    (.recovered (Path.ofText ".") _ ⟨[]⟩ (by decide +kernel) rfl (by decide +kernel)
      (by decide +kernel) (by decide +kernel))
  exact absurd hcomponents (by decide +kernel)

end Resolver
end LayeredRoots
