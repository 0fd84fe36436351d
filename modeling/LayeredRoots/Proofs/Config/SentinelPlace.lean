import LayeredRoots.Proofs.Config.Valid
import LayeredRoots.Proofs.Path.Lexical
import LayeredRoots.Proofs.Search.Outcome
import LayeredRoots.Proofs.Storage.Passage

/-! # Where the sentinel lies

    A valid configuration has a sentinel that starts with the namespace, as a
    text.  Whether its path lies below the namespace is settled by the steps
    behind that start.  Without `..` it does, unless there is no step at all;
    with `..` it may lead out of the namespace again.

    On a disk the sentinel still stands for the namespace: the path leads
    through the directory of the namespace, so that directory is there in every
    root that is usable.

    * `sentinel_lies_below_iff`: all of this, for every valid configuration.
    * `sentinel_outside_namespace`: a sentinel beside the namespace is valid. -/

namespace LayeredRoots

namespace Config

/-! ### Below the namespace -/

section namespaces

variable {c : Config} (hvalid : c.flaw? = none)
include hvalid

/-- What follows the namespace is written behind a separator, below any root. -/
theorem exists_joinText_eq (root : Path) :
    ∃ front : Bytes, ∀ rest,
      root.joinText (c.namespacePrefix ++ rest) = ⟨front ++ slash :: Text.encode rest⟩ := by
  obtain ⟨-, hends, -⟩ := (c.prefixFlaw?_eq_none_iff).1 ((c.flaw?_eq_none_iff).1 hvalid).1
  obtain ⟨init, hinit⟩ := Text.exists_encode_eq hends
  have hbytes : ∀ rest, (Path.ofText (c.namespacePrefix ++ rest)).bytes =
      init ++ slash :: Text.encode rest := by
    intro rest
    rw [Path.ofText, Text.encode_append, hinit, List.append_assoc]
    rfl
  have hrelative : ∀ rest, (Path.ofText (c.namespacePrefix ++ rest)).isAbsolute = false :=
    fun rest => isAbsolute_below_namespace hvalid (Text.hasPrefix_iff.2 ⟨rest, rfl⟩)
  unfold Path.joinText Path.join
  by_cases hroot : root.isEmpty = true ∨ root.bytes.getLast? = some slash
  · refine ⟨root.bytes ++ init, fun rest => ?_⟩
    rw [hrelative, if_neg Bool.false_ne_true, if_pos hroot, hbytes, List.append_assoc]
  · refine ⟨root.bytes ++ slash :: init, fun rest => ?_⟩
    rw [hrelative, if_neg Bool.false_ne_true, if_neg hroot, hbytes, List.append_assoc]
    rfl

/-- **The steps behind the namespace** decide whether a path lies below it. -/
theorem liesBelow_namespace_iff (rest : String) :
    (Path.ofText (c.namespacePrefix ++ rest)).LiesBelow (Path.ofText c.namespacePrefix) ↔
      Component.ReturnsBelow (Path.ofText c.namespacePrefix).components
        (Path.ofText rest).steps := by
  have hnamespace : (Path.ofText c.namespacePrefix).isAbsolute = false :=
    isAbsolute_below_namespace hvalid (Text.hasPrefix_iff.2 ⟨"", (String.append_empty).symm⟩)
  rw [Path.LiesBelow, Path.resolved, components_below_namespace hvalid]
  exact Component.exists_names_append_iff (Path.root_not_mem_components hnamespace)
    (Path.root_not_mem_steps _)

/-- Without `..` one step is enough. -/
theorem liesBelow_namespace_iff_of_plain {rest : String}
    (hup : Component.up ∉ (Path.ofText rest).steps) :
    (Path.ofText (c.namespacePrefix ++ rest)).LiesBelow (Path.ofText c.namespacePrefix) ↔
      (Path.ofText rest).steps ≠ [] := by
  have hnamespace : (Path.ofText c.namespacePrefix).isAbsolute = false :=
    isAbsolute_below_namespace hvalid (Text.hasPrefix_iff.2 ⟨"", (String.append_empty).symm⟩)
  obtain ⟨names, hnames⟩ := Path.exists_names_of_steps hup
  have hresolved : (Path.ofText (c.namespacePrefix ++ rest)).resolved =
      (Path.ofText c.namespacePrefix).resolved ++ names.map .name := by
    rw [Path.resolved, components_below_namespace hvalid, hnames]
    exact Component.resolve_append_names (Path.root_not_mem_components hnamespace) names
  have hinj : Function.Injective Component.name := fun _ _ h => Component.name.inj h
  rw [hnames, Ne, List.map_eq_nil_iff, Path.LiesBelow, hresolved]
  constructor
  · rintro ⟨others, hothers, heq⟩ rfl
    exact hothers (List.map_eq_nil_iff.1 (List.append_cancel_left heq).symm)
  · intro hne
    exact ⟨names, hne, rfl⟩

end namespaces
end Config

namespace Resolver

variable {r : Resolver} {root : Path}

section usable

variable (hvalid : r.config.flaw? = none)
include hvalid

/-- A root in memory that has nothing but the sentinel is usable, if the
    sentinel lies below the namespace. -/
theorem usable_of_sentinel
    (hbelow : (Path.ofText r.config.sentinel).LiesBelow (Path.ofText r.config.namespacePrefix))
    (hroot : root.isEmpty = false)
    (hfiles : r.files = (MemoryFiles.empty.addFile (root.joinText r.config.sentinel)).view) :
    r.directoryStatus (some root) = .usable := by
  have hrelative := Config.isAbsolute_below_namespace hvalid (Config.hasPrefix_sentinel hvalid)
  rw [directoryStatus_eq_usable_iff, hfiles]
  exact ⟨MemoryFiles.isDir_addFile (Path.components_join hroot hrelative)
      (Path.root_not_mem_steps _) (hbelow.steps_ne_nil hrelative) hroot,
    MemoryFiles.isFile_addFile _ _⟩

/-- **A usable root on disk** has the directory of the namespace, and the
    sentinel is not that directory. -/
theorem isDir_namespace_of_usable {d : Disk} {o : Origin} {rest : String}
    (hsentinel : r.config.sentinel = r.config.namespacePrefix ++ rest)
    (hfiles : r.files = (d.view o).toFiles) (h : r.directoryStatus (some root) = .usable) :
    r.files.isDir (root.joinText r.config.namespacePrefix) = true ∧
      (Path.ofText rest).steps ≠ [] := by
  obtain ⟨front, hfront⟩ := Config.exists_joinText_eq hvalid root
  obtain ⟨-, hfile⟩ := (r.directoryStatus_eq_usable_iff root).1 h
  have hnamespace : root.joinText r.config.namespacePrefix = ⟨front ++ [slash]⟩ := by
    have h := hfront ""
    rwa [String.append_empty] at h
  rw [hsentinel, hfront, hfiles] at hfile
  rw [hnamespace, hfiles]
  simp only [Disk.view, Storage.ofEntries] at hfile ⊢
  cases hfind : d.find o ⟨front ++ slash :: Text.encode rest⟩ with
  | error fault => simp [hfind] at hfile
  | ok entry =>
    obtain ⟨hdir, hsame⟩ := Disk.find_above hfind
    refine ⟨by rw [hdir], fun hsteps => ?_⟩
    rw [hfind, hsame hsteps] at hfile
    cases hfile

end usable
end Resolver

namespace Config

/-- **Where the sentinel lies.**  It starts with the namespace, and so do its
    steps.  It lies below the namespace if the steps behind come back to it
    whenever they leave it, and go on from there.  Without `..` among them this
    means that there is one.  Then a root that has nothing but the sentinel is
    usable.  On a disk a root is usable only if it has the directory of the
    namespace, and never if there are no further steps. -/
theorem sentinel_lies_below_iff (c : Config) (hvalid : c.flaw? = none) :
    ∃ rest, c.sentinel = c.namespacePrefix ++ rest ∧
      (Path.ofText c.sentinel).components =
        (Path.ofText c.namespacePrefix).components ++ (Path.ofText rest).steps ∧
      ((Path.ofText c.sentinel).LiesBelow (Path.ofText c.namespacePrefix) ↔
        Component.ReturnsBelow (Path.ofText c.namespacePrefix).components
          (Path.ofText rest).steps) ∧
      (Component.up ∉ (Path.ofText rest).steps →
        ((Path.ofText c.sentinel).LiesBelow (Path.ofText c.namespacePrefix) ↔
          (Path.ofText rest).steps ≠ [])) ∧
      ∀ (r : Resolver) (root : Path), r.config = c →
        ((Path.ofText c.sentinel).LiesBelow (Path.ofText c.namespacePrefix) →
          root.isEmpty = false →
          r.files = (MemoryFiles.empty.addFile (root.joinText c.sentinel)).view →
          r.directoryStatus (some root) = .usable) ∧
        ∀ (d : Disk) (o : Origin), r.files = (d.view o).toFiles →
          r.directoryStatus (some root) = .usable →
          r.files.isDir (root.joinText c.namespacePrefix) = true ∧
            (Path.ofText rest).steps ≠ [] := by
  obtain ⟨rest, hsentinel⟩ := Text.hasPrefix_iff.1 (hasPrefix_sentinel hvalid)
  refine ⟨rest, hsentinel, ?_, ?_, ?_, ?_⟩
  · rw [hsentinel, components_below_namespace hvalid]
  · rw [hsentinel]
    exact liesBelow_namespace_iff hvalid rest
  · intro hup
    rw [hsentinel]
    exact liesBelow_namespace_iff_of_plain hvalid hup
  · rintro r root rfl
    refine ⟨r.usable_of_sentinel hvalid, fun d o hfiles h => ?_⟩
    exact r.isDir_namespace_of_usable hvalid hsentinel hfiles h

/-- A sentinel that leaves the namespace and comes back. -/
def roundabout : Config :=
  { standard with namespacePrefix := "a/b/", sentinel := "a/b/../b/.sentinel" }

/-- A resolver over memory that has nothing but this sentinel. -/
def overRoundabout : Resolver where
  config := roundabout
  environment := ⟨fun _ => none⟩
  files := (MemoryFiles.empty.addFile ((Path.ofText "/r").joinText "a/b/../b/.sentinel")).view
  bundle := .absent
  markerDir := none
  workingDir := none

/-- It lies below the namespace in spite of its `..`, and marks a root. -/
theorem sentinel_lies_below_iff_roundabout :
    roundabout.flaw? = none ∧
    (Path.ofText roundabout.sentinel).LiesBelow (Path.ofText roundabout.namespacePrefix) ∧
    overRoundabout.directoryStatus (some (Path.ofText "/r")) = .usable := by
  have hvalid : roundabout.flaw? = none := by decide +kernel
  obtain ⟨rest, hsentinel, -, hbelow, -, husable⟩ := sentinel_lies_below_iff roundabout hvalid
  have hrest : rest = "../b/.sentinel" := by
    have htext : roundabout.sentinel = roundabout.namespacePrefix ++ "../b/.sentinel" := by
      decide +kernel
    exact (String.append_right_inj _).1 (hsentinel.symm.trans htext)
  subst hrest
  have hlies := hbelow.2 ⟨[.name (Text.encode "a")], [Text.encode "b"], [Text.encode ".sentinel"],
    by decide +kernel, by decide +kernel, by decide +kernel⟩
  exact ⟨hvalid, hlies, (husable overRoundabout (Path.ofText "/r") rfl).1 hlies (by decide +kernel)
    rfl⟩

/-- A valid configuration can have a sentinel beside the namespace. -/
theorem sentinel_outside_namespace :
    ¬ ∀ c : Config, c.flaw? = none →
      (Path.ofText c.sentinel).LiesBelow (Path.ofText c.namespacePrefix) := by
  intro h
  obtain ⟨names, -, hresolved⟩ := h { standard with sentinel := "project/../outside.sentinel" }
    (by decide +kernel)
  have hprefix : (Path.ofText "project/").resolved <+:
      (Path.ofText "project/../outside.sentinel").resolved := ⟨_, hresolved.symm⟩
  exact absurd hprefix (by decide +kernel)

end Config
end LayeredRoots
