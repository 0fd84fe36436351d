import LayeredRoots.Machine
import LayeredRoots.Proofs.Search.Presence
import LayeredRoots.Storage.Disk

/-! # Every request is answered

    A search breaks no precondition of its own: in surroundings that keep their
    promises (`Resolver.Grounded`) the only request without an answer is the
    empty one.  An answer names the resource that was asked for, also where it
    moved, and carries either a path or a message, neither of them empty.

    * `ensures_wellFormed`: the answers of each operation are well formed.
    * `exists_ok_resolve`: there is one for every request but the empty one.
    * `resolve_of_rooted`, `resolve_of_outside`: requests of the wrong shape are
      answered without looking anywhere.

    Disks and runfiles keep their promises (`grounded_on_disk`). -/

namespace LayeredRoots

/-! ### Well-formed resolutions -/

/-- A resolution that names the resource and carries exactly one of a path and
    a message, and not an empty one. -/
structure Resolution.WellFormed (resource : String) (resolution : Resolution) : Prop where
  not_empty    : resolution.isEmpty = false
  resourcePath : resolution.resourcePath = resource
  carries      :
    (∃ path, resolution.absolutePath? = some path ∧ path.isEmpty = false ∧
      resolution.errorMessage? = none) ∨
    (∃ message, resolution.errorMessage? = some message ∧ message.isEmpty = false ∧
      resolution.absolutePath? = none)

/-- Whatever a finding comes to has a property. -/
def Finding.Ensures {α : Type} (P : α → Prop) (f : Finding α) : Prop :=
  ∀ a, f.outcome = .ok a → P a

theorem Finding.Ensures.map {α β : Type} {P : α → Prop} {Q : β → Prop} {f : Finding α} {g : α → β}
    (h : f.Ensures P) (hg : ∀ a, P a → Q (g a)) : (f.map g).Ensures Q := by
  intro b hb
  have hmap : f.outcome.map g = .ok b := hb
  cases hf : f.outcome with
  | error m => simp [hf, Except.map] at hmap
  | ok a =>
    obtain rfl : g a = b := by simpa [hf, Except.map] using hmap
    exact hg a (h a hf)

theorem Finding.ensures_error {α : Type} (P : α → Prop) (m : Misuse) :
    (Finding.of (.error m)).Ensures P := by
  intro a ha
  cases ha

namespace Resolver

variable {r : Resolver} {resource : String}

theorem ensures_success (resource : String) (path : Path) :
    (Finding.of (Resolution.success resource path)).Ensures (·.WellFormed resource) := by
  intro resolution h
  rw [Finding.outcome_of, Resolution.success] at h
  split at h
  · cases h
  · split at h
    · cases h
    · next hpath =>
      cases h
      exact ⟨rfl, rfl, .inl ⟨path, rfl, by simpa using hpath, rfl⟩⟩

theorem ensures_refuse (resource : String) (why : Failure) :
    (Finding.of (refuse resource why)).Ensures (·.WellFormed resource) := by
  intro resolution h
  rw [Finding.outcome_of, refuse, Resolution.failure] at h
  split at h
  · cases h
  · split at h
    · cases h
    · next hmessage =>
      cases h
      exact ⟨rfl, rfl, .inr ⟨_, rfl, by simpa using hmessage, rfl⟩⟩

theorem ensures_checkRoot (r : Resolver) (origin : String) (root : Path) (resource : String) :
    (r.checkRoot origin root resource).Ensures (·.WellFormed resource) := by
  unfold checkRoot
  split
  · exact Finding.ensures_error _ _
  · split
    · exact Finding.ensures_error _ _
    · split
      · exact Finding.ensures_error _ _
      · split
        · exact ensures_refuse _ _
        · dsimp only
          split
          · exact ensures_success _ _
          · split
            · exact ensures_success _ _
            · exact ensures_refuse _ _

/-- A probe that settles a resource does so with a well-formed resolution. -/
theorem ensures_probe (r : Resolver) (source : Source) (resource : String) :
    (r.probe source resource).Ensures
      fun (found : Option Resolution) => ∀ resolution ∈ found, resolution.WellFormed resource := by
  have hnone {f : Finding (Option Resolution)} (h : f.outcome = .ok none) :
      f.Ensures fun found => ∀ resolution ∈ found, resolution.WellFormed resource := by
    intro found hfound
    obtain rfl : none = found := Except.ok.inj (h.symm.trans hfound)
    simp
  have hsome {f : Finding Resolution} (h : f.Ensures (·.WellFormed resource)) :
      (f.map some).Ensures
        fun (found : Option Resolution) => ∀ resolution ∈ found, resolution.WellFormed resource := by
    refine h.map fun resolution hwell other hother => ?_
    rwa [← Option.some.inj hother]
  cases source with
  | rootVariable =>
    rw [probe, probeVariable]
    split
    · exact hnone rfl
    · split
      · exact hsome (ensures_checkRoot _ _ _ _)
      · exact hnone rfl
  | installTree =>
    rw [probe, probeInstallTree]
    split
    · exact hnone rfl
    · split
      · exact hsome (ensures_checkRoot _ _ _ _)
      · exact hnone rfl
  | bundle =>
    rw [probe, probeBundle]
    split
    · exact hnone rfl
    · split
      · exact hsome (ensures_success _ _)
      · dsimp only
        split
        · exact hsome (ensures_success _ _)
        · split
          · exact hsome (ensures_success _ _)
          · exact hsome (ensures_refuse _ _)

theorem ensures_search (r : Resolver) (resource : String) (order : List Source) :
    (r.search resource order).Ensures (·.WellFormed resource) := by
  induction order with
  | nil => exact ensures_refuse _ _
  | cons source rest ih =>
    intro resolution h
    rw [search] at h
    -- a broken precondition, a source that settles the resource, one that does not
    split at h
    · cases h
    · next hprobe =>
      cases h
      exact ensures_probe r source resource _ hprobe resolution rfl
    · exact ih resolution h

/-- **The answers of a resolver are well formed**, whatever its surroundings
    promise. -/
theorem ensures_wellFormed (r : Resolver) (resource : String) :
    (r.resolve resource).Ensures (·.WellFormed resource) := by
  unfold resolve
  split
  · exact Finding.ensures_error _ _
  · split
    · exact ensures_refuse _ _
    · split
      · exact ensures_refuse _ _
      · exact ensures_search _ _ _

/-! ### Requests of the wrong shape -/

theorem resolve_of_rooted (r : Resolver) (h : Text.hasPrefix "/" resource = true) :
    r.resolve resource =
      .of (.ok (.failed resource s!"Resource path '{resource}' is not a relative path.")) := by
  have hname : resource.isEmpty = false := by
    cases hempty : resource.isEmpty with
    | false => rfl
    | true =>
      obtain rfl : resource = "" := by simpa using hempty
      exact absurd h (by decide)
  have hrelative : isRelativeResource resource = false := by simp [isRelativeResource, h]
  have hrefuse : refuse resource .notRelative =
      .ok (.failed resource (Failure.notRelative.message resource)) := by
    apply refuse_eq_ok hname
    simp
  simp only [resolve, hname, hrelative, hrefuse, Bool.false_eq_true, if_false, Bool.not_false,
    if_true]
  rfl

theorem resolve_of_outside (r : Resolver) (hresource : isRelativeResource resource = true)
    (h : Text.hasPrefix r.config.namespacePrefix resource = false) :
    r.resolve resource = .of (.ok (.failed resource
      s!"Resource path '{resource}' does not start with {r.config.namespacePrefix}.")) := by
  have hname := isEmpty_of_isRelativeResource hresource
  have hrefuse : refuse resource (.outsideNamespace r.config.namespacePrefix) = .ok (.failed resource
      ((Failure.outsideNamespace r.config.namespacePrefix).message resource)) := by
    apply refuse_eq_ok hname
    simp
  simp only [resolve, hname, hresource, h, hrefuse, Bool.false_eq_true, if_false, Bool.not_false,
    Bool.not_true, if_true]
  rfl

/-! ### Every request -/

/-- Every request but the empty one has an answer. -/
theorem exists_ok_resolve (hr : r.Grounded) (h : resource ≠ "") :
    ∃ resolution, (r.resolve resource).outcome = .ok resolution := by
  cases hrooted : Text.hasPrefix "/" resource with
  | true => exact ⟨_, by rw [resolve_of_rooted r hrooted]; rfl⟩
  | false =>
    have hresource : isRelativeResource resource = true := by simp [isRelativeResource, h, hrooted]
    cases hnamespace : Text.hasPrefix r.config.namespacePrefix resource with
    | false => exact ⟨_, by rw [resolve_of_outside r hresource hnamespace]; rfl⟩
    | true =>
      cases hfirst : r.firstRoot? with
      | none =>
        have htold := told_resolve_of_no_root hresource hnamespace hfirst
        exact ⟨_, congrArg Prod.fst htold⟩
      | some source =>
        obtain ⟨resolution, hprobe⟩ := probe_ok hr hresource (List.find?_some hfirst)
        have htold := told_search_of_root hfirst hprobe
        rw [← resolve_eq_search hresource hnamespace] at htold
        exact ⟨resolution, congrArg Prod.fst htold⟩

/-- What is asked for its path is what was found, or why nothing was. -/
theorem outcome_resolvePath_iff (r : Resolver) (resource : String) :
    (∀ path, (r.resolvePath resource).outcome = .ok (.ok path) ↔
      (r.resolve resource).outcome = .ok (.found resource path)) ∧
    (∀ message, (r.resolvePath resource).outcome = .ok (.error ⟨message⟩) ↔
      (r.resolve resource).outcome = .ok (.failed resource message)) := by
  have hwell := ensures_wellFormed r resource
  rw [resolvePath, Finding.map]
  cases houtcome : (r.resolve resource).outcome with
  | error m => simp [Except.map]
  | ok resolution =>
    have hnamed := (hwell resolution houtcome).resourcePath
    have hempty := (hwell resolution houtcome).not_empty
    cases resolution with
    | empty => cases hempty
    | found named place =>
      obtain rfl : named = resource := hnamed
      simp [Except.map, Resolution.absolutePath]
    | failed named message =>
      obtain rfl : named = resource := hnamed
      simp [Except.map, Resolution.absolutePath]

/-- What a process builds over a disk keeps its promises. -/
theorem grounded_on_disk {m : Machine} {d : Disk} {o : Origin} (h : m.storage = d.view o)
    (c : Config) : (m.resolver c).1.Grounded := by
  rw [Machine.fst_resolver]
  have hfiles : (m.resolverOver m.runfiles?.1 c).files = (d.view o).toFiles :=
    congrArg Storage.toFiles h
  apply Grounded.of_runfiles m.runfiles?.1
  · rfl
  -- the empty path leads nowhere on a disk
  · rw [hfiles]
    rfl
  · rw [hfiles]
    rfl

/-- **Every request is answered.**  Only the empty request is refused.  Every
    other one has an answer that names it and carries exactly one of a path and
    a message; asking for the path hands out the one or the other.  A request of
    the wrong shape is answered alike by all resolvers for the namespace, and
    no log takes note of it. -/
theorem resolve_total_and_well_formed (r : Resolver) (hr : r.Grounded) (resource : String) :
    ((∃ m, (r.resolve resource).outcome = .error m) ↔ resource = "") ∧
    (resource ≠ "" → ∃ resolution, (r.resolve resource).outcome = .ok resolution ∧
      resolution.WellFormed resource) ∧
    (∀ path, (r.resolvePath resource).outcome = .ok (.ok path) ↔
      (r.resolve resource).outcome = .ok (.found resource path)) ∧
    (∀ message, (r.resolvePath resource).outcome = .ok (.error ⟨message⟩) ↔
      (r.resolve resource).outcome = .ok (.failed resource message)) ∧
    (Text.hasPrefix "/" resource = true → ∀ other : Resolver,
      (other.resolve resource).outcome =
        .ok (.failed resource s!"Resource path '{resource}' is not a relative path.") ∧
      ∀ log : DeprecationLog, log.record (other.resolve resource).directories = (log, [])) ∧
    (resource ≠ "" → Text.hasPrefix "/" resource = false →
      Text.hasPrefix r.config.namespacePrefix resource = false →
      ∀ other : Resolver, other.config.namespacePrefix = r.config.namespacePrefix →
      (other.resolve resource).outcome = .ok (.failed resource
        s!"Resource path '{resource}' does not start with {r.config.namespacePrefix}.") ∧
      ∀ log : DeprecationLog, log.record (other.resolve resource).directories = (log, [])) := by
  obtain ⟨hpath, hmessage⟩ := outcome_resolvePath_iff r resource
  refine ⟨⟨?_, ?_⟩, ?_, hpath, hmessage, ?_, ?_⟩
  · rintro ⟨m, hm⟩
    by_contra hne
    obtain ⟨resolution, hok⟩ := exists_ok_resolve hr hne
    rw [hok] at hm
    cases hm
  · rintro rfl
    exact ⟨.emptyRequest, rfl⟩
  · intro hne
    obtain ⟨resolution, hok⟩ := exists_ok_resolve hr hne
    exact ⟨resolution, hok, ensures_wellFormed r resource resolution hok⟩
  · intro hrooted other
    rw [resolve_of_rooted other hrooted]
    exact ⟨rfl, fun log => rfl⟩
  · intro hne hrooted houtside other hstart
    have hresource : isRelativeResource resource = true := by simp [isRelativeResource, hne, hrooted]
    rw [resolve_of_outside other hresource (by rw [hstart, houtside]), hstart]
    exact ⟨rfl, fun log => rfl⟩

/-- The directory bundle of `bundledTwice` answers for a file that it lacks. -/
theorem resolve_total_and_well_formed_bundledTwice :
    bundledTwice.Grounded ∧
    (bundledTwice.resolve "project/none").outcome = .ok (.failed "project/none"
      "Runfiles directory '/b' does not contain 'project/none'") ∧
    (bundledTwice.resolvePath "project/none").outcome = .ok (.error
      ⟨"Runfiles directory '/b' does not contain 'project/none'"⟩) := by
  have hmisses : (bundledTwice.resolve "project/none").outcome = .ok (.failed "project/none"
      "Runfiles directory '/b' does not contain 'project/none'") := by decide +kernel
  refine ⟨grounded_bundledTwice, hmisses, ?_⟩
  exact ((resolve_total_and_well_formed bundledTwice grounded_bundledTwice
    "project/none").2.2.2.1 _).2 hmisses

end Resolver
end LayeredRoots
