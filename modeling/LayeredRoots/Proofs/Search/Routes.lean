import LayeredRoots.Proofs.Search.Presence

/-! # Where a path comes from

    A search that finds a resource has stopped at one source, the first with a
    root, and the path that it hands out shows how the source came to it:

    - a directory that serves as root holds the path and carries the sentinel
      (`Route.below`);
    - the bundle has the resource at the path, or a directory below its root
      there, or the resource is at a place its subtree moved to (`Bundled`).

    `route_of_resolve` says that there are no other ways, whatever the
    configuration and the surroundings are. -/

namespace LayeredRoots.Resolver

variable {r : Resolver} {resource named : String} {path : Path}

/-! ### Ways to a path -/

/-- How a bundle comes to a path for a resource: which resource it was asked
    for in the end, where it has that one, and the path. -/
inductive Bundled (r : Resolver) (resource : String) : String → Path → Path → Prop where
  /-- The bundle has the resource. -/
  | mapped (place : Path) (hplace : r.bundle.locate resource = .ok place) :
      Bundled r resource resource place place
  /-- The resource is a directory below the root that the sentinel tells. -/
  | directory (reason : String) (place root : Path)
      (hmiss : r.bundle.locate resource = .error reason)
      (hplace : r.bundle.locate r.config.sentinel = .ok place)
      (hroot : r.bundle.root r.config.sentinel = .ok root)
      (hdir : r.files.isDir (root.joinText resource) = true) :
      Bundled r resource r.config.sentinel place (root.joinText resource)
  /-- The bundle has the resource where its subtree moved to. -/
  | moved (reason moved : String) (place : Path)
      (hmiss : r.bundle.locate resource = .error reason)
      (hmoved : moved ∈ Bundle.movedPaths r.config.namespacePrefix r.config.relocations resource)
      (hplace : r.bundle.locate moved = .ok place) :
      Bundled r resource moved place place

/-- How a search comes to a path for a resource. -/
inductive Route (r : Resolver) (resource : String) : Path → Prop where
  /-- The path lies below a directory that the variable or the marker names. -/
  | below (source : Source) (root : Path) (hsource : source ≠ .bundle)
      (hfirst : r.firstRoot? = some source) (hroot : (r.report source).root = some root)
      (hnonempty : root.isEmpty = false) (hdir : r.files.isDir root = true)
      (hsentinel : r.files.isFile (root.joinText r.config.sentinel) = true)
      (hthere : r.files.isDir (root.joinText resource) = true ∨
        r.files.isFile (root.joinText resource) = true) :
      Route r resource (root.joinText resource)
  /-- The bundle gives the path. -/
  | bundled (asked : String) (place path : Path) (hfirst : r.firstRoot? = some .bundle)
      (hbundled : r.Bundled resource asked place path) : Route r resource path

theorem Bundled.locate {asked : String} {place : Path} (h : r.Bundled resource asked place path) :
    r.bundle.locate asked = .ok place := by
  cases h with
  | mapped _ hplace => exact hplace
  | directory _ _ _ _ hplace => exact hplace
  | moved _ _ _ _ _ hplace => exact hplace

/-! ### One source -/

/-- A successful resolution is for the resource it was built for. -/
theorem eq_of_success {place : Path}
    (h : Resolution.success resource place = .ok (.found named path)) :
    named = resource ∧ path = place := by
  unfold Resolution.success at h
  split at h
  · cases h
  · split at h
    · cases h
    · cases h
      exact ⟨rfl, rfl⟩

theorem refuse_ne_found (why : Failure) : refuse resource why ≠ .ok (.found named path) := by
  unfold refuse Resolution.failure
  intro h
  split at h
  · cases h
  · split at h <;> cases h

/-- A root that hands out a path carries the sentinel, and something is there. -/
theorem checkRoot_found {origin : String} {root : Path}
    (h : (r.checkRoot origin root resource).outcome = .ok (.found named path)) :
    named = resource ∧ path = root.joinText resource ∧ root.isEmpty = false ∧
      r.files.isFile (root.joinText r.config.sentinel) = true ∧
      (r.files.isDir (root.joinText resource) = true ∨
        r.files.isFile (root.joinText resource) = true) := by
  unfold checkRoot at h
  split at h
  · cases h
  · split at h
    · cases h
    · next hroot =>
      have hnonempty : root.isEmpty = false := by simpa using hroot
      split at h
      · cases h
      · split at h
        · exact absurd h (refuse_ne_found _)
        · next hsentinel =>
          have hcarries : r.files.isFile (root.joinText r.config.sentinel) = true := by
            simpa using hsentinel
          dsimp only at h
          split at h
          · next hdir =>
            obtain ⟨hnamed, hpath⟩ := eq_of_success h
            exact ⟨hnamed, hpath, hnonempty, hcarries, .inl hdir⟩
          · split at h
            · next hfile =>
              obtain ⟨hnamed, hpath⟩ := eq_of_success h
              exact ⟨hnamed, hpath, hnonempty, hcarries, .inr hfile⟩
            · exact absurd h (refuse_ne_found _)

theorem ok_of_map_some {outcome : Except Misuse Resolution} {resolution : Resolution}
    (h : outcome.map some = .ok (some resolution)) : outcome = .ok resolution := by
  cases outcome with
  | error m => cases h
  | ok other =>
    cases h
    rfl

/-- A bundle that hands out a path has come to it in one of the ways. -/
theorem probeBundle_found
    (h : (r.probeBundle resource).told.1 = .ok (some (.found named path))) :
    named = resource ∧ ∃ asked place, r.Bundled resource asked place path := by
  cases havailable : r.bundle.available with
  | false =>
    rw [told_probeBundle_of_absent havailable] at h
    cases h
  | true =>
    obtain ⟨place, hplace⟩ | ⟨reason, dir, hmiss, hdir⟩ | ⟨reason, place, hmiss, hdir, hmoved⟩ |
      ⟨reason, hmisses⟩ := bundle_cases r resource havailable
    · rw [told_probeBundle_of_located havailable hplace] at h
      obtain ⟨rfl, rfl⟩ := eq_of_success (ok_of_map_some h)
      exact ⟨rfl, _, _, .mapped path hplace⟩
    · rw [told_probeBundle_of_directory havailable hmiss hdir] at h
      obtain ⟨rfl, rfl⟩ := eq_of_success (ok_of_map_some h)
      obtain ⟨root, hroot, rfl, hisDir⟩ := Bundle.exists_root_of_directory? hdir
      obtain ⟨place, hplace, -⟩ := Bundle.locate_of_root hroot
      exact ⟨rfl, _, _, .directory reason place root hmiss hplace hroot hisDir⟩
    · rw [told_probeBundle_of_moved havailable hmiss hdir hmoved] at h
      obtain ⟨rfl, rfl⟩ := eq_of_success (ok_of_map_some h)
      obtain ⟨moved, hmem, hplace⟩ := Bundle.exists_locate_of_firstOf? hmoved
      exact ⟨rfl, _, _, .moved reason moved path hmiss hmem hplace⟩
    · rw [told_probeBundle_of_misses hmisses] at h
      exact absurd (ok_of_map_some h) (refuse_ne_found _)

/-- A source with a root passes no resource on. -/
theorem probe_ne_none {source : Source} (h : r.hasRoot source = true) :
    (r.probe source resource).told.1 ≠ .ok none := by
  have hsome (outcome : Except Misuse Resolution) : outcome.map some ≠ .ok none := by
    cases outcome <;> simp [Except.map]
  by_cases hsource : source = .bundle
  · subst hsource
    rw [hasRoot_bundle] at h
    show (r.probeBundle resource).told.1 ≠ .ok none
    obtain ⟨place, hplace⟩ | ⟨reason, dir, hmiss, hdir⟩ | ⟨reason, place, hmiss, hdir, hmoved⟩ |
      ⟨reason, hmisses⟩ := bundle_cases r resource h
    · rw [told_probeBundle_of_located h hplace]
      exact hsome _
    · rw [told_probeBundle_of_directory h hmiss hdir]
      exact hsome _
    · rw [told_probeBundle_of_moved h hmiss hdir hmoved]
      exact hsome _
    · rw [told_probeBundle_of_misses hmisses]
      exact hsome _
  · obtain ⟨root, -, -, heq⟩ := probe_eq_checkRoot resource hsource h
    rw [heq]
    exact hsome _

/-! ### All sources -/

/-- A search that finds a resource has stopped at the first source with a root. -/
theorem search_found {order : List Source}
    (h : (r.search resource order).outcome = .ok (.found named path)) :
    ∃ source, order.find? r.hasRoot = some source ∧
      (r.probe source resource).told.1 = .ok (some (.found named path)) := by
  induction order with
  | nil => exact absurd h (refuse_ne_found _)
  | cons source rest ih =>
    rw [List.find?_cons]
    cases hroot : r.hasRoot source with
    | false =>
      have hpass := congrArg Prod.fst (told_probe_of_no_root resource hroot)
      have hnone : (r.probe source resource).outcome = .ok none := hpass
      rw [search, hnone] at h
      exact ih h
    | true =>
      refine ⟨source, rfl, ?_⟩
      rw [search] at h
      cases hprobe : (r.probe source resource).outcome with
      | error m => simp [hprobe] at h
      | ok found =>
        cases found with
        | none => exact absurd hprobe (probe_ne_none hroot)
        | some resolution =>
          obtain rfl : resolution = .found named path := by simpa [hprobe] using h
          exact hprobe

/-- A resource that is found is a relative path below the namespace. -/
theorem requested_of_found (h : (r.resolve resource).outcome = .ok (.found named path)) :
    isRelativeResource resource = true ∧
      Text.hasPrefix r.config.namespacePrefix resource = true := by
  unfold resolve at h
  split at h
  · cases h
  · split at h
    · exact absurd h (refuse_ne_found _)
    · next hrelative =>
      split at h
      · exact absurd h (refuse_ne_found _)
      · next hnamespace => exact ⟨by simpa using hrelative, by simpa using hnamespace⟩

/-- **Where a path comes from.**  A search that finds a resource has come to the
    path in one of the ways, through the first source with a root. -/
theorem route_of_resolve (h : (r.resolve resource).outcome = .ok (.found named path)) :
    named = resource ∧ r.Route resource path := by
  obtain ⟨hrelative, hnamespace⟩ := requested_of_found h
  rw [resolve_eq_search hrelative hnamespace] at h
  obtain ⟨source, hfirst, hprobe⟩ := search_found h
  have hroot : r.hasRoot source = true := List.find?_some hfirst
  by_cases hsource : source = .bundle
  · subst hsource
    obtain ⟨hnamed, asked, place, hbundled⟩ := probeBundle_found hprobe
    exact ⟨hnamed, .bundled asked place path hfirst hbundled⟩
  · obtain ⟨root, hreport, hdir, heq⟩ := probe_eq_checkRoot resource hsource hroot
    rw [heq] at hprobe
    obtain ⟨hnamed, rfl, hnonempty, hsentinel, hthere⟩ := checkRoot_found (ok_of_map_some hprobe)
    exact ⟨hnamed, .below source root hsource hfirst hreport hnonempty hdir hsentinel hthere⟩

end LayeredRoots.Resolver
