import LayeredRoots.Proofs.Bundle.Places
import LayeredRoots.Proofs.Session.Events
import LayeredRoots.Proofs.Storage.Files

/-! # When a bundle is found

    Which runfiles a process has is decided by two variables and the files
    that they name.  A resolver asks once, when it is built.  After that its
    bundle leads from each resource to the same place whatever becomes of the
    variables and of the listing; only whether a regular file is at the place
    is looked at with each question.  The free functions build a resolver for
    each question, so they answer as of now.

    * `discover?_eq_iff`: which runfiles are found.
    * `discovered_happen`, `discovered_after`: what an event and a row of
      events do to the runfiles of a session.
    * `bundle_found_at_building`: what that means for the lookups of a session
      at every point of it, and for the free functions. -/

namespace LayeredRoots

/-! ### Variables and texts -/

/-- A variable that has no value, or an empty one. -/
def Environment.Unset (env : Environment) (name : String) : Prop :=
  env.get name = none ∨ env.get name = some []

theorem Environment.getNonEmpty_eq_some_iff {env : Environment} {name : String} {value : Bytes} :
    env.getNonEmpty name = some value ↔ env.get name = some value ∧ value ≠ [] := by
  simp [getNonEmpty, Option.filter_eq_some_iff]

theorem Environment.getNonEmpty_eq_none_iff {env : Environment} {name : String} :
    env.getNonEmpty name = none ↔ env.Unset name := by
  unfold getNonEmpty Unset
  cases env.get name with
  | none => simp
  | some value => simp

/-- A file at a path can be read, and its contents are a text. -/
def Storage.HasText (storage : Storage) (path : Path) (text : String) : Prop :=
  ∃ bytes, storage.read path = .ok bytes ∧ Text.decode? bytes = some text

theorem Storage.readText_eq_ok_iff {storage : Storage} {path : Path} {text : String} :
    storage.readText path = .ok text ↔ storage.HasText path text := by
  unfold readText HasText
  cases storage.read path with
  | error fault => simp [bind, Except.bind]
  | ok bytes =>
    simp only [bind, Except.bind, Except.ok.injEq, exists_eq_left']
    cases Text.decode? bytes <;> simp

namespace Runfiles

/-! ### Which runfiles are found -/

/-- What the variables and the files say about the runfiles of a process. -/
inductive Discovers (env : Environment) (storage : Storage) : Option Runfiles → Prop where
  /-- The manifest is a text. -/
  | listed {value : Bytes} {text : String} (hvalue : env.get manifestVariable = some value)
      (hset : value ≠ []) (htext : storage.HasText ⟨value⟩ text) :
      Discovers env storage (some (.manifest ⟨value⟩ (Entries.ofText text)))
  /-- The manifest is no text.  The directory does not count then. -/
  | unreadable {value : Bytes} (hvalue : env.get manifestVariable = some value)
      (hset : value ≠ []) (htext : ∀ text, ¬ storage.HasText ⟨value⟩ text) :
      Discovers env storage none
  /-- There is no manifest, and the directory exists. -/
  | directory {value : Bytes} (hmanifest : env.Unset manifestVariable)
      (hvalue : env.get directoryVariable = some value) (hset : value ≠ [])
      (hdir : storage.isDir ⟨value⟩ = true) : Discovers env storage (some (.directory ⟨value⟩))
  /-- There is no manifest, and the directory does not exist. -/
  | missing {value : Bytes} (hmanifest : env.Unset manifestVariable)
      (hvalue : env.get directoryVariable = some value) (hset : value ≠ [])
      (hdir : storage.isDir ⟨value⟩ = false) : Discovers env storage none
  /-- Neither is named. -/
  | unnamed (hmanifest : env.Unset manifestVariable) (hdirectory : env.Unset directoryVariable) :
      Discovers env storage none

section discovery

variable {env : Environment} {storage : Storage}

/-- The variables and the files always say something. -/
theorem exists_discovers (env : Environment) (storage : Storage) :
    ∃ found, Discovers env storage found := by
  cases hmanifest : env.getNonEmpty manifestVariable with
  | some value =>
    obtain ⟨hvalue, hset⟩ := Environment.getNonEmpty_eq_some_iff.1 hmanifest
    by_cases htext : ∃ text, storage.HasText ⟨value⟩ text
    · obtain ⟨text, htext⟩ := htext
      exact ⟨_, .listed hvalue hset htext⟩
    · exact ⟨_, .unreadable hvalue hset (not_exists.1 htext)⟩
  | none =>
    have hunset := Environment.getNonEmpty_eq_none_iff.1 hmanifest
    cases hdirectory : env.getNonEmpty directoryVariable with
    | none => exact ⟨_, .unnamed hunset (Environment.getNonEmpty_eq_none_iff.1 hdirectory)⟩
    | some value =>
      obtain ⟨hvalue, hset⟩ := Environment.getNonEmpty_eq_some_iff.1 hdirectory
      cases hdir : storage.isDir ⟨value⟩ with
      | true => exact ⟨_, .directory hunset hvalue hset hdir⟩
      | false => exact ⟨_, .missing hunset hvalue hset hdir⟩

/-- What the variables and the files say is what is found. -/
theorem Discovers.eq_discover? {found : Option Runfiles} (h : Discovers env storage found) :
    (discover? env storage).1 = found := by
  unfold discover?
  cases h with
  | listed hvalue hset htext =>
    rw [Environment.getNonEmpty_eq_some_iff.2 ⟨hvalue, hset⟩]
    simp only [readManifest, Storage.readText_eq_ok_iff.2 htext]
    rfl
  | @unreadable value hvalue hset htext =>
    rw [Environment.getNonEmpty_eq_some_iff.2 ⟨hvalue, hset⟩]
    cases hread : storage.readText ⟨value⟩ with
    | ok text => exact absurd (Storage.readText_eq_ok_iff.1 hread) (htext text)
    | error fault => simp only [readManifest, hread]; rfl
  | directory hmanifest hvalue hset hdir =>
    rw [Environment.getNonEmpty_eq_none_iff.2 hmanifest,
      Environment.getNonEmpty_eq_some_iff.2 ⟨hvalue, hset⟩]
    simp only [hdir, if_true]
  | missing hmanifest hvalue hset hdir =>
    rw [Environment.getNonEmpty_eq_none_iff.2 hmanifest,
      Environment.getNonEmpty_eq_some_iff.2 ⟨hvalue, hset⟩]
    simp only [hdir, Bool.false_eq_true, if_false]
  | unnamed hmanifest hdirectory =>
    rw [Environment.getNonEmpty_eq_none_iff.2 hmanifest,
      Environment.getNonEmpty_eq_none_iff.2 hdirectory]

theorem discover?_eq_iff {found : Option Runfiles} :
    (discover? env storage).1 = found ↔ Discovers env storage found := by
  constructor
  · rintro rfl
    obtain ⟨found, h⟩ := exists_discovers env storage
    rwa [h.eq_discover?]
  · exact Discovers.eq_discover?

theorem discovers_discover? (env : Environment) (storage : Storage) :
    Discovers env storage (discover? env storage).1 := discover?_eq_iff.1 rfl

theorem Discovers.unique {found other : Option Runfiles} (h : Discovers env storage found)
    (hother : Discovers env storage other) : found = other :=
  h.eq_discover?.symm.trans hother.eq_discover?

end discovery

/-! ### Where they lead -/

/-- The place that runfiles have for a resource, whether a file is there or
    not. -/
def target? (resource : String) : Runfiles → Option Path
  | .manifest _ entries => entries.get? resource
  | .directory dir => some (dir.joinText resource)

section lookups

variable {files : Files} {resource : String} {place : Path}

theorem locate_iff_target? {runfiles : Runfiles} :
    runfiles.locate files resource = .ok place ↔
      runfiles.target? resource = some place ∧ files.isFile place = true := by
  cases runfiles with
  | manifest listing entries => exact locate_manifest_iff
  | directory dir =>
    rw [locate_directory_iff, target?, Option.some.injEq, eq_comm]

/-- The bundle of a process has the regular files that its runfiles lead to. -/
theorem locate_bundleOf_iff {found : Option Runfiles} :
    (bundleOf files found).locate resource = .ok place ↔
      found.bind (·.target? resource) = some place ∧ files.isFile place = true := by
  cases found with
  | none => simp [bundleOf, Bundle.absent]
  | some runfiles => exact locate_bundle_iff.trans locate_iff_target?

theorem available_bundleOf (found : Option Runfiles) :
    (bundleOf files found).available = found.isSome := by
  cases found <;> rfl

/-- All that a lookup depends on is whether a regular file is at the place, and
    that includes the reason why it fails. -/
theorem locate_bundleOf_congr {other : Files} {found : Option Runfiles}
    (h : ∀ place, found.bind (·.target? resource) = some place →
      files.isFile place = other.isFile place) :
    (bundleOf files found).locate resource = (bundleOf other found).locate resource := by
  cases found with
  | none => rfl
  | some runfiles =>
    show (locate files resource runfiles).mapError _ = (locate other resource runfiles).mapError _
    cases runfiles with
    | manifest listing entries =>
      cases hentry : entries.get? resource with
      | none => simp only [locate, hentry]
      | some place => simp only [locate, hentry, h place hentry]
    | directory dir => simp only [locate, h (dir.joinText resource) rfl]

end lookups
end Runfiles

namespace Session

/-! ### The runfiles of a session -/

/-- The process at the last moment at which a resolver was built during a row
    of events, if the one before was built in the given process. -/
def builtIn (s : Session) (w : World) : List Event → World
  | [] => w
  | e :: rest => (s.happen e).session.builtIn (if e.builds then s.world else w) rest

theorem builtIn_append (s : Session) (w : World) (es fs : List Event) :
    s.builtIn w (es ++ fs) = (s.after es).builtIn (s.builtIn w es) fs := by
  induction es generalizing s w with
  | nil => rfl
  | cons e rest ih => exact ih _ _

theorem builtIn_of_kept (s : Session) (w : World) {es : List Event}
    (h : ∀ e ∈ es, e.builds = false) : s.builtIn w es = w := by
  induction es generalizing s with
  | nil => rfl
  | cons e rest ih =>
    rw [builtIn, h e List.mem_cons_self]
    exact ih _ fun f hf => h f (List.mem_cons_of_mem _ hf)

/-- **One event.**  A new resolver looks for the runfiles of the process as it
    is then.  Nothing else touches them, and a bundle that was given, or was
    not, stays. -/
theorem discovered_happen (s : Session) (e : Event) :
    (s.happen e).session.discovered =
      (if e.builds then s.world.machine.runfiles?.1 else s.discovered) ∧
    (s.happen e).session.bundle = s.bundle := by
  cases hbuilds : e.builds with
  | false =>
    have hsame := s.sameResolver_happen hbuilds
    exact ⟨hsame.discovered, hsame.bundle⟩
  | true =>
    obtain ⟨c, rfl⟩ := Event.builds_iff.1 hbuilds
    exact ⟨rfl, rfl⟩

/-- **A row of events.**  The runfiles are those of the process at the moment
    at which the resolver was built last. -/
theorem discovered_after {s : Session} {w : World}
    (h : s.discovered = w.machine.runfiles?.1) (es : List Event) :
    (s.after es).discovered = (s.builtIn w es).machine.runfiles?.1 := by
  -- the process of the last building is the state of the induction
  induction es generalizing s w with
  | nil => exact h
  | cons e rest ih =>
    refine ih ?_
    rw [(discovered_happen s e).1]
    cases e.builds with
    | true => rfl
    | false => exact h

theorem bundle_after (s : Session) (es : List Event) : (s.after es).bundle = s.bundle := by
  induction es generalizing s with
  | nil => rfl
  | cons e rest ih => exact (ih _).trans (discovered_happen s e).2

/-- The sessions that a setup starts. -/
inductive StartsFrom (setup : Setup) : Session → Prop where
  | configured (c : Config) : StartsFrom setup (start setup c)
  | standard : StartsFrom setup (startStandard setup)
  | file {path : Path} {s : Session} (h : startFromFile setup path = .ok s) : StartsFrom setup s

theorem StartsFrom.discovered {setup : Setup} {s : Session} (h : StartsFrom setup s) :
    s.discovered = setup.world.machine.runfiles?.1 ∧ s.bundle = setup.bundle := by
  cases h with
  | configured c => exact ⟨rfl, rfl⟩
  | standard =>
    unfold startStandard
    split <;> exact ⟨rfl, rfl⟩
  | file h =>
    unfold startFromFile at h
    split at h
    · cases h
    · obtain rfl := Except.ok.inj h
      exact ⟨rfl, rfl⟩

/-! ### Lookups at a moment -/

/-- The resolver has the bundle of some runfiles: it leads where they lead, and
    whether a regular file is there is looked at now. -/
structure Serves (now : Session) (found : Option Runfiles) : Prop where
  bundle    : now.resolver.bundle = Runfiles.bundleOf now.world.machine.storage.toFiles found
  available : now.resolver.bundle.available = found.isSome
  locate    : ∀ resource place, now.resolver.bundle.locate resource = .ok place ↔
    found.bind (·.target? resource) = some place ∧
      now.world.machine.storage.isFile place = true

theorem serves_discovered {now : Session} (h : now.bundle = none) :
    now.Serves now.discovered := by
  have hbundle : now.resolver.bundle =
      Runfiles.bundleOf now.world.machine.storage.toFiles now.discovered := by
    simp only [resolver, bundleOr, h]
  refine ⟨hbundle, ?_, ?_⟩
  · rw [hbundle, Runfiles.available_bundleOf]
  · intro resource place
    rw [hbundle, Runfiles.locate_bundleOf_iff]

/-- At two moments with the same runfiles a lookup comes to the same if the
    file is there at both or at neither. -/
theorem Serves.locate_eq {now later : Session} {found : Option Runfiles} (h : now.Serves found)
    (hlater : later.Serves found) {resource : String}
    (hfile : ∀ place, found.bind (·.target? resource) = some place →
      later.world.machine.storage.isFile place = now.world.machine.storage.isFile place) :
    later.resolver.bundle.locate resource = now.resolver.bundle.locate resource := by
  rw [h.bundle, hlater.bundle]
  exact Runfiles.locate_bundleOf_congr hfile

/-! ### The free functions -/

/-- The resolver that the process uses by default, built at this moment, with
    the log of the process. -/
def rebuiltForProcess (now : Session) : Session :=
  { startStandard
      { world := now.world, vars := none, files := none, bundle := none, marker := none,
        owner := .resolver, policy := .once } with
    processLog := now.processLog }

/-- Two replies that say the same and leave the log of the process alike. -/
structure Reply.SaysAs (r other : Reply) : Prop where
  answer     : r.answer = other.answer
  warnings   : r.warnings = other.warnings
  processLog : r.session.processLog = other.session.processLog

/-- A free function asks the resolver that is built at this moment. -/
theorem tellFree_saysAs {α : Type} (now : Session) (ask : Resolver → Finding α)
    (answer : α → Answer) :
    (now.tellFree ask answer).SaysAs
      (now.rebuiltForProcess.tell (ask now.rebuiltForProcess.resolver) answer) :=
  ⟨rfl, rfl, rfl⟩

/-- **A bundle is found when a resolver is built.**  The runfiles that are found
    are those that the variables and the files name.  At every point of a
    session its resolver has those of the process at the moment at which it was
    built; until the next one is built they lead every resource to the same
    place, and a lookup comes out otherwise only where a file has come or gone.
    The free functions answer as a resolver that is built at the moment of the
    question. -/
theorem bundle_found_at_building :
    (∀ env storage found,
      (Runfiles.discover? env storage).1 = found ↔ Runfiles.Discovers env storage found) ∧
    (∀ (setup : Setup) (s : Session), StartsFrom setup s → setup.bundle = none →
      ∀ es : List Event, ∃ found,
        Runfiles.Discovers (s.builtIn setup.world es).machine.environment
          (s.builtIn setup.world es).machine.storage found ∧
        (s.after es).Serves found ∧
        ∀ since : List Event, (∀ e ∈ since, e.builds = false) →
          (s.after (es ++ since)).Serves found ∧
          ∀ resource,
            (∀ place, found.bind (·.target? resource) = some place →
              (s.after (es ++ since)).world.machine.storage.isFile place =
                (s.after es).world.machine.storage.isFile place) →
            (s.after (es ++ since)).resolver.bundle.locate resource =
              (s.after es).resolver.bundle.locate resource) ∧
    (∀ (now : Session) (resource : String),
      (now.step (.freeResolve resource)).SaysAs
        (now.rebuiltForProcess.step (.resolve resource)) ∧
      (now.step (.freeResolvePath resource)).SaysAs
        (now.rebuiltForProcess.step (.resolvePath resource)) ∧
      ∃ found, Runfiles.Discovers now.world.machine.environment now.world.machine.storage found ∧
        now.rebuiltForProcess.Serves found) := by
  refine ⟨fun _ _ _ => Runfiles.discover?_eq_iff, ?_, ?_⟩
  · intro setup s hs hgiven es
    obtain ⟨hdiscovered, hbundle⟩ := hs.discovered
    have hserves : ∀ row, (s.after row).Serves (s.builtIn setup.world row).machine.runfiles?.1 := by
      intro row
      rw [← discovered_after hdiscovered row]
      exact serves_discovered (by rw [bundle_after, hbundle, hgiven])
    refine ⟨_, Runfiles.discovers_discover? _ _, hserves es, ?_⟩
    intro since hkept
    have hlater : (s.after (es ++ since)).Serves
        (s.builtIn setup.world es).machine.runfiles?.1 := by
      have h := hserves (es ++ since)
      rwa [builtIn_append, builtIn_of_kept _ _ hkept] at h
    exact ⟨hlater, fun resource hfile => (hserves es).locate_eq hlater hfile⟩
  · intro now resource
    refine ⟨tellFree_saysAs now (·.resolve resource) _,
      tellFree_saysAs now (·.resolvePath resource) _, ?_⟩
    exact ⟨_, Runfiles.discovers_discover? _ _, serves_discovered rfl⟩

/-- A manifest in `/t` that has one resource at a place, beside a file. -/
def listingDisk (place : String) : Disk where
  entries := [
    (Disk.placeOf (Path.ofText "/t"), .dir),
    (Disk.placeOf (Path.ofText "/t/MANIFEST"), .file (Text.encode ("project/x.txt " ++ place))),
    (Disk.placeOf (Path.ofText "/t/x.txt"), .file [])]

/-- A process that runs in `/t` and whose variable names the manifest, which
    leads to the file. -/
def listingSetup : Setup where
  world := .start ⟨[("RUNFILES_MANIFEST_FILE", Text.encode "MANIFEST")]⟩
    (listingDisk "x.txt") (Path.ofText "/t") (Path.ofText "/t") []
  vars := none
  files := none
  bundle := none
  marker := none
  owner := .resolver
  policy := .once

/-- The manifest is written anew, and leads to nothing.  Then its variable is
    unset. -/
def listingLost : List Event :=
  [.change { listingSetup.world with disk := listingDisk "y.txt" } none none,
    .step (.unsetVariable "RUNFILES_MANIFEST_FILE")]

/-- What the resolver of that process is built over. -/
theorem discovers_listingSetup :
    Runfiles.Discovers listingSetup.world.machine.environment listingSetup.world.machine.storage
      (some (.manifest (Path.ofText "MANIFEST")
        (Entries.ofText ("project/x.txt " ++ "x.txt")))) :=
  .listed (by decide +kernel) (by decide +kernel)
    ⟨_, Disk.read_of_direct? (by decide +kernel), Text.decode?_encode _⟩

/-- The resolver still has the file after the manifest is lost.  The next one
    has no bundle. -/
theorem bundle_found_at_building_listing :
    (StartsFrom listingSetup (start listingSetup .standard) ∧ listingSetup.bundle = none ∧
      ∀ e ∈ listingLost, e.builds = false) ∧
    ((start listingSetup .standard).after listingLost).resolver.bundle.locate "project/x.txt" =
      .ok (Path.ofText "x.txt") ∧
    ((start listingSetup .standard).after
      (listingLost ++ [.step (.rebuild .standard)])).resolver.bundle.available = false := by
  have hstart : StartsFrom listingSetup (start listingSetup .standard) := .configured _
  have hkept : ∀ e ∈ listingLost, e.builds = false := by decide
  obtain ⟨-, hsession, -⟩ := bundle_found_at_building
  refine ⟨⟨hstart, rfl, hkept⟩, ?_, ?_⟩
  · obtain ⟨found, hfound, -, hsince⟩ := hsession listingSetup _ hstart rfl []
    obtain rfl := hfound.unique discovers_listingSetup
    have htarget : (Entries.ofText ("project/x.txt " ++ "x.txt")).get? "project/x.txt" =
        some (Path.ofText "x.txt") := by decide +kernel
    have hfile : ((listingDisk "y.txt").view
        (.dir (Disk.placeOf (Path.ofText "/t")))).isFile (Path.ofText "x.txt") = true :=
      Disk.isFile_of_direct? [] (by decide +kernel)
    exact ((hsince listingLost hkept).1.locate _ _).2 ⟨htarget, hfile⟩
  · obtain ⟨found, hfound, hserves, -⟩ :=
      hsession listingSetup _ hstart rfl (listingLost ++ [.step (.rebuild .standard)])
    obtain rfl := hfound.unique (.unnamed (.inl (by decide +kernel)) (.inl (by decide +kernel)))
    exact hserves.available

end Session
end LayeredRoots
