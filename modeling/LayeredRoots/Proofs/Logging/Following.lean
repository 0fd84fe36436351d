import LayeredRoots.Logging.Search
import LayeredRoots.Proofs.Search.Routes

/-! # Searches that write a log come to their findings

    A finding leaves the log out: it lists the directories that a search came
    across, and whoever owns the log records them when the search is over.  Here
    this is shown to be what a search does that writes the log while it runs.

    - `Follows`: from every course an operation comes to the outcome of a finding,
      with the directories of the finding recorded in order.
    - Findings are put together as operations are (`Finding.bind`), so there is one
      lemma for each way to build an operation, and then one for each operation.
    - The only case with an argument is a search that passes a source on: what the
      source came across must not get lost, and it came across no directory.

    * `follows_resolve`, `follows_find`: **a search follows its finding.**
    * `Follows.eq_outcome`: so what it comes to is the same with every log. -/

namespace LayeredRoots

/-! ### One finding after the other -/

namespace Finding

variable {α β : Type}

/-- A finding that goes on with another one where it has an outcome. -/
def bind (f : Finding α) (k : α → Finding β) : Finding β :=
  match f.outcome with
  | .error m => ⟨.error m, f.notes, f.directories⟩
  | .ok a => ⟨(k a).outcome, f.notes ++ (k a).notes, f.directories ++ (k a).directories⟩

theorem bind_of_error {f : Finding α} {m : Misuse} (h : f.outcome = .error m)
    (k : α → Finding β) : f.bind k = ⟨.error m, f.notes, f.directories⟩ := by
  rw [bind, h]

theorem bind_of_ok {f : Finding α} {a : α} (h : f.outcome = .ok a) (k : α → Finding β) :
    f.bind k = ⟨(k a).outcome, f.notes ++ (k a).notes, f.directories ++ (k a).directories⟩ := by
  rw [bind, h]

/-- Going on without telling anything more. -/
theorem bind_pure (f : Finding α) (g : α → β) : (f.bind fun a => of (.ok (g a))) = f.map g := by
  unfold bind map
  cases f.outcome <;> simp [Except.map]

end Finding

/-! ### Courses -/

namespace Course

/-- The course behind a finding. -/
def behind {α : Type} (c : Course) (f : Finding α) : Course :=
  ⟨(c.log.record f.directories).1, c.warnings ++ (c.log.record f.directories).2,
    c.notes ++ f.notes⟩

theorem behind_of {α : Type} (c : Course) (e : Except Misuse α) : c.behind (.of e) = c := by
  simp [behind]

theorem behind_start {α : Type} (log : DeprecationLog) (f : Finding α) :
    (start log).behind f =
      ⟨(log.record f.directories).1, (log.record f.directories).2, f.notes⟩ := by
  simp [behind, start]

/-- Behind two findings, one after the other. -/
theorem behind_behind {α β γ : Type} (c : Course) (f : Finding α) (g : Finding β)
    (e : Except Misuse γ) :
    (c.behind f).behind g = c.behind ⟨e, f.notes ++ g.notes, f.directories ++ g.directories⟩ := by
  simp [behind, DeprecationLog.record_append]

end Course

namespace Logging

variable {α β : Type} {m : Logging α} {f : Finding α}

/-- **An operation comes to a finding**, whatever was told before. -/
def Follows (m : Logging α) (f : Finding α) : Prop :=
  ∀ c, m.runFrom c = (f.outcome, c.behind f)

/-- What an operation comes to does not depend on the log. -/
theorem Follows.eq_outcome (h : m.Follows f) (c d : Course) :
    (m.runFrom c).1 = (m.runFrom d).1 := by
  rw [h c, h d]

/-! ### Operations by their parts -/

theorem runFrom_bind (m : Logging α) (k : α → Logging β) (c : Course) :
    (m >>= k).runFrom c =
      match m.runFrom c with
      | (.ok a, d) => (k a).runFrom d
      | (.error e, d) => (.error e, d) := by
  simp only [runFrom, ExceptT.run_bind, StateT.run_bind]
  rcases m.run.run c with ⟨_ | _, _⟩ <;> rfl

theorem follows_ofExcept (e : Except Misuse α) : Follows (ofExcept e) (.of e) := by
  intro c
  rw [Course.behind_of]
  cases e <;> rfl

theorem follows_pure (a : α) : Follows (pure a) (.of (.ok a)) := follows_ofExcept (.ok a)

theorem follows_throw (m : Misuse) : Follows (α := α) (throw m) (.of (.error m)) :=
  follows_ofExcept (.error m)

theorem Follows.bind {k : α → Logging β} {g : α → Finding β} (h : m.Follows f)
    (hk : ∀ a, f.outcome = .ok a → (k a).Follows (g a)) : (m >>= k).Follows (f.bind g) := by
  intro c
  rw [runFrom_bind, h c]
  cases hf : f.outcome with
  | error e => 
    rw [Finding.bind_of_error hf]
    rfl
  | ok a =>
    rw [Finding.bind_of_ok hf]
    show (k a).runFrom _ = _
    rw [hk a hf, Course.behind_behind]

theorem Follows.map (g : α → β) (h : m.Follows f) : (g <$> m).Follows (f.map g) := by
  rw [map_eq_pure_bind, ← Finding.bind_pure]
  exact h.bind fun a _ => follows_pure (g a)

theorem follows_note (notes : List Note) : (note notes).Follows ⟨.ok (), notes, []⟩ := by
  intro c
  simp only [Course.behind, DeprecationLog.record_nil, List.append_nil]
  rfl

theorem Follows.noting (notes : List Note) (h : m.Follows f) :
    (note notes >>= fun _ => m).Follows (f.noting notes) :=
  (follows_note notes).bind fun _ _ => h

/-- A warning answers by the log.  So it follows no finding itself; only an
    operation that drops its answer does. -/
theorem runFrom_warnDirectory (resource : String) (c : Course) :
    (warnDirectory resource).runFrom c =
      (.ok (c.log.warns resource), c.behind ((Finding.of (.ok ())).deprecating resource)) := by
  have hrun : (warnDirectory resource).runFrom c = (.ok (c.log.warns resource),
      ⟨c.log.insert resource,
        if c.log.warns resource then c.warnings ++ [resource] else c.warnings, c.notes⟩) := rfl
  rw [hrun]
  cases hwarns : c.log.warns resource <;> simp [Course.behind, DeprecationLog.record, hwarns]

theorem Follows.deprecating (resource : String) (h : m.Follows f) :
    (warnDirectory resource >>= fun _ => m).Follows (f.deprecating resource) := by
  intro c
  rw [runFrom_bind, runFrom_warnDirectory]
  show m.runFrom _ = _
  rw [h, Course.behind_behind]
  rfl

theorem follows_ite {p : Prop} [Decidable p] {m n : Logging α} {f g : Finding α}
    (hm : p → m.Follows f) (hn : ¬p → n.Follows g) :
    (if p then m else n).Follows (if p then f else g) := by
  by_cases hp : p
  · rw [if_pos hp, if_pos hp]
    exact hm hp
  · rw [if_neg hp, if_neg hp]
    exact hn hp

/-! ### One root -/

variable (r : Resolver) (resource : String)

theorem follows_checkRoot (origin : String) (root : Path) :
    (checkRoot r resource origin root).Follows (r.checkRoot origin root resource) := by
  refine follows_ite (fun _ => follows_throw _) fun _ => ?_
  refine follows_ite (fun _ => follows_throw _) fun _ => ?_
  refine follows_ite (fun _ => follows_throw _) fun _ => ?_
  refine follows_ite (fun _ => follows_ofExcept _) fun _ => ?_
  -- the resource is looked at
  refine follows_ite (fun _ => (follows_ofExcept _).deprecating resource) fun _ => ?_
  exact follows_ite (fun _ => follows_ofExcept _) fun _ => follows_ofExcept _

/-! ### One source -/

/-- A source without a root leaves a note. -/
theorem follows_passing (notes : List Note) :
    (note notes >>= fun _ => (pure none : Logging (Option α))).Follows
      ((Finding.of (.ok none)).noting notes) :=
  (follows_pure none).noting notes

theorem follows_probeVariable : (probeVariable r resource).Follows (r.probeVariable resource) := by
  unfold probeVariable Resolver.probeVariable
  cases r.variableRoot? with
  | none => exact follows_pure none
  | some root =>
    exact follows_ite (fun _ => (follows_checkRoot r resource _ root).map some)
      fun _ => follows_passing _

theorem follows_probeInstallTree :
    (probeInstallTree r resource).Follows (r.probeInstallTree resource) := by
  unfold probeInstallTree Resolver.probeInstallTree
  cases r.installRoot? with
  | none => exact follows_passing _
  | some root =>
    exact follows_ite (fun _ => (follows_checkRoot r resource _ root).map some)
      fun _ => follows_passing _

/-- The directory of a resource, which is deprecated if it is there. -/
def directoryFinding : Finding (Option Path) :=
  let (dir, notes) := r.bundle.directory? r.files r.config.sentinel resource
  ⟨.ok dir, notes, if dir.isSome then [resource] else []⟩

theorem follows_directory : (directory r resource).Follows (directoryFinding r resource) := by
  unfold directory directoryFinding Bundle.directory?
  cases r.bundle.root r.config.sentinel with
  | error fault => exact follows_passing _
  | ok root =>
    cases hdir : r.files.isDir (root.joinText resource) with
    | true =>
      simp only [hdir, if_true]
      exact (follows_pure _).deprecating resource
    | false =>
      simp only [hdir]
      exact follows_pure none

/-- The new place of a resource, which is no directory to warn about. -/
def relocatedFinding : Finding (Option Path) :=
  let (place, notes) :=
    r.bundle.relocated? r.config.namespacePrefix r.config.relocations resource
  (Finding.of (.ok place)).noting notes

theorem follows_relocated : (relocated r resource).Follows (relocatedFinding r resource) :=
  (follows_pure _).noting _

/-- A bundle that misses a resource tries its fallbacks one after the other. -/
theorem probeBundle_of_miss {r : Resolver} {reason : String} (h : r.bundle.available = true)
    (hmiss : r.bundle.locate resource = .error reason) :
    r.probeBundle resource = (directoryFinding r resource).bind fun
      | some dir => (Finding.of (Resolution.success resource dir)).map some
      | none => (relocatedFinding r resource).bind fun
        | some place => (Finding.of (Resolution.success resource place)).map some
        | none =>
          (Finding.of (Resolver.refuse resource (Resolver.bundleFailure reason))).map some := by
  unfold Resolver.probeBundle directoryFinding relocatedFinding
  rw [hmiss, h]
  rcases r.bundle.directory? r.files r.config.sentinel resource with ⟨_ | dir, notes⟩
  · rcases r.bundle.relocated? r.config.namespacePrefix r.config.relocations resource with
      ⟨_ | place, more⟩ <;> simp [Finding.bind, Finding.map, Finding.noting]
  · simp [Finding.bind, Finding.map, Finding.noting, Finding.deprecating]

theorem follows_probeBundle : (probeBundle r resource).Follows (r.probeBundle resource) := by
  unfold probeBundle
  cases havailable : r.bundle.available with
  | false =>
    have hpass : r.probeBundle resource = .of (.ok none) := by
      simp [Resolver.probeBundle, havailable]
    rw [hpass]
    exact follows_pure none
  | true =>
    cases hlocate : r.bundle.locate resource with
    | ok place =>
      have hfound : r.probeBundle resource =
          (Finding.of (Resolution.success resource place)).map some := by
        simp [Resolver.probeBundle, havailable, hlocate]
      rw [hfound]
      exact (follows_ofExcept _).map some
    | error reason =>
      rw [probeBundle_of_miss resource havailable hlocate]
      refine (follows_directory r resource).bind fun dir _ => ?_
      cases dir with
      | some dir => exact (follows_ofExcept _).map some
      | none =>
        refine (follows_relocated r resource).bind fun place _ => ?_
        cases place with
        | some place => exact (follows_ofExcept _).map some
        | none => exact (follows_ofExcept _).map some

theorem follows_probe (source : Source) :
    (probe r resource source).Follows (r.probe source resource) := by
  cases source with
  | rootVariable => exact follows_probeVariable r resource
  | bundle => exact follows_probeBundle r resource
  | installTree => exact follows_probeInstallTree r resource

/-! ### All sources -/

/-- A source that is passed over has come across no directory. -/
theorem directories_probe_of_none {source : Source}
    (h : (r.probe source resource).outcome = .ok none) :
    (r.probe source resource).directories = [] := by
  cases hroot : r.hasRoot source with
  | true => exact absurd h (Resolver.probe_ne_none hroot)
  | false => exact congrArg Prod.snd (Resolver.told_probe_of_no_root resource hroot)

/-- A search goes on behind the first source if that has no root. -/
theorem search_cons (source : Source) (rest : List Source) :
    r.search resource (source :: rest) = (r.probe source resource).bind fun
      | some resolution => .of (.ok resolution)
      | none => r.search resource rest := by
  rw [Resolver.search]
  cases houtcome : (r.probe source resource).outcome with
  | error m => rw [Finding.bind_of_error houtcome]
  | ok found =>
    rw [Finding.bind_of_ok houtcome]
    cases found with
    | some resolution => simp
    | none => simp [Finding.noting, directories_probe_of_none r resource houtcome]

theorem follows_search (order : List Source) :
    (search r resource order).Follows (r.search resource order) := by
  induction order with
  | nil => exact follows_ofExcept _
  | cons source rest ih =>
    rw [search_cons]
    refine (follows_probe r resource source).bind fun found _ => ?_
    cases found with
    | some resolution => exact follows_pure resolution
    | none => exact ih

/-- **A look-up that writes the log** comes to its finding. -/
theorem follows_resolve : (resolve r resource).Follows (r.resolve resource) := by
  refine follows_ite (fun _ => follows_throw _) fun _ => ?_
  refine follows_ite (fun _ => follows_ofExcept _) fun _ => ?_
  exact follows_ite (fun _ => follows_ofExcept _) fun _ => follows_search r resource _

theorem follows_resolvePath : (resolvePath r resource).Follows (r.resolvePath resource) :=
  (follows_resolve r resource).map _

/-! ### Many resources -/

section find

open Command

variable (json : Bool) (resources : List String)

theorem findAll_cons (s : Streams) (failed : Nat) (rest : List String) :
    Command.findAll r json s failed (resource :: rest) =
      (r.resolve resource).bind fun resolution =>
        match writeResolution json s resolution with
        | (s, some fault) =>
          .of (.ok ⟨s, if resolution.isSuccess then failed else failed + 1, some fault⟩)
        | (s, none) =>
          Command.findAll r json s (if resolution.isSuccess then failed else failed + 1) rest := by
  rw [Command.findAll]
  cases houtcome : (r.resolve resource).outcome with
  | error m => rw [Finding.bind_of_error houtcome]
  | ok resolution =>
    rw [Finding.bind_of_ok houtcome]
    dsimp only
    rcases writeResolution json s resolution with ⟨after, _ | fault⟩
    · rfl
    · simp

theorem follows_findAll (s : Streams) (failed : Nat) :
    (findAll r json s failed resources).Follows (Command.findAll r json s failed resources) := by
  induction resources generalizing s failed with
  | nil => exact follows_pure _
  | cons resource rest ih =>
    rw [findAll_cons]
    refine (follows_resolve r resource).bind fun resolution _ => ?_
    dsimp only
    rcases writeResolution json s resolution with ⟨after, _ | fault⟩
    · exact ih after _
    · exact follows_pure _

/-- **A find command that writes the log** comes to its finding. -/
theorem follows_find (s : Streams) :
    (find r resources json s).Follows (Command.find r resources json s) := by
  refine follows_ite (fun _ => follows_pure _) fun _ => ?_
  rw [← Finding.bind_pure]
  refine (follows_findAll r json resources s 0).bind fun p _ => ?_
  cases p.fault with
  | some fault => exact follows_pure _
  | none =>
    by_cases hfailed : p.failed = 0
    · simp only [hfailed, if_true]
      exact follows_pure _
    · simp only [hfailed, if_false]
      exact follows_pure _

end find

end Logging
end LayeredRoots
