import LayeredRoots.Proofs.Search.Precedence
import LayeredRoots.Proofs.Search.Relocations
import LayeredRoots.Proofs.Search.Routes

/-! # Adding relocation rules

    The rules of a resolver are the last resort of one source, the bundle.
    Everything else that a search looks at is settled before it comes to them:

    * `rules_cases`: either no rules make a difference to a search, or the search
      is left with the new places of the resource, and with its first miss.
    * `movedPlace?_append`: rules behind the others are asked last.
    * `movedPlace?_eq_none_of_perm`: whether there is a new place does not depend on
      the order of the rules.
    * `added_rules_only_mend`: **more rules never change a success**, and they
      change a failure only into the place that one of them leads to.

    A bundle must not place anything at the empty path.  One that does breaks off
    a search that failed before (`empty_place_breaks_off`). -/

namespace LayeredRoots

namespace Resolver

variable {r : Resolver} {resource : String}

/-! ### Resolvers with other rules -/

/-- The resolver with other rules. -/
def withRules (r : Resolver) (rules : List Relocation) : Resolver :=
  { r with config := { r.config with relocations := rules } }

/-- The resolver with more rules, added one after the other. -/
def addingRules (r : Resolver) (rules : List Relocation) : Resolver :=
  { r with config := rules.foldl Config.withRelocation r.config }

theorem addingRules_eq (r : Resolver) (rules : List Relocation) :
    r.addingRules rules = r.withRules (r.config.relocations ++ rules) := by
  have hconfig (c : Config) : rules.foldl Config.withRelocation c =
      { c with relocations := c.relocations ++ rules } := by
    induction rules generalizing c with
    | nil => rw [List.append_nil, List.foldl_nil]
    | cons rule rest ih =>
      rw [List.foldl_cons, ih]
      simp [Config.withRelocation]
  rw [addingRules, hconfig, withRules]

theorem hasRoot_withRules (r : Resolver) (rules : List Relocation) :
    (r.withRules rules).hasRoot = r.hasRoot := by
  funext source
  cases source <;> rfl

theorem firstRoot?_withRules (r : Resolver) (rules : List Relocation) :
    (r.withRules rules).firstRoot? = r.firstRoot? := by
  unfold firstRoot?
  rw [hasRoot_withRules]
  rfl

/-- Only the bundle follows rules. -/
theorem probe_withRules {source : Source} (hsource : source ≠ .bundle) (rules : List Relocation) :
    (r.withRules rules).probe source resource = r.probe source resource := by
  cases source with
  | bundle => exact absurd rfl hsource
  | rootVariable | installTree => rfl

/-! ### The last resort -/

/-- What a search comes to that is left with the new places of a resource, after
    the bundle missed the resource itself. -/
def lastResort (resource reason : String) : Option Path → Except Misuse Resolution
  | some place => if place.isEmpty then .error .emptyAbsolutePath else .ok (.found resource place)
  | none => .ok (.failed resource ((bundleFailure reason).message resource))

/-- The bundle comes to its last resort where it has neither the resource nor a
    directory for it. -/
theorem told_probeBundle_of_lastResort {reason : String} (havailable : r.bundle.available = true)
    (hresource : resource.isEmpty = false) (hmiss : r.bundle.locate resource = .error reason)
    (hdir : (r.bundle.directory? r.files r.config.sentinel resource).1 = none) :
    (r.probeBundle resource).told =
      ((lastResort resource reason (r.movedPlace? resource)).map some, []) := by
  have hmoved := fst_relocated? r resource
  cases hplace : r.movedPlace? resource with
  | some place =>
    rw [hplace] at hmoved
    rw [told_probeBundle_of_moved havailable hmiss hdir hmoved, Resolution.success, hresource,
      if_neg Bool.false_ne_true]
    rfl
  | none =>
    rw [hplace] at hmoved
    rw [told_probeBundle_of_misses ⟨havailable, hmiss, hdir, hmoved⟩,
      refuse_eq_ok hresource (bundleFailure_ne reason)]
    rfl

/-- A bundle comes to the same with all rules, or to its last resort. -/
theorem probeBundle_rules_cases (havailable : r.bundle.available = true)
    (hresource : resource.isEmpty = false) :
    (∃ told : Except Misuse Resolution × List String, ∀ rules,
      ((r.withRules rules).probeBundle resource).told = (told.1.map some, told.2)) ∨
    ∃ reason, ∀ rules, ((r.withRules rules).probeBundle resource).told =
      ((lastResort resource reason ((r.withRules rules).movedPlace? resource)).map some, []) := by
  cases hlocate : r.bundle.locate resource with
  | ok place =>
    left
    refine ⟨(Resolution.success resource place, []), ?_⟩
    intro rules
    exact told_probeBundle_of_located (r := r.withRules rules) havailable hlocate
  | error reason =>
    cases hdir : (r.bundle.directory? r.files r.config.sentinel resource).1 with
    | some dir =>
      left
      refine ⟨(Resolution.success resource dir, [resource]), ?_⟩
      intro rules
      exact told_probeBundle_of_directory (r := r.withRules rules) havailable hlocate hdir
    | none =>
      right
      refine ⟨reason, ?_⟩
      intro rules
      exact told_probeBundle_of_lastResort (r := r.withRules rules) havailable hresource hlocate hdir

/-- **What rules can change.**  Either a search comes to the same with all rules,
    or the bundle settles it and the rules are its last resort. -/
theorem rules_cases (r : Resolver) (resource : String) :
    (∀ rules, ((r.withRules rules).resolve resource).told = (r.resolve resource).told) ∨
    (r.firstRoot? = some .bundle ∧ ∃ reason, ∀ rules,
      ((r.withRules rules).resolve resource).told =
        (lastResort resource reason ((r.withRules rules).movedPlace? resource), [])) := by
  by_cases hresource : isRelativeResource resource = true
  · by_cases hnamespace : Text.hasPrefix r.config.namespacePrefix resource = true
    · cases hfirst : r.firstRoot? with
      | none =>
        left
        intro rules
        rw [told_resolve_of_no_root hresource hnamespace hfirst]
        exact told_resolve_of_no_root (r := r.withRules rules) hresource hnamespace
          ((firstRoot?_withRules r rules).trans hfirst)
      | some source =>
        have hroot : r.hasRoot source = true := List.find?_some hfirst
        -- with all rules the same source settles the search
        have hsettled {told : Except Misuse Resolution × List String} (rules : List Relocation)
            (hprobe : ((r.withRules rules).probe source resource).told =
              (told.1.map some, told.2)) :
            ((r.withRules rules).resolve resource).told = told :=
          told_resolve_of_probe hresource hnamespace ((firstRoot?_withRules r rules).trans hfirst)
            hprobe
        have hsame {told : Except Misuse Resolution × List String} (hprobe : ∀ rules,
            ((r.withRules rules).probe source resource).told = (told.1.map some, told.2))
            (rules : List Relocation) :
            ((r.withRules rules).resolve resource).told = (r.resolve resource).told := by
          rw [hsettled rules (hprobe rules)]
          exact (hsettled r.config.relocations (hprobe r.config.relocations)).symm
        by_cases hsource : source = .bundle
        · subst hsource
          rw [hasRoot_bundle] at hroot
          rcases probeBundle_rules_cases hroot (isEmpty_of_isRelativeResource hresource) with
            ⟨told, hprobe⟩ | ⟨reason, hprobe⟩
          · left
            exact hsame hprobe
          · right
            exact ⟨rfl, reason, fun rules => hsettled rules (hprobe rules)⟩
        · left
          obtain ⟨root, -, -, heq⟩ := probe_eq_checkRoot resource hsource hroot
          apply hsame
          intro rules
          rw [probe_withRules hsource, heq]
          exact Finding.told_map some _
    · left
      intro rules
      simp [resolve, withRules, hresource, hnamespace]
  · left
    intro rules
    simp [resolve, hresource]

/-! ### New places -/

theorem movedPlace?_append (rules more : List Relocation) :
    (r.withRules (rules ++ more)).movedPlace? resource =
      ((r.withRules rules).movedPlace? resource).or ((r.withRules more).movedPlace? resource) := by
  unfold movedPlace?
  show List.findSome? _ (Bundle.movedPaths _ (rules ++ more) resource) = _
  rw [Bundle.movedPaths_append_rules, List.findSome?_append]
  rfl

/-- A new place is where a rule that captures the resource leads to. -/
theorem exists_rule_of_movedPlace? {place : Path} (h : r.movedPlace? resource = some place) :
    ∃ rule ∈ r.config.relocations, ∃ suffix, resource = r.config.namespacePrefix ++ suffix ∧
      rule.captures suffix = true ∧
      r.bundle.locate (rule.moved r.config.namespacePrefix suffix) = .ok place := by
  rw [← fst_relocated?] at h
  obtain ⟨moved, hmem, hplace⟩ := Bundle.exists_locate_of_firstOf? h
  obtain ⟨rule, hrule, suffix, hsuffix, hcaptures, rfl⟩ := Bundle.mem_movedPaths_iff.1 hmem
  exact ⟨rule, hrule, suffix, hsuffix, hcaptures, hplace⟩

theorem movedPlace?_eq_none_iff :
    r.movedPlace? resource = none ↔
      ∀ rule ∈ r.config.relocations, ∀ suffix, resource = r.config.namespacePrefix ++ suffix →
        rule.captures suffix = true →
        (r.bundle.locate (rule.moved r.config.namespacePrefix suffix)).toOption = none := by
  unfold movedPlace?
  rw [List.findSome?_eq_none_iff]
  constructor
  · intro h rule hrule suffix hsuffix hcaptures
    exact h _ (Bundle.mem_movedPaths_iff.2 ⟨rule, hrule, suffix, hsuffix, hcaptures, rfl⟩)
  · intro h moved hmoved
    obtain ⟨rule, hrule, suffix, hsuffix, hcaptures, rfl⟩ := Bundle.mem_movedPaths_iff.1 hmoved
    exact h rule hrule suffix hsuffix hcaptures

/-- The order of the rules says which new place counts, not whether there is
    one. -/
theorem movedPlace?_eq_none_of_perm {rules other : List Relocation} (h : rules.Perm other) :
    (r.withRules rules).movedPlace? resource = none ↔
      (r.withRules other).movedPlace? resource = none := by
  rw [movedPlace?_eq_none_iff, movedPlace?_eq_none_iff]
  show (∀ rule ∈ rules, _) ↔ ∀ rule ∈ other, _
  simp only [h.mem_iff]
  rfl

/-! ### More rules, and other orders of rules -/

/-- With more rules a search comes to the same, or a failure of the bundle gives
    way to a place that one of the new rules leads to. -/
theorem addingRules_cases (r : Resolver) (rules : List Relocation) (resource : String) :
    ((r.addingRules rules).resolve resource).told = (r.resolve resource).told ∨
    (r.firstRoot? = some .bundle ∧
      ∃ reason place, (r.withRules rules).movedPlace? resource = some place ∧
        (r.resolve resource).told = (lastResort resource reason none, []) ∧
        ((r.addingRules rules).resolve resource).told =
          (lastResort resource reason (some place), [])) := by
  rw [addingRules_eq]
  rcases rules_cases r resource with hsame | ⟨hfirst, reason, hlast⟩
  · exact .inl (hsame _)
  · have hbefore := hlast r.config.relocations
    have hafter := hlast (r.config.relocations ++ rules)
    rw [movedPlace?_append] at hafter
    -- the old rules are asked first, so the new ones only count where these all miss
    cases hold : (r.withRules r.config.relocations).movedPlace? resource with
    | some place =>
      left
      rw [hold, Option.some_or] at hafter
      rw [hold] at hbefore
      rw [hafter]
      exact hbefore.symm
    | none =>
      rw [hold, Option.none_or] at hafter
      rw [hold] at hbefore
      cases hnew : (r.withRules rules).movedPlace? resource with
      | some place =>
        right
        rw [hnew] at hafter
        exact ⟨hfirst, reason, place, rfl, hbefore, hafter⟩
      | none =>
        left
        rw [hnew] at hafter
        rw [hafter]
        exact hbefore.symm

/-- With its rules in another order a search comes to the same, or the bundle has
    a new place of the resource either way. -/
theorem perm_cases (r : Resolver) {order : List Relocation} (h : order.Perm r.config.relocations)
    (resource : String) :
    ((r.withRules order).resolve resource).told = (r.resolve resource).told ∨
    ∃ reason place other, r.movedPlace? resource = some place ∧
      (r.withRules order).movedPlace? resource = some other ∧
      (r.resolve resource).outcome = lastResort resource reason (some place) ∧
      ((r.withRules order).resolve resource).outcome = lastResort resource reason (some other) := by
  rcases rules_cases r resource with hsame | ⟨-, reason, hlast⟩
  · exact .inl (hsame order)
  · have hbefore : (r.resolve resource).told =
        (lastResort resource reason (r.movedPlace? resource), []) := hlast r.config.relocations
    have hafter := hlast order
    have hnone : (r.withRules order).movedPlace? resource = none ↔ r.movedPlace? resource = none :=
      movedPlace?_eq_none_of_perm h
    cases hplace : r.movedPlace? resource with
    | none =>
      left
      rw [hafter, hbefore, hnone.2 hplace, hplace]
    | some place =>
      have hsome : (r.withRules order).movedPlace? resource ≠ none := by
        rw [Ne, hnone, hplace]
        simp
      obtain ⟨other, hother⟩ := Option.ne_none_iff_exists'.1 hsome
      right
      rw [hplace] at hbefore
      rw [hother] at hafter
      exact ⟨reason, place, other, rfl, hother, congrArg Prod.fst hbefore,
        congrArg Prod.fst hafter⟩

/-- Findings that tell the same do the same to a log. -/
theorem outcome_and_record_of_told_eq {f g : Finding Resolution} (h : f.told = g.told)
    {outcome : Except Misuse Resolution} (houtcome : g.outcome = outcome) :
    f.outcome = outcome ∧
      ∀ log : DeprecationLog, log.record f.directories = log.record g.directories := by
  obtain ⟨hsame, hdirectories⟩ := Prod.ext_iff.1 h
  refine ⟨hsame.trans houtcome, ?_⟩
  intro log
  exact congrArg log.record hdirectories

theorem lastResort_ne_failed (reason : String) (place : Path) (named message : String) :
    lastResort resource reason (some place) ≠ .ok (.failed named message) := by
  show (if place.isEmpty then _ else _) ≠ _
  split
  · simp
  · simp

theorem lastResort_of_nonempty {place : Path} (h : place.isEmpty = false) (reason : String) :
    lastResort resource reason (some place) = .ok (.found resource place) := by
  show (if place.isEmpty then _ else _) = _
  rw [h, if_neg Bool.false_ne_true]

/-- **More rules only mend failures.**  Rules that are added behind the others
    leave every success as it is, and every broken precondition, and what a log is
    told about it.  A failure stays as it is too, or the bundle is the first source
    with a root, has the resource where one of the new rules leads to, and this
    place is what the search comes to; no log is told.

    The order of the rules never makes a failure of anything else, or the other
    way round.  Nor does it make or unmake a success, unless the bundle places
    something at the empty path. -/
theorem added_rules_only_mend (r : Resolver) (rules : List Relocation) (resource : String) :
    let before := r.resolve resource
    let after := (r.addingRules rules).resolve resource
    (∀ named path, before.outcome = .ok (.found named path) →
      after.outcome = .ok (.found named path) ∧
      ∀ log : DeprecationLog, log.record after.directories = log.record before.directories) ∧
    (∀ m, before.outcome = .error m →
      after.outcome = .error m ∧
      ∀ log : DeprecationLog, log.record after.directories = log.record before.directories) ∧
    (∀ named message, before.outcome = .ok (.failed named message) →
      (after.outcome = .ok (.failed named message) ∧
        ∀ log : DeprecationLog, log.record after.directories = log.record before.directories) ∨
      (r.firstRoot? = some .bundle ∧
        ∃ rule ∈ rules, ∃ suffix place, resource = r.config.namespacePrefix ++ suffix ∧
          rule.captures suffix = true ∧
          r.bundle.locate (rule.moved r.config.namespacePrefix suffix) = .ok place ∧
          after.outcome =
            (if place.isEmpty then .error .emptyAbsolutePath else .ok (.found resource place)) ∧
          ∀ log : DeprecationLog, log.record after.directories = (log, []))) ∧
    ∀ order : List Relocation, order.Perm r.config.relocations →
      (∀ named message,
        ((r.withRules order).resolve resource).outcome = .ok (.failed named message) ↔
          before.outcome = .ok (.failed named message)) ∧
      ((∀ asked place, r.bundle.locate asked = .ok place → place.isEmpty = false) →
        ((∃ path, ((r.withRules order).resolve resource).outcome = .ok (.found resource path)) ↔
          ∃ path, before.outcome = .ok (.found resource path))) := by
  intro before after
  -- what was no failure before is none that more rules could mend
  have hkept {outcome : Except Misuse Resolution} (houtcome : before.outcome = outcome)
      (hfirm : ∀ named message, outcome ≠ .ok (.failed named message)) :
      after.outcome = outcome ∧
        ∀ log : DeprecationLog, log.record after.directories = log.record before.directories := by
    rcases addingRules_cases r rules resource with hsame | ⟨-, reason, place, -, hbefore, -⟩
    · exact outcome_and_record_of_told_eq hsame houtcome
    · have hfailed : before.outcome = lastResort resource reason none := congrArg Prod.fst hbefore
      rw [houtcome] at hfailed
      exact absurd hfailed (hfirm _ _)
  refine ⟨?_, ?_, ?_, ?_⟩
  · intro named path hfound
    exact hkept hfound (by simp)
  · intro m hbroken
    exact hkept hbroken (by simp)
  · intro named message hfailed
    rcases addingRules_cases r rules resource with hsame | ⟨hfirst, reason, place, hplace, -, hafter⟩
    · left
      exact outcome_and_record_of_told_eq hsame hfailed
    · right
      obtain ⟨rule, hrule, suffix, hsuffix, hcaptures, hlocate⟩ := exists_rule_of_movedPlace? hplace
      obtain ⟨houtcome, hdirectories⟩ := Prod.ext_iff.1 hafter
      exact ⟨hfirst, rule, hrule, suffix, place, hsuffix, hcaptures, hlocate, houtcome,
        fun log => congrArg log.record hdirectories⟩
  · intro order hperm
    rcases perm_cases r hperm resource with
      hsame | ⟨reason, place, other, hplace, hother, hbefore, hafter⟩
    · have houtcome : ((r.withRules order).resolve resource).outcome = before.outcome :=
        congrArg Prod.fst hsame
      rw [houtcome]
      exact ⟨fun _ _ => Iff.rfl, fun _ => Iff.rfl⟩
    · have houtcome : before.outcome = lastResort resource reason (some place) := hbefore
      rw [hafter, houtcome]
      constructor
      · intro named message
        exact iff_of_false (lastResort_ne_failed reason other named message)
          (lastResort_ne_failed reason place named message)
      · intro hplaces
        obtain ⟨moved, hlocate⟩ := exists_locate_of_movedPlace? hplace
        obtain ⟨asked, hasked⟩ := exists_locate_of_movedPlace? hother
        rw [lastResort_of_nonempty (hplaces _ _ hlocate), lastResort_of_nonempty (hplaces _ _ hasked)]
        exact iff_of_true ⟨other, rfl⟩ ⟨place, rfl⟩

/-- Rules of which only the second captures the models. -/
def atticRules : List Relocation :=
  [⟨"models/x", "old/"⟩, .attic "models"]

/-- Without rules a model in the attic is missed.  The second of two new rules
    leads to it.  A directory stays what it was, in the log too, and a model that is
    found in the attic is found there with the rules the other way round. -/
theorem added_rules_only_mend_atticRules :
    let r := movedDirectory.withRules []
    let after := r.addingRules atticRules
    (r.resolve "project/models/a").outcome =
      .ok (.failed "project/models/a" "no entry for 'project/models/a'") ∧
    (after.resolve "project/models/a").outcome =
      .ok (.found "project/models/a" (Path.ofText "/b/project/attic/models/a")) ∧
    (∀ log : DeprecationLog,
      log.record (after.resolve "project/models/a").directories = (log, [])) ∧
    (after.resolve "project/models").outcome =
      .ok (.found "project/models" (Path.ofText "/b/project/models")) ∧
    (after.resolve "project/models").directories = ["project/models"] ∧
    ∃ path, ((after.withRules atticRules.reverse).resolve "project/models/a").outcome =
      .ok (.found "project/models/a" path) := by
  intro r after
  have hmiss : (r.resolve "project/models/a").outcome =
      .ok (.failed "project/models/a" "no entry for 'project/models/a'") := by decide +kernel
  have hplaces : ∀ asked place, movedDirectory.bundle.locate asked = .ok place →
      place.isEmpty = false := movedDirectoryTable.isEmpty_place (by decide +kernel)
  obtain ⟨-, -, hmends, -⟩ := added_rules_only_mend r atticRules "project/models/a"
  obtain ⟨hkeeps, -, -, -⟩ := added_rules_only_mend r atticRules "project/models"
  obtain ⟨-, -, -, horder⟩ := added_rules_only_mend after [] "project/models/a"
  rcases hmends _ _ hmiss with ⟨hsame, -⟩ | ⟨-, -, -, -, -, -, -, -, -, hlog⟩
  · exact absurd hsame (by decide +kernel)
  · refine ⟨hmiss, by decide +kernel, hlog, ?_, by decide +kernel, ?_⟩
    · exact (hkeeps _ _ (by decide +kernel)).1
    · apply ((horder atticRules.reverse (by decide +kernel)).2 hplaces).2
      exact ⟨Path.ofText "/b/project/attic/models/a", by decide +kernel⟩

/-- A bundle that places a resource in the attic at the empty path. -/
def emptyPlaceTable : BundleTable where
  available := true
  hits := [("project/attic/models/a", ⟨[]⟩)]
  reasons := []

/-- Without its condition on the place the rule does not hold: a rule that leads
    to the empty path turns a failure into a broken precondition. -/
theorem empty_place_breaks_off :
    ¬ ∀ (r : Resolver) (rules : List Relocation) (resource named message : String),
      (r.resolve resource).outcome = .ok (.failed named message) →
        ((r.addingRules rules).resolve resource).outcome = .ok (.failed named message) ∨
          ∃ path, ((r.addingRules rules).resolve resource).outcome = .ok (.found named path) := by
  intro h
  let r : Resolver := { movedDirectory.withRules [] with bundle := emptyPlaceTable.bundle }
  have hbroken : ((r.addingRules atticRules).resolve "project/models/a").outcome =
      .error .emptyAbsolutePath := by decide +kernel
  rcases h r atticRules "project/models/a" "project/models/a" "no entry for 'project/models/a'"
    (by decide +kernel) with hsame | ⟨path, hfound⟩
  · rw [hbroken] at hsame
    cases hsame
  · rw [hbroken] at hfound
    cases hfound

end Resolver
end LayeredRoots
