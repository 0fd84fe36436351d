import LayeredRoots.Bundle.Table
import LayeredRoots.Proofs.Path.Prefixes
import LayeredRoots.Proofs.Search.Precedence

/-! # Where a bundle is asked for moved resources

    A resource that the bundle misses may lie in a subtree that moved.  The rules
    whose subtree the resource lies in say where to, and the bundle is asked for
    these places in turn, until it has one.

    * `firstOf?_eq`: what comes out, and what is noted on the way.
    * `firstOf?_of_tried`: the places that are **tried** decide the outcome.
    * `mem_tried_iff`: each of them does, and no other place plays a part.
    * `captures_iff`: **which rules** apply to a resource. -/

namespace LayeredRoots

namespace Bundle

/-! ### Asking in turn -/

/-- Whether the bundle misses a resource. -/
def misses (b : Bundle) (resource : String) : Bool := (b.locate resource).toOption.isNone

/-- What the bundle says about a resource that it misses. -/
def reason (b : Bundle) (resource : String) : String :=
  match b.locate resource with
  | .ok _ => ""
  | .error reason => reason

/-- The places up to the first that the bundle has, and this one. -/
def tried (b : Bundle) (places : List String) : List String :=
  places.takeWhile b.misses ++ (places.find? fun asked => !b.misses asked).toList

/-- The bundle with another answer for one resource. -/
def answering (b : Bundle) (asked : String) (answer : Except String Path) : Bundle where
  available := b.available
  locate resource := if resource = asked then answer else b.locate resource

section

variable {b : Bundle} {moved : String} {rest : List String}

theorem misses_of_ok {place : Path} (h : b.locate moved = .ok place) : b.misses moved = false := by
  unfold misses
  rw [h]
  rfl

theorem misses_of_error {why : String} (h : b.locate moved = .error why) :
    b.misses moved = true := by
  unfold misses
  rw [h]
  rfl

theorem reason_of_error {why : String} (h : b.locate moved = .error why) : b.reason moved = why := by
  unfold reason
  rw [h]

theorem tried_of_hit {place : Path} (h : b.locate moved = .ok place) :
    b.tried (moved :: rest) = [moved] := by
  simp [tried, misses_of_ok h]

theorem tried_of_miss {why : String} (h : b.locate moved = .error why) :
    b.tried (moved :: rest) = moved :: b.tried rest := by
  simp [tried, misses_of_error h]

theorem firstOf?_of_hit {place : Path} (h : b.locate moved = .ok place) (resource : String) :
    b.firstOf? resource (moved :: rest) = (some place, []) := by
  rw [firstOf?, h]

theorem firstOf?_of_miss {why : String} (h : b.locate moved = .error why) (resource : String) :
    b.firstOf? resource (moved :: rest) = ((b.firstOf? resource rest).1,
      .relocationMissed resource moved why :: (b.firstOf? resource rest).2) := by
  rw [firstOf?, h]

end

/-- The first place that the bundle has comes out, and every place before it is
    noted as missed, in order. -/
theorem firstOf?_eq (b : Bundle) (resource : String) (places : List String) :
    b.firstOf? resource places =
      (places.findSome? fun asked => (b.locate asked).toOption,
        (places.takeWhile b.misses).map fun asked =>
          .relocationMissed resource asked (b.reason asked)) := by
  refine Prod.ext (b.fst_firstOf? resource places) ?_
  induction places with
  | nil => rfl
  | cons moved rest ih =>
    cases hplace : b.locate moved with
    | ok place =>
      rw [firstOf?_of_hit hplace, List.takeWhile_cons, misses_of_ok hplace]
      rfl
    | error why =>
      rw [firstOf?_of_miss hplace, ih, List.takeWhile_cons, misses_of_error hplace, if_pos rfl,
        List.map_cons, reason_of_error hplace]

/-- Bundles that answer alike at the places that are tried come to the same. -/
theorem firstOf?_of_tried {b other : Bundle} {places : List String}
    (h : ∀ asked ∈ b.tried places, other.locate asked = b.locate asked) (resource : String) :
    other.firstOf? resource places = b.firstOf? resource places := by
  induction places with
  | nil => rfl
  | cons moved rest ih =>
    cases hplace : b.locate moved with
    | ok place =>
      rw [tried_of_hit hplace] at h
      have hother : other.locate moved = .ok place := (h moved List.mem_cons_self).trans hplace
      rw [firstOf?_of_hit hplace, firstOf?_of_hit hother]
    | error why =>
      rw [tried_of_miss hplace] at h
      have hother : other.locate moved = .error why := (h moved List.mem_cons_self).trans hplace
      rw [firstOf?_of_miss hplace, firstOf?_of_miss hother,
        ih fun asked hasked => h asked (List.mem_cons_of_mem _ hasked)]

/-- Another answer at a place that is tried shows: a hit that becomes a miss is
    noted, and after a miss that becomes a hit nothing more is. -/
theorem exists_answer_of_tried {b : Bundle} {places : List String} {asked : String}
    (h : asked ∈ b.tried places) (resource : String) :
    ∃ answer, (b.answering asked answer).firstOf? resource places ≠ b.firstOf? resource places := by
  induction places with
  | nil => cases h
  | cons moved rest ih =>
    cases hplace : b.locate moved with
    | ok place =>
      rw [tried_of_hit hplace, List.mem_singleton] at h
      refine ⟨.error "", ?_⟩
      have hother : (b.answering asked (.error "")).locate moved = .error "" := if_pos h.symm
      rw [firstOf?_of_hit hplace, firstOf?_of_miss hother]
      simp
    | error why =>
      rw [tried_of_miss hplace] at h
      by_cases hsame : moved = asked
      · refine ⟨.ok ⟨[]⟩, ?_⟩
        have hother : (b.answering asked (.ok ⟨[]⟩)).locate moved = .ok ⟨[]⟩ := if_pos hsame
        rw [firstOf?_of_miss hplace, firstOf?_of_hit hother]
        simp
      · have hlater : asked ∈ b.tried rest := (List.mem_cons.1 h).resolve_left (Ne.symm hsame)
        obtain ⟨answer, hanswer⟩ := ih hlater
        refine ⟨answer, ?_⟩
        have hother : (b.answering asked answer).locate moved = .error why :=
          (if_neg hsame).trans hplace
        rw [firstOf?_of_miss hplace, firstOf?_of_miss hother]
        intro heq
        apply hanswer
        rw [Prod.mk.injEq, List.cons.injEq] at heq
        exact Prod.ext heq.1 heq.2.2

/-- **Tried places.**  The outcome depends on the answers at the places that are
    tried, on each of them, and on no others. -/
theorem mem_tried_iff {b : Bundle} {places : List String} {asked : String} (resource : String) :
    asked ∈ b.tried places ↔
      ∃ answer, (b.answering asked answer).firstOf? resource places ≠
        b.firstOf? resource places := by
  constructor
  · intro h
    exact exists_answer_of_tried h resource
  · intro h
    obtain ⟨answer, hanswer⟩ := h
    by_contra huntried
    apply hanswer
    apply firstOf?_of_tried
    intro place hplace
    have hne : place ≠ asked := fun heq => huntried (heq ▸ hplace)
    exact if_neg hne

end Bundle

/-! ### Places that a resource moved to -/

/-- What follows a text at the start of another is the rest of it. -/
theorem Text.dropPrefix?_eq_some_iff {start s rest : String} :
    Text.dropPrefix? start s = some rest ↔ s = start ++ rest := by
  have hrest (t : String) : String.ofList ((start ++ t).toList.drop start.toList.length) = t := by
    rw [String.toList_append, List.drop_left, String.ofList_toList]
  unfold Text.dropPrefix?
  constructor
  · intro h
    split at h
    · next hstart =>
      obtain ⟨t, ht⟩ := Text.hasPrefix_iff.1 hstart
      rw [ht, hrest, Option.some_inj] at h
      rw [ht, h]
    · cases h
  · intro h
    rw [if_pos (Text.hasPrefix_iff.2 ⟨rest, h⟩), h, hrest]

/-- Moved resources stay below the namespace. -/
theorem Relocation.hasPrefix_moved (rule : Relocation) (namespacePrefix suffix : String) :
    Text.hasPrefix namespacePrefix (rule.moved namespacePrefix suffix) = true := by
  refine Text.hasPrefix_iff.2 ⟨rule.target ++ suffix, ?_⟩
  rw [Relocation.moved, String.append_assoc]

namespace Bundle

/-- The places of a resource in the namespace, one for each rule that captures
    it. -/
theorem movedPaths_append (namespacePrefix suffix : String) (rules : List Relocation) :
    movedPaths namespacePrefix rules (namespacePrefix ++ suffix) =
      (rules.filter (·.captures suffix)).map (·.moved namespacePrefix suffix) := by
  unfold movedPaths
  rw [Text.dropPrefix?_eq_some_iff.2 rfl]

/-- Only resources in the namespace have such places. -/
theorem mem_movedPaths_iff {namespacePrefix resource moved : String} {rules : List Relocation} :
    moved ∈ movedPaths namespacePrefix rules resource ↔
      ∃ rule ∈ rules, ∃ suffix, resource = namespacePrefix ++ suffix ∧
        rule.captures suffix = true ∧ moved = rule.moved namespacePrefix suffix := by
  constructor
  · intro h
    cases hsuffix : Text.dropPrefix? namespacePrefix resource with
    | none => simp [movedPaths, hsuffix] at h
    | some suffix =>
      obtain rfl := Text.dropPrefix?_eq_some_iff.1 hsuffix
      rw [movedPaths_append] at h
      obtain ⟨rule, hrule, hmoved⟩ := List.mem_map.1 h
      obtain ⟨hmem, hcaptures⟩ := List.mem_filter.1 hrule
      exact ⟨rule, hmem, suffix, rfl, hcaptures, hmoved.symm⟩
  · intro h
    obtain ⟨rule, hmem, suffix, rfl, hcaptures, rfl⟩ := h
    rw [movedPaths_append]
    exact List.mem_map.2 ⟨rule, List.mem_filter.2 ⟨hmem, hcaptures⟩, rfl⟩

theorem hasPrefix_of_mem_movedPaths {namespacePrefix resource moved : String}
    {rules : List Relocation} (h : moved ∈ movedPaths namespacePrefix rules resource) :
    Text.hasPrefix namespacePrefix moved = true := by
  obtain ⟨rule, -, suffix, -, -, rfl⟩ := mem_movedPaths_iff.1 h
  exact rule.hasPrefix_moved namespacePrefix suffix

/-- More rules have their places behind those of the others. -/
theorem movedPaths_append_rules (namespacePrefix resource : String)
    (rules more : List Relocation) :
    movedPaths namespacePrefix (rules ++ more) resource =
      movedPaths namespacePrefix rules resource ++ movedPaths namespacePrefix more resource := by
  unfold movedPaths
  cases Text.dropPrefix? namespacePrefix resource with
  | none => rfl
  | some suffix =>
    dsimp only
    rw [List.filter_append, List.map_append]

end Bundle

/-! ### Rules that apply -/

namespace Relocation

variable {subtree ending : String} (hending : ending = "" ∨ ending = "/") (target : String)
include hending

/-- A separator at the end of the subtree makes no difference. -/
theorem captures_append_ending (hsubtree : subtree ≠ "") (suffix : String) :
    captures ⟨subtree ++ ending, target⟩ suffix = captures ⟨subtree, target⟩ suffix := by
  rcases hending with rfl | rfl
  · rw [String.append_empty]
  · unfold captures Path.startsWith
    rw [Path.components_ofText_append_slash hsubtree]

/-- **Captured resources** lie at the subtree, or below it behind a separator. -/
theorem captures_iff {suffix : String} (hsubtree : Text.Plain subtree)
    (hsuffix : Text.Plain suffix) :
    captures ⟨subtree ++ ending, target⟩ suffix = true ↔
      suffix = subtree ∨ ∃ rest, suffix = subtree ++ "/" ++ rest := by
  rw [captures_append_ending hending target (Text.ne_empty_of_plain hsubtree)]
  exact Path.startsWith_ofText_iff hsubtree hsuffix

end Relocation

namespace Bundle

/-- **Relocation.**  The bundle is asked for the new places of the rules that
    capture the resource, in the order of the rules, up to the first that it has,
    and this one comes out.  Every place before it is noted as missed.  Another
    answer at a place changes the outcome or the notes if and only if the place is
    one of those.

    A rule captures the resources at its subtree and below it, and none whose
    path goes on within the name that the subtree ends in. -/
theorem relocation_asks_in_order (b : Bundle) (namespacePrefix suffix : String)
    (rules : List Relocation) :
    let resource := namespacePrefix ++ suffix
    let places := (rules.filter fun rule =>
        (Path.ofText rule.subtree).components.isPrefixOf (Path.ofText suffix).components).map
      fun rule => namespacePrefix ++ rule.target ++ suffix
    (b.relocated? namespacePrefix rules resource =
      (places.findSome? fun asked => (b.locate asked).toOption,
        (places.takeWhile b.misses).map fun asked =>
          .relocationMissed resource asked (b.reason asked))) ∧
    (∀ other : Bundle, (∀ asked ∈ b.tried places, other.locate asked = b.locate asked) →
      other.relocated? namespacePrefix rules resource =
        b.relocated? namespacePrefix rules resource) ∧
    (∀ asked, asked ∈ b.tried places ↔
      ∃ answer, (b.answering asked answer).relocated? namespacePrefix rules resource ≠
        b.relocated? namespacePrefix rules resource) ∧
    ∀ subtree target ending, Text.Plain subtree → ending = "" ∨ ending = "/" →
      (Text.Plain suffix → (Relocation.captures ⟨subtree ++ ending, target⟩ suffix = true ↔
        suffix = subtree ∨ ∃ rest, suffix = subtree ++ "/" ++ rest)) ∧
      ∀ more rest, more ≠ "" → '/' ∉ more.toList → Text.Plain (subtree ++ more) →
        Relocation.captures ⟨subtree ++ ending, target⟩ (subtree ++ more ++ "/" ++ rest) =
          false := by
  intro resource places
  have hplaces : movedPaths namespacePrefix rules resource = places :=
    movedPaths_append namespacePrefix suffix rules
  have hrelocated (other : Bundle) : other.relocated? namespacePrefix rules resource =
      other.firstOf? resource places := by
    unfold relocated?
    rw [hplaces]
  refine ⟨?_, ?_, ?_, ?_⟩
  · rw [hrelocated]
    exact b.firstOf?_eq resource places
  · intro other hother
    rw [hrelocated, hrelocated]
    exact firstOf?_of_tried hother resource
  · intro asked
    rw [hrelocated, mem_tried_iff resource]
    simp only [hrelocated]
  · intro subtree target ending hsubtree hending
    refine ⟨Relocation.captures_iff hending target hsubtree, ?_⟩
    intro more rest hmore hslash hlong
    rw [Relocation.captures_append_ending hending target (Text.ne_empty_of_plain hsubtree)]
    exact Path.startsWith_partial_name hsubtree hlong hmore hslash rest

/-- Rules of which the first, the third and the last capture a model. -/
def modelRules : List Relocation :=
  [⟨"models/test/", "attic/"⟩, ⟨"models/te", "part/"⟩, ⟨"models", "old/"⟩,
    ⟨"models/test/a.txt", "late/"⟩]

/-- A bundle that has the model at the place of the third rule, and at that of
    the second, which does not apply. -/
def modelTable : BundleTable where
  available := true
  hits := [("project/old/models/test/a.txt", Path.ofText "/b/a.txt"),
    ("project/part/models/test/a.txt", Path.ofText "/b/part")]
  reasons := []

/-- The first rule misses, the third hits, and what the bundle says about the
    last is of no account. -/
theorem relocation_asks_in_order_thirdRule :
    let b := modelTable.bundle
    let late := b.answering "project/late/models/test/a.txt" (.ok ⟨[]⟩)
    (Text.Plain "models/test" ∧ Text.Plain "models/test/a.txt" ∧
      Text.Plain ("models/test" ++ "ing")) ∧
    b.relocated? "project/" modelRules "project/models/test/a.txt" =
      (some (Path.ofText "/b/a.txt"),
        [.relocationMissed "project/models/test/a.txt" "project/attic/models/test/a.txt"
          "no entry for 'project/attic/models/test/a.txt'"]) ∧
    late.relocated? "project/" modelRules "project/models/test/a.txt" =
      b.relocated? "project/" modelRules "project/models/test/a.txt" ∧
    Relocation.captures ⟨"models/test/", "attic/"⟩ "models/test/a.txt" = true ∧
    Relocation.captures ⟨"models/test/", "attic/"⟩ "models/testing/a.txt" = false := by
  intro b late
  have hplain : Text.Plain "models/test" ∧ Text.Plain "models/test/a.txt" ∧
      Text.Plain ("models/test" ++ "ing") := by decide +kernel
  obtain ⟨houtcome, hother, -, hcaptures⟩ :=
    relocation_asks_in_order b "project/" "models/test/a.txt" modelRules
  obtain ⟨hbelow, hbeside⟩ := hcaptures "models/test" "attic/" "/" hplain.1 (.inr rfl)
  refine ⟨hplain, houtcome.trans (by decide +kernel), hother late (by decide +kernel), ?_, ?_⟩
  · exact (hbelow hplain.2.1).2 (.inr ⟨"a.txt", by decide⟩)
  · exact hbeside "ing" "a.txt" (by decide) (by decide) hplain.2.2

end Bundle
end LayeredRoots
