import LayeredRoots.Proofs.Path.Endings
import Mathlib.Data.Set.List

/-! # Paths on paper

    Without a look at any files a path can only be resolved by its text: `.` is
    no step, and `..` takes back the name in front of it.  Where no name is left
    it stays, except behind the root, which nothing is above.

    Steps come to this whatever they are taken from: they go up so many times,
    and from there down some names (`exists_effect`).  One path lies below
    another if it is resolved to the other and names behind it.

    * `exists_names_append_iff`: **which steps lead below** where they are taken
      from: those that come down by the names that they went up, and then
      further. -/

namespace LayeredRoots

namespace Component

/-! ### Resolving -/

/-- One more step behind the steps that are left so far, last first. -/
def advance (trail : List Component) : Component → List Component
  | .here => trail
  | .up =>
    match trail with
    | .name _ :: above => above
    | .root :: above => .root :: above
    | _ => .up :: trail
  | step => step :: trail

/-- What is left of a row of steps. -/
def resolve (steps : List Component) : List Component := (steps.foldl advance []).reverse

/-- Going up some times. -/
def climb (n : Nat) (trail : List Component) : List Component :=
  (List.replicate n up).foldl advance trail

theorem climb_succ (n : Nat) (trail : List Component) :
    climb (n + 1) trail = advance (climb n trail) up := by
  rw [climb, List.replicate_succ', List.foldl_append]
  rfl

/-- Going up takes back names first.  After that nothing is left to take. -/
theorem climb_names (n : Nat) (names : List Bytes) (ups : Nat) :
    climb n (names.map name ++ List.replicate ups up) =
      (names.drop n).map name ++ List.replicate (ups + (n - names.length)) up := by
  induction n with
  | zero => simp [climb]
  | succ n ih =>
    rw [climb_succ, ih]
    by_cases hn : n < names.length
    · have hnone : n - names.length = 0 := by omega
      have hstill : n + 1 - names.length = 0 := by omega
      rw [List.drop_eq_getElem_cons hn, hnone, hstill]
      rfl
    · have hups : ups + (n + 1 - names.length) = ups + (n - names.length) + 1 := by omega
      rw [List.drop_eq_nil_of_le (by omega), List.drop_eq_nil_of_le (by omega), hups,
        List.replicate_succ]
      cases ups + (n - names.length) <;> rfl

/-- Steps that go up so many times and then down some names, whatever they are
    taken from. -/
def HasEffect (steps : List Component) (n : Nat) (names : List Bytes) : Prop :=
  ∀ trail, steps.foldl advance trail = names.reverse.map name ++ climb n trail

/-- **The effect of steps.** -/
theorem exists_effect {steps : List Component} (h : root ∉ steps) :
    ∃ n names, HasEffect steps n names := by
  -- a step at the end acts on what the others come to
  induction steps using List.reverseRecOn with
  | nil => exact ⟨0, [], fun _ => rfl⟩
  | append_singleton steps last ih =>
    obtain ⟨n, names, heffect⟩ := ih fun hmem => h (List.mem_append_left _ hmem)
    have hlast : ∀ trail, (steps ++ [last]).foldl advance trail =
        advance (names.reverse.map name ++ climb n trail) last := by
      intro trail
      rw [List.foldl_append, heffect]
      rfl
    cases last with
    | root => simp at h
    | here => exact ⟨n, names, hlast⟩
    | name bytes =>
      refine ⟨n, names ++ [bytes], fun trail => (hlast trail).trans ?_⟩
      simp [advance]
    | up =>
      rcases List.eq_nil_or_concat' names with rfl | ⟨above, bytes, rfl⟩
      · exact ⟨n + 1, [], fun trail => (hlast trail).trans (climb_succ n trail).symm⟩
      · refine ⟨n, above, fun trail => (hlast trail).trans ?_⟩
        simp [advance]

/-- The effect of plain names. -/
theorem hasEffect_names (names : List Bytes) : HasEffect (names.map name) 0 names := by
  intro trail
  induction names generalizing trail with
  | nil => rfl
  | cons bytes rest ih =>
    rw [List.map_cons, List.foldl_cons, ih]
    simp [advance, climb]

section effects

variable {place steps : List Component} {ups n : Nat} {names below : List Bytes}

/-- Steps that are taken from nothing are left as their effect. -/
theorem HasEffect.resolve (h : HasEffect steps n names) :
    resolve steps = List.replicate n up ++ names.map name := by
  have hclimb : climb n [] = List.replicate n up := by
    simpa using climb_names n [] 0
  rw [Component.resolve, h, hclimb]
  simp

/-- Steps that are taken from a place take back names of it. -/
theorem HasEffect.resolve_append (hplace : HasEffect place ups names)
    (hsteps : HasEffect steps n below) :
    Component.resolve (place ++ steps) =
      List.replicate (ups + (n - names.length)) up ++
        (names.take (names.length - n) ++ below).map name := by
  have hclimb : climb ups [] = List.replicate ups up := by
    simpa using climb_names ups [] 0
  have hkept : (names.reverse.drop n).reverse = names.take (names.length - n) := by
    rw [List.reverse_drop, List.reverse_reverse, List.length_reverse]
  rw [Component.resolve, List.foldl_append, hplace, hsteps, hclimb, climb_names, ← hkept]
  simp

end effects

/-! ### Leading below -/

/-- Steps up and names can be told apart. -/
theorem replicate_append_names_inj {n m : Nat} {names others : List Bytes} :
    List.replicate n up ++ names.map name = List.replicate m up ++ others.map name ↔
      n = m ∧ names = others := by
  have hinj : Function.Injective Component.name := fun _ _ h => name.inj h
  constructor
  · intro h
    induction n generalizing m with
    | zero =>
      cases m with
      | zero => exact ⟨rfl, (List.map_injective_iff.2 hinj) (by simpa using h)⟩
      | succ m => cases names <;> simp [List.replicate_succ] at h
    | succ n ih =>
      cases m with
      | zero => cases others <;> simp [List.replicate_succ] at h
      | succ m =>
        simp only [List.replicate_succ, List.cons_append, List.cons.injEq, true_and] at h
        obtain ⟨rfl, hnames⟩ := ih h
        exact ⟨rfl, hnames⟩
  · rintro ⟨rfl, rfl⟩
    rfl

/-- Names at the end of steps up and names are among those names. -/
theorem exists_names_of_append {outer : List Component} {back names : List Bytes} {ups : Nat}
    (h : List.replicate ups up ++ names.map name = outer ++ back.map name) :
    ∃ front, names = front ++ back := by
  have hinj : Function.Injective Component.name := fun _ _ h => name.inj h
  rcases List.append_eq_append_iff.1 h with ⟨more, houter, hnames⟩ | ⟨more, hups, hback⟩
  · obtain ⟨front, rest, rfl, -, hrest⟩ := List.map_eq_append_iff.1 hnames
    exact ⟨front, by rw [(List.map_injective_iff.2 hinj) hrest]⟩
  · -- a step up is no name
    cases more with
    | nil => exact ⟨[], ((List.map_injective_iff.2 hinj) hback).symm⟩
    | cons step rest =>
      have hup : step = up := by
        have hmem : step ∈ List.replicate ups up := by simp [hups]
        exact (List.mem_replicate.1 hmem).2
      cases back <;> simp [hup] at hback

/-- Steps that go up from a place and come down again by the same names, and
    then further. -/
def ReturnsBelow (place steps : List Component) : Prop :=
  ∃ (outer : List Component) (back more : List Bytes), more ≠ [] ∧
    resolve place = outer ++ back.map name ∧
    resolve steps = List.replicate back.length up ++ (back ++ more).map name

/-- **Which steps lead below** the place that they are taken from. -/
theorem exists_names_append_iff {place steps : List Component} (hplace : root ∉ place)
    (hsteps : root ∉ steps) :
    (∃ more : List Bytes, more ≠ [] ∧
      resolve (place ++ steps) = resolve place ++ more.map name) ↔ ReturnsBelow place steps := by
  obtain ⟨ups, names, hnames⟩ := exists_effect hplace
  obtain ⟨n, below, hbelow⟩ := exists_effect hsteps
  rw [hnames.resolve_append hbelow, ReturnsBelow, hnames.resolve, hbelow.resolve]
  constructor
  · rintro ⟨more, hmore, heq⟩
    rw [List.append_assoc, ← List.map_append, replicate_append_names_inj] at heq
    obtain ⟨hups, hnamed⟩ := heq
    -- the names that were taken back are the last ones of the place
    obtain ⟨front, back, rfl, rfl⟩ :
        ∃ front back : List Bytes, names = front ++ back ∧ back.length = n := by
      refine ⟨_, _, (List.take_append_drop (names.length - n) names).symm, ?_⟩
      rw [List.length_drop]
      omega
    have hfront : (front ++ back).take ((front ++ back).length - back.length) = front := by simp
    rw [hfront, List.append_assoc] at hnamed
    refine ⟨List.replicate ups up ++ front.map name, back, more, hmore, by simp, ?_⟩
    rw [List.append_cancel_left hnamed]
  · rintro ⟨outer, back, more, hmore, houter, hdown⟩
    obtain ⟨front, rfl⟩ := exists_names_of_append houter
    obtain ⟨rfl, rfl⟩ := replicate_append_names_inj.1 hdown
    have hnone : back.length - (front ++ back).length = 0 := by simp
    have hfront : (front ++ back).take ((front ++ back).length - back.length) = front := by simp
    refine ⟨more, hmore, ?_⟩
    rw [hnone, hfront, List.append_assoc, ← List.map_append, List.append_assoc]
    rfl

/-- Names always lead below. -/
theorem resolve_append_names {place : List Component} (hplace : root ∉ place)
    (names : List Bytes) : resolve (place ++ names.map name) = resolve place ++ names.map name := by
  obtain ⟨ups, above, habove⟩ := exists_effect hplace
  rw [habove.resolve_append (hasEffect_names names), habove.resolve]
  simp

end Component

namespace Path

/-- What is left of the steps of a path. -/
def resolved (p : Path) : List Component := Component.resolve p.components

/-- A path that is resolved to another one and names behind it. -/
def LiesBelow (p q : Path) : Prop :=
  ∃ names : List Bytes, names ≠ [] ∧ p.resolved = q.resolved ++ names.map .name

example : (ofText "a/./b/../../../c").resolved = [.up, .name [99]] ∧
    (ofText "/../a").resolved = [.root, .name [97]] := by decide +kernel

/-- Steps without `..` are names. -/
theorem exists_names_of_steps {p : Path} (h : Component.up ∉ p.steps) :
    ∃ names : List Bytes, p.steps = names.map .name := by
  have hnamed : p.steps ∈ Set.range (List.map Component.name) := by
    rw [Set.range_list_map]
    intro step hstep
    obtain ⟨bytes, rfl⟩ := exists_name_of_mem_steps hstep (by rintro rfl; exact h hstep)
    exact ⟨bytes, rfl⟩
  obtain ⟨names, hnames⟩ := hnamed
  exact ⟨names, hnames.symm⟩

/-- A leading `.` is nothing to resolve. -/
theorem resolved_eq_resolve_steps {p : Path} (h : p.isAbsolute = false) :
    p.resolved = Component.resolve p.steps := by
  by_cases hhere : p.components.head? = some .here
  · rw [resolved, components_of_here hhere]
    rfl
  · rw [resolved, components_eq_steps h hhere]

theorem root_not_mem_steps (p : Path) : Component.root ∉ p.steps :=
  Component.root_not_mem_filterMap p.pieces

/-- A path that lies below another has a step. -/
theorem LiesBelow.steps_ne_nil {p q : Path} (h : p.LiesBelow q) (hp : p.isAbsolute = false) :
    p.steps ≠ [] := by
  intro hnil
  obtain ⟨names, hnames, hresolved⟩ := h
  rw [resolved_eq_resolve_steps hp, hnil] at hresolved
  have hnone : q.resolved ++ names.map Component.name = [] := hresolved.symm
  exact hnames (List.map_eq_nil_iff.1 (List.append_eq_nil_iff.1 hnone).2)

end Path
end LayeredRoots
