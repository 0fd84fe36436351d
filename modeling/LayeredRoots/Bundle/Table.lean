import LayeredRoots.Bundle.Basic

/-! # Bundles in memory

    A table says which resources a bundle has and what it says about others. -/

namespace LayeredRoots

structure BundleTable where
  available : Bool
  hits      : List (String × Path)
  reasons   : List (String × String)
  deriving DecidableEq, Repr

/-- The bundle that answers from a table. -/
def BundleTable.bundle (t : BundleTable) : Bundle where
  available := t.available
  locate resource :=
    match t.hits.lookup resource with
    | some place => .ok place
    | none => .error ((t.reasons.lookup resource).getD s!"no entry for '{resource}'")

end LayeredRoots
