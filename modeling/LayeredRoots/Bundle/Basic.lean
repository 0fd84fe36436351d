import LayeredRoots.Path.Basic

/-! # Runtime bundles

    A bundle maps the paths of resources straight to absolute paths, or says
    why it has none.  A process may have no bundle at all. -/

namespace LayeredRoots

structure Bundle where
  /-- Whether there is a bundle to ask. -/
  available : Bool
  /-- Where a resource is, or why it is nowhere. -/
  locate    : String → Except String Path

/-- The bundle of a process that has none. -/
def Bundle.absent : Bundle where
  available := false
  locate resource := .error s!"No runtime bundle is available to locate '{resource}'"

end LayeredRoots
