import LayeredRoots.Storage.Disk

/-! # Snapshots

    A snapshot holds what was seen at some paths.  To whoever only asks about
    these paths it is as good as the files themselves; at every other path it
    shows nothing. -/

namespace LayeredRoots

structure Snapshot where
  sights : List (Path × Except ReadFault Entry)

namespace Snapshot

def empty : Snapshot := ⟨[]⟩

/-- What was seen at a path. -/
def find (s : Snapshot) (p : Path) : Except ReadFault Entry :=
  (s.sights.lookup p).getD (.error .notFound)

/-- The snapshot as files. -/
def view (s : Snapshot) : Storage := Storage.ofEntries s.find

end Snapshot
end LayeredRoots
