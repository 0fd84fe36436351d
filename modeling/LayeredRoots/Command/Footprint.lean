import LayeredRoots.Command.Program

/-! # What a run looks at

    The paths that a run of the program may ask about, told from what the
    process is known to see so far.  Once the variables file and the files that
    variables and options name have been seen, nothing is missing.

    The lists may hold more than a run asks about, never less: they follow a
    search as if every file existed. -/

namespace LayeredRoots

/-- The resources that a search asks a root or a bundle for. -/
def Config.asked (c : Config) (resources : List String) : List String :=
  c.sentinel :: resources.flatMap fun resource =>
    resource :: Bundle.movedPaths c.namespacePrefix c.relocations resource

/-- Where runfiles have resources. -/
def Runfiles.places (resources : List String) : Runfiles → List Path
  | .manifest _ entries => resources.filterMap entries.get?
  | .directory dir => resources.map dir.joinText

/-- Files that are everywhere. -/
def Files.everywhere : Files := ⟨fun _ => true, fun _ => true⟩

namespace Machine

/-- The roots that a search may come to. -/
def roots (m : Machine) (c : Config) : List Path :=
  let runfiles := m.runfiles?.1
  let r := m.resolverOver runfiles c
  let bundleRoot := ((Runfiles.bundleOf Files.everywhere runfiles).root c.sentinel).toOption
  [r.variableRoot?, r.installRoot?, bundleRoot].filterMap id

/-- The paths that a search for resources may ask about. -/
def searchPlaces (m : Machine) (c : Config) (resources : List String) : List Path :=
  let asked := c.asked resources
  let bundled := match m.runfiles?.1 with
    | some runfiles => runfiles.places asked
    | none => []
  (m.roots c).flatMap (fun root => root :: asked.map root.joinText) ++ bundled

/-- The paths that variables name runfiles with. -/
def runfilesPlaces (m : Machine) : List Path :=
  [Runfiles.manifestVariable, Runfiles.directoryVariable].filterMap fun name =>
    (m.environment.getNonEmpty name).map Path.mk

end Machine

namespace Command

/-- The resources that a task is about. -/
def Task.resources : Task → List String
  | find resources _ => resources
  | roots => []

namespace Program

/-- The paths whose contents a run may ask for once its variables file is
    loaded. -/
def namedPlaces (m : Machine) (words : List Bytes) : List Path :=
  let config := match commandLine m words with
    | .ok line => line.config.toList
    | .error _ => []
  m.runfilesPlaces ++ config

/-- The paths whose contents a run may ask for. -/
def contentPlaces (m : Machine) (words : List Bytes) : List Path :=
  let named := match prepared m with
    | .ok m => namedPlaces m words
    | .error _ => []
  EnvFile.places m.workingDir ++ named

/-- The other paths that a run may ask about. -/
def otherPlaces (m : Machine) (words : List Bytes) : List Path :=
  match prepared m with
  | .error _ => []
  | .ok m =>
    match commandLine m words with
    | .error _ => []
    | .ok line =>
      match configuration m.storage line.config with
      | .error _ => []
      | .ok c => m.searchPlaces c (line.task.elim [] Task.resources)

end Program
end Command
end LayeredRoots
