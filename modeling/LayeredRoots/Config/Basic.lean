import LayeredRoots.Deprecation

/-! # Configuration of a resolver

    What a resolver looks for and in which order it looks.  Every field has a
    default, and the defaults describe the standard layout of a resource
    tree. -/

namespace LayeredRoots

/-- Where a resource root can come from. -/
inductive Source where
  /-- The directory named by the root variable. -/
  | rootVariable
  /-- The runtime bundle of the process. -/
  | bundle
  /-- The share directory next to the install marker. -/
  | installTree
  deriving DecidableEq, Repr

/-- The name of a source in configuration files. -/
def Source.key : Source → String
  | rootVariable => "env_var"
  | bundle => "bundle"
  | installTree => "install_tree"

/-- The name of a source in messages. -/
def Source.label : Source → String
  | rootVariable => "EnvVar"
  | bundle => "Bundle"
  | installTree => "InstallTree"

/-- A subtree of the namespace that moved: what used to lie at `subtree` is
    looked up at `target` followed by its old path. -/
structure Relocation where
  subtree : String
  target  : String
  deriving DecidableEq, Repr

namespace Relocation

/-- A subtree that moved below `attic/`. -/
def attic (subtree : String) : Relocation := ⟨subtree, "attic/"⟩

end Relocation

structure Config where
  /-- What every resource path starts with. -/
  namespacePrefix   : String
  /-- The variable that names a root. -/
  rootVariable      : String
  /-- The file that marks a directory as a root, relative to it. -/
  sentinel          : String
  /-- The root of an install tree, relative to the install marker. -/
  installShare      : String
  /-- The mapped library that serves as install marker. -/
  markerLibrary     : Option String
  /-- Whether the running program serves as install marker. -/
  executableMarker  : Bool
  /-- Subtrees of the bundle that moved, in the order they are tried. -/
  relocations       : List Relocation
  warnPolicy        : WarnPolicy
  /-- The sources of roots, in the order they are tried. -/
  candidateOrder    : List Source
  deriving DecidableEq, Repr

namespace Config

/-- The standard layout. -/
def standard : Config where
  namespacePrefix  := "project/"
  rootVariable     := "PROJECT_RESOURCE_ROOT"
  sentinel         := "project/.resource-root-sentinel"
  installShare     := "../share"
  markerLibrary    := none
  executableMarker := false
  relocations      := []
  warnPolicy       := .once
  candidateOrder   := [.rootVariable, .bundle, .installTree]

/-! ### Building a configuration in steps -/

/-- Adds a relocation behind the others. -/
def withRelocation (c : Config) (r : Relocation) : Config :=
  { c with relocations := c.relocations ++ [r] }

def withCandidateOrder (c : Config) (order : List Source) : Config :=
  { c with candidateOrder := order }

def withWarnPolicy (c : Config) (policy : WarnPolicy) : Config :=
  { c with warnPolicy := policy }

/-- One step of building a configuration. -/
inductive Step where
  | addRelocation (r : Relocation)
  | setOrder (order : List Source)
  | setPolicy (policy : WarnPolicy)
  deriving DecidableEq, Repr

def Step.apply (c : Config) : Step → Config
  | addRelocation r => c.withRelocation r
  | setOrder order => c.withCandidateOrder order
  | setPolicy policy => c.withWarnPolicy policy

/-- The standard layout after a row of steps. -/
def build (steps : List Step) : Config := steps.foldl Step.apply standard

end Config
end LayeredRoots
