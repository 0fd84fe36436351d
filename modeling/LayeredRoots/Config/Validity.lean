import LayeredRoots.Config.Basic
import LayeredRoots.Path.Basic
import LayeredRoots.Text.Blank

/-! # Valid configurations

    A configuration has a flaw for each condition it violates.  The conditions
    have an order, and `flaw?` reports the first that is violated; a
    configuration without flaws is valid. -/

namespace LayeredRoots

/-- Whether a text starts with another. -/
def Text.hasPrefix (start s : String) : Bool := start.toList.isPrefixOf s.toList

/-- Whether a text ends in a character. -/
def Text.endsIn (c : Char) (s : String) : Bool := s.toList.getLast? = some c

namespace Config

/-- What is wrong with a configuration. -/
inductive Flaw where
  | namespacePrefix (given : String)
  | blankVariable
  | sentinelOutside (namespacePrefix given : String)
  | noInstallShare
  | namelessLibrary
  | noSource
  | repeatedSource (source : Source)
  | relocatesNothing
  | relocationTarget (subtree given : String)
  deriving DecidableEq, Repr

/-- The text of a flaw. -/
def Flaw.reason : Flaw → String
  | namespacePrefix given =>
    s!"namespace_prefix must be a relative directory ending in '/', got '{given}'"
  | blankVariable => "env_var must not be empty"
  | sentinelOutside start given =>
    s!"sentinel_relpath must be a relative path under '{start}', got '{given}'"
  | noInstallShare => "install_share_relpath must not be empty"
  | namelessLibrary => "marker_library must not be empty when set"
  | noSource => "candidate_order must name at least one source"
  | repeatedSource source => s!"candidate_order lists {source.label} more than once"
  | relocatesNothing => "relocation prefix must not be empty"
  | relocationTarget subtree given =>
    s!"relocation target for '{subtree}' must end in '/', got '{given}'"

def Flaw.message (f : Flaw) : String := "Invalid resolver config: " ++ f.reason

/-- The namespace is a relative directory. -/
def prefixFlaw? (c : Config) : Option Flaw :=
  let start := c.namespacePrefix
  if start.isEmpty || !Text.endsIn '/' start || Text.hasPrefix "/" start then
    some (.namespacePrefix start)
  else none

/-- The root variable has a name. -/
def variableFlaw? (c : Config) : Option Flaw :=
  if Text.isBlank c.rootVariable then some .blankVariable else none

/-- The sentinel lies in the namespace. -/
def sentinelFlaw? (c : Config) : Option Flaw :=
  if c.sentinel.isEmpty || (Path.ofText c.sentinel).isAbsolute ||
      !Text.hasPrefix c.namespacePrefix c.sentinel then
    some (.sentinelOutside c.namespacePrefix c.sentinel)
  else none

def installFlaw? (c : Config) : Option Flaw :=
  if c.installShare.isEmpty then some .noInstallShare else none

def libraryFlaw? (c : Config) : Option Flaw :=
  if c.markerLibrary = some "" then some .namelessLibrary else none

/-- The first element that occurs a second time, where `seen` came before. -/
def firstRepeat? (seen : List Source) : List Source → Option Source
  | [] => none
  | s :: rest => if s ∈ seen then some s else firstRepeat? (s :: seen) rest

/-- There is a source, and none is named twice. -/
def orderFlaw? (c : Config) : Option Flaw :=
  if c.candidateOrder.isEmpty then some .noSource
  else (firstRepeat? [] c.candidateOrder).map .repeatedSource

/-- A relocation moves something into a directory. -/
def relocationFlaw? (r : Relocation) : Option Flaw :=
  if r.subtree.isEmpty then some .relocatesNothing
  else if r.target.isEmpty || !Text.endsIn '/' r.target then
    some (.relocationTarget r.subtree r.target)
  else none

/-- The first condition that is violated. -/
def flaw? (c : Config) : Option Flaw :=
  c.prefixFlaw? <|> c.variableFlaw? <|> c.sentinelFlaw? <|> c.installFlaw? <|>
    c.libraryFlaw? <|> c.orderFlaw? <|> c.relocations.findSome? relocationFlaw?

/-- A configuration that violates no condition. -/
def validate (c : Config) : Except Flaw Config :=
  match c.flaw? with
  | some f => .error f
  | none => .ok c

example : standard.flaw? = none := by decide +kernel

end Config
end LayeredRoots
