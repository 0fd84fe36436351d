import LayeredRoots.Config.Basic
import LayeredRoots.Json.Writer

/-! # Writing configurations

    A configuration is written as one object with all its members, in the order
    in which they are declared and without white space. -/

namespace LayeredRoots

/-- A relocation as JSON. -/
def Relocation.toJson (r : Relocation) : String :=
  Json.writeTexts [("prefix", r.subtree), ("relocated", r.target)]

namespace Config

/-- The members of a configuration with their written values. -/
def members (c : Config) : List (String × String) :=
  [("namespace_prefix", Json.quote c.namespacePrefix),
   ("env_var", Json.quote c.rootVariable),
   ("sentinel_relpath", Json.quote c.sentinel),
   ("install_share_relpath", Json.quote c.installShare),
   ("marker_library", (c.markerLibrary.map Json.quote).getD "null"),
   ("executable_marker", if c.executableMarker then "true" else "false"),
   ("relocations", Json.writeList (c.relocations.map Relocation.toJson)),
   ("warn_policy", Json.quote c.warnPolicy.key),
   ("candidate_order", Json.writeList (c.candidateOrder.map fun s => Json.quote s.key))]

/-- A configuration as JSON. -/
def toJson (c : Config) : String := Json.writeObject c.members

end Config
end LayeredRoots
