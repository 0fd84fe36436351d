import LayeredRoots.Config.Basic
import LayeredRoots.Json.Reader

/-! # Configurations in JSON

    A configuration is a record over the standard layout, so any member may be
    left out.  A relocation is a record that must be whole. -/

namespace LayeredRoots

open Json

/-- Puts a value that was read into a record. -/
def Json.Reader.into {α β : Type} (read : Reader β) (put : α → β → α) (record : α) : Reader α :=
  fun ts => (read ts).map fun (b, rest) => (put record b, rest)

/-- The names of the policies. -/
def WarnPolicy.names : List (String × WarnPolicy) :=
  [.once, .always].map fun p => (p.key, p)

/-- The names of the sources. -/
def Source.names : List (String × Source) :=
  [.rootVariable, .bundle, .installTree].map fun s => (s.key, s)

/-- How a relocation is written. -/
def Relocation.layout : Layout Relocation where
  title := "struct RelocationRule"
  fields :=
    [("prefix", readText.into fun r s => { r with subtree := s }),
     ("relocated", readText.into fun r s => { r with target := s })]

/-- How a configuration is written. -/
def Config.layout : Layout Config where
  title := "struct ResolverConfig"
  fields :=
    [("namespace_prefix", readText.into fun c s => { c with namespacePrefix := s }),
     ("env_var", readText.into fun c s => { c with rootVariable := s }),
     ("sentinel_relpath", readText.into fun c s => { c with sentinel := s }),
     ("install_share_relpath", readText.into fun c s => { c with installShare := s }),
     ("marker_library", readOptionalText.into fun c s => { c with markerLibrary := s }),
     ("executable_marker", readBool.into fun c b => { c with executableMarker := b }),
     ("relocations", (readList (readWhole Relocation.layout ⟨"", ""⟩)).into
       fun c rs => { c with relocations := rs }),
     ("warn_policy", (readName WarnPolicy.names).into fun c p => { c with warnPolicy := p }),
     ("candidate_order", (readList (readName Source.names)).into
       fun c order => { c with candidateOrder := order })]

/-- The configuration written by a document. -/
def Config.ofJson (text : String) : Except Fault Config :=
  readDocument (readOver Config.layout Config.standard) text

end LayeredRoots
