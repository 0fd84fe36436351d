import LayeredRoots.Bundle.Fallback
import LayeredRoots.Resolver.Basic

/-! # Reports about roots

    Without looking for any resource a resolver can describe the root of each
    source: where it is, and whether a search would stop there. -/

namespace LayeredRoots

/-- The state of a root. -/
inductive RootStatus where
  /-- The source names no root. -/
  | unset
  /-- The source names a root that does not exist. -/
  | missing
  /-- The root exists and lacks the sentinel. -/
  | noSentinel
  /-- The root exists and carries the sentinel. -/
  | usable
  deriving DecidableEq, Repr

namespace RootStatus

/-- Whether a search would stop at the root. -/
def isPresent : RootStatus → Bool
  | noSentinel | usable => true
  | unset | missing => false

def display : RootStatus → String
  | unset => "unset"
  | missing => "missing"
  | noSentinel => "no sentinel"
  | usable => "usable"

end RootStatus

/-- What there is to say about the root of a source. -/
structure RootReport where
  source      : Source
  description : String
  root        : Option Path
  status      : RootStatus
  deriving DecidableEq, Repr

namespace RootReport

/-- The pieces of a report in one line of text. -/
def displayPieces (report : RootReport) : List String :=
  let root := match report.root with
    | some path => path.displayPieces
    | none => ["-"]
  report.description :: " = " :: root ++ [" (", report.status.display, ")"]

/-- A report in one line of text. -/
def display (report : RootReport) : String := String.join report.displayPieces

/-- Whether the report can be written as text throughout. -/
def isWritable (report : RootReport) : Bool :=
  report.root.all (·.text?.isSome)

end RootReport

namespace Resolver

/-- The state of a directory that serves as root. -/
def directoryStatus (r : Resolver) : Option Path → RootStatus
  | none => .unset
  | some root =>
    if !r.files.isDir root then .missing
    else if !r.files.isFile (root.joinText r.config.sentinel) then .noSentinel
    else .usable

def reportVariable (r : Resolver) : RootReport :=
  let root := r.variableRoot?
  ⟨.rootVariable, r.variableDescription, root, r.directoryStatus root⟩

def reportBundle (r : Resolver) : RootReport :=
  if !r.bundle.available then ⟨.bundle, bundleDescription, none, .unset⟩
  else
    match r.bundle.root r.config.sentinel with
    | .ok root => ⟨.bundle, bundleDescription, some root, .usable⟩
    | .error _ => ⟨.bundle, bundleDescription, none, .noSentinel⟩

def reportInstallTree (r : Resolver) : RootReport :=
  let root := r.installRoot?
  ⟨.installTree, markerDescription, root, r.directoryStatus root⟩

/-- The report about one source. -/
def report (r : Resolver) : Source → RootReport
  | .rootVariable => r.reportVariable
  | .bundle => r.reportBundle
  | .installTree => r.reportInstallTree

/-- The reports about all sources, in the order they are tried. -/
def candidates (r : Resolver) : List RootReport :=
  r.config.candidateOrder.map r.report

end Resolver
end LayeredRoots
