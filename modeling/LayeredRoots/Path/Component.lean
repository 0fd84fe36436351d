import LayeredRoots.Path.Basic

/-! # Components of a path

    Repeated separators, separators at the end and pieces `.` past the start
    say nothing about where a path leads.  `components` is what remains; two
    paths with equal components are the same path however they are written.
    `..` is a component like any other and is never resolved. -/

namespace LayeredRoots

/-- One step of a path. -/
inductive Component where
  /-- The root directory, in front of an absolute path. -/
  | root
  /-- `.` at the start of a relative path. -/
  | here
  /-- `..` -/
  | up
  | name (bytes : Bytes)
  deriving DecidableEq, Repr

namespace Component

/-- The step that a piece between separators stands for. -/
def ofPiece? (piece : Bytes) : Option Component :=
  if piece = [] ∨ piece = [dot] then none
  else if piece = [dot, dot] then some up
  else some (name piece)

/-- How a step is written. -/
def bytes : Component → Bytes
  | root => [slash]
  | here => [dot]
  | up => [dot, dot]
  | name bs => bs

end Component

namespace Path

/-- The step at the start of a path: the root, a leading `.`, or what the
    first piece stands for. -/
def leading (p : Path) : Option Component :=
  if p.isAbsolute then some .root
  else
    match p.pieces.head? with
    | none => none
    | some piece => if piece = [dot] then some .here else Component.ofPiece? piece

/-- The steps of a path. -/
def components (p : Path) : List Component :=
  p.leading.toList ++ p.pieces.tail.filterMap Component.ofPiece?

/-- Whether two paths have the same steps. -/
def same (p q : Path) : Bool := p.components = q.components

/-- Whether the steps of `p` begin with those of `q`. -/
def startsWith (p q : Path) : Bool := q.components.isPrefixOf p.components

/-- Whether the steps of `p` end with those of `q`. -/
def endsWith (p q : Path) : Bool := q.components.isSuffixOf p.components

/-- The name at the end of a path, if it ends in one. -/
def fileName? (p : Path) : Option Bytes :=
  match p.components.getLast? with
  | some (.name bs) => some bs
  | _ => none

/-! ### Going up -/

/-- Pieces without those at the end that stand for no step. -/
def trimPieces (pieces : List Bytes) : List Bytes :=
  (pieces.reverse.dropWhile fun piece => (Component.ofPiece? piece).isNone).reverse

/-- A path without its last step, and without the separators in front of that
    step.  The root and the empty path have none to lose. -/
def parent? (p : Path) : Option Path :=
  match p.pieces with
  | [] => none
  | head :: rest =>
    match trimPieces rest with
    -- at most one step: the root, or all there is
    | [] => if head.isEmpty then none else some ⟨[]⟩
    | kept =>
      match trimPieces kept.dropLast with
      | [] => some (if head.isEmpty then ⟨[slash]⟩ else ⟨head⟩)
      | above => some ⟨[slash].intercalate (head :: above)⟩

/-- The path `n` levels up. -/
def ancestor? : Nat → Path → Option Path
  | 0, p => some p
  | n + 1, p => p.parent?.bind (ancestor? n)

/-- The nearest `n` paths above `p`, nearest first. -/
def nearestParents : Nat → Path → List Path
  | 0, _ => []
  | n + 1, p =>
    match p.parent? with
    | none => []
    | some q => q :: nearestParents n q

/-- All paths above `p`, nearest first.  A path has fewer of them than bytes
    and one. -/
def parents (p : Path) : List Path := p.nearestParents (p.bytes.length + 1)

/-! ### Making a path absolute -/

/-- A relative path as seen from the directory `base`, without pieces that
    stand for no step.  `..` is kept, since it may follow a link, and so is one
    separator at the end, since it asks for a directory. -/
def absoluteFrom (base p : Path) : Path :=
  let steps := p.components.filter (· ≠ .here)
  let path := steps.foldl (fun q c => q.join ⟨c.bytes⟩) base
  if p.bytes.getLast? = some slash then path.join ⟨[]⟩ else path

/-! ### Small facts -/

example : (ofText "/a//./b/../c/.").components =
    [.root, .name [97], .name [98], .up, .name [99]] := by decide +kernel

example : (ofText "./a").parent? = some (ofText ".") ∧
    (ofText "//a/b//").parent? = some (ofText "//a") ∧
    (ofText "/a").parent? = some (ofText "/") ∧
    (ofText "/").parent? = none ∧
    (ofText "a").parent? = some (ofText "") ∧
    (ofText "").parent? = none := by decide +kernel

example : (ofText "/a/b").parents = [ofText "/a", ofText "/"] ∧
    (ofText "a").parents = [ofText ""] := by decide +kernel

example : (ofText "/t").absoluteFrom (ofText "./a//../b/") = ofText "/t/a/../b/" ∧
    (ofText "/t").absoluteFrom (ofText ".") = ofText "/t" := by decide +kernel

end Path
end LayeredRoots
