import LayeredRoots.Storage.Basic

/-! # A tree of directories, files and links

    A disk maps the place of each entry, a row of names below the root, to the
    entry.  Following a path goes piece by piece:

    - only a directory can be left downwards, so a separator or `.` after a
      file is refused;
    - `..` leads to the directory above, and from the root to itself;
    - a link is replaced by its target, at most forty times on one path;
    - a name has at most 255 bytes, a path less than 4096 and no zero byte.

    A path may lead to a place where nothing is, if only its last name is
    missing; there a file can be made. -/

namespace LayeredRoots

/-- The names that lead from the root to an entry, last name first. -/
abbrev Place : Type := List Bytes

inductive Entry where
  | dir
  | file (content : Bytes)
  | link (target : Path)
  /-- Readable, but neither a directory nor a regular file. -/
  | device
  deriving DecidableEq, Repr

/-- Files, where `find` gives the entry that a path leads to. -/
def Storage.ofEntries (find : Path → Except ReadFault Entry) : Storage where
  isDir p := match find p with | .ok .dir => true | _ => false
  isFile p := match find p with | .ok (.file _) => true | _ => false
  read p :=
    match find p with
    | .ok (.file content) => .ok content
    | .ok .dir => .error .isADirectory
    | .ok _ => .ok []
    | .error e => .error e

/-- Entries by place.  The root directory is always there. -/
structure Disk where
  entries : List (Place × Entry)
  deriving DecidableEq, Repr

namespace Disk

/-- The entry at a place. -/
def entry? (d : Disk) (p : Place) : Option Entry :=
  if p.isEmpty then some .dir else d.entries.lookup p

/-- The disk with an entry at a place, instead of any other there. -/
def put (d : Disk) (p : Place) (e : Entry) : Disk :=
  ⟨(p, e) :: d.entries.filter (·.1 ≠ p)⟩

/-- The disk without a place and all below it. -/
def cut (d : Disk) (p : Place) : Disk :=
  ⟨d.entries.filter fun (q, _) => !p.isSuffixOf q⟩

/-- The disk without what is below a place. -/
def clear (d : Disk) (p : Place) : Disk :=
  ⟨d.entries.filter fun (q, _) => q = p ∨ !p.isSuffixOf q⟩

/-! ### Following paths -/

/-- The most links followed on one path. -/
def maxLinks : Nat := 40

/-- The most bytes of a name. -/
def maxName : Nat := 255

/-- The bytes at which a path becomes too long. -/
def pathLimit : Nat := 4096

/-- Follows pieces from a place.  What they lead to need not be there, but
    everything on the way. -/
def follow (d : Disk) (links : Nat) (here : Place) (pieces : List Bytes) :
    Except ReadFault Place :=
  match pieces with
  | [] => .ok here
  | piece :: rest =>
    -- even `.` and an empty piece behind a separator ask for a directory
    if d.entry? here ≠ some .dir then .error .notADirectory
    else if piece = [] ∨ piece = [dot] then follow d links here rest
    else if piece = [dot, dot] then follow d links here.tail rest
    else if maxName < piece.length then .error .nameTooLong
    else
      match d.entry? (piece :: here) with
      | none => if rest.isEmpty then .ok (piece :: here) else .error .notFound
      | some (.link target) =>
        match links with
        | 0 => .error .tooManyLinks
        | left + 1 =>
          -- the pieces of the target come before those still to follow
          follow d left (if target.isAbsolute then [] else here) (target.pieces ++ rest)
      | some _ => follow d links (piece :: here) rest
termination_by (links, pieces.length)

end Disk

/-- The directory that relative paths start from. -/
inductive Origin where
  | dir (place : Place)
  /-- A directory that was removed while it was in use.  Nothing is in it, and
      only `..` leads out of it, to where it was. -/
  | removed (above : Place)
  deriving DecidableEq, Repr

/-- The place where following a path starts, and the pieces from there on.
    There is none for a path that stays in a removed directory. -/
def Origin.start (o : Origin) (p : Path) : Except ReadFault (Option (Place × List Bytes)) :=
  if (0 : UInt8) ∈ p.bytes then .error .containsNul
  else if p.isEmpty then .error .notFound
  else if Disk.pathLimit ≤ p.bytes.length then .error .nameTooLong
  else if p.isAbsolute then .ok (some ([], p.pieces))
  else
    match o with
    | .dir place => .ok (some (place, p.pieces))
    | .removed above =>
      match p.pieces.dropWhile fun piece => piece = [] ∨ piece = [dot] with
      | [] => .ok none
      | piece :: rest => if piece = [dot, dot] then .ok (some (above, rest)) else .error .notFound

namespace Disk

/-- The entry a path leads to. -/
def find (d : Disk) (o : Origin) (p : Path) : Except ReadFault Entry := do
  match ← o.start p with
  | none => return .dir
  | some (here, pieces) =>
    match d.entry? (← d.follow maxLinks here pieces) with
    | some e => return e
    | none => throw .notFound

/-- The disk as seen from a directory. -/
def view (d : Disk) (o : Origin) : Storage := Storage.ofEntries (d.find o)

/-! ### Places and paths -/

/-- The place of an absolute path without `..`, whatever the disk holds. -/
def placeOf (p : Path) : Place :=
  (p.pieces.filter fun piece => piece ≠ [] ∧ piece ≠ [dot]).reverse

/-- The absolute path of a place. -/
def pathOf (p : Place) : Path :=
  if p.isEmpty then ⟨[slash]⟩ else ⟨p.reverse.flatMap (slash :: ·)⟩

/-! ### Changing the tree

    Changes are made at absolute paths.  What cannot be done changes nothing. -/

/-- The pieces of an absolute path, if it can be followed at all. -/
def rooted? (p : Path) : Option (List Bytes) :=
  match (Origin.dir []).start p with
  | .ok (some (_, pieces)) => some pieces
  | _ => none

/-- The name at the end of pieces, and the pieces in front of it, unless they
    end in a separator, `.` or `..`. -/
def splitName? (pieces : List Bytes) : Option (List Bytes × Bytes) :=
  match pieces.reverse with
  | [] => none
  | last :: above =>
    if last = [] ∨ last = [dot] ∨ last = [dot, dot] then none else some (above.reverse, last)

/-- Pieces without the separators at their end. -/
def trimEnd (pieces : List Bytes) : List Bytes :=
  (pieces.reverse.dropWhile List.isEmpty).reverse

/-- The place that pieces name themselves: a link at their end is not
    followed. -/
def followName (d : Disk) (pieces : List Bytes) : Except ReadFault Place :=
  match splitName? pieces with
  | none => d.follow maxLinks [] pieces
  | some (above, name) => do
    -- the name has to be in a directory
    let here ← d.follow maxLinks [] (above ++ [[dot]])
    if maxName < name.length then throw .nameTooLong else return name :: here

/-- Makes the directories that are missing on the way along pieces, as far as
    that goes. -/
def makePieces (d : Disk) (here : Place) : List Bytes → Disk
  | [] => d
  | piece :: rest =>
    if piece = [] ∨ piece = [dot] then d.makePieces here rest
    else if piece = [dot, dot] then d.makePieces here.tail rest
    else if maxName < piece.length then d
    else if (d.entry? (piece :: here)).isNone then
      (d.put (piece :: here) .dir).makePieces (piece :: here) rest
    else
      match d.follow maxLinks here [piece] with
      | .ok place => if d.entry? place = some .dir then d.makePieces place rest else d
      | .error _ => d

/-- The pieces along which directories are made.  The one in front of a `.` at
    the end is not: it would have to be there already. -/
def makeable (pieces : List Bytes) : List Bytes :=
  let trimmed := trimEnd pieces
  if trimmed.getLast? = some [dot] then
    (trimmed.reverse.dropWhile fun piece => piece = [] ∨ piece = [dot]).tail.reverse
  else trimmed

/-- Makes a directory and all above it. -/
def makeDir (d : Disk) (p : Path) : Disk :=
  match rooted? p with
  | some pieces => d.makePieces [] (makeable pieces)
  | none => d

/-- Makes the directory of a path and all above it. -/
def makeParent (d : Disk) (p : Path) : Disk := (p.parent?.map d.makeDir).getD d

/-- Writes a file, below directories that are made as needed.  A link at the
    end of the path is written through, even where it leads to nothing yet. -/
def write (d : Disk) (p : Path) (content : Bytes) : Disk :=
  let d := d.makeParent p
  match (rooted? p).map (d.follow maxLinks []) with
  | some (.ok place) =>
    match d.entry? place with
    | none | some (.file _) => d.put place (.file content)
    | _ => d
  | _ => d

/-- Makes a link, below directories that are made as needed. -/
def link (d : Disk) (p target : Path) : Disk :=
  let d := d.makeParent p
  match (rooted? p).map d.followName with
  | some (.ok place) =>
    if (d.entry? place).isNone ∧ !target.isEmpty then d.put place (.link target) else d
  | _ => d

/-- Removes what pieces name, and all below it.  A link is removed itself.  A
    directory is emptied first, and stays empty where the pieces do not end in
    its name. -/
def removePieces (d : Disk) (pieces : List Bytes) : Disk :=
  match d.followName pieces with
  | .error _ => d
  | .ok place =>
    if d.entry? place = some .dir then
      let d := d.clear place
      let named := trimEnd pieces
      match splitName? named, d.followName named with
      | some _, .ok again => if again = place then d.cut place else d
      | _, _ => d
    else d.cut place

/-- Removes what a path names, and all below it. -/
def remove (d : Disk) (p : Path) : Disk :=
  match rooted? p with
  | some pieces => d.removePieces pieces
  | none => d

end Disk
end LayeredRoots
