import LayeredRoots.Text.Utf8

/-! # Paths

    A path is a byte string in which `/` separates pieces.  It is absolute if
    it starts with `/`.  Joining appends text and nothing more: no piece is
    ever resolved or dropped, except that an absolute right side replaces the
    left one. -/

namespace LayeredRoots

/-- The byte `/`. -/
def slash : UInt8 := 47

/-- The byte `.`. -/
def dot : UInt8 := 46

/-- A path as it was written. -/
structure Path where
  bytes : Bytes
  deriving DecidableEq, Repr

namespace Path

/-- The path written by a text. -/
def ofText (s : String) : Path := ⟨Text.encode s⟩

/-- The text that writes the path, if its bytes are those of a text. -/
def text? (p : Path) : Option String := Text.decode? p.bytes

/-- The path as it is shown in messages. -/
def display (p : Path) : String := Text.lossy p.bytes

/-- The pieces in which the path is shown. -/
def displayPieces (p : Path) : List String := Text.lossyPieces p.bytes

/-- Whether nothing is written at all. -/
def isEmpty (p : Path) : Bool := p.bytes.isEmpty

/-- Whether the path starts at the root directory. -/
def isAbsolute (p : Path) : Bool := p.bytes.head? = some slash

/-- What stands between the separators. -/
def pieces (p : Path) : List Bytes := p.bytes.splitOn slash

/-- The path `tail` as seen from `base`. -/
def join (base tail : Path) : Path :=
  if tail.isAbsolute then tail
  else if base.isEmpty ∨ base.bytes.getLast? = some slash then ⟨base.bytes ++ tail.bytes⟩
  else ⟨base.bytes ++ slash :: tail.bytes⟩

/-- The path written by a text, as seen from `base`. -/
def joinText (base : Path) (tail : String) : Path := base.join (ofText tail)

/-! ### Small facts -/

@[simp] theorem text?_ofText (s : String) : (ofText s).text? = some s := by
  simp [ofText, text?]

theorem ofText_of_text? {p : Path} {s : String} (h : p.text? = some s) : ofText s = p := by
  cases p
  simpa [ofText] using Text.encode_of_decode? h

theorem join_of_isAbsolute {base tail : Path} (h : tail.isAbsolute = true) :
    base.join tail = tail := by
  simp [join, h]

theorem join_ne_empty {base tail : Path} (h : base.isEmpty = false) :
    (base.join tail).isEmpty = false := by
  unfold join
  split
  · next ht =>
    cases tail with
    | mk bs => cases bs <;> simp_all [isAbsolute, isEmpty]
  · split <;> cases base <;> simp_all [isEmpty]

end Path
end LayeredRoots
