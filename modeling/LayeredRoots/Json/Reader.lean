import LayeredRoots.Json.Numeral
import LayeredRoots.Json.Skip
import LayeredRoots.Text.Shown

/-! # Reading typed values from tokens

    A reader takes the tokens of one value from the front.  It goes through
    them from the left and stops at the first offence:

    - `malformed`: the text is not JSON at this place;
    - every other fault: the value is JSON so far, but not what is wanted. -/

namespace LayeredRoots.Json

/-- What kind of value stands somewhere. -/
inductive Shape where
  | null
  | bool (b : Bool)
  | number (v : NumberValue)
  | text (s : String)
  | list
  | object

/-- How a value is described in messages. -/
def Shape.describe : Shape → String
  | null => "null"
  | bool b => s!"boolean `{b}`"
  | number (.integer i) => s!"integer `{i}`"
  | number (.float x) => "floating point `" ++ floatText x ++ "`"
  | text s => "string " ++ Text.shown s
  | list => "sequence"
  | object => "map"

/-- The kind of the value that a token starts. -/
def Token.shape? : Token → Option Shape
  | .null => some .null
  | .bool b => some (.bool b)
  | .number n => n.value?.map .number
  | .text units => (unitText? units).map .text
  | .openList => some .list
  | .openObject => some .object
  | _ => none

/-- Why a value cannot be read. -/
inductive Fault where
  | malformed
  /-- A value of another kind stands there. -/
  | unexpected (found : Shape) (wanted : String)
  /-- A name is none of the known ones. -/
  | unknownName (given : String) (known : List String)
  /-- A member that must be there is not. -/
  | missingField (name : String)
  /-- A member stands there twice. -/
  | repeatedField (name : String)
  /-- A list has too few elements. -/
  | tooShort (length : Nat) (wanted : String)

/-- Names in a row, for messages. -/
def listNames : List String → String
  | [a, b] => s!"`{a}` or `{b}`"
  | names => "one of " ++ ", ".intercalate (names.map fun name => s!"`{name}`")

/-- The text of a fault, without the place where it was noticed.  About a
    malformed document no more is told than that. -/
def Fault.message : Fault → String
  | malformed => "syntax"
  | unexpected found wanted => s!"invalid type: {found.describe}, expected {wanted}"
  | unknownName given known => s!"unknown variant `{given}`, expected {listNames known}"
  | missingField name => s!"missing field `{name}`"
  | repeatedField name => s!"duplicate field `{name}`"
  | tooShort length wanted => s!"invalid length {length}, expected {wanted}"

/-- Takes a value from the front of a row of tokens. -/
abbrev Reader (α : Type) : Type := List Token → Except Fault (α × List Token)

/-- The fault of finding these tokens where another value is wanted. -/
def wrongShape (wanted : String) : List Token → Fault
  | [] => .malformed
  | t :: _ =>
    match t.shape? with
    | some found => .unexpected found wanted
    | none => .malformed

/-! ### Single values -/

def readText : Reader String
  | .text units :: ts =>
    match unitText? units with
    | some s => .ok (s, ts)
    | none => .error .malformed
  | ts => .error (wrongShape "a string" ts)

/-- A text or null. -/
def readOptionalText : Reader (Option String)
  | .null :: ts => .ok (none, ts)
  | ts => (readText ts).map fun (s, rest) => (some s, rest)

def readBool : Reader Bool
  | .bool b :: ts => .ok (b, ts)
  | ts => .error (wrongShape "a boolean" ts)

/-- The value that a name stands for. -/
def readKnown {α : Type} (known : List (String × α)) (units : List TextUnit) : Except Fault α :=
  match unitText? units with
  | none => .error .malformed
  | some name =>
    match known.lookup name with
    | some a => .ok a
    | none => .error (.unknownName name (known.map (·.1)))

/-- One of several names, alone or as the only key of an object with the value
    null. -/
def readName {α : Type} (known : List (String × α)) : Reader α
  | .text units :: ts => (readKnown known units).map (·, ts)
  | .openObject :: .text units :: ts =>
    match readKnown known units with
    | .error fault => .error fault
    | .ok a =>
      match ts with
      | .colon :: .null :: .closeObject :: rest => .ok (a, rest)
      | .colon :: .null :: _ => .error .malformed
      | .colon :: value => .error (wrongShape "unit" value)
      | _ => .error .malformed
  | _ => .error .malformed

/-! ### Lists -/

/-- The elements of a list behind the first, up to its end, at most `fuel`. -/
def readMore {α : Type} (item : Reader α) : Nat → Reader (List α)
  | _, .closeList :: ts => .ok ([], ts)
  | _, .comma :: .closeList :: _ => .error .malformed
  | fuel + 1, .comma :: ts => do
    let (a, rest) ← item ts
    let (as, rest) ← readMore item fuel rest
    return (a :: as, rest)
  | _, _ => .error .malformed

/-- A list.  Every element has a token, so there are no more than tokens. -/
def readList {α : Type} (item : Reader α) : Reader (List α)
  | .openList :: .closeList :: ts => .ok ([], ts)
  | .openList :: ts => do
    let (a, rest) ← item ts
    let (as, rest) ← readMore item rest.length rest
    return (a :: as, rest)
  | ts => .error (wrongShape "a sequence" ts)

/-! ### Records

    A record is an object with named members, or a list of its members in
    order.  Unknown members of an object are skipped. -/

/-- How a record of type `α` is read: its members, by name and in order, each
    with a reader that puts the member into the record so far. -/
structure Layout (α : Type) where
  /-- How the record is called in messages. -/
  title  : String
  fields : List (String × (α → Reader α))

/-- The tokens behind a colon. -/
def readColon : List Token → Except Fault (List Token)
  | .colon :: ts => .ok ts
  | _ => .error .malformed

/-- A member behind its key.  Comes with the keys seen so far. -/
def readMember {α : Type} (layout : Layout α) (seen : List String) (record : α)
    (units : List TextUnit) (ts : List Token) : Except Fault (List String × α × List Token) := do
  match unitText? units with
  | none => throw .malformed
  | some key =>
    match layout.fields.lookup key with
    | none =>
      match skipValue (← readColon ts) with
      | none => throw .malformed
      | some rest => return (seen, record, rest)
    | some read =>
      -- a repeated key is found before its colon
      if key ∈ seen then throw (.repeatedField key)
      else
        let (record, rest) ← read record (← readColon ts)
        return (key :: seen, record, rest)

/-- The members of an object behind the first, up to its end. -/
def readMembers {α : Type} (layout : Layout α) :
    Nat → List String → α → List Token → Except Fault (List String × α × List Token)
  | _, seen, record, .closeObject :: ts => .ok (seen, record, ts)
  | fuel + 1, seen, record, .comma :: .text units :: ts => do
    let (seen, record, rest) ← readMember layout seen record units ts
    readMembers layout fuel seen record rest
  | _, _, _, _ => .error .malformed

/-- An object behind its bracket. -/
def readObject {α : Type} (layout : Layout α) (record : α) :
    List Token → Except Fault (List String × α × List Token)
  | .closeObject :: ts => .ok ([], record, ts)
  | .text units :: ts => do
    let (seen, record, rest) ← readMember layout [] record units ts
    readMembers layout rest.length seen record rest
  | _ => .error .malformed

/-- The members of a record in a list, from the one at `index` on.  Second is
    how many there were. -/
def readPositions {α : Type} (index : Nat) (record : α) :
    List (String × (α → Reader α)) → List Token → Except Fault (α × Nat × List Token)
  | _, .closeList :: ts => .ok (record, index, ts)
  | [], _ => .error .malformed
  | (_, read) :: fields, ts =>
    let elements :=
      if index = 0 then some ts
      else
        match ts with
        | .comma :: .closeList :: _ => none
        | .comma :: rest => some rest
        | _ => none
    match elements with
    | none => .error .malformed
    | some ts => do
      let (record, rest) ← read record ts
      readPositions (index + 1) record fields rest

/-- A record over defaults: members that are not there keep theirs. -/
def readOver {α : Type} (layout : Layout α) (default : α) : Reader α
  | .openObject :: ts => do
    let (_, record, rest) ← readObject layout default ts
    return (record, rest)
  | .openList :: ts => do
    let (record, _, rest) ← readPositions 0 default layout.fields ts
    return (record, rest)
  | ts => .error (wrongShape layout.title ts)

/-- A record that must have all its members. -/
def readWhole {α : Type} (layout : Layout α) (blank : α) : Reader α
  | .openObject :: ts => do
    let (seen, record, rest) ← readObject layout blank ts
    match layout.fields.find? (·.1 ∉ seen) with
    | some (name, _) => throw (.missingField name)
    | none => return (record, rest)
  | .openList :: ts => do
    let (record, count, rest) ← readPositions 0 blank layout.fields ts
    if count < layout.fields.length then
      throw (.tooShort count s!"{layout.title} with {layout.fields.length} elements")
    else return (record, rest)
  | ts => .error (wrongShape layout.title ts)

/-- The value of a whole document. -/
def readDocument {α : Type} (read : Reader α) (text : String) : Except Fault α := do
  let (a, rest) ← read (tokens text.toList)
  if rest.isEmpty then return a else throw .malformed

end LayeredRoots.Json
