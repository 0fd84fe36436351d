import LayeredRoots.Json.Token

/-! # Skipping a JSON value

    A value nobody asked for still has to be JSON.  It is checked with a stack
    of the brackets that are open, so nesting may go as deep as it likes, and
    neither the size of its numbers nor the pairing of its codes matters. -/

namespace LayeredRoots.Json

/-- A bracket that is open. -/
inductive Frame where
  | list
  | object
  deriving DecidableEq, Repr

/-- What may stand next. -/
inductive Next where
  /-- A value. -/
  | value
  /-- The first element of a list, or its end. -/
  | firstElement
  /-- The first key of an object, or its end. -/
  | firstKey
  /-- A key. -/
  | key
  /-- The colon behind a key. -/
  | colon
  /-- What follows a value inside an open bracket. -/
  | more
  deriving DecidableEq, Repr

/-- The tokens behind the value that the open brackets are part of. -/
def skipFrom : Next → List Frame → List Token → Option (List Token)
  | _, _, [] => none
  | next, stack, t :: ts =>
    match next, t with
    | .value, .openList => skipFrom .firstElement (.list :: stack) ts
    | .value, .openObject => skipFrom .firstKey (.object :: stack) ts
    | .value, .null | .value, .bool _ | .value, .text _ | .value, .number _ =>
      if stack.isEmpty then some ts else skipFrom .more stack ts
    | .firstElement, .closeList =>
      if stack.tail.isEmpty then some ts else skipFrom .more stack.tail ts
    | .firstElement, .openList => skipFrom .firstElement (.list :: stack) ts
    | .firstElement, .openObject => skipFrom .firstKey (.object :: stack) ts
    | .firstElement, .null | .firstElement, .bool _
    | .firstElement, .text _ | .firstElement, .number _ => skipFrom .more stack ts
    | .firstKey, .closeObject =>
      if stack.tail.isEmpty then some ts else skipFrom .more stack.tail ts
    | .firstKey, .text _ | .key, .text _ => skipFrom .colon stack ts
    | .colon, .colon => skipFrom .value stack ts
    | .more, .comma =>
      match stack with
      | .list :: _ => skipFrom .value stack ts
      | .object :: _ => skipFrom .key stack ts
      | [] => none
    | .more, .closeList =>
      match stack with
      | .list :: outer => if outer.isEmpty then some ts else skipFrom .more outer ts
      | _ => none
    | .more, .closeObject =>
      match stack with
      | .object :: outer => if outer.isEmpty then some ts else skipFrom .more outer ts
      | _ => none
    | _, _ => none

/-- The tokens behind the value that stands first, if one stands there. -/
def skipValue (ts : List Token) : Option (List Token) :=
  skipFrom .value [] ts

example : skipValue [.openList, .openObject, .closeObject, .comma, .null, .closeList, .colon] =
    some [.colon] := by decide

example : skipValue [.openList, .null, .comma, .closeList] = none := by decide

end LayeredRoots.Json
