import LayeredRoots.Json.Quoted

/-! # Writing JSON values

    Lists and objects are written on one line and without white space, from the
    written forms of what they hold. -/

namespace LayeredRoots.Json

/-- A list of written values. -/
def writeList (values : List String) : String :=
  "[" ++ ",".intercalate values ++ "]"

/-- An object of written values by key. -/
def writeObject (members : List (String × String)) : String :=
  "\x7b" ++ ",".intercalate (members.map fun (key, value) => quote key ++ ":" ++ value) ++ "\x7d"

/-- An object of texts by key. -/
def writeTexts (members : List (String × String)) : String :=
  writeObject (members.map fun (key, value) => (key, quote value))

end LayeredRoots.Json
