import LayeredRoots.Text.Utf8

/-! # Environment variables

    A variable has a value or is unset.  Values are raw bytes; an empty value
    is not the same as none, unless a reader says so.

    The same variables can be looked up in two ways: by their exact names, or
    as a process does, which compares assignments `name=value` with what is
    asked for. -/

namespace LayeredRoots

/-- Values of variables. -/
structure Environment where
  get : String → Option Bytes

/-- The value of a variable, where an empty one counts as unset. -/
def Environment.getNonEmpty (env : Environment) (name : String) : Option Bytes :=
  (env.get name).filter (!·.isEmpty)

/-- Variables that can be changed. -/
structure Variables where
  entries : List (String × Bytes)
  deriving DecidableEq, Repr

namespace Variables

def get? (vs : Variables) (name : String) : Option Bytes := vs.entries.lookup name

def unset (vs : Variables) (name : String) : Variables :=
  ⟨vs.entries.filter (·.1 ≠ name)⟩

def set (vs : Variables) (name : String) (value : Bytes) : Variables :=
  ⟨(name, value) :: (vs.unset name).entries⟩

/-- The variables by their exact names. -/
def view (vs : Variables) : Environment := ⟨vs.get?⟩

/-- What a process finds under a name: what follows the name and a `=` in an
    assignment.  A name with a `=` of its own reaches into a value. -/
def assigned? (vs : Variables) (name : String) : Option Bytes :=
  match name.toList.span (· ≠ '=') with
  | (_, []) => vs.get? name
  | (front, _ :: rest) =>
    (vs.get? (String.ofList front)).bind fun value =>
      (Text.encode (String.ofList rest) ++ [61]).isPrefixOf? value

/-- The variables as a process finds them. -/
def processView (vs : Variables) : Environment := ⟨vs.assigned?⟩

/-- The variable written by `name=value`, if the name is a text. -/
def ofAssignment? (bytes : Bytes) : Option (String × Bytes) :=
  match bytes.span (· ≠ 61) with
  | (name, _ :: value) => (Text.decode? name).map (·, value)
  | (_, []) => none

/-- The variables of a block of assignments, each with a zero byte behind it. -/
def ofBlock (block : Bytes) : Variables :=
  ⟨(block.splitOn 0).filterMap ofAssignment?⟩

example : (Variables.mk [("q", [98, 61, 99])]).assigned? "q=b" = some [99] ∧
    (Variables.mk [("q", [98, 61, 99])]).assigned? "q" = some [98, 61, 99] ∧
    (Variables.mk [("q", [98, 61, 99])]).assigned? "q=" = none := by decide +kernel

end Variables
end LayeredRoots
