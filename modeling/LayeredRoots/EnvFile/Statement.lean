import LayeredRoots.EnvFile.Line
import LayeredRoots.EnvFile.Value

/-! # Statements of a variables file

    A line assigns a value to a variable, `name = value`, or says nothing.  The
    word `export` may stand in front of the name; it is a name itself if `=`
    follows. -/

namespace LayeredRoots.EnvFile

/-- What a line of a variables file says. -/
inductive Statement where
  | nothing
  | assign (name value : String)
  | malformed
  deriving DecidableEq, Repr

/-- Whether a name may start with a character. -/
def startsName (c : Char) : Bool := c.isAlpha || c = '_'

/-- Whether a name may go on with a character. -/
def continuesName (c : Char) : Bool := c.isAlphanum || c = '_' || c = '.'

/-- The name at the start of a text, and what follows it. -/
def splitName? (cs : List Char) : Option (List Char × List Char) :=
  if cs.head?.any startsName then some (cs.span continuesName) else none

/-- A text without the blanks at its end. -/
def trimEnd (cs : List Char) : List Char := (skipBlanks cs.reverse).reverse

namespace Statement

/-- The assignment of what follows `=`. -/
def assigning (lookup : List Char → List Char) (name cs : List Char) : Statement :=
  match skipBlanks cs with
  | '=' :: cs =>
    let text := skipBlanks cs
    if saysNothing text then .assign (String.ofList name) ""
    else
      match readValue lookup text with
      | none => .malformed
      | some value => .assign (String.ofList name) (String.ofList value)
  | _ => .malformed

/-- What a line says. -/
def ofLine (lookup : List Char → List Char) (line : List Char) : Statement :=
  let text := skipBlanks (trimEnd line)
  if saysNothing text then .nothing
  else
    match splitName? text with
    | none => .malformed
    | some (name, rest) =>
      let rest := skipBlanks rest
      if name = "export".toList ∧ rest.head? ≠ some '=' then
        match splitName? rest with
        | none => .malformed
        | some (name, rest) => assigning lookup name rest
      else assigning lookup name rest

/-! ### Examples -/

example : ofLine id "export a.b = 'c' # d\n".toList = .assign "a.b" "c" := by decide +kernel

example : ofLine id "export=1".toList = .assign "export" "1" := by decide +kernel

example : ofLine id "1=a".toList = .malformed := by decide +kernel

end Statement
end LayeredRoots.EnvFile
