import LayeredRoots.Json.Writer
import LayeredRoots.Resolution.Basic

/-! # Resolutions as JSON objects

    A resolution is written as an object of strings: the resource first, then
    the path or the message, whichever there is.  A path that is not the UTF-8
    form of a text has no such form. -/

namespace LayeredRoots

namespace Resolution

/-- A path that no text writes. -/
structure UnwritablePath where
  path : Path
  deriving DecidableEq, Repr

/-- What is said about such a path. -/
def UnwritablePath.message (_ : UnwritablePath) : String :=
  "path contains invalid UTF-8 characters"

/-- A resolution on one line. -/
def toJson : Resolution → Except UnwritablePath String
  | empty => .ok (Json.writeTexts [("resource_path", "")])
  | found resource path =>
    match path.text? with
    | none => .error ⟨path⟩
    | some text => .ok (Json.writeTexts [("resource_path", resource), ("absolute_path", text)])
  | failed resource message =>
    .ok (Json.writeTexts [("resource_path", resource), ("error_message", message)])

end Resolution
end LayeredRoots
