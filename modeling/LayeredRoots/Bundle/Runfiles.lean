import LayeredRoots.Bundle.Basic
import LayeredRoots.Environment
import LayeredRoots.Note
import LayeredRoots.Storage.Basic
import LayeredRoots.Text.Blank
import LayeredRoots.Text.Lines

/-! # Runfiles

    A bundle made of files: either a manifest, a text that lists resources and
    their paths, or a directory that resources lie in.

    In a manifest every line that is not blank has one entry: the resource up
    to the first space, and its path behind it.  A line without a space maps
    a resource to itself.  Of two entries for one resource the later counts.

    Only regular files are ever handed out.  A manifest that a variable names
    wins over a directory that a variable names, readable or not. -/

namespace LayeredRoots

/-- Entries of a manifest, one per resource. -/
abbrev Entries : Type := List (String × Path)

namespace Entries

/-- Adds an entry in place of any other for the resource. -/
def insert (es : Entries) (resource : String) (path : Path) : Entries :=
  (resource, path) :: es.filter (·.1 ≠ resource)

/-- The path of a resource. -/
def get? (es : Entries) (resource : String) : Option Path := es.lookup resource

/-- The entry on a line. -/
def ofLine (line : String) : String × Path :=
  match line.toList.span (· ≠ ' ') with
  | (resource, _ :: path) => (String.ofList resource, Path.ofText (String.ofList path))
  | (_, []) => (line, Path.ofText line)

/-- The entries of a manifest. -/
def ofText (contents : String) : Entries :=
  ((Text.lines contents).filter (!Text.isBlank ·)).foldl
    (fun es line => let (resource, path) := ofLine line; es.insert resource path) []

/-! ### Small facts -/

@[simp] theorem get?_nil (resource : String) : get? [] resource = none := rfl

theorem lookup_filter_ne {es : Entries} {resource other : String} (h : other ≠ resource) :
    (es.filter (·.1 ≠ resource)).lookup other = es.lookup other := by
  induction es with
  | nil => rfl
  | cons e rest ih =>
    obtain ⟨k, path⟩ := e
    by_cases hk : k = resource
    · subst hk
      have hb : (other == k) = false := by simpa using h
      simp only [ne_eq, not_true_eq_false, decide_false, Bool.false_eq_true, not_false_eq_true,
        List.filter_cons_of_neg, List.lookup_cons, hb]
      exact ih
    · simp only [ne_eq, hk, not_false_eq_true, decide_true, List.filter_cons_of_pos,
        List.lookup_cons]
      split
      · rfl
      · exact ih

theorem get?_insert (es : Entries) (resource other : String) (path : Path) :
    (es.insert resource path).get? other =
      if other = resource then some path else es.get? other := by
  by_cases h : other = resource
  · simp [insert, get?, h]
  · have hb : (other == resource) = false := by simpa using h
    simp only [insert, get?, List.lookup_cons, hb, h, if_false]
    exact lookup_filter_ne h

end Entries

/-- A bundle made of files. -/
inductive Runfiles where
  | manifest (path : Path) (entries : Entries)
  | directory (dir : Path)
  deriving DecidableEq, Repr

namespace Runfiles

/-- The variable that names a manifest. -/
def manifestVariable : String := "RUNFILES_MANIFEST_FILE"

/-- The variable that names a directory. -/
def directoryVariable : String := "RUNFILES_DIR"

/-- The bundle listed by the text of a manifest. -/
def ofManifest (path : Path) (contents : String) : Runfiles :=
  .manifest path (Entries.ofText contents)

/-- The bundle listed by a manifest file. -/
def readManifest (storage : Storage) (path : Path) : Except ReadFault Runfiles :=
  (storage.readText path).map (ofManifest path)

/-! ### Finding the bundle of a process -/

/-- The bundle that the variables name, if they name a usable one. -/
def discover? (env : Environment) (storage : Storage) : Option Runfiles × List Note :=
  match env.getNonEmpty manifestVariable with
  | some value =>
    let path : Path := ⟨value⟩
    match readManifest storage path with
    | .ok runfiles => (some runfiles, [])
    | .error fault => (none, [.manifestUnreadable path fault.message])
  | none =>
    match env.getNonEmpty directoryVariable with
    | some value =>
      let dir : Path := ⟨value⟩
      if storage.isDir dir then (some (.directory dir), []) else (none, [.runfilesMissing dir])
    | none => (none, [])

/-! ### Looking resources up -/

/-- Why runfiles do not have a resource. -/
inductive Miss where
  | noEntry (listing : Path) (resource : String)
  | noSuchFile (listing : Path) (resource : String) (path : Path)
  | notInDirectory (dir : Path) (resource : String)
  deriving DecidableEq, Repr

/-- The text of a miss. -/
def Miss.message : Miss → String
  | noEntry listing resource =>
    s!"Runfiles manifest '{listing.display}' has no entry for '{resource}'"
  | noSuchFile listing resource path =>
    s!"Runfiles manifest '{listing.display}' maps '{resource}' to '{path.display}' " ++
      "but that file does not exist"
  | notInDirectory dir resource =>
    s!"Runfiles directory '{dir.display}' does not contain '{resource}'"

/-- The regular file of a resource. -/
def locate (files : Files) (resource : String) : Runfiles → Except Miss Path
  | .manifest path entries =>
    match entries.get? resource with
    | none => .error (.noEntry path resource)
    | some target =>
      if files.isFile target then .ok target else .error (.noSuchFile path resource target)
  | .directory dir =>
    let target := dir.joinText resource
    if files.isFile target then .ok target else .error (.notInDirectory dir resource)

/-- Runfiles as a bundle. -/
def bundle (files : Files) (runfiles : Runfiles) : Bundle where
  available := true
  locate resource := (runfiles.locate files resource).mapError Miss.message

/-- The bundle of a process that may have none. -/
def bundleOf (files : Files) : Option Runfiles → Bundle
  | some runfiles => runfiles.bundle files
  | none => .absent

end Runfiles
end LayeredRoots
