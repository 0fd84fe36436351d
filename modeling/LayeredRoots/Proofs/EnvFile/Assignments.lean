import LayeredRoots.EnvFile.Load
import Mathlib.Data.List.TakeDrop
import Mathlib.Data.List.TakeWhile

/-! # What a variables file does to a process

    Loading goes through the assignments of a file one by one.  Each gives a
    value to a variable without a text, or is passed over, or ends the process.

    - The name of an assignment is one that a variable can have, so nothing can
      be wrong with an assignment but a zero byte in its value.
    - Only such a value ends the process (`refused_of_load_error`).  Otherwise
      all variables can still be handed on as they are (`assignable_of_load`).
    - **A variable with a text keeps it** (`text?_of_load`).

    * `supply_cases`: what one assignment does.
    * `follow_preserves`: a property that assignments keep is kept by the file. -/

namespace LayeredRoots

namespace Variables

/-- No value has a zero byte in it, where the system would cut it off. -/
def Assignable (vs : Variables) : Prop := ∀ entry ∈ vs.entries, (0 : UInt8) ∉ entry.2

variable {vs : Variables} {name value : String}

/-! ### One assignment -/

/-- **One assignment** is passed over, impossible, or made. -/
theorem supply_cases (vs : Variables) (name value : String) :
    ((vs.text? name).isSome = true ∧ vs.supply name value = .ok vs) ∨
    (vs.text? name = none ∧ (0 : UInt8) ∈ Text.encode value ∧
      vs.supply name value = .error ⟨name, value⟩) ∨
    (vs.text? name = none ∧ (0 : UInt8) ∉ Text.encode value ∧
      vs.supply name value = .ok (vs.set name (Text.encode value))) := by
  unfold supply
  cases htext : vs.text? name with
  | some text => exact .inl ⟨rfl, rfl⟩
  | none =>
    by_cases hzero : (0 : UInt8) ∈ Text.encode value
    · exact .inr (.inl ⟨rfl, hzero, by rw [if_pos hzero]; rfl⟩)
    · exact .inr (.inr ⟨rfl, hzero, by rw [if_neg hzero]; rfl⟩)

theorem Assignable.set (h : vs.Assignable) {bytes : Bytes} (hzero : (0 : UInt8) ∉ bytes) :
    (vs.set name bytes).Assignable := by
  intro entry hentry
  rcases List.mem_cons.1 hentry with rfl | hold
  · exact hzero
  · exact h entry (List.mem_filter.1 hold).1

/-- Other variables are not touched by an assignment. -/
theorem get?_set_of_ne {other : String} (h : other ≠ name) (bytes : Bytes) :
    (vs.set name bytes).get? other = vs.get? other := by
  have hfilter : (vs.entries.filter (·.1 ≠ name)).lookup other = vs.entries.lookup other := by
    induction vs.entries with
    | nil => rfl
    | cons entry rest ih =>
      by_cases hentry : entry.1 = name
      · have hother : (other == entry.1) = false := by
          rw [hentry]
          simpa using h
        rw [List.filter_cons_of_neg (by simpa using hentry), ih, List.lookup_cons, hother]
      · rw [List.filter_cons_of_pos (by simpa using hentry), List.lookup_cons, List.lookup_cons, ih]
  have hname : (other == name) = false := by simpa using h
  simp only [get?, set, unset, List.lookup_cons, hname]
  exact hfilter

/-- A name without `=` stands for a variable of its own. -/
theorem assigned?_of_plain (h : '=' ∉ name.toList) : vs.assigned? name = vs.get? name := by
  have hspan : name.toList.span (· ≠ '=') = (name.toList, []) := by
    rw [List.span_eq_takeWhile_dropWhile]
    have hall : ∀ c ∈ name.toList, decide (c ≠ '=') = true := by
      intro c hc
      exact decide_eq_true fun heq => h (heq ▸ hc)
    rw [List.takeWhile_eq_self_iff.2 hall, List.dropWhile_eq_nil_iff.2 hall]
  unfold assigned?
  rw [hspan]

end Variables

namespace EnvFile

variable {vs after : Variables} {u : Unassignable} {file : List (List Char)}

/-! ### Names -/

theorem continuesName_of_startsName {c : Char} (h : startsName c = true) :
    continuesName c = true := by
  rw [startsName, Bool.or_eq_true] at h
  rcases h with halpha | hlow
  · simp [continuesName, Char.isAlphanum, halpha]
  · simp [continuesName, hlow]

/-- What is taken for a name is not empty, and is a name throughout. -/
theorem splitName?_spec {cs name rest : List Char} (h : splitName? cs = some (name, rest)) :
    name ≠ [] ∧ ∀ c ∈ name, continuesName c = true := by
  cases cs with
  | nil => cases h
  | cons c more =>
    unfold splitName? at h
    split at h
    · next hstarts =>
      rw [List.span_eq_takeWhile_dropWhile] at h
      obtain ⟨rfl, -⟩ := Prod.ext_iff.1 (Option.some.inj h)
      have hfirst : continuesName c = true := continuesName_of_startsName (by simpa using hstarts)
      refine ⟨?_, fun x hx => List.mem_takeWhile_imp hx⟩
      rw [List.takeWhile_cons_of_pos hfirst]
      exact List.cons_ne_nil _ _
    · cases h

theorem name_of_assigning {lookup : List Char → List Char} {given cs : List Char}
    {name value : String} (h : Statement.assigning lookup given cs = .assign name value) :
    name = String.ofList given := by
  unfold Statement.assigning at h
  dsimp only at h
  split at h
  · split at h
    · exact (Statement.assign.inj h).1.symm
    · split at h
      · cases h
      · exact (Statement.assign.inj h).1.symm
  · cases h

/-- **The name of an assignment** is not empty and has none of the characters
    that the system does not take there. -/
theorem name_of_ofLine {lookup : List Char → List Char} {line : List Char} {name value : String}
    (h : Statement.ofLine lookup line = .assign name value) :
    name ≠ "" ∧ '=' ∉ name.toList ∧ '\x00' ∉ name.toList := by
  obtain ⟨given, cs, rest, hsplit, rfl⟩ :
      ∃ given cs rest, splitName? cs = some (given, rest) ∧ name = String.ofList given := by
    unfold Statement.ofLine at h
    dsimp only at h
    split at h
    · cases h
    · split at h
      · cases h
      · next given rest hsplit =>
        split at h
        · -- the name stands behind the word in front
          split at h
          · cases h
          · next given rest hsplit => exact ⟨given, _, rest, hsplit, name_of_assigning h⟩
        · exact ⟨given, _, rest, hsplit, name_of_assigning h⟩
  obtain ⟨hne, hall⟩ := splitName?_spec hsplit
  refine ⟨by simpa using hne, ?_, ?_⟩
  · intro hmem
    have hequals := hall '=' (by simpa using hmem)
    exact absurd hequals (by decide)
  · intro hmem
    have hzero := hall '\x00' (by simpa using hmem)
    exact absurd hzero (by decide)

/-! ### All assignments -/

theorem follow_assign {line : List Char} {rest : List (List Char)} {name value : String}
    (hline : Statement.ofLine (lookup vs) line = .assign name value) :
    follow vs (line :: rest) = (vs.supply name value).bind fun vs => follow vs rest := by
  rw [follow, hline]
  rfl

/-- **A property of variables that assignments keep** is kept by the lines of a
    file. -/
theorem follow_preserves {P : Variables → Prop}
    (hset : ∀ vs name value, P vs → vs.text? name = none → (0 : UInt8) ∉ Text.encode value →
      P (vs.set name (Text.encode value)))
    (hstart : P vs) (h : follow vs file = .ok after) : P after := by
  induction file generalizing vs with
  | nil =>
    obtain rfl := Except.ok.inj h
    exact hstart
  | cons line rest ih =>
    cases hline : Statement.ofLine (lookup vs) line with
    | malformed =>
      rw [follow, hline] at h
      obtain rfl := Except.ok.inj h
      exact hstart
    | nothing =>
      rw [follow, hline] at h
      exact ih hstart h
    | assign name value =>
      rw [follow_assign hline] at h
      rcases vs.supply_cases name value with ⟨-, hskip⟩ | ⟨-, -, hrefuse⟩ | ⟨htext, hzero, hmade⟩
      · rw [hskip] at h
        exact ih hstart h
      · rw [hrefuse] at h
        cases h
      · rw [hmade] at h
        exact ih (hset vs name value hstart htext hzero) h

/-- Lines end the process at an assignment whose value has a zero byte in it, and
    nowhere else. -/
theorem refused_of_follow_error (h : follow vs file = .error u) :
    u.name ≠ "" ∧ '=' ∉ u.name.toList ∧ '\x00' ∉ u.name.toList ∧
      (0 : UInt8) ∈ Text.encode u.value := by
  induction file generalizing vs with
  | nil => cases h
  | cons line rest ih =>
    cases hline : Statement.ofLine (lookup vs) line with
    | malformed =>
      rw [follow, hline] at h
      cases h
    | nothing =>
      rw [follow, hline] at h
      exact ih h
    | assign name value =>
      rw [follow_assign hline] at h
      rcases vs.supply_cases name value with ⟨-, hskip⟩ | ⟨-, hzero, hrefuse⟩ | ⟨-, -, hmade⟩
      · rw [hskip] at h
        exact ih h
      · rw [hrefuse] at h
        obtain rfl := Except.error.inj h
        obtain ⟨hne, hequals, hnul⟩ := name_of_ofLine hline
        exact ⟨hne, hequals, hnul, hzero⟩
      · rw [hmade] at h
        exact ih h

/-! ### The file of a process -/

section load

variable {storage : Storage} {workingDir : Option Path}

/-- Loading is following lines, or nothing. -/
theorem exists_follow_of_load (storage : Storage) (workingDir : Option Path) (vs : Variables) :
    ∃ file, load storage workingDir vs = follow vs file := by
  unfold load
  cases nearest? storage (places workingDir) with
  | none => exact ⟨[], rfl⟩
  | some bytes => exact ⟨lines bytes, rfl⟩

/-- **Only a zero byte** in a value ends the process. -/
theorem refused_of_load_error (h : load storage workingDir vs = .error u) :
    u.name ≠ "" ∧ '=' ∉ u.name.toList ∧ '\x00' ∉ u.name.toList ∧
      (0 : UInt8) ∈ Text.encode u.value := by
  obtain ⟨file, hfile⟩ := exists_follow_of_load storage workingDir vs
  rw [hfile] at h
  exact refused_of_follow_error h

/-- Variables that can be handed on can be after the file, too. -/
theorem assignable_of_load (hvs : vs.Assignable) (h : load storage workingDir vs = .ok after) :
    after.Assignable := by
  obtain ⟨file, hfile⟩ := exists_follow_of_load storage workingDir vs
  rw [hfile] at h
  exact follow_preserves (fun _ _ _ hold _ hzero => hold.set hzero) hvs h

/-- **A variable with a text** has the same text after the file. -/
theorem text?_of_load {name text : String} (hname : '=' ∉ name.toList)
    (htext : vs.text? name = some text) (h : load storage workingDir vs = .ok after) :
    after.text? name = some text := by
  obtain ⟨file, hfile⟩ := exists_follow_of_load storage workingDir vs
  rw [hfile] at h
  refine follow_preserves (P := fun vs => vs.text? name = some text) ?_ htext h
  intro vs other value hold hnone _
  have hne : name ≠ other := by
    rintro rfl
    rw [hold] at hnone
    cases hnone
  rw [Variables.text?, Variables.assigned?_of_plain hname] at hold ⊢
  rw [Variables.get?_set_of_ne hne]
  exact hold

end load

end EnvFile
end LayeredRoots
