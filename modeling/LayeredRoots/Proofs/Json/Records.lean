import LayeredRoots.Config.Reader
import LayeredRoots.Proofs.Json.Values
import Mathlib.Data.List.Forall2
import Mathlib.Data.List.Nodup

/-! # Readers undo writing

    What a reader takes from the front of a row of tokens is described by the
    ways there are to write it: a reader `Reads` a relation between values and
    rows of tokens if it takes every row as the value it is related to, and
    stops behind it.  Lists and records lift such facts from their parts.

    A record is written as an object whose members come in any order.  Those
    with known names write fields, each at most once; those with other names
    hold any value (`Layout.Gives`).  The record read so far is at every member
    a function of the names seen so far, which is the invariant of
    `readMembers_of_gives`. -/

namespace LayeredRoots.Json

/-! ### Results -/

theorem ok_bind {ε α β : Type} (a : α) (f : α → Except ε β) : (Except.ok a >>= f) = f a := rfl

/-! ### Single values -/

/-- A reader takes everything that writes a value as this value. -/
def Reads {α : Type} (read : Reader α) (writes : α → List Token → Prop) : Prop :=
  ∀ {a ts}, writes a ts → ∀ rest, read (ts ++ rest) = .ok (a, rest)

/-- A string in any spelling. -/
def WritesText (s : String) (ts : List Token) : Prop :=
  ∃ units, unitText? units = some s ∧ ts = [.text units]

/-- A string, or null. -/
inductive WritesOptionalText : Option String → List Token → Prop where
  | none : WritesOptionalText none [.null]
  | some {s : String} {ts : List Token} (h : WritesText s ts) : WritesOptionalText (some s) ts

def WritesBool (b : Bool) (ts : List Token) : Prop := ts = [.bool b]

/-- One of several names. -/
def WritesName {α : Type} (known : List (String × α)) (a : α) (ts : List Token) : Prop :=
  ∃ name, known.lookup name = some a ∧ WritesText name ts

/-- A list, element by element. -/
def WritesList {α : Type} (writes : α → List Token → Prop) (as : List α) (ts : List Token) : Prop :=
  ∃ items, List.Forall₂ writes as items ∧ ts = listTokens items

section values

variable {ts : List Token}

theorem WritesText.isValue {s : String} (h : WritesText s ts) : IsValue ts := by
  obtain ⟨units, -, rfl⟩ := h
  exact .text units

theorem WritesOptionalText.isValue {o : Option String} (h : WritesOptionalText o ts) :
    IsValue ts := by
  cases h with
  | none => exact .null
  | some h => exact h.isValue

theorem WritesBool.isValue {b : Bool} (h : WritesBool b ts) : IsValue ts := by
  obtain rfl := h
  exact .bool b

theorem WritesName.isValue {α : Type} {known : List (String × α)} {a : α}
    (h : WritesName known a ts) : IsValue ts := by
  obtain ⟨name, -, hname⟩ := h
  exact hname.isValue

theorem WritesList.isValue {α : Type} {writes : α → List Token → Prop}
    (hvalue : ∀ {a ts}, writes a ts → IsValue ts) {as : List α} (h : WritesList writes as ts) :
    IsValue ts := by
  obtain ⟨items, hitems, rfl⟩ := h
  refine .list ?_
  induction hitems with
  | nil => simp
  | cons ha _ ih => exact List.forall_mem_cons.2 ⟨hvalue ha, ih⟩

end values

theorem reads_text : Reads readText WritesText := by
  rintro s - ⟨units, hunits, rfl⟩ rest
  simp [readText, hunits]

theorem reads_optionalText : Reads readOptionalText WritesOptionalText := by
  rintro s ts (_ | h) rest
  · simp [readOptionalText]
  · have hread := reads_text h rest
    obtain ⟨units, -, rfl⟩ := h
    rw [List.singleton_append] at hread ⊢
    simp [readOptionalText, hread, Except.map]

theorem reads_bool : Reads readBool WritesBool := by
  rintro b - rfl rest
  simp [readBool]

theorem reads_name {α : Type} (known : List (String × α)) :
    Reads (readName known) (WritesName known) := by
  rintro a - ⟨name, hname, units, hunits, rfl⟩ rest
  simp [readName, readKnown, hunits, hname, Except.map]

/-- A field is read into a record. -/
theorem Reads.into {α β : Type} {read : Reader β} {writes : β → List Token → Prop}
    (h : Reads read writes) {b : β} {ts : List Token} (hb : writes b ts) (put : α → β → α)
    (record : α) (rest : List Token) :
    read.into put record (ts ++ rest) = .ok (put record b, rest) := by
  simp [Reader.into, h hb rest, Except.map]

/-! ### Lists -/

theorem length_le_moreTokens (items : List (List Token)) (rest : List Token) :
    items.length ≤ (moreTokens items ++ rest).length := by
  induction items with
  | nil => exact Nat.zero_le _
  | cons item items ih =>
    simp only [moreTokens_cons, List.cons_append, List.append_assoc, List.length_cons,
      List.length_append] at ih ⊢
    omega

section lists

variable {α : Type} {item : Reader α}

/-- What does not start like the end of the list is read as an element. -/
theorem readMore_cons {t : Token} (ht : t ≠ .closeList) (fuel : Nat) (ts : List Token) :
    readMore item (fuel + 1) (.comma :: t :: ts) = do
      let (a, rest) ← item (t :: ts)
      let (as, rest) ← readMore item fuel rest
      return (a :: as, rest) := by
  rw [readMore]
  rintro us h
  exact ht (List.cons.inj h).1

theorem readList_cons {t : Token} (ht : t ≠ .closeList) (ts : List Token) :
    readList item (.openList :: t :: ts) = do
      let (a, rest) ← item (t :: ts)
      let (as, rest) ← readMore item rest.length rest
      return (a :: as, rest) := by
  rw [readList]
  rintro us h
  exact ht (List.cons.inj h).1

variable {writes : α → List Token → Prop}

theorem readMore_of_reads (h : Reads item writes) (hvalue : ∀ {a ts}, writes a ts → IsValue ts)
    {as : List α} {items : List (List Token)} (hitems : List.Forall₂ writes as items) {fuel : Nat}
    (hfuel : items.length ≤ fuel) (rest : List Token) :
    readMore item fuel (moreTokens items ++ .closeList :: rest) = .ok (as, rest) := by
  induction hitems generalizing fuel with
  | nil => simp [readMore]
  | @cons a ts as items ha _ ih =>
    cases fuel with
    | zero => simp at hfuel
    | succ fuel =>
      have hread := h ha (moreTokens items ++ .closeList :: rest)
      have hmore := ih (Nat.le_of_succ_le_succ hfuel)
      obtain ⟨t, ts, rfl, ht, -⟩ := (hvalue ha).exists_cons
      rw [moreTokens_cons, List.cons_append, List.append_assoc]
      rw [List.cons_append] at hread ⊢
      rw [readMore_cons ht, hread]
      simp only [ok_bind, hmore]
      rfl

theorem reads_list (h : Reads item writes) (hvalue : ∀ {a ts}, writes a ts → IsValue ts) :
    Reads (readList item) (WritesList writes) := by
  rintro as - ⟨items, hitems, rfl⟩ rest
  cases hitems with
  | nil => simp [listTokens, readList]
  | @cons a ts as items ha hitems =>
    have hread := h ha (moreTokens items ++ .closeList :: rest)
    have hmore := readMore_of_reads h hvalue hitems
      (length_le_moreTokens items (.closeList :: rest)) rest
    obtain ⟨t, ts, rfl, ht, -⟩ := (hvalue ha).exists_cons
    rw [listTokens_append, rowTokens_cons, List.append_assoc]
    rw [List.cons_append] at hread ⊢
    rw [readList_cons ht, hread]
    simp only [ok_bind, hmore]
    rfl

end lists

/-! ### Records -/

/-- The name that a member gives a value to, unless its codes do not pair up. -/
def Member.name? (m : Member) : Option String := unitText? m.key

namespace Layout

variable {α : Type} (layout : Layout α)

/-- The names of the fields. -/
def names : List String := layout.fields.map (·.1)

/-- The names of the fields that members give values to, in their order. -/
def given (members : List Member) : List String :=
  (members.filterMap Member.name?).filter (· ∈ layout.names)

/-- A member that gives a field what `writes` asks for, or any value to a name
    that is not known. -/
inductive Entry (writes : String → List Token → Prop) : Member → Prop where
  | known {units : List TextUnit} {name : String} (hname : unitText? units = some name)
      (hknown : name ∈ layout.names) {value : List Token} (hvalue : writes name value) :
      Entry writes ⟨units, value⟩
  | unknown {units : List TextUnit} {name : String} (hname : unitText? units = some name)
      (hunknown : name ∉ layout.names) {value : List Token} (hvalue : IsValue value) :
      Entry writes ⟨units, value⟩

/-- Members that give fields what `writes` asks for, each at most once, and
    values to other names. -/
structure Gives (writes : String → List Token → Prop) (members : List Member) : Prop where
  entry : ∀ m ∈ members, layout.Entry writes m
  once  : (layout.given members).Nodup

theorem Gives.isValue {layout : Layout α} {writes : String → List Token → Prop}
    (hvalue : ∀ {name ts}, writes name ts → IsValue ts) {members : List Member}
    (h : layout.Gives writes members) : IsValue (objectTokens members) := by
  refine .object fun m hm => ?_
  cases h.entry m hm with
  | known _ _ hwrites => exact hvalue hwrites
  | unknown _ _ hany => exact hany

/-- How every field is read: what `writes` asks for turns the record for some
    names into the record for one more. -/
def ReadsFields (writes : String → List Token → Prop) (build : List String → α) : Prop :=
  ∀ {name read}, layout.fields.lookup name = some read → ∀ {ts}, writes name ts →
    ∀ names rest, read (build names) (ts ++ rest) = .ok (build (name :: names), rest)

end Layout

section records

variable {α : Type} {layout : Layout α}

theorem lookup_eq_none_iff_names (name : String) :
    layout.fields.lookup name = none ↔ name ∉ layout.names := by
  rw [List.lookup_eq_none_iff, Layout.names, List.mem_map]
  grind

theorem exists_lookup_of_mem_names {name : String} (h : name ∈ layout.names) :
    ∃ read, layout.fields.lookup name = some read :=
  Option.ne_none_iff_exists'.1 (mt (lookup_eq_none_iff_names name).1 (not_not_intro h))

theorem mem_fields_of_lookup {name : String} {read : α → Reader α}
    (h : layout.fields.lookup name = some read) : (name, read) ∈ layout.fields := by
  obtain ⟨front, rest, hfields, -⟩ := List.lookup_eq_some_iff.1 h
  rw [hfields]
  exact List.mem_append_right _ List.mem_cons_self

theorem given_cons (m : Member) (members : List Member) :
    layout.given (m :: members) = layout.given [m] ++ layout.given members := by
  rw [← List.singleton_append, Layout.given, List.filterMap_append, List.filter_append]
  rfl

theorem given_of_known {units : List TextUnit} {name : String} (hname : unitText? units = some name)
    (hknown : name ∈ layout.names) (value : List Token) :
    layout.given [⟨units, value⟩] = [name] := by
  simp [Layout.given, Member.name?, hname, hknown]

theorem given_of_unknown {units : List TextUnit} {name : String}
    (hname : unitText? units = some name) (hunknown : name ∉ layout.names) (value : List Token) :
    layout.given [⟨units, value⟩] = [] := by
  simp [Layout.given, Member.name?, hname, hunknown]

/-- What the first of several members gives comes before what the others give. -/
theorem nodup_given_cons {m : Member} {members : List Member} {seen : List String}
    (h : (layout.given (m :: members) ++ seen).Nodup) :
    (layout.given [m]).Disjoint seen ∧
      (layout.given members ++ ((layout.given [m]).reverse ++ seen)).Nodup := by
  rw [given_cons, List.append_assoc] at h
  have hperm : (layout.given [m] ++ (layout.given members ++ seen)).Perm
      (layout.given members ++ ((layout.given [m]).reverse ++ seen)) :=
    (List.perm_append_comm_assoc _ _ _).trans
      (((List.reverse_perm _).symm.append_right seen).append_left _)
  refine ⟨fun name hname hseen => ?_, hperm.nodup h⟩
  exact (List.nodup_append.1 h).2.2 name hname name (List.mem_append_right _ hseen) rfl

variable {writes : String → List Token → Prop} {build : List String → α}

/-- Behind a member the record is again the one for the names seen. -/
theorem readMember_of_entry (h : layout.ReadsFields writes build) {m : Member}
    (hm : layout.Entry writes m) {seen : List String}
    (hfresh : (layout.given [m]).Disjoint seen) (rest : List Token) :
    readMember layout seen (build seen) m.key (.colon :: (m.value ++ rest)) =
      .ok ((layout.given [m]).reverse ++ seen, build ((layout.given [m]).reverse ++ seen), rest) := by
  cases hm with
  | @known units name hname hknown value hvalue =>
    rw [given_of_known hname hknown] at hfresh ⊢
    obtain ⟨read, hread⟩ := exists_lookup_of_mem_names hknown
    have hnew : name ∉ seen := hfresh List.mem_cons_self
    simp only [readMember, hname, hread, if_neg hnew, readColon, ok_bind, h hread hvalue seen rest]
    rfl
  | @unknown units name hname hunknown value hvalue =>
    rw [given_of_unknown hname hunknown]
    simp only [readMember, hname, (lookup_eq_none_iff_names name).2 hunknown, readColon, ok_bind,
      skipValue_append hvalue rest]
    rfl

/-- Members are read up to the end of their object. -/
theorem readMembers_of_gives (h : layout.ReadsFields writes build) {members : List Member}
    (hentries : ∀ m ∈ members, layout.Entry writes m) {seen : List String}
    (hfresh : (layout.given members ++ seen).Nodup) {fuel : Nat} (hfuel : members.length ≤ fuel)
    (rest : List Token) :
    readMembers layout fuel seen (build seen)
        (moreTokens (members.map Member.tokens) ++ .closeObject :: rest) =
      .ok ((layout.given members).reverse ++ seen,
        build ((layout.given members).reverse ++ seen), rest) := by
  induction members generalizing seen fuel with
  | nil => simp [readMembers, Layout.given]
  | cons m members ih =>
    cases fuel with
    | zero => simp at hfuel
    | succ fuel =>
      obtain ⟨hm, hentries⟩ := List.forall_mem_cons.1 hentries
      -- what this member gives is new, and the others may not give it again
      obtain ⟨hnew, hfresh⟩ := nodup_given_cons hfresh
      have hmember := readMember_of_entry h hm hnew
        (moreTokens (members.map Member.tokens) ++ .closeObject :: rest)
      have hmore := ih hentries hfresh (Nat.le_of_succ_le_succ hfuel)
      rw [moreTokens_map_cons, readMembers, hmember, ok_bind]
      simp only [hmore, given_cons m members, List.reverse_append, List.append_assoc]

/-- An object that gives fields is read as the record for their names. -/
theorem readObject_of_gives (h : layout.ReadsFields writes build) {members : List Member}
    (hgives : layout.Gives writes members) (rest : List Token) :
    readObject layout (build [])
        (rowTokens (members.map Member.tokens) ++ .closeObject :: rest) =
      .ok ((layout.given members).reverse, build (layout.given members).reverse, rest) := by
  cases members with
  | nil => simp [readObject, Layout.given]
  | cons m members =>
    obtain ⟨hm, hentries⟩ := List.forall_mem_cons.1 hgives.entry
    have honce : (layout.given (m :: members) ++ []).Nodup := by
      rw [List.append_nil]
      exact hgives.once
    obtain ⟨hnew, hfresh⟩ := nodup_given_cons honce
    have hmember := readMember_of_entry h hm hnew
      (moreTokens (members.map Member.tokens) ++ .closeObject :: rest)
    have hlength := length_le_moreTokens (members.map Member.tokens) (.closeObject :: rest)
    rw [List.length_map] at hlength
    have hmore := readMembers_of_gives h hentries hfresh hlength rest
    rw [rowTokens_map_cons, readObject, hmember, ok_bind]
    simp only [hmore]
    rw [given_cons m members, List.reverse_append, List.append_nil]

/-- A record over defaults. -/
theorem readOver_of_gives (h : layout.ReadsFields writes build) {members : List Member}
    (hgives : layout.Gives writes members) (rest : List Token) :
    readOver layout (build []) (objectTokens members ++ rest) =
      .ok (build (layout.given members).reverse, rest) := by
  rw [objectTokens_append, readOver, readObject_of_gives h hgives, ok_bind]
  rfl

/-- A record that gives every field. -/
theorem readWhole_of_gives (h : layout.ReadsFields writes build) {members : List Member}
    (hgives : layout.Gives writes members) (hall : ∀ name ∈ layout.names, name ∈ layout.given members)
    (rest : List Token) :
    readWhole layout (build []) (objectTokens members ++ rest) =
      .ok (build (layout.given members).reverse, rest) := by
  have hfind : layout.fields.find? (·.1 ∉ (layout.given members).reverse) = none := by
    rw [List.find?_eq_none]
    intro field hfield
    have hname : field.1 ∈ layout.given members := hall _ (List.mem_map_of_mem hfield)
    simpa using hname
  rw [objectTokens_append, readWhole, readObject_of_gives h hgives, ok_bind]
  simp only [hfind]
  rfl

end records

end LayeredRoots.Json
