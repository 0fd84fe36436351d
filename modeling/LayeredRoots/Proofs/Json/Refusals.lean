import LayeredRoots.Proofs.Json.Records

/-! # A field is given once

    An object that gives a known field twice is refused at the second key,
    whatever follows it (`refuses_readOver_of_repeats`).  To find the second key
    one has to know where the readers of the members before it stop:

    - a reader that is offered a whole value takes this value and nothing else,
      or fails (`TakesValue`);
    - so a reader of members that succeeds has been at every member, and it has
      seen the names of those before it (`exists_readMembers_of_append`). -/

namespace LayeredRoots.Json

/-! ### Results -/

theorem exists_of_bind_eq_ok {ε α β : Type} {x : Except ε α} {f : α → Except ε β} {b : β}
    (h : (x >>= f) = .ok b) : ∃ a, x = .ok a ∧ f a = .ok b := by
  cases x with
  | error e => cases h
  | ok a => exact ⟨a, rfl, h⟩

theorem exists_of_map_eq_ok {ε α β : Type} {x : Except ε α} {f : α → β} {b : β}
    (h : x.map f = .ok b) : ∃ a, x = .ok a ∧ f a = b := by
  cases x with
  | error e => cases h
  | ok a => exact ⟨a, rfl, Except.ok.inj h⟩

/-- Results with a value and what is left behind it. -/
theorem left_of_ok {α : Type} {a b : α} {rest left : List Token}
    (h : (Except.ok (a, rest) : Except Fault (α × List Token)) = .ok (b, left)) : left = rest :=
  (Prod.mk.inj (Except.ok.inj h)).2.symm

/-- Results with two values. -/
theorem left_of_ok_two {α β : Type} {a a' : α} {b b' : β} {rest left : List Token}
    (h : (Except.ok (a, b, rest) : Except Fault (α × β × List Token)) = .ok (a', b', left)) :
    left = rest :=
  (Prod.mk.inj (Prod.mk.inj (Except.ok.inj h)).2).2.symm

/-! ### Readers of single values -/

/-- A reader that is offered a value takes it, and nothing else, or fails. -/
def TakesValue {α : Type} (read : Reader α) : Prop :=
  ∀ {ts}, IsValue ts → ∀ {rest a left}, read (ts ++ rest) = .ok (a, left) → left = rest

theorem takesValue_text : TakesValue readText := by
  intro ts hts rest s left h
  cases hts with
  | text units =>
    simp only [List.singleton_append, readText] at h
    split at h
    · exact left_of_ok h
    · cases h
  | null | bool | number | list | object => cases h

theorem takesValue_optionalText : TakesValue readOptionalText := by
  intro ts hts rest s left h
  cases hts with
  | null => exact left_of_ok h
  | text units =>
    obtain ⟨⟨s, left'⟩, hread, hpair⟩ := exists_of_map_eq_ok h
    obtain ⟨-, rfl⟩ := Prod.mk.inj hpair
    exact takesValue_text (.text units) hread
  | bool | number | list | object => cases h

theorem takesValue_bool : TakesValue readBool := by
  intro ts hts rest b left h
  cases hts with
  | bool b => exact left_of_ok h
  | null | text | number | list | object => cases h

theorem takesValue_name {α : Type} (known : List (String × α)) : TakesValue (readName known) := by
  intro ts hts rest a left h
  cases hts with
  | text units =>
    obtain ⟨a, -, hpair⟩ := exists_of_map_eq_ok h
    exact (Prod.mk.inj hpair).2.symm
  | @object members hmembers =>
    rw [objectTokens_append] at h
    cases members with
    | nil => cases h
    | cons m members =>
      obtain ⟨units, value⟩ := m
      rw [rowTokens_map_cons, readName] at h
      cases hknown : readKnown known units with
      | error fault =>
        rw [hknown] at h
        cases h
      | ok b =>
        rw [hknown] at h
        -- only a null, and nothing behind it, may stand there
        cases hmembers ⟨units, value⟩ List.mem_cons_self with
        | null =>
          cases members with
          | nil => exact left_of_ok h
          | cons => cases h
        | bool | text | number | list | object => cases h
  | null | bool | number | list => cases h

theorem TakesValue.into {α β : Type} {read : Reader β} (h : TakesValue read) (put : α → β → α)
    (record : α) : TakesValue (read.into put record) := by
  intro ts hts rest a left hinto
  obtain ⟨⟨b, left'⟩, hread, hpair⟩ := exists_of_map_eq_ok hinto
  obtain ⟨-, rfl⟩ := Prod.mk.inj hpair
  exact h hts hread

/-! ### Lists -/

section lists

variable {α : Type} {item : Reader α}

/-- An element that was read has been read by the reader of elements. -/
theorem exists_of_readMore {fuel : Nat} {t : Token} (ht : t ≠ .closeList) {ts left : List Token}
    {as : List α} (h : readMore item fuel (.comma :: t :: ts) = .ok (as, left)) :
    ∃ fuel a rest as, item (t :: ts) = .ok (a, rest) ∧ readMore item fuel rest = .ok (as, left) := by
  cases fuel with
  | zero => cases t <;> cases h
  | succ fuel =>
    rw [readMore_cons ht] at h
    obtain ⟨⟨a, rest⟩, hitem, h⟩ := exists_of_bind_eq_ok h
    obtain ⟨⟨as, left⟩, hmore, hpair⟩ := exists_of_bind_eq_ok h
    obtain ⟨-, rfl⟩ := Prod.mk.inj (Except.ok.inj hpair)
    exact ⟨fuel, a, rest, as, hitem, hmore⟩

/-- A reader of elements that succeeds has been at every element. -/
theorem exists_readMore_of_append (h : TakesValue item) {items : List (List Token)}
    (hitems : ∀ ts ∈ items, IsValue ts) {fuel : Nat} {rest left : List Token} {as : List α}
    (hread : readMore item fuel (moreTokens items ++ rest) = .ok (as, left)) :
    ∃ fuel as, readMore item fuel rest = .ok (as, left) := by
  induction items generalizing fuel as with
  | nil => exact ⟨fuel, as, hread⟩
  | cons ts items ih =>
    obtain ⟨hts, hitems⟩ := List.forall_mem_cons.1 hitems
    obtain ⟨t, more, hcons, ht, -⟩ := hts.exists_cons
    rw [moreTokens_cons, List.cons_append, List.append_assoc, hcons, List.cons_append] at hread
    obtain ⟨fuel, a, left', as, hfirst, hmore⟩ := exists_of_readMore ht hread
    rw [← List.cons_append, ← hcons] at hfirst
    obtain rfl := h hts hfirst
    exact ih hitems hmore

/-- The elements of a list are read like elements behind a comma. -/
theorem exists_readMore_of_readList {t : Token} (ht : t ≠ .closeList) {ts left : List Token}
    {as : List α} (h : readList item (.openList :: t :: ts) = .ok (as, left)) :
    ∃ fuel, readMore item fuel (.comma :: t :: ts) = .ok (as, left) := by
  rw [readList_cons ht] at h
  obtain ⟨⟨a, rest⟩, hfirst, h⟩ := exists_of_bind_eq_ok h
  refine ⟨rest.length + 1, ?_⟩
  rw [readMore_cons ht, hfirst]
  exact h

/-- So whoever reads a list has read every element in it. -/
theorem exists_item_of_readList (h : TakesValue item) {items : List (List Token)}
    (hitems : ∀ ts ∈ items, IsValue ts) {t : Token} (ht : t ≠ .closeList)
    {last rest left : List Token} {as : List α}
    (hread : readList item (.openList :: (rowTokens (items ++ [t :: last]) ++ rest)) =
      .ok (as, left)) :
    ∃ r, item (t :: last ++ rest) = .ok r := by
  have hstart : ∃ t' ts, t' ≠ .closeList ∧ rowTokens (items ++ [t :: last]) ++ rest = t' :: ts := by
    cases items with
    | nil => exact ⟨t, last ++ rest, ht, by simp [rowTokens_cons]⟩
    | cons ts items =>
      obtain ⟨t', more, rfl, ht', -⟩ := (hitems ts List.mem_cons_self).exists_cons
      exact ⟨t', _, ht', by rw [List.cons_append, rowTokens_cons]; rfl⟩
  obtain ⟨t', ts, ht', hts⟩ := hstart
  rw [hts] at hread
  obtain ⟨fuel, hmore⟩ := exists_readMore_of_readList ht' hread
  rw [← hts, ← List.cons_append, comma_rowTokens (by simp), moreTokens_concat,
    List.append_assoc] at hmore
  obtain ⟨fuel, as, hlast⟩ := exists_readMore_of_append h hitems hmore
  rw [List.cons_append, List.cons_append] at hlast
  obtain ⟨-, a, left', -, hitem, -⟩ := exists_of_readMore ht hlast
  exact ⟨(a, left'), hitem⟩

theorem takesValue_list (h : TakesValue item) : TakesValue (readList item) := by
  intro ts hts rest as left hread
  cases hts with
  | @list items hitems =>
    rw [listTokens_append] at hread
    -- the last thing that is read is the bracket behind all elements
    cases items with
    | nil => exact left_of_ok hread
    | cons ts items =>
      obtain ⟨t, more, rfl, ht, -⟩ := (hitems ts List.mem_cons_self).exists_cons
      rw [rowTokens_cons, List.append_assoc, List.cons_append] at hread
      obtain ⟨fuel, hmore⟩ := exists_readMore_of_readList ht hread
      have hall : readMore item fuel (moreTokens ((t :: more) :: items) ++ .closeList :: rest) =
          .ok (as, left) := by
        rw [moreTokens_cons, List.cons_append, List.append_assoc]
        exact hmore
      obtain ⟨fuel, as, hend⟩ := exists_readMore_of_append h hitems hall
      rw [readMore] at hend
      exact left_of_ok hend
  | null | bool | text | number | object => cases hread

end lists

/-! ### Records -/

/-- The fields of a record take values. -/
def Layout.TakesValues {α : Type} (layout : Layout α) : Prop :=
  ∀ field ∈ layout.fields, ∀ record, TakesValue (field.2 record)

section records

variable {α : Type} {layout : Layout α} (hlayout : layout.TakesValues)
include hlayout

/-- Behind a member that was read its name has been seen. -/
theorem eq_of_readMember {m : Member} (hm : IsValue m.value) {seen seen' : List String}
    {record record' : α} {rest left : List Token}
    (h : readMember layout seen record m.key (.colon :: (m.value ++ rest)) =
      .ok (seen', record', left)) :
    left = rest ∧ layout.given [m] ⊆ seen' ∧ seen ⊆ seen' := by
  obtain ⟨units, value⟩ := m
  unfold readMember at h
  split at h
  · cases h
  · next name hname =>
    split at h
    · next hunknown =>
      rw [given_of_unknown hname ((lookup_eq_none_iff_names name).1 hunknown)]
      simp only [readColon, ok_bind, skipValue_append hm rest] at h
      obtain ⟨rfl, hpair⟩ := Prod.mk.inj (Except.ok.inj h)
      obtain ⟨-, rfl⟩ := Prod.mk.inj hpair
      exact ⟨rfl, List.nil_subset _, List.Subset.refl _⟩
    · next read hread =>
      have hfield := mem_fields_of_lookup hread
      rw [given_of_known hname (List.mem_map_of_mem hfield)]
      split at h
      · cases h
      · rw [readColon, ok_bind] at h
        obtain ⟨⟨record', left'⟩, hvalue, hresult⟩ := exists_of_bind_eq_ok h
        obtain ⟨rfl, hpair⟩ := Prod.mk.inj (Except.ok.inj hresult)
        obtain ⟨-, rfl⟩ := Prod.mk.inj hpair
        exact ⟨hlayout _ hfield record hm hvalue, by simp, List.subset_cons_self _ _⟩

/-- A reader of members that succeeds has been at every member. -/
theorem exists_readMembers_of_append {members : List Member}
    (hmembers : ∀ m ∈ members, IsValue m.value) {fuel : Nat} {seen : List String} {record : α}
    {rest : List Token} {r : List String × α × List Token}
    (h : readMembers layout fuel seen record (moreTokens (members.map Member.tokens) ++ rest) =
      .ok r) :
    ∃ fuel seen' record, readMembers layout fuel seen' record rest = .ok r ∧
      layout.given members ⊆ seen' ∧ seen ⊆ seen' := by
  induction members generalizing fuel seen record with
  | nil => exact ⟨fuel, seen, record, h, List.nil_subset _, List.Subset.refl _⟩
  | cons m members ih =>
    obtain ⟨hm, hmembers⟩ := List.forall_mem_cons.1 hmembers
    rw [moreTokens_map_cons] at h
    cases fuel with
    | zero => cases h
    | succ fuel =>
      obtain ⟨⟨seen₁, record₁, left⟩, hmember, h⟩ := exists_of_bind_eq_ok h
      obtain ⟨rfl, hfirst, hseen⟩ := eq_of_readMember hlayout hm hmember
      obtain ⟨fuel, seen₂, record₂, hrest, hgiven, hmore⟩ := ih hmembers h
      refine ⟨fuel, seen₂, record₂, hrest, ?_, List.Subset.trans hseen hmore⟩
      rw [given_cons]
      exact List.append_subset.2 ⟨List.Subset.trans hfirst hmore, hgiven⟩

omit hlayout in
/-- The members of an object are read like members behind a comma. -/
theorem exists_readMembers_of_readObject {record : α} {units : List TextUnit} {ts : List Token}
    {r : List String × α × List Token} (h : readObject layout record (.text units :: ts) = .ok r) :
    ∃ fuel, readMembers layout fuel [] record (.comma :: .text units :: ts) = .ok r := by
  obtain ⟨⟨seen, record', rest⟩, hmember, hmore⟩ := exists_of_bind_eq_ok h
  refine ⟨rest.length + 1, ?_⟩
  rw [readMembers, hmember]
  exact hmore

/-- So whoever reads an object comes to every key in it, and has seen the names
    in front of it. -/
theorem exists_readMember_of_readObject {members : List Member}
    (hmembers : ∀ m ∈ members, IsValue m.value) {units : List TextUnit} {last rest : List Token}
    {record : α} {r : List String × α × List Token}
    (h : readObject layout record
      (rowTokens (members.map Member.tokens ++ [.text units :: last]) ++ rest) = .ok r) :
    ∃ seen record r, layout.given members ⊆ seen ∧
      readMember layout seen record units (last ++ rest) = .ok r := by
  have hstart : ∃ units' ts, rowTokens (members.map Member.tokens ++ [.text units :: last]) ++ rest =
      .text units' :: ts := by
    cases members with
    | nil => exact ⟨units, _, rfl⟩
    | cons m members =>
      exact ⟨m.key, _, by rw [List.map_cons, List.cons_append, rowTokens_cons]; rfl⟩
  obtain ⟨units', ts, hts⟩ := hstart
  -- with a comma in front the first member is like the others
  rw [hts] at h
  obtain ⟨fuel, h⟩ := exists_readMembers_of_readObject h
  rw [← hts, ← List.cons_append, comma_rowTokens (by simp), moreTokens_concat, List.append_assoc] at h
  obtain ⟨fuel, seen, record, h, hseen, -⟩ := exists_readMembers_of_append hlayout hmembers h
  cases fuel with
  | zero => cases h
  | succ fuel =>
    obtain ⟨r, hmember, -⟩ := exists_of_bind_eq_ok h
    exact ⟨seen, record, r, hseen, hmember⟩

theorem eq_of_readObject {members : List Member} (hmembers : ∀ m ∈ members, IsValue m.value)
    {record record' : α} {rest left : List Token} {seen : List String}
    (h : readObject layout record
      (rowTokens (members.map Member.tokens) ++ .closeObject :: rest) = .ok (seen, record', left)) :
    left = rest := by
  cases members with
  | nil =>
    exact left_of_ok_two h
  | cons m members =>
    rw [rowTokens_map_cons] at h
    obtain ⟨fuel, h⟩ := exists_readMembers_of_readObject h
    rw [← moreTokens_map_cons] at h
    obtain ⟨fuel, seen', record', h, -, -⟩ := exists_readMembers_of_append hlayout hmembers h
    rw [readMembers] at h
    exact left_of_ok_two h

end records

/-! ### Records in lists -/

section positions

variable {α : Type} {name : String} {read : α → Reader α} {fields : List (String × (α → Reader α))}

theorem readPositions_first (record : α) {t : Token} (ht : t ≠ .closeList) (ts : List Token) :
    readPositions 0 record ((name, read) :: fields) (t :: ts) = (do
      let (record, rest) ← read record (t :: ts)
      readPositions 1 record fields rest) := by
  cases t <;> first | rfl | exact absurd rfl ht

theorem readPositions_next (index : Nat) (record : α) {t : Token} (ht : t ≠ .closeList)
    (ts : List Token) :
    readPositions (index + 1) record ((name, read) :: fields) (.comma :: t :: ts) = (do
      let (record, rest) ← read record (t :: ts)
      readPositions (index + 2) record fields rest) := by
  cases t <;> first | rfl | exact absurd rfl ht

theorem readPositions_closeList (index : Nat) (record : α) (rest : List Token) :
    readPositions index record fields (.closeList :: rest) = .ok (record, index, rest) := by
  rw [readPositions]

theorem eq_of_readPositions_next
    (hfields : ∀ field ∈ fields, ∀ record, TakesValue (field.2 record))
    {items : List (List Token)} (hitems : ∀ ts ∈ items, IsValue ts) {index count : Nat}
    {record record' : α} {rest left : List Token}
    (h : readPositions (index + 1) record fields (moreTokens items ++ .closeList :: rest) =
      .ok (record', count, left)) : left = rest := by
  induction items generalizing fields index record with
  | nil =>
    rw [moreTokens_nil, List.nil_append, readPositions_closeList] at h
    exact left_of_ok_two h
  | cons ts items ih =>
    obtain ⟨hts, hitems⟩ := List.forall_mem_cons.1 hitems
    cases fields with
    | nil => cases h
    | cons field fields =>
      obtain ⟨hfield, hfields⟩ := List.forall_mem_cons.1 hfields
      obtain ⟨t, more, hcons, ht, -⟩ := hts.exists_cons
      rw [moreTokens_cons, List.cons_append, List.append_assoc, hcons, List.cons_append,
        readPositions_next index record ht, ← List.cons_append, ← hcons] at h
      obtain ⟨⟨record₁, left₁⟩, hread, h⟩ := exists_of_bind_eq_ok h
      obtain rfl := hfield record hts hread
      exact ih hfields hitems h

/-- The members of a record in a list take that list. -/
theorem eq_of_readPositions
    (hfields : ∀ field ∈ fields, ∀ record, TakesValue (field.2 record))
    {items : List (List Token)} (hitems : ∀ ts ∈ items, IsValue ts) {count : Nat}
    {record record' : α} {rest left : List Token}
    (h : readPositions 0 record fields (rowTokens items ++ .closeList :: rest) =
      .ok (record', count, left)) : left = rest := by
  cases items with
  | nil =>
    rw [rowTokens_nil, List.nil_append, readPositions_closeList] at h
    exact left_of_ok_two h
  | cons ts items =>
    obtain ⟨hts, hitems⟩ := List.forall_mem_cons.1 hitems
    obtain ⟨t, more, hcons, ht, -⟩ := hts.exists_cons
    cases fields with
    | nil =>
      rw [rowTokens_cons, List.append_assoc, hcons, List.cons_append, readPositions] at h
      · cases h
      · rintro us hus
        exact ht (List.cons.inj hus).1
    | cons field fields =>
      obtain ⟨hfield, hfields⟩ := List.forall_mem_cons.1 hfields
      rw [rowTokens_cons, List.append_assoc, hcons, List.cons_append,
        readPositions_first record ht, ← List.cons_append, ← hcons] at h
      obtain ⟨⟨record₁, left₁⟩, hread, h⟩ := exists_of_bind_eq_ok h
      obtain rfl := hfield record hts hread
      exact eq_of_readPositions_next hfields hitems h

end positions

theorem takesValue_whole {α : Type} {layout : Layout α} (h : layout.TakesValues) (blank : α) :
    TakesValue (readWhole layout blank) := by
  intro ts hts rest record left hread
  cases hts with
  | list hitems =>
    rw [listTokens_append, readWhole] at hread
    obtain ⟨⟨record', count, left'⟩, hpositions, hread⟩ := exists_of_bind_eq_ok hread
    dsimp only at hread
    split at hread
    · cases hread
    · obtain ⟨-, rfl⟩ := Prod.mk.inj (Except.ok.inj hread)
      exact eq_of_readPositions h hitems hpositions
  | object hmembers =>
    rw [objectTokens_append, readWhole] at hread
    obtain ⟨⟨seen, record', left'⟩, hobject, hread⟩ := exists_of_bind_eq_ok hread
    dsimp only at hread
    split at hread
    · cases hread
    · obtain ⟨-, rfl⟩ := Prod.mk.inj (Except.ok.inj hread)
      exact eq_of_readObject h hmembers hobject
  | null | bool | text | number => cases hread

/-! ### Refusals -/

/-- No row of tokens that starts like this is read. -/
def Refuses {α : Type} (read : Reader α) (front : List Token) : Prop :=
  ∀ rest r, read (front ++ rest) ≠ .ok r

/-- The start of an object, up to a key for a field that was given before. -/
inductive Layout.Repeats {α : Type} (layout : Layout α) : List Token → Prop where
  | again {members : List Member} (hmembers : ∀ m ∈ members, IsValue m.value)
      {units : List TextUnit} {name : String} (hname : unitText? units = some name)
      (hagain : name ∈ layout.given members) :
      Repeats layout
        (.openObject :: rowTokens (members.map Member.tokens ++ [[.text units]]))

theorem apart_append_last {items : List (List Token)} (hitems : ∀ item ∈ items, Apart item)
    {last : List Token} (hlast : Apart last) : Apart (rowTokens (items ++ [last])) := by
  refine apart_rowTokens fun item hitem => ?_
  obtain hitem | hitem := List.mem_append.1 hitem
  · exact hitems item hitem
  · obtain rfl := List.mem_singleton.1 hitem
    exact hlast

/-- Such a start ends in a key, and the numbers in it stand apart. -/
theorem Layout.Repeats.ends {α : Type} {layout : Layout α} {front : List Token}
    (h : layout.Repeats front) : Apart front ∧ ∃ before units, front = before ++ [.text units] := by
  obtain @⟨members, hmembers, units, name, -, -⟩ := h
  obtain ⟨before, hbefore⟩ := exists_rowTokens_concat (members.map Member.tokens) [.text units]
  refine ⟨?_, .openObject :: before, units, by rw [hbefore]; rfl⟩
  exact (apart_append_last (apart_members fun m hm => (hmembers m hm).apart)
    (List.isChain_singleton _)).cons rfl

section refusals

variable {α : Type} {layout : Layout α} (h : layout.TakesValues) {front : List Token}
include h

/-- A second key for a field is not got past. -/
theorem readObject_ne_ok_of_repeats (hfront : layout.Repeats (.openObject :: front)) (record : α)
    (rest : List Token) (r : List String × α × List Token) :
    readObject layout record (front ++ rest) ≠ .ok r := by
  intro hread
  obtain @⟨members, hmembers, units, name, hname, hagain⟩ := hfront
  obtain ⟨seen, record, r, hseen, hmember⟩ := exists_readMember_of_readObject h hmembers hread
  have hknown : name ∈ layout.names := of_decide_eq_true (List.mem_filter.1 hagain).2
  obtain ⟨read, hlookup⟩ := exists_lookup_of_mem_names hknown
  simp only [readMember, hname, hlookup, if_pos (hseen hagain)] at hmember
  cases hmember

theorem refuses_readOver_of_repeats (hfront : layout.Repeats front) (record : α) :
    Refuses (readOver layout record) front := by
  obtain ⟨ts, rfl⟩ : ∃ ts, front = .openObject :: ts := by cases hfront; exact ⟨_, rfl⟩
  intro rest r hread
  obtain ⟨r, hobject, -⟩ := exists_of_bind_eq_ok hread
  exact readObject_ne_ok_of_repeats h hfront record rest r hobject

theorem refuses_readWhole_of_repeats (hfront : layout.Repeats front) (record : α) :
    Refuses (readWhole layout record) front := by
  obtain ⟨ts, rfl⟩ : ∃ ts, front = .openObject :: ts := by cases hfront; exact ⟨_, rfl⟩
  intro rest r hread
  obtain ⟨r, hobject, -⟩ := exists_of_bind_eq_ok hread
  exact readObject_ne_ok_of_repeats h hfront record rest r hobject

/-- Nor is what its field refuses. -/
theorem refuses_readOver_of_field {members : List Member}
    (hmembers : ∀ m ∈ members, IsValue m.value) {units : List TextUnit} {name : String}
    (hname : unitText? units = some name) {read : α → Reader α}
    (hread : layout.fields.lookup name = some read) (hfront : ∀ record, Refuses (read record) front)
    (record : α) :
    Refuses (readOver layout record)
      (.openObject :: rowTokens (members.map Member.tokens ++ [.text units :: .colon :: front])) := by
  intro rest r hover
  obtain ⟨r, hobject, -⟩ := exists_of_bind_eq_ok hover
  obtain ⟨seen, record, r, -, hmember⟩ := exists_readMember_of_readObject h hmembers hobject
  simp only [readMember, hname, hread, List.cons_append, readColon, ok_bind] at hmember
  split at hmember
  · cases hmember
  · obtain ⟨r, hfield, -⟩ := exists_of_bind_eq_ok hmember
    exact hfront record rest r hfield

end refusals

theorem Refuses.into {α β : Type} {read : Reader β} {front : List Token} (h : Refuses read front)
    (put : α → β → α) (record : α) : Refuses (read.into put record) front := by
  intro rest r hinto
  obtain ⟨r, hread, -⟩ := exists_of_map_eq_ok hinto
  exact h rest r hread

/-- A list is refused with any of its elements. -/
theorem refuses_list {α : Type} {item : Reader α} (h : TakesValue item)
    {items : List (List Token)} (hitems : ∀ ts ∈ items, IsValue ts) {t : Token}
    (ht : t ≠ .closeList) {front : List Token} (hfront : Refuses item (t :: front)) :
    Refuses (readList item) (.openList :: rowTokens (items ++ [t :: front])) := by
  rintro rest ⟨as, left⟩ hread
  obtain ⟨r, hitem⟩ := exists_item_of_readList h hitems ht hread
  exact hfront rest r hitem

end LayeredRoots.Json
