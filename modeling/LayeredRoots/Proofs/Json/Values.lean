import LayeredRoots.Json.Skip
import LayeredRoots.Proofs.Json.Scanning

/-! # Values are skipped whole

    Two facts about every value, each by induction on the value:

    - the numbers in it stand apart (`IsValue.apart`), so a text laid out in its
      tokens is read as these;
    - whoever skips a value lands right behind it (`skipValue_append`).

    The second is proved for any stack of open brackets.  At the end of a value
    the stack is what it was at its start (`skipFrom_value`), however many
    brackets the value itself opens. -/

namespace LayeredRoots.Json

/-! ### Numbers stand apart -/

theorem apart_nil : Apart [] := List.isChain_nil

/-- A token that is no number may stand in front of everything. -/
theorem Apart.cons {t : Token} {ts : List Token} (ht : t.isNumber = false) (h : Apart ts) :
    Apart (t :: ts) :=
  List.isChain_cons.2 ⟨fun _ _ hyes => by simp [ht] at hyes, h⟩

/-- And it divides what stands in front of it from what stands behind. -/
theorem Apart.append_cons {t : Token} {ts us : List Token} (h : Apart ts)
    (ht : t.isNumber = false) (h' : Apart us) : Apart (ts ++ t :: us) := by
  refine List.isChain_append.2 ⟨h, h'.cons ht, fun _ _ u hu _ => ?_⟩
  obtain rfl : t = u := Option.some.inj hu
  exact ht

theorem apart_moreTokens_append {items : List (List Token)} (h : ∀ item ∈ items, Apart item)
    {t : Token} (ht : t.isNumber = false) {us : List Token} (h' : Apart us) {front : List Token}
    (hfront : Apart front) : Apart (front ++ (moreTokens items ++ t :: us)) := by
  induction items generalizing front with
  | nil => exact hfront.append_cons ht h'
  | cons item items ih =>
    obtain ⟨hitem, hitems⟩ := List.forall_mem_cons.1 h
    rw [moreTokens_cons, List.cons_append, List.append_assoc]
    exact hfront.append_cons rfl (ih hitems hitem)

/-- Rows of tokens with commas between them and a bracket behind them. -/
theorem apart_rowTokens_append {items : List (List Token)} (h : ∀ item ∈ items, Apart item)
    {t : Token} (ht : t.isNumber = false) {us : List Token} (h' : Apart us) :
    Apart (rowTokens items ++ t :: us) := by
  cases items with
  | nil => exact h'.cons ht
  | cons item items =>
    obtain ⟨hitem, hitems⟩ := List.forall_mem_cons.1 h
    rw [rowTokens_cons, List.append_assoc]
    exact apart_moreTokens_append hitems ht h' hitem

theorem apart_rowTokens {items : List (List Token)} (h : ∀ item ∈ items, Apart item) :
    Apart (rowTokens items) := by
  have hcomma : Apart (rowTokens items ++ [.comma]) := apart_rowTokens_append h rfl apart_nil
  exact hcomma.left_of_append

theorem Member.apart_tokens {m : Member} (h : Apart m.value) : Apart m.tokens :=
  (h.cons rfl).cons rfl

theorem apart_members {members : List Member} (h : ∀ m ∈ members, Apart m.value) :
    ∀ item ∈ members.map Member.tokens, Apart item := by
  intro item hitem
  obtain ⟨m, hm, rfl⟩ := List.mem_map.1 hitem
  exact Member.apart_tokens (h m hm)

theorem IsValue.apart {ts : List Token} (h : IsValue ts) : Apart ts := by
  induction h with
  | null | bool | text | number => exact List.isChain_singleton _
  | list _ ih => exact (apart_rowTokens_append ih rfl apart_nil).cons rfl
  | object _ ih => exact (apart_rowTokens_append (apart_members ih) rfl apart_nil).cons rfl

/-! ### Skipping -/

/-- How skipping goes on behind a value. -/
def skipBehind (stack : List Frame) (rest : List Token) : Option (List Token) :=
  if stack.isEmpty then some rest else skipFrom .more stack rest

/-- The first element of a list is skipped like any value. -/
theorem skipFrom_firstElement (frame : Frame) (stack : List Frame) {ts : List Token}
    (h : IsValue ts) (rest : List Token) :
    skipFrom .firstElement (frame :: stack) (ts ++ rest) =
      skipFrom .value (frame :: stack) (ts ++ rest) := by
  cases h with
  | null | bool | text | number => simp [skipFrom]
  | list | object => simp [listTokens, objectTokens, skipFrom]

section skipping

variable {stack : List Frame} {rest : List Token}

theorem skipFrom_moreTokens {items : List (List Token)}
    (h : ∀ item ∈ items, ∀ stack rest,
      skipFrom .value stack (item ++ rest) = skipBehind stack rest) :
    skipFrom .more (.list :: stack) (moreTokens items ++ .closeList :: rest) =
      skipBehind stack rest := by
  induction items with
  | nil => simp [skipFrom, skipBehind]
  | cons item items ih =>
    obtain ⟨hitem, hitems⟩ := List.forall_mem_cons.1 h
    simp only [moreTokens_cons, List.cons_append, List.append_assoc, skipFrom, hitem]
    exact ih hitems

theorem skipFrom_moreMembers {members : List Member}
    (h : ∀ m ∈ members, ∀ stack rest,
      skipFrom .value stack (m.value ++ rest) = skipBehind stack rest) :
    skipFrom .more (.object :: stack)
        (moreTokens (members.map Member.tokens) ++ .closeObject :: rest) =
      skipBehind stack rest := by
  induction members with
  | nil => simp [skipFrom, skipBehind]
  | cons m members ih =>
    obtain ⟨hm, hmembers⟩ := List.forall_mem_cons.1 h
    simp only [moreTokens_map_cons, skipFrom, hm]
    exact ih hmembers

/-- Behind a value the open brackets are those in front of it. -/
theorem skipFrom_value {ts : List Token} (h : IsValue ts) (stack : List Frame)
    (rest : List Token) :
    skipFrom .value stack (ts ++ rest) = skipBehind stack rest := by
  -- the stack is free, because the parts of a value stand inside its bracket
  induction h generalizing stack rest with
  | null | bool | text | number => simp [skipFrom, skipBehind]
  | @list items hitems ih =>
    rw [listTokens_append]
    cases items with
    | nil => simp [skipFrom, skipBehind]
    | cons item items =>
      obtain ⟨hitem, -⟩ := List.forall_mem_cons.1 hitems
      obtain ⟨ihitem, ihitems⟩ := List.forall_mem_cons.1 ih
      rw [rowTokens_cons, List.append_assoc, skipFrom, skipFrom_firstElement _ _ hitem, ihitem]
      exact skipFrom_moreTokens ihitems
  | @object members hmembers ih =>
    rw [objectTokens_append]
    cases members with
    | nil => simp [skipFrom, skipBehind]
    | cons m members =>
      obtain ⟨ihm, ihmembers⟩ := List.forall_mem_cons.1 ih
      simp only [rowTokens_map_cons, skipFrom, ihm]
      exact skipFrom_moreMembers ihmembers

/-- A value is skipped up to its end. -/
theorem skipValue_append {ts : List Token} (h : IsValue ts) (rest : List Token) :
    skipValue (ts ++ rest) = some rest :=
  skipFrom_value h [] rest

end skipping

end LayeredRoots.Json
