import LayeredRoots.Proofs.Path.Steps

/-! # What a valid configuration says

    A configuration without a flaw violates none of the conditions, each of
    which is spelt out here.  For the paths of resources they come to this: a
    path that starts with the namespace is relative, and its steps start with
    those of the namespace (`components_below_namespace`). -/

namespace LayeredRoots

/-! ### Prefixes of texts -/

namespace Text

theorem hasPrefix_iff {start s : String} :
    hasPrefix start s = true ↔ ∃ rest, s = start ++ rest := by
  unfold hasPrefix
  rw [List.isPrefixOf_iff_prefix]
  constructor
  · rintro ⟨rest, hrest⟩
    refine ⟨String.ofList rest, ?_⟩
    rw [← String.toList_inj, String.toList_append, String.toList_ofList, hrest]
  · rintro ⟨rest, rfl⟩
    rw [String.toList_append]
    exact List.prefix_append _ _

theorem endsIn_iff {c : Char} {s : String} :
    endsIn c s = true ↔ ∃ init, s = init ++ c.toString := by
  unfold endsIn
  rw [decide_eq_true_iff, List.getLast?_eq_some_iff]
  constructor
  · rintro ⟨init, hinit⟩
    refine ⟨String.ofList init, ?_⟩
    rw [← String.toList_inj, hinit, String.toList_append, String.toList_ofList]
    simp
  · rintro ⟨init, rfl⟩
    exact ⟨init.toList, by simp⟩

/-- A text that ends in a separator ends in its byte. -/
theorem exists_encode_eq {s : String} (h : endsIn '/' s = true) :
    ∃ front, encode s = front ++ [slash] := by
  obtain ⟨init, rfl⟩ := endsIn_iff.1 h
  have hslash : encode ('/').toString = [slash] := by decide +kernel
  exact ⟨encode init, by rw [encode_append, hslash]⟩

/-- A text that starts like another has the first character of it. -/
theorem hasPrefix_slash_append {start : String} (hstart : start.isEmpty = false) (rest : String) :
    hasPrefix "/" (start ++ rest) = hasPrefix "/" start := by
  unfold hasPrefix
  rw [String.toList_append]
  cases hchars : start.toList with
  | nil =>
    have hnil : start = "" := String.toList_eq_nil_iff.1 hchars
    simp [hnil] at hstart
  | cons c cs => simp [List.isPrefixOf]

end Text

namespace Config

/-! ### The conditions -/

theorem flaw?_eq_none_iff (c : Config) :
    c.flaw? = none ↔
      c.prefixFlaw? = none ∧ c.variableFlaw? = none ∧ c.sentinelFlaw? = none ∧
      c.installFlaw? = none ∧ c.libraryFlaw? = none ∧ c.orderFlaw? = none ∧
      ∀ rule ∈ c.relocations, relocationFlaw? rule = none := by
  unfold flaw?
  simp only [Option.orElse_eq_orElse, Option.orElse_eq_or, Option.or_eq_none_iff,
    List.findSome?_eq_none_iff]

theorem prefixFlaw?_eq_none_iff (c : Config) :
    c.prefixFlaw? = none ↔
      c.namespacePrefix.isEmpty = false ∧ Text.endsIn '/' c.namespacePrefix = true ∧
      Text.hasPrefix "/" c.namespacePrefix = false := by
  unfold prefixFlaw?
  simp only [ite_eq_right_iff, reduceCtorEq, imp_false, Bool.or_eq_true, Bool.not_eq_true',
    not_or, Bool.not_eq_true, Bool.not_eq_false, and_assoc]

theorem sentinelFlaw?_eq_none_iff (c : Config) :
    c.sentinelFlaw? = none ↔
      c.sentinel.isEmpty = false ∧ (Path.ofText c.sentinel).isAbsolute = false ∧
      Text.hasPrefix c.namespacePrefix c.sentinel = true := by
  unfold sentinelFlaw?
  simp only [ite_eq_right_iff, reduceCtorEq, imp_false, Bool.or_eq_true, Bool.not_eq_true',
    not_or, Bool.not_eq_true, Bool.not_eq_false, and_assoc]

/-! ### Paths below the namespace -/

section namespaces

variable {c : Config} (hvalid : c.flaw? = none)
include hvalid

theorem hasPrefix_sentinel : Text.hasPrefix c.namespacePrefix c.sentinel = true :=
  ((c.sentinelFlaw?_eq_none_iff).1 ((c.flaw?_eq_none_iff).1 hvalid).2.2.1).2.2

theorem sentinel_ne_empty : c.sentinel ≠ "" := by
  simpa using ((c.sentinelFlaw?_eq_none_iff).1 ((c.flaw?_eq_none_iff).1 hvalid).2.2.1).1

/-- A path that starts with the namespace is relative. -/
theorem isAbsolute_below_namespace {s : String} (h : Text.hasPrefix c.namespacePrefix s = true) :
    (Path.ofText s).isAbsolute = false := by
  obtain ⟨hnonempty, -, hrelative⟩ :=
    (c.prefixFlaw?_eq_none_iff).1 ((c.flaw?_eq_none_iff).1 hvalid).1
  obtain ⟨rest, rfl⟩ := Text.hasPrefix_iff.1 h
  rw [Path.isAbsolute_ofText, Text.hasPrefix_slash_append hnonempty, hrelative]

/-- The steps of a path that starts with the namespace start with those of the
    namespace. -/
theorem components_below_namespace (rest : String) :
    (Path.ofText (c.namespacePrefix ++ rest)).components =
      (Path.ofText c.namespacePrefix).components ++ (Path.ofText rest).steps := by
  obtain ⟨-, hends, -⟩ := (c.prefixFlaw?_eq_none_iff).1 ((c.flaw?_eq_none_iff).1 hvalid).1
  obtain ⟨front, hfront⟩ := Text.exists_encode_eq hends
  rw [Path.ofText, Path.ofText, Text.encode_append, hfront, List.append_assoc]
  exact Path.components_append_slash front (Text.encode rest)

/-- Such a path starts with the first step of the namespace. -/
theorem head?_below_namespace {s : String} (h : Text.hasPrefix c.namespacePrefix s = true) :
    (Path.ofText s).components.head? = (Path.ofText c.namespacePrefix).components.head? := by
  obtain ⟨hnonempty, -, -⟩ := (c.prefixFlaw?_eq_none_iff).1 ((c.flaw?_eq_none_iff).1 hvalid).1
  have hne : (Path.ofText c.namespacePrefix).components ≠ [] := by
    rw [Ne, Path.components_eq_nil_iff, Path.isEmpty_ofText, hnonempty]
    simp
  obtain ⟨rest, hrest⟩ := Text.hasPrefix_iff.1 h
  obtain ⟨first, more, hfirst⟩ := List.exists_cons_of_ne_nil hne
  rw [hrest, components_below_namespace hvalid rest, hfirst]
  rfl

end namespaces

end Config
end LayeredRoots
