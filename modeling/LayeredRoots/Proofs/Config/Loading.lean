import LayeredRoots.Command.Program
import LayeredRoots.Config.Writer
import LayeredRoots.Proofs.Json.Quoting
import LayeredRoots.Proofs.Json.Refusals

/-! # Loading undoes writing

    A configuration can be written in many ways: its fields in any order, those
    with standard values or not, unknown names among them, every string in any
    spelling, white space anywhere (`Config.Writes` and `Json.Laid`).  All of
    them load as this configuration, or as its flaw, and the written form of
    `Config.toJson` is one of them (`loading_undoes_writing`).

    - **Fields.** The record over the fields read so far is the configuration
      with standard values everywhere else (`Config.only`).
    - **Repetitions.** A text in which a known name comes again, in the
      configuration itself or in one of its relocations, does not load
      (`Config.Repeats`).
    - **Validity.** Whatever is loaded is valid, and so is the configuration of
      every resolver that the program builds. -/

namespace LayeredRoots

open Json

/-! ### Relocations -/

namespace Relocation

/-- How a field is written. -/
inductive WritesField (r : Relocation) : String → List Token → Prop where
  | subtree {ts : List Token} (h : WritesText r.subtree ts) : WritesField r "prefix" ts
  | target {ts : List Token} (h : WritesText r.target ts) : WritesField r "relocated" ts

/-- An object that gives both fields, and maybe other names. -/
def Writes (r : Relocation) (ts : List Token) : Prop :=
  ∃ members, layout.Gives r.WritesField members ∧
    (∀ name ∈ layout.names, name ∈ layout.given members) ∧ ts = objectTokens members

/-- A relocation as far as some of its fields are known. -/
def only (r : Relocation) (names : List String) : Relocation where
  subtree := if "prefix" ∈ names then r.subtree else ""
  target  := if "relocated" ∈ names then r.target else ""

theorem readsFields (r : Relocation) : layout.ReadsFields r.WritesField r.only := by
  intro name read hread ts hwrites names rest
  cases hwrites with
  | subtree h =>
    obtain rfl := Option.some.inj hread
    rw [reads_text.into h]
    simp [only]
  | target h =>
    obtain rfl := Option.some.inj hread
    rw [reads_text.into h]
    simp [only]

theorem reads : Reads (readWhole layout ⟨"", ""⟩) Writes := by
  rintro r - ⟨members, hgives, hall, rfl⟩ rest
  have hread := readWhole_of_gives r.readsFields hgives hall rest
  have hsubtree : "prefix" ∈ layout.given members := hall _ (by decide)
  have htarget : "relocated" ∈ layout.given members := hall _ (by decide)
  have honly : r.only (layout.given members).reverse = r := by simp [only, hsubtree, htarget]
  have hnone : r.only [] = ⟨"", ""⟩ := by simp [only]
  rwa [honly, hnone] at hread

end Relocation

/-! ### Configurations -/

namespace Config

/-- How a field is written. -/
inductive WritesField (c : Config) : String → List Token → Prop where
  | namespacePrefix {ts : List Token} (h : WritesText c.namespacePrefix ts) :
      WritesField c "namespace_prefix" ts
  | rootVariable {ts : List Token} (h : WritesText c.rootVariable ts) : WritesField c "env_var" ts
  | sentinel {ts : List Token} (h : WritesText c.sentinel ts) :
      WritesField c "sentinel_relpath" ts
  | installShare {ts : List Token} (h : WritesText c.installShare ts) :
      WritesField c "install_share_relpath" ts
  | markerLibrary {ts : List Token} (h : WritesOptionalText c.markerLibrary ts) :
      WritesField c "marker_library" ts
  | executableMarker {ts : List Token} (h : WritesBool c.executableMarker ts) :
      WritesField c "executable_marker" ts
  | relocations {ts : List Token} (h : WritesList Relocation.Writes c.relocations ts) :
      WritesField c "relocations" ts
  | warnPolicy {ts : List Token} (h : WritesName WarnPolicy.names c.warnPolicy ts) :
      WritesField c "warn_policy" ts
  | candidateOrder {ts : List Token}
      (h : WritesList (WritesName Source.names) c.candidateOrder ts) :
      WritesField c "candidate_order" ts

/-- A configuration as far as some of its fields are known, with standard values
    for the others. -/
def only (c : Config) (names : List String) : Config where
  namespacePrefix :=
    if "namespace_prefix" ∈ names then c.namespacePrefix else standard.namespacePrefix
  rootVariable := if "env_var" ∈ names then c.rootVariable else standard.rootVariable
  sentinel := if "sentinel_relpath" ∈ names then c.sentinel else standard.sentinel
  installShare :=
    if "install_share_relpath" ∈ names then c.installShare else standard.installShare
  markerLibrary := if "marker_library" ∈ names then c.markerLibrary else standard.markerLibrary
  executableMarker :=
    if "executable_marker" ∈ names then c.executableMarker else standard.executableMarker
  relocations := if "relocations" ∈ names then c.relocations else standard.relocations
  warnPolicy := if "warn_policy" ∈ names then c.warnPolicy else standard.warnPolicy
  candidateOrder :=
    if "candidate_order" ∈ names then c.candidateOrder else standard.candidateOrder

/-- An object that gives fields, and maybe other names.  The fields that it does
    not give have standard values. -/
def Writes (c : Config) (ts : List Token) : Prop :=
  ∃ members, layout.Gives c.WritesField members ∧ c.only (layout.given members) = c ∧
    ts = objectTokens members

end Config

/-! ### What is written is a value -/

theorem Relocation.Writes.isValue {r : Relocation} {ts : List Token} (h : r.Writes ts) :
    IsValue ts := by
  obtain ⟨members, hgives, -, rfl⟩ := h
  refine hgives.isValue fun hwrites => ?_
  cases hwrites with
  | subtree h | target h => exact h.isValue

theorem Config.WritesField.isValue {c : Config} {name : String} {ts : List Token}
    (h : c.WritesField name ts) : IsValue ts := by
  cases h with
  | namespacePrefix h | rootVariable h | sentinel h | installShare h | warnPolicy h =>
    exact h.isValue
  | markerLibrary h => exact h.isValue
  | executableMarker h => exact h.isValue
  | relocations h => exact h.isValue fun h => h.isValue
  | candidateOrder h => exact h.isValue fun h => h.isValue

namespace Config

theorem Writes.isValue {c : Config} {ts : List Token} (h : c.Writes ts) : IsValue ts := by
  obtain ⟨members, hgives, -, rfl⟩ := h
  exact hgives.isValue fun h => h.isValue

/-! ### Reading a configuration -/

theorem readsFields (c : Config) : layout.ReadsFields c.WritesField c.only := by
  intro name read hread ts hwrites names rest
  cases hwrites with
  | namespacePrefix h | rootVariable h | sentinel h | installShare h =>
    obtain rfl := Option.some.inj hread
    rw [reads_text.into h]
    simp [only]
  | markerLibrary h =>
    obtain rfl := Option.some.inj hread
    rw [reads_optionalText.into h]
    simp [only]
  | executableMarker h =>
    obtain rfl := Option.some.inj hread
    rw [reads_bool.into h]
    simp [only]
  | relocations h =>
    obtain rfl := Option.some.inj hread
    rw [Reads.into (reads_list Relocation.reads fun h => h.isValue) h]
    simp [only]
  | warnPolicy h =>
    obtain rfl := Option.some.inj hread
    rw [Reads.into (reads_name _) h]
    simp [only]
  | candidateOrder h =>
    obtain rfl := Option.some.inj hread
    rw [Reads.into (reads_list (reads_name _) fun h => h.isValue) h]
    simp [only]

theorem only_nil (c : Config) : c.only [] = standard := by
  simp [only]

theorem only_reverse (c : Config) (names : List String) : c.only names.reverse = c.only names := by
  simp [only]

/-- However a configuration is written, it is read back. -/
theorem reads : Reads (readOver layout standard) Writes := by
  rintro c - ⟨members, hgives, honly, rfl⟩ rest
  have hread := readOver_of_gives c.readsFields hgives rest
  rwa [only_nil, only_reverse, honly] at hread

/-- Read from a text. -/
theorem ofJson_of_laid {c : Config} {ts : List Token} (hwrites : c.Writes ts) {text : String}
    (hlaid : Laid ts text.toList) : ofJson text = .ok c := by
  have hread := reads hwrites []
  rw [List.append_nil] at hread
  rw [ofJson, readDocument, tokens_of_laid hlaid hwrites.isValue.apart, hread]
  rfl

end Config

/-! ### The written form -/

theorem Relocation.laidOut_toJson (r : Relocation) : LaidOut r.Writes r.toJson := by
  have hfields : ∀ field ∈ [("prefix", quote r.subtree), ("relocated", quote r.target)],
      field.1 ∈ layout.names ∧ LaidOut (r.WritesField field.1) field.2 := by
    simp only [List.forall_mem_cons]
    exact ⟨⟨by decide, (laidOut_quote _).imp .subtree⟩, ⟨by decide, (laidOut_quote _).imp .target⟩,
      by simp⟩
  refine (laidOut_object hfields (by simp)).imp ?_
  rintro ts ⟨members, hgives, hgiven, rfl⟩
  refine ⟨members, hgives, fun name hname => ?_, rfl⟩
  rw [hgiven]
  exact hname

theorem WarnPolicy.lookup_names (p : WarnPolicy) : names.lookup p.key = some p := by
  cases p <;> rfl

theorem Source.lookup_names (s : Source) : names.lookup s.key = some s := by
  cases s <;> rfl

namespace Config

/-- The written form gives every field. -/
theorem laidOut_toJson (c : Config) : LaidOut c.Writes c.toJson := by
  have hnames : c.members.map (·.1) = layout.names := rfl
  have hvalues : ∀ field ∈ c.members, LaidOut (c.WritesField field.1) field.2 := by
    simp only [members, List.forall_mem_cons]
    refine ⟨(laidOut_quote _).imp .namespacePrefix, (laidOut_quote _).imp .rootVariable,
      (laidOut_quote _).imp .sentinel, (laidOut_quote _).imp .installShare,
      (laidOut_optionalText _).imp .markerLibrary, (laidOut_bool _).imp .executableMarker,
      (laidOut_list fun r _ => r.laidOut_toJson).imp .relocations,
      (laidOut_name (WarnPolicy.lookup_names _)).imp .warnPolicy,
      (laidOut_list fun s _ => laidOut_name s.lookup_names).imp .candidateOrder, by simp⟩
  have hfields : ∀ field ∈ c.members,
      field.1 ∈ layout.names ∧ LaidOut (c.WritesField field.1) field.2 :=
    fun field hfield => ⟨hnames ▸ List.mem_map_of_mem hfield, hvalues field hfield⟩
  have honce : (c.members.map (·.1)).Nodup := by
    rw [hnames]
    decide
  refine (laidOut_object hfields honce).imp ?_
  rintro ts ⟨members, hgives, hgiven, rfl⟩
  refine ⟨members, hgives, ?_, rfl⟩
  rw [hgiven]
  simp [only, Config.members]

/-! ### Repetitions -/

theorem takesValues_relocation : Relocation.layout.TakesValues := by
  simp only [Layout.TakesValues, Relocation.layout, List.forall_mem_cons]
  exact ⟨takesValue_text.into _, takesValue_text.into _, by simp⟩

theorem takesValues : layout.TakesValues := by
  simp only [Layout.TakesValues, layout, List.forall_mem_cons]
  exact ⟨takesValue_text.into _, takesValue_text.into _, takesValue_text.into _,
    takesValue_text.into _, takesValue_optionalText.into _, takesValue_bool.into _,
    TakesValue.into (takesValue_list (takesValue_whole takesValues_relocation _)) _,
    TakesValue.into (takesValue_name _) _, TakesValue.into (takesValue_list (takesValue_name _)) _,
    by simp⟩

/-- The start of an object, up to a second key for one field of it or of one of
    its relocations. -/
inductive Repeats : List Token → Prop where
  | field {front : List Token} (h : layout.Repeats front) : Repeats front
  | relocation {members : List Member} (hmembers : ∀ m ∈ members, IsValue m.value)
      {units : List TextUnit} (hunits : unitText? units = some "relocations")
      {items : List (List Token)} (hitems : ∀ item ∈ items, IsValue item) {front : List Token}
      (h : Relocation.layout.Repeats front) :
      Repeats (.openObject :: rowTokens (members.map Member.tokens ++
        [.text units :: .colon :: .openList :: rowTokens (items ++ [front])]))

/-- Neither is got past. -/
theorem refuses_of_repeats {front : List Token} (h : Repeats front) :
    Refuses (readOver layout standard) front := by
  cases h with
  | field h => exact refuses_readOver_of_repeats takesValues h standard
  | @relocation members hmembers units hunits items hitems front h =>
    have hrule := refuses_readWhole_of_repeats takesValues_relocation h ⟨"", ""⟩
    obtain ⟨more, rfl⟩ : ∃ more, front = .openObject :: more := by cases h; exact ⟨_, rfl⟩
    have hlist := refuses_list (takesValue_whole takesValues_relocation _) hitems (by decide) hrule
    exact refuses_readOver_of_field takesValues hmembers hunits rfl
      (fun record => Refuses.into hlist _ record) standard

/-- The text behind such a start does not matter. -/
theorem Repeats.tokens_append {front : List Token} (h : Repeats front) {cs : List Char}
    (hlaid : Laid front cs) (rest : List Char) : tokens (cs ++ rest) = front ++ tokens rest := by
  have hends : Apart front ∧ ∃ before units, front = before ++ [.text units] := by
    cases h with
    | field h => exact h.ends
    | @relocation members hmembers units _ items hitems last h =>
      -- the key inside the relocation is the last token of the whole start
      obtain ⟨hlast, before, key, rfl⟩ := h.ends
      obtain ⟨before₁, hrules⟩ := exists_rowTokens_concat items (before ++ [.text key])
      obtain ⟨before₂, hmembers'⟩ := exists_rowTokens_concat (members.map Member.tokens)
        (.text units :: .colon :: .openList :: rowTokens (items ++ [before ++ [.text key]]))
      have hrows := apart_append_last (fun item hitem => (hitems item hitem).apart) hlast
      refine ⟨?_, .openObject :: (before₂ ++ .text units :: .colon :: .openList ::
        (before₁ ++ before)), key, ?_⟩
      · exact (apart_append_last (apart_members fun m hm => (hmembers m hm).apart)
          (((hrows.cons rfl).cons rfl).cons rfl)).cons rfl
      · rw [hmembers', hrules]
        simp
  obtain ⟨hapart, before, units, rfl⟩ := hends
  refine tokens_append_of_laid hlaid hapart fun t ht hnumber => ?_
  rw [List.getLast?_concat] at ht
  obtain rfl := Option.some.inj ht
  cases hnumber

/-! ### Loading -/

section loading

variable {storage : Storage} {path : Path} {text : String}

theorem load_of_ofJson (htext : storage.readText path = .ok text) {c : Config}
    (hread : ofJson text = .ok c) : load storage path = c.validate.mapError .invalid := by
  simp only [load, htext, hread]
  cases c.validate <;> rfl

theorem load_of_fault (htext : storage.readText path = .ok text) {why : Fault}
    (hread : ofJson text = .error why) : load storage path = .error (.unparsable path why) := by
  simp only [load, htext, hread]

theorem validate_of_flawless {c : Config} (h : c.flaw? = none) : c.validate = .ok c := by
  simp only [validate, h]

theorem validate_of_validate {c d : Config} (h : c.validate = .ok d) : d.validate = .ok d := by
  have hsame : c = d := by
    unfold validate at h
    split at h
    · cases h
    · exact Except.ok.inj h
  rwa [hsame] at h

/-- What was loaded went through the validation. -/
theorem validate_of_load {c : Config} (h : load storage path = .ok c) : c.validate = .ok c := by
  unfold load at h
  split at h
  · cases h
  · split at h
    · cases h
    · split at h
      · cases h
      · next hvalid =>
        obtain rfl := Except.ok.inj h
        exact validate_of_validate hvalid

/-- A text that starts with a repetition is no configuration. -/
theorem exists_fault_of_repeats {front : List Token} (hfront : Repeats front) {cs rest : List Char}
    (hlaid : Laid front cs) (htext : text.toList = cs ++ rest) :
    ∃ why, ofJson text = .error why := by
  cases hread : ofJson text with
  | error why => exact ⟨why, rfl⟩
  | ok c =>
    obtain ⟨r, hover, -⟩ := exists_of_bind_eq_ok hread
    rw [htext, hfront.tokens_append hlaid] at hover
    exact absurd hover (refuses_of_repeats hfront _ r)

end loading

/-- **Loading undoes writing**: every text that writes a configuration loads as
    what the validation makes of it, and for a valid one its written form is
    such a text.  What is loaded is valid, and so is every configuration that
    the program builds a resolver for.  A text that gives a known name twice is
    refused when it is parsed, whatever follows. -/
theorem loading_undoes_writing (storage : Storage) (path : Path) :
    (∀ text, storage.readText path = .ok text →
      (∀ (c : Config) ts, c.Writes ts → Laid ts text.toList →
        load storage path = c.validate.mapError .invalid) ∧
      (∀ c : Config, c.validate = .ok c → text = c.toJson → load storage path = .ok c) ∧
      ∀ front cs rest, Repeats front → Laid front cs → text.toList = cs ++ rest →
        ∃ why, load storage path = .error (.unparsable path why)) ∧
    (∀ c, load storage path = .ok c → c.validate = .ok c) ∧
    ∀ (m : Machine) given c, Command.Program.configuration m.storage given = .ok c →
      (m.resolver c).1.config.validate = .ok c := by
  refine ⟨fun text htext => ⟨?_, ?_, ?_⟩, fun c h => validate_of_load h, ?_⟩
  · intro c ts hwrites hlaid
    exact load_of_ofJson htext (ofJson_of_laid hwrites hlaid)
  · rintro c hvalid rfl
    obtain ⟨ts, hwrites, hlaid⟩ := c.laidOut_toJson
    rw [load_of_ofJson htext (ofJson_of_laid hwrites hlaid), hvalid]
    rfl
  · intro front cs rest hfront hlaid hchars
    obtain ⟨why, hwhy⟩ := exists_fault_of_repeats hfront hlaid hchars
    exact ⟨why, load_of_fault htext hwhy⟩
  · intro m given c h
    rw [Machine.fst_resolver]
    cases given with
    | some path => exact validate_of_load h
    | none =>
      obtain rfl := Except.ok.inj h
      have hflawless : standard.flaw? = none := by decide +kernel
      exact validate_of_flawless hflawless

/-- A storage in which every file holds one text. -/
def holding (text : String) : Storage :=
  { MemoryFiles.empty.view with read := fun _ => .ok (Text.encode text) }

theorem readText_holding (text : String) (path : Path) :
    (holding text).readText path = .ok text := by
  simp only [Storage.readText, holding, ok_bind, Text.decode?_encode]

/-- A configuration with its own variable. -/
def renamed : Config := { standard with rootVariable := "ROOT" }

/-- The same with a note before it, and some space. -/
def renamedText : String :=
  "\x7b " ++ quote "note" ++ " : null,\n" ++ quote "env_var" ++ ":" ++ quote "ROOT" ++ " \x7d"

/-- The start of a text that names two variables. -/
def renamedTwice : String :=
  "\x7b" ++ quote "env_var" ++ ":" ++ quote "ROOT" ++ "," ++ quote "env_var"

theorem exists_writes_renamed : ∃ ts, renamed.Writes ts ∧ Laid ts renamedText.toList := by
  obtain ⟨note, hnote, hnoted⟩ := exists_lexeme_quote "note"
  obtain ⟨key, hkey, hkeyed⟩ := exists_lexeme_quote "env_var"
  obtain ⟨root, hroot, hrooted⟩ := exists_lexeme_quote "ROOT"
  have hspace : IsGap [' '] := by simp [IsGap, isSpace]
  have hfeed : IsGap ['\n'] := by simp [IsGap, isSpace]
  have hopen : Laid [.openObject] "\x7b ".toList := (Laid.one .openObject).append (.gap hspace)
  have hnull : Laid [.colon, .null, .comma] " : null,\n".toList :=
    ((Laid.one .colon).gap_append hspace).append
      (((Laid.one .null).gap_append hspace).append ((Laid.one .comma).append (.gap hfeed)))
  have hcolon : Laid [.colon] ":".toList := .one .colon
  have hclose : Laid [.closeObject] " \x7d".toList := (Laid.one .closeObject).gap_append hspace
  refine ⟨objectTokens [⟨note, [.null]⟩, ⟨key, [.text root]⟩], ⟨_, ⟨?_, ?_⟩, ?_, rfl⟩, ?_⟩
  · simp only [List.forall_mem_cons]
    exact ⟨.unknown hnote (by decide) .null,
      .known hkey (by decide) (.rootVariable ⟨root, hroot, rfl⟩), by simp⟩
  · rw [given_cons, given_of_unknown hnote (by decide), given_of_known hkey (by decide)]
    simp
  · rw [given_cons, given_of_unknown hnote (by decide), given_of_known hkey (by decide)]
    rfl
  · simp only [renamedText, String.toList_append]
    exact (((((hopen.append (.one hnoted)).append hnull).append (.one hkeyed)).append
      hcolon).append (.one hrooted)).append hclose

theorem exists_repeats_renamed : ∃ front, Repeats front ∧ Laid front renamedTwice.toList := by
  obtain ⟨key, hkey, hkeyed⟩ := exists_lexeme_quote "env_var"
  obtain ⟨root, hroot, hrooted⟩ := exists_lexeme_quote "ROOT"
  have hopen : Laid [.openObject] "\x7b".toList := .one .openObject
  have hcolon : Laid [.colon] ":".toList := .one .colon
  have hcomma : Laid [.comma] ",".toList := .one .comma
  have hagain : "env_var" ∈ layout.given [⟨key, [.text root]⟩] := by
    rw [given_of_known hkey (by decide)]
    exact List.mem_cons_self
  refine ⟨_, .field (.again ?_ hkey hagain), ?_⟩
  · simp only [List.forall_mem_cons]
    exact ⟨.text root, by simp⟩
  · simp only [renamedTwice, String.toList_append]
    exact ((((hopen.append (.one hkeyed)).append hcolon).append (.one hrooted)).append
      hcomma).append (.one hkeyed)

theorem loading_undoes_writing_renamed :
    load (holding renamedText) (Path.ofText "c") = .ok renamed ∧
    load (holding renamed.toJson) (Path.ofText "c") = .ok renamed ∧
    ∃ why, load (holding (renamedTwice ++ "...")) (Path.ofText "c") =
      .error (.unparsable (Path.ofText "c") why) := by
  have hvalid : renamed.validate = .ok renamed := validate_of_flawless (by decide +kernel)
  refine ⟨?_, ?_, ?_⟩
  · obtain ⟨ts, hwrites, hlaid⟩ := exists_writes_renamed
    obtain ⟨hloads, -⟩ := loading_undoes_writing (holding renamedText) (Path.ofText "c")
    rw [(hloads _ (readText_holding _ _)).1 renamed ts hwrites hlaid, hvalid]
    rfl
  · obtain ⟨hloads, -⟩ := loading_undoes_writing (holding renamed.toJson) (Path.ofText "c")
    exact (hloads _ (readText_holding _ _)).2.1 renamed hvalid rfl
  · obtain ⟨front, hfront, hlaid⟩ := exists_repeats_renamed
    obtain ⟨hloads, -⟩ := loading_undoes_writing (holding (renamedTwice ++ "...")) (Path.ofText "c")
    exact (hloads _ (readText_holding _ _)).2.2 front _ "...".toList hfront hlaid
      String.toList_append

end Config

end LayeredRoots
