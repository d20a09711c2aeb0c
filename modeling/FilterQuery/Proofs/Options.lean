import FilterQuery.Pattern.Compile
import FilterQuery.Proofs.Pieces
import FilterQuery.Proofs.Presets

/-!
# Options of enum fields

The value of a filter on an enum field is looked up twice: what the user typed when the query is
read, and what came of it when the enum rule checks the token. A built-in resolver compares texts
by what it leaves of them, so a look-up is a search for the first option that the text names
(`resolveEnum_eq`), and the members are the texts that name some option (`isEnumMember_eq`). What a
look-up gives names an option just if the text it was given does (`any_isNamed_resolved`), however
values and labels of the options clash. So the rule flags just the words in which the reader found
no option (`flagged_enumValue_iff`).
-/

namespace FilterQuery

open Manifest (StrategyName)
open Query (LexOptions Parsed Reading parse resolveFor)

/-! ## Built-in resolvers -/

/-- What the built-in resolvers compare of a text; a field that gives no resolver ignores case. -/
def Resolver.fold? : Option Resolver → Option (String → String)
  | none | some .caseInsensitive => some Text.lower
  | some .exact => some id
  | some (.custom _) => none

/-- Whether a text is the value or the label of an option, as far as a comparison tells. -/
def EnumValue.isNamed (fold : String → String) (text : String) (v : EnumValue) : Bool :=
  fold text == fold v.value || fold text == fold v.label

section

variable {r : Option Resolver} {fold : String → String} (hfold : Resolver.fold? r = some fold)
include hfold

/-- A built-in resolver gives the value of an option to the texts that name it. -/
theorem Resolver.resolve_eq (text : String) (v : EnumValue) :
    (r.getD .caseInsensitive).resolve (.str text) v.option =
      .ok (if v.isNamed fold text then .str v.value else .null) := by
  cases r with
  | none =>
    cases hfold
    rfl
  | some r =>
    cases r with
    | exact =>
      cases hfold
      have hequal : Resolver.equal (.str text) v.option = v.isNamed id text := by
        rw [Bool.eq_iff_iff]
        simp [Resolver.equal, EnumValue.isNamed, EnumValue.value, EnumValue.label]
      show Except.ok (if Resolver.equal (.str text) v.option then _ else _) = _
      rw [hequal]
      rfl
    | caseInsensitive =>
      cases hfold
      rfl
    | custom resolve => cases hfold

/-- The first option that the text names is found. -/
theorem Resolver.search_eq (text : String) (options : List EnumValue) :
    (r.getD .caseInsensitive).search (.str text) options =
      .ok ((options.find? (·.isNamed fold text)).elim .null (.str ·.value)) := by
  induction options with
  | nil => rfl
  | cons v vs ih =>
    rw [Resolver.search, Resolver.resolve_eq hfold]
    cases hnamed : v.isNamed fold text with
    | true =>
      rw [List.find?_cons_of_pos hnamed]
      rfl
    | false =>
      rw [List.find?_cons_of_neg (by simp [hnamed])]
      exact ih

/-- A text that names no option stays as it is. -/
theorem resolveEnum_eq {text : String} (hne : text ≠ "") (options : List EnumValue) :
    resolveEnum options (.str text) r =
      .ok (.str ((options.find? (·.isNamed fold text)).elim text (·.value))) := by
  have hfalsy : (Value.str text).isFalsy = false := by
    simpa [Value.isFalsy] using hne
  rw [resolveEnum, hfalsy, if_neg Bool.false_ne_true, Resolver.search_eq hfold]
  cases options.find? (·.isNamed fold text) <;> rfl

omit hfold in
theorem EnumValue.isNamed_value (fold : String → String) (v : EnumValue) :
    v.isNamed fold v.value = true := by
  simp [isNamed]

omit hfold in
/-- **Looking up twice.** What a text stands for names an option just if the text does: it is the
value of one, or the text itself. -/
theorem any_isNamed_resolved (fold : String → String) (options : List EnumValue) (text : String) :
    options.any (·.isNamed fold ((options.find? (·.isNamed fold text)).elim text (·.value))) =
      options.any (·.isNamed fold text) := by
  cases hfind : options.find? (·.isNamed fold text) with
  | none => rfl
  | some v =>
    have hmem := List.mem_of_find?_eq_some hfind
    have htext : options.any (·.isNamed fold text) = true :=
      List.any_eq_true.mpr ⟨v, hmem, List.find?_some hfind⟩
    rw [htext]
    exact List.any_eq_true.mpr ⟨v, hmem, v.isNamed_value fold⟩

/-- A text is a member just if it names an option: either the first option that it names has another
value, or the text is the value of an option itself. -/
theorem isEnumMember_eq {text : String} (hne : text ≠ "") (options : List EnumValue) :
    isEnumMember options (.str text) r = .ok (options.any (·.isNamed fold text)) := by
  rw [isEnumMember, resolveEnum_eq hfold hne]
  refine congrArg Except.ok ?_
  cases hfind : options.find? (·.isNamed fold text) with
  | none =>
    -- a literal value would name its option
    have hnone := List.find?_eq_none.mp hfind
    have hany : options.any (·.isNamed fold text) = false := List.any_eq_false.mpr hnone
    have hliteral : options.any (Value.str text == .str ·.value) = false := by
      refine List.any_eq_false.mpr fun v hv heq => hnone v hv ?_
      have htext : text = v.value := by simpa using heq
      rw [htext]
      exact v.isNamed_value fold
    rw [hany, hliteral]
    simp
  | some v =>
    have hmem := List.mem_of_find?_eq_some hfind
    have hany : options.any (·.isNamed fold text) = true :=
      List.any_eq_true.mpr ⟨v, hmem, List.find?_some hfind⟩
    rw [hany]
    by_cases hvalue : v.value = text
    · have hliteral : options.any (Value.str text == .str ·.value) = true :=
        List.any_eq_true.mpr ⟨v, hmem, by simp [hvalue]⟩
      rw [hliteral, Bool.or_true]
    · simp [hvalue]

end

/-! ## Resolvers of the host -/

/-- Resolvers of the host do not fail on text. -/
def ResolversAnswer (fields : List Field) : Prop :=
  ∀ field ∈ fields, ∀ resolve, field.resolver = some (.custom resolve) →
    ∀ (text : String) (option : EnumOption), ∃ answer, resolve (.str text) option = .ok answer

theorem Resolver.exists_search {r : Resolver} {query : Value}
    (hr : ∀ option, ∃ answer, r.resolve query option = .ok answer) (options : List EnumValue) :
    ∃ answer, r.search query options = .ok answer := by
  induction options with
  | nil => exact ⟨.null, rfl⟩
  | cons v vs ih =>
    obtain ⟨answer, hanswer⟩ := hr v.option
    obtain ⟨later, hlater⟩ := ih
    rw [search, hanswer]
    by_cases hnull : answer = .null
    · exact ⟨later, by simpa [bind, Except.bind, hnull] using hlater⟩
    · exact ⟨answer, by simp [bind, Except.bind, hnull, pure, Except.pure]⟩

theorem ResolversAnswer.exists_isEnumMember {fields : List Field} (h : ResolversAnswer fields)
    {field : Field} (hfield : field ∈ fields) (options : List EnumValue) (text : String) :
    ∃ member, isEnumMember options (.str text) field.resolver = .ok member := by
  have hresolve : ∀ option, ∃ answer,
      (field.resolver.getD .caseInsensitive).resolve (.str text) option = .ok answer := by
    intro option
    cases hresolver : field.resolver with
    | none => exact ⟨_, rfl⟩
    | some r =>
      cases r with
      | exact | caseInsensitive => exact ⟨_, rfl⟩
      | custom resolve => exact h field hfield resolve hresolver text option
  obtain ⟨answer, hanswer⟩ := Resolver.exists_search hresolve options
  rw [isEnumMember, resolveEnum]
  split
  · exact ⟨_, rfl⟩
  · rw [hanswer]
    exact ⟨_, rfl⟩

/-- Where no resolver of the host fails, the enum rule judges every token. -/
theorem ResolversAnswer.exists_judge {fields : List Field} (h : ResolversAnswer fields)
    (tokens : List Token) (editing : List String) (t : Token) :
    ∃ refused, RequireEnum.judge (Validation.context tokens fields editing) t = .ok refused := by
  unfold RequireEnum.judge
  cases hfield? : RequireEnum.field? (Validation.context tokens fields editing) t with
  | none => exact ⟨none, rfl⟩
  | some found =>
    obtain ⟨field, options⟩ := found
    have hfield : field ∈ fields := by
      unfold RequireEnum.field? at hfield?
      split at hfield?
      · cases hfield?
      · obtain ⟨g, hfind, hoptions⟩ := Option.bind_eq_some_iff.mp hfield?
        obtain ⟨_, -, heq⟩ := Option.map_eq_some_iff.mp hoptions
        cases heq
        exact List.mem_of_find?_eq_some hfind
    obtain ⟨member, hmember⟩ := h.exists_isEnumMember hfield options t.value
    simp only [TokenLike.value_token, hmember]
    exact ⟨_, rfl⟩

/-! ## What the rule flags -/

section

variable {tokens : List Token} (hids : (tokens.map (·.id)).Nodup) {fields : List Field}
  {editing : List String} {s : StrategyName} {message : Option String} {priority : Value}
  {t : Token} (ht : t ∈ Validation.visible tokens)
include hids ht

/-- A token is flagged just if its own value is refused, as long as no resolver fails. -/
theorem Validation.flagged_iff_judge
    (hok : ∀ u ∈ visible tokens, ∃ refused,
      RequireEnum.judge (context tokens fields editing) u = .ok refused) :
    (∃ v ∈ run tokens fields [RequireEnum.ruleBy s message priority] editing,
        t.id ∈ v.tokenIds) ↔
      isSwitchedOff fields RequireEnum.ruleId t = false ∧
        ∃ field, RequireEnum.judge (context tokens fields editing) t = .ok (some field) := by
  rw [run_enumValue hids fields editing s message priority hok]
  constructor
  · rintro ⟨v, hv, hid⟩
    obtain ⟨u, hu, hverdict⟩ := List.mem_filterMap.mp hv
    obtain ⟨huvisible, hon⟩ := List.mem_filter.mp hu
    unfold RequireEnum.verdict? at hverdict
    split at hverdict
    · rename_i field hjudge
      cases hverdict
      have hsame : t.id = u.id := List.mem_singleton.mp hid
      obtain rfl := List.inj_on_of_nodup_map hids (mem_of_mem_visible ht)
        (mem_of_mem_visible huvisible) hsame
      exact ⟨by simpa using hon, field, hjudge⟩
    · cases hverdict
  · rintro ⟨hon, field, hjudge⟩
    have hverdict : RequireEnum.verdict? s message (context tokens fields editing) t =
        some (ValueCheck.refusal s (context tokens fields editing) RequireEnum.ruleId
          RequireEnum.reason (message.getD (RequireEnum.defaultMessage field)) t) := by
      rw [RequireEnum.verdict?, hjudge]
    have henforced : t ∈ enforcedOn fields RequireEnum.ruleId (visible tokens) :=
      List.mem_filter.mpr ⟨ht, by rw [hon]; rfl⟩
    exact ⟨_, List.mem_filterMap.mpr ⟨t, henforced, hverdict⟩, List.mem_singleton.mpr rfl⟩

/-- Whatever resolvers do, a token is flagged only if its own value is refused. -/
theorem Validation.judge_of_flagged
    (h : ∃ v ∈ run tokens fields [RequireEnum.ruleBy s message priority] editing,
      t.id ∈ v.tokenIds) :
    ∃ field, RequireEnum.judge (context tokens fields editing) t = .ok (some field) := by
  by_cases hok : ∀ u ∈ visible tokens, ∃ refused,
      RequireEnum.judge (context tokens fields editing) u = .ok refused
  · exact ((flagged_iff_judge hids ht hok).mp h).2
  · -- a rule that fails flags nothing
    push Not at hok
    obtain ⟨u, hu, hfails⟩ := hok
    cases hjudge : RequireEnum.judge (context tokens fields editing) u with
    | ok refused => exact absurd hjudge (hfails refused)
    | error fault =>
      obtain ⟨v, hv, -⟩ := h
      rw [run_enumValue_error fields editing s message priority hu hjudge] at hv
      cases hv

end

/-! ## Filters of a query -/

section

variable {fields : List Field} {opts : LexOptions} {ids : Nat → String} {query : String}
  {p : Parsed} (hparse : parse fields opts ids query = .ok p) {t : Token} (ht : t ∈ p.tokens)
  (hfilter : t.type = .filter)
include hparse ht hfilter

/-- The value of a filter is what the field of its key makes of the raw value. -/
theorem Query.resolveFor_of_parse :
    resolveFor (findField fields t.key) t.rawValue = .ok (.str t.value) ∧ t.value ≠ "" := by
  obtain ⟨slice, -, hreading⟩ := exists_reading hparse ht
  cases hreading with
  | quoted cs hslice heq =>
    rw [heq] at hfilter
    cases hfilter
  | word hslice f? hword hvalue heq =>
    rw [heq] at hfilter
    cases hfilter
  | filter hslice f hword hoperator hvalue heq hkey hne =>
    obtain ⟨-, -, -, -, field, operators, -, -, -, hlookUp, -, -, hresolve⟩ :=
      parseWord_eq_some hword
    have hfield : field = findField fields f.key := by
      unfold LexOptions.lookUp at hlookUp
      split at hlookUp
      · rename_i found hfound
        cases hlookUp
        exact hfound.symm
      · rename_i hfound
        split at hlookUp
        · cases hlookUp
          exact hfound.symm
        · cases hlookUp
    have htkey : t.key = f.key := by rw [heq]
    have htraw : t.rawValue = f.rawValue := by rw [heq]
    rw [htkey, htraw, ← hfield, ← hvalue]
    exact ⟨hresolve, hne⟩

variable {field : Field} (hfield : findField fields t.key = some field)
  {options : List EnumValue} (hoptions : field.options? = some options)
  {fold : String → String} (hfold : Resolver.fold? field.resolver = some fold)
include hfield hoptions hfold

/-- What the reader made of a word names an option just if the word does. -/
theorem Query.any_isNamed_value :
    options.any (·.isNamed fold t.value) = options.any (·.isNamed fold t.rawValue) := by
  obtain ⟨hresolve, hvalue⟩ := resolveFor_of_parse hparse ht hfilter
  have hresolve : resolveEnum options (.str t.rawValue) field.resolver = .ok (.str t.value) := by
    simpa only [hfield, resolveFor, Option.bind_some, hoptions, Option.map_some] using hresolve
  have hraw : t.rawValue ≠ "" := by
    intro hempty
    rw [hempty] at hresolve
    exact hvalue (Value.str.inj (Except.ok.inj hresolve)).symm
  rw [resolveEnum_eq hfold hraw] at hresolve
  rw [← Value.str.inj (Except.ok.inj hresolve), any_isNamed_resolved]

/-- The enum rule refuses a filter just if the word of it names no option. -/
theorem RequireEnum.judge_of_parse (editing : List String) :
    judge (Validation.context p.tokens fields editing) t =
      .ok (if options.any (·.isNamed fold t.rawValue) then none else some field) := by
  have hvalue := (Query.resolveFor_of_parse hparse ht hfilter).2
  have hfound : field? (Validation.context p.tokens fields editing) t = some (field, options) := by
    have hfalsy : TokenLike.underConstruction t = false := by
      simpa [TokenLike.underConstruction, Value.isFalsy] using hvalue
    rw [field?, hfalsy, if_neg Bool.false_ne_true, TokenLike.key_token, fieldOfKey_str]
    show (findField fields t.key).bind _ = _
    rw [hfield, Option.bind_some, hoptions]
    rfl
  rw [judge, hfound, TokenLike.value_token]
  simp only [isEnumMember_eq hfold hvalue,
    Query.any_isNamed_value hparse ht hfilter hfield hoptions hfold]
  rfl

end

/-- **The reader and the enum rule agree on what an option is.** Let a filter of a query belong to
an enum field with options and a built-in resolver. The rule flags it just if the typed text is the
value or the label of no option, as far as the resolver tells texts apart, however values and labels
clash. Other fields have a say only through resolvers of the host: one that fails silences the whole
rule. -/
theorem flagged_enumValue_iff (fields : List Field) (opts : LexOptions) (ids : Nat → String)
    (hids : Function.Injective ids) (query : String) (p : Parsed)
    (hparse : parse fields opts ids query = .ok p) (t : Token) (ht : t ∈ p.tokens)
    (hfilter : t.type = .filter) (field : Field) (hfield : findField fields t.key = some field)
    (options : List EnumValue) (hoptions : field.options? = some options)
    (fold : String → String) (hfold : Resolver.fold? field.resolver = some fold)
    (hon : field.isRuleDisabled RequireEnum.ruleId = false) (host : Host) (s : StrategyName)
    (message : Option String) (priority : Value) (r : Rule Token)
    (hr : (Preset.enumValue s message).rule host priority = .ok r) (editing : List String) :
    let flagged := ∃ v ∈ Validation.run p.tokens fields [r] editing, t.id ∈ v.tokenIds
    let named := ∃ v ∈ options, fold t.rawValue = fold v.value ∨ fold t.rawValue = fold v.label
    (ResolversAnswer fields → (flagged ↔ ¬named)) ∧ (flagged → ¬named) := by
  intro flagged named
  obtain rfl := Preset.rule_enumValue hr
  have hnodup := Query.nodup_id_of_parse hids hparse
  have hvisible : t ∈ Validation.visible p.tokens :=
    List.mem_filter.mpr ⟨ht, by simp [Token.isPlaintext, hfilter]⟩
  have hrefused : (∃ g, RequireEnum.judge (Validation.context p.tokens fields editing) t =
      .ok (some g)) ↔ ¬named := by
    have hnamed : options.any (·.isNamed fold t.rawValue) = true ↔ named := by
      rw [List.any_eq_true]
      simp only [EnumValue.isNamed, Bool.or_eq_true, beq_iff_eq]
      rfl
    rw [RequireEnum.judge_of_parse hparse ht hfilter hfield hoptions hfold, ← hnamed]
    cases options.any (·.isNamed fold t.rawValue) with
    | true => simp
    | false => simp
  have hswitch : isSwitchedOff fields RequireEnum.ruleId t = false := by
    rw [isSwitchedOff, TokenLike.key_token, fieldOfKey_str, hfield]
    exact hon
  constructor
  · intro hhost
    have hflagged : flagged ↔ _ := Validation.flagged_iff_judge hnodup hvisible fun u _ =>
      hhost.exists_judge p.tokens editing u
    exact (hflagged.trans (and_iff_right hswitch)).trans hrefused
  · intro hflagged
    exact hrefused.mp (Validation.judge_of_flagged hnodup hvisible hflagged)

/-- The first word names the second option by its label and the first one by what it resolves to;
the second word names none. -/
theorem flagged_enumValue_iff_clash :
    let status : Field :=
      { key := "status", label := "Status", type := .enum, operators := ["is"]
        enumValues := some [.labelled { value := "x", label := "B" },
          .labelled { value := "b", label := "A" }, .bare "a"] }
    let kind : Field :=
      { key := "kind", label := "Kind", type := .enum, operators := ["is"]
        enumValues := some [.bare "k"], resolver := some (.custom fun _ _ => .ok .null) }
    let fields := [status, kind]
    let ids : Nat → String := fun n => String.ofList (List.replicate n 'g')
    let found : Token :=
      { id := "", type := .filter, key := "status", operator := "is", value := "b"
        rawValue := "a", pos := .int 0 }
    let lost : Token :=
      { id := "g", type := .filter, key := "status", operator := "is", value := "c"
        rawValue := "c", pos := .int 1 }
    let r : Rule Token := RequireEnum.ruleBy .mark none .null
    Function.Injective ids ∧ ResolversAnswer fields ∧
      parse fields {} ids "status:a status:c" = .ok ⟨[found, lost], none⟩ ∧
      (¬∃ v ∈ Validation.run [found, lost] fields [r] [], found.id ∈ v.tokenIds) ∧
      ∃ v ∈ Validation.run [found, lost] fields [r] [], lost.id ∈ v.tokenIds := by
  intro status kind fields ids found lost r
  have hids : Function.Injective ids := by
    intro n m h
    have hlength := congrArg List.length (String.ofList_injective h)
    simpa using hlength
  have hhost : ResolversAnswer fields := by
    intro field hfield resolve hresolve text option
    simp only [fields, List.mem_cons, List.not_mem_nil, or_false] at hfield
    rcases hfield with rfl | rfl
    · cases hresolve
    · cases hresolve
      exact ⟨.null, rfl⟩
  have hparse : parse fields {} ids "status:a status:c" = .ok ⟨[found, lost], none⟩ := by
    decide +kernel
  have hfound := flagged_enumValue_iff fields {} ids hids _ _ hparse found (by simp) rfl status rfl
    _ rfl _ rfl rfl .standard .mark none .null r rfl []
  have hlost := flagged_enumValue_iff fields {} ids hids _ _ hparse lost (by simp) rfl status rfl
    _ rfl _ rfl rfl .standard .mark none .null r rfl []
  refine ⟨hids, hhost, hparse, fun h => hfound.2 h ?_, (hlost.1 hhost).mpr ?_⟩
  · decide +kernel
  · decide +kernel

end FilterQuery
