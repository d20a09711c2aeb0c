import FilterQuery.Proofs.RoundTrip

/-!
# The grammar of words

A word is a filter when the text in front of its first delimiter is a key that counts. The text
behind is an operator of the key, a delimiter and the raw value, or else it is the raw value alone
and the first operator of the key is taken (`OperatorChoice`). The raw value may be quoted, and an
enum field looks it up among its options (`Resolves`). Reading splits a word at every delimiter and
joins parts again; `parseWord_iff` says that it follows the grammar all the same, for delimiters of
any length. `parseWord_render` says what this means for writing: whatever the value of a filter
holds, it is read back.
-/

namespace FilterQuery.Query

open Quoting (unquote)

/-! ## The grammar -/

/-- The operators of a key: those of its first field, and without a field those of unknown fields,
for which none means the default. -/
def operatorsFor (fields : List Field) (unknown : List String) (key : String) : List String :=
  match findField fields key with
  | some field => field.operators
  | none => if unknown.isEmpty then defaultUnknownOperators else unknown

/-- Words that are no filters. -/
inductive NoFilter (fields : List Field) (allowUnknown : Bool) (delimiter word : List Char) : Prop
  | noWord (h : word = [])
  | noDelimiter (h : delimiter = [])
  | quoted (hfirst : word.head? = some '"') (hlast : word.getLast? = some '"')
  | uncut (h : ¬ delimiter <:+: word)
  | noKey (h : delimiter <+: word)
  | unknownKey (key : String) (behind : List Char)
      (hcut : FirstCut delimiter word key.toList behind) (hfind : findField fields key = none)
      (hunknown : allowUnknown = false)

/-- Operator and raw value, in the text behind a key with some operators. -/
inductive OperatorChoice (operators : List String) (delimiter behind : List Char)
    (operator : String) (raw : List Char) : Prop
  | written (hcut : FirstCut delimiter behind operator.toList raw) (hmem : operator ∈ operators)
  | first (hfirst : operators.head? = some operator) (hraw : raw = behind)
      (hnone : ∀ (part : String) (rest : List Char),
        FirstCut delimiter behind part.toList rest → part ∉ operators)

/-- What a raw value stands for; a resolver of the host may fail. -/
inductive Resolves (field : Option Field) (rawValue : String) (value : Except Fault Value) : Prop
  | options (f : Field) (options : List EnumValue) (hfield : field = some f)
      (htype : f.type = .enum) (hoptions : f.enumValues = some options) (hne : options ≠ [])
      (hvalue : resolveEnum options (.str rawValue) f.resolver = value)
  | plain (hnone : ∀ f ∈ field, f.type = .enum → ∀ options, f.enumValues = some options →
        options = [])
      (hvalue : value = .ok (.str rawValue))

/-- What a filter is read as. -/
inductive FilterReading (fields : List Field) (unknown : List String)
    (delimiter word : List Char) (result : Except Fault (Option ParsedFilter)) : Prop
  | mk (key operator rawValue : String) (behind raw : List Char) (value : Except Fault Value)
      (hcut : FirstCut delimiter word key.toList behind)
      (hchoice : OperatorChoice (operatorsFor fields unknown key) delimiter behind operator raw)
      (hraw : rawValue.toList = if raw.head? = some '"' then (unquote raw).value else raw)
      (hvalue : Resolves (findField fields key) rawValue value)
      (hresult : result = value.map fun v => some ⟨key, .str operator, v, rawValue⟩)

/-! ## Operators -/

variable {fields : List Field} {opts : LexOptions} {unknown : List String}

theorem operatorsFor_ne_nil (fields : List Field) (unknown : List String) (key : String) :
    operatorsFor fields unknown key ≠ [] := by
  unfold operatorsFor
  split
  · exact Field.operators_ne_nil _
  · split
    · exact List.cons_ne_nil "is" []
    · rename_i hne
      exact fun h => hne (List.isEmpty_iff.mpr h)

theorem lookUp_eq (hunknown : opts.unknownOperators = .namesOrDefault unknown) {key : String}
    (hknown : findField fields key = none → opts.allowUnknown = true) :
    opts.lookUp fields key =
      some (findField fields key, .names (operatorsFor fields unknown key)) := by
  unfold LexOptions.lookUp operatorsFor
  cases hfind : findField fields key with
  | none =>
    rw [hknown hfind, hunknown]
    rfl
  | some field => rfl

theorem accepts_names {operators : List String} {operator : String} :
    (OperatorSet.names operators).accepts operator = true ↔ operator ∈ operators :=
  List.contains_iff_mem

theorem OperatorChoice.mem {operators : List String} {delimiter behind raw : List Char}
    {operator : String} (h : OperatorChoice operators delimiter behind operator raw) :
    operator ∈ operators := by
  cases h with
  | written hcut hmem => exact hmem
  | first hfirst hraw hnone => exact List.mem_of_head? hfirst

theorem OperatorChoice.text_eq {operators : List String} {delimiter behind raw : List Char}
    {operator : String} (h : OperatorChoice operators delimiter behind operator raw) :
    behind = raw ∨ behind = operator.toList ++ delimiter ++ raw := by
  cases h with
  | written hcut hmem => exact Or.inr hcut.text_eq
  | first hfirst hraw hnone => exact Or.inl hraw.symm

theorem OperatorChoice.chooseIn_eq {operators : List String} {delimiter behind raw : List Char}
    {operator : String} (h : OperatorChoice operators delimiter behind operator raw)
    (hne : delimiter ≠ []) :
    chooseIn (.names operators) delimiter behind = .ok (.str operator, raw) := by
  cases h with
  | written hcut hmem =>
    rw [chooseIn_of_cut hne hcut, String.ofList_toList, if_pos (accepts_names.mpr hmem)]
  | first hfirst hraw hnone =>
    have hname : (OperatorSet.names operators).first = .ok (.str operator) := by
      unfold OperatorSet.names
      rw [List.headD_eq_head?_getD, hfirst]
      rfl
    rw [hraw]
    by_cases hoccurs : delimiter <:+: behind
    · obtain ⟨part, rest, hcut⟩ := exists_firstCut hoccurs
      have hrefused : ¬ (OperatorSet.names operators).accepts (String.ofList part) = true := by
        intro haccepts
        rw [← String.toList_ofList (l := part)] at hcut
        exact hnone _ rest hcut (accepts_names.mp haccepts)
      rw [chooseIn_of_cut hne hcut, if_neg hrefused, hname]
      rfl
    · rw [chooseIn_of_not_occurs hoccurs, hname]
      rfl

theorem exists_operatorChoice {operators : List String} (hne : operators ≠ [])
    (delimiter behind : List Char) :
    ∃ operator raw, OperatorChoice operators delimiter behind operator raw := by
  by_cases hwritten : ∃ operator raw, FirstCut delimiter behind operator.toList raw ∧
      operator ∈ operators
  · obtain ⟨operator, raw, hcut, hmem⟩ := hwritten
    exact ⟨operator, raw, .written hcut hmem⟩
  · obtain ⟨operator, rest, rfl⟩ := List.exists_cons_of_ne_nil hne
    exact ⟨operator, behind, .first rfl rfl
      fun part rest hcut hmem => hwritten ⟨part, rest, hcut, hmem⟩⟩

/-! ## Values -/

theorem value_unquote (raw : List Char) :
    (unquote raw).value = if raw.head? = some '"' then (unquote raw).value else raw := by
  split
  · rfl
  · rename_i h
    rw [Quoting.unquote_of_head h]

theorem options?_eq_some {f : Field} {options : List EnumValue} :
    f.options? = some options ↔ f.type = .enum ∧ f.enumValues = some options ∧ options ≠ [] := by
  unfold Field.options? Field.isEnum
  rcases f.enumValues with - | ⟨- | ⟨v, vs⟩⟩
  · simp
  · simp +contextual
  · by_cases htype : f.type = .enum
    · simp +contextual [htype, eq_comm]
    · simp [htype]

theorem Resolves.resolveFor_eq {field : Option Field} {rawValue : String}
    {value : Except Fault Value} (h : Resolves field rawValue value) :
    resolveFor field rawValue = value := by
  unfold resolveFor
  rcases h with ⟨f, options, rfl, htype, hoptions, hne, hvalue⟩ | ⟨hnone, hvalue⟩
  · have hsome : f.options? = some options := options?_eq_some.mpr ⟨htype, hoptions, hne⟩
    rw [Option.bind_some, hsome]
    exact hvalue
  · split
    · rename_i f options hbind
      obtain ⟨f', hf', hmap⟩ := Option.bind_eq_some_iff.mp hbind
      obtain ⟨options', hoptions, heq⟩ := Option.map_eq_some_iff.mp hmap
      cases heq
      obtain ⟨htype, hvalues, hne⟩ := options?_eq_some.mp hoptions
      exact absurd (hnone f hf' htype options hvalues) hne
    · exact hvalue.symm

theorem exists_resolves (field : Option Field) (rawValue : String) :
    ∃ value, Resolves field rawValue value := by
  by_cases henum : ∃ f ∈ field, ∃ options, f.type = .enum ∧ f.enumValues = some options ∧
      options ≠ []
  · obtain ⟨f, hf, options, htype, hoptions, hne⟩ := henum
    exact ⟨_, .options f options hf htype hoptions hne rfl⟩
  · refine ⟨_, .plain (fun f hf htype options hoptions => ?_) rfl⟩
    by_contra hne
    exact henum ⟨f, hf, options, htype, hoptions, hne⟩

/-! ## Words -/

theorem parseWord_of_noFilter {word : List Char}
    (h : NoFilter fields opts.allowUnknown opts.delimiter.toList word) :
    parseWord fields opts word = .ok none := by
  by_cases hdelimiter : opts.delimiter.toList = []
  · simp [parseWord, hdelimiter]
  by_cases hquoted : word.head? = some '"' ∧ word.getLast? = some '"'
  · simp [parseWord, hquoted]
  cases h with
  | noWord h => simp [parseWord, h]
  | noDelimiter h => exact absurd h hdelimiter
  | quoted hfirst hlast => exact absurd ⟨hfirst, hlast⟩ hquoted
  | uncut h => simp [parseWord, split_of_not_occurs h]
  | noKey h =>
    obtain ⟨behind, rfl⟩ := h
    simp [parseWord, split_delimiter_append hdelimiter]
  | unknownKey key behind hcut hfind hunknown =>
    have hlookUp : opts.lookUp fields key = none := by
      rw [LexOptions.lookUp, hfind, hunknown]
      rfl
    by_cases hkey : key.toList = []
    · rw [hkey] at hcut
      simp [parseWord, hcut.split_eq hdelimiter]
    · rw [parseWord_of_cut hdelimiter hquoted hcut hkey, String.ofList_toList, hlookUp]

/-- A word that is not refused is cut behind a key that counts. -/
theorem exists_cut_of_not_noFilter {allowUnknown : Bool} {delimiter word : List Char}
    (h : ¬ NoFilter fields allowUnknown delimiter word) :
    ∃ (key : String) (behind : List Char), FirstCut delimiter word key.toList behind := by
  by_cases hoccurs : delimiter <:+: word
  · obtain ⟨front, behind, hcut⟩ := exists_firstCut hoccurs
    rw [← String.toList_ofList (l := front)] at hcut
    exact ⟨_, behind, hcut⟩
  · exact absurd (.uncut hoccurs) h

/-- The grammar leaves no choice. -/
theorem FilterReading.parseWord_eq (hunknown : opts.unknownOperators = .namesOrDefault unknown)
    {word : List Char} (hfilter : ¬ NoFilter fields opts.allowUnknown opts.delimiter.toList word)
    {result : Except Fault (Option ParsedFilter)}
    (h : FilterReading fields unknown opts.delimiter.toList word result) :
    parseWord fields opts word = result := by
  obtain ⟨key, operator, rawValue, behind, raw, value, hcut, hchoice, hraw, hvalue, hresult⟩ := h
  have hdelimiter : opts.delimiter.toList ≠ [] := fun h => hfilter (.noDelimiter h)
  have hquoted : ¬ (word.head? = some '"' ∧ word.getLast? = some '"') :=
    fun h => hfilter (.quoted h.1 h.2)
  have hkey : key.toList ≠ [] := by
    intro hnil
    rw [hnil] at hcut
    exact hfilter (.noKey ⟨behind, hcut.text_eq.symm⟩)
  have hknown : findField fields key = none → opts.allowUnknown = true := by
    intro hfind
    by_contra hrefused
    exact hfilter (.unknownKey key behind hcut hfind (Bool.eq_false_iff.mpr hrefused))
  have hrawValue : String.ofList (unquote raw).value = rawValue := by
    rw [value_unquote, ← hraw, String.ofList_toList]
  rw [parseWord_of_cut hdelimiter hquoted hcut hkey, String.ofList_toList,
    lookUp_eq hunknown hknown, hresult]
  simp only [hchoice.chooseIn_eq hdelimiter, bind, Except.bind, hrawValue, hvalue.resolveFor_eq]
  cases value <;> rfl

theorem FilterReading.ne_none {delimiter word : List Char}
    {result : Except Fault (Option ParsedFilter)}
    (h : FilterReading fields unknown delimiter word result) : result ≠ .ok none := by
  obtain ⟨_, _, _, _, _, value, _, _, _, _, rfl⟩ := h
  cases value with
  | error e => exact nofun
  | ok v => exact nofun

theorem exists_filterReading {allowUnknown : Bool} {delimiter word : List Char}
    (h : ¬ NoFilter fields allowUnknown delimiter word) (unknown : List String) :
    ∃ result, FilterReading fields unknown delimiter word result := by
  obtain ⟨key, behind, hcut⟩ := exists_cut_of_not_noFilter h
  obtain ⟨operator, raw, hchoice⟩ :=
    exists_operatorChoice (operatorsFor_ne_nil fields unknown key) delimiter behind
  obtain ⟨value, hvalue⟩ := exists_resolves (findField fields key)
    (String.ofList (if raw.head? = some '"' then (unquote raw).value else raw))
  exact ⟨_, .mk key operator _ behind raw value hcut hchoice String.toList_ofList hvalue rfl⟩

/-- **Reading a word follows the grammar.** A word is no filter just if there is no word or no
delimiter, if it stands in quotes, if it has no delimiter or starts with one, or if the text in
front of the first one is a key that does not count. Any other word has just the readings of the
grammar, and that is one: it is a filter, unless the resolver of the host fails. -/
theorem parseWord_iff (fields : List Field) (allowUnknown : Bool) (unknown : List String)
    (delimiter : String) (word : List Char) :
    let opts : LexOptions := ⟨allowUnknown, .namesOrDefault unknown, delimiter⟩
    (parseWord fields opts word = .ok none ↔
        NoFilter fields allowUnknown delimiter.toList word) ∧
      (¬ NoFilter fields allowUnknown delimiter.toList word →
        ∀ result, parseWord fields opts word = result ↔
          FilterReading fields unknown delimiter.toList word result) := by
  intro opts
  have hreads : ¬ NoFilter fields allowUnknown delimiter.toList word →
      ∀ result, parseWord fields opts word = result ↔
        FilterReading fields unknown delimiter.toList word result := by
    intro hfilter result
    have honly : ∀ r, FilterReading fields unknown delimiter.toList word r →
        parseWord fields opts word = r := fun r h => h.parseWord_eq rfl hfilter
    refine ⟨fun hresult => ?_, honly result⟩
    obtain ⟨r, hr⟩ := exists_filterReading hfilter unknown
    rw [← hresult, honly r hr]
    exact hr
  refine ⟨⟨fun hnone => ?_, fun h => parseWord_of_noFilter h⟩, hreads⟩
  by_contra hfilter
  exact ((hreads hfilter _).mp hnone).ne_none rfl

/-- A delimiter whose occurrences overlap, an operator that starts with a part of it, and a quoted
label with the delimiter inside. -/
theorem parseWord_iff_overlapping :
    let state : Field :=
      { key := "k", label := "State", type := .enum, operators := ["is", ":is"]
        enumValues := some [.bare "is", .labelled ⟨"ab", "a::b", none⟩] }
    let opts : LexOptions := ⟨false, .namesOrDefault [], "::"⟩
    let word := "k:::is::\"a::b\"".toList
    let delimiter := "::".toList
    ¬ NoFilter [state] false delimiter word ∧
      parseWord [state] opts word = .ok (some ⟨"k", .str ":is", .str "ab", "a::b"⟩) ∧
      FilterReading [state] [] delimiter word
        (.ok (some ⟨"k", .str ":is", .str "ab", "a::b"⟩)) := by
  intro state opts word delimiter
  have hparse : parseWord [state] opts word =
      .ok (some ⟨"k", .str ":is", .str "ab", "a::b"⟩) := by decide +kernel
  obtain ⟨hnone, hreads⟩ := parseWord_iff [state] false [] "::" word
  have hfilter : ¬ NoFilter [state] false delimiter word := by
    intro h
    have hparse' : parseWord [state] opts word = .ok none := hnone.mpr h
    rw [hparse] at hparse'
    cases hparse'
  exact ⟨hfilter, hparse, (hreads hfilter _).mp hparse⟩

/-! ## Written filters -/

/-- **A filter is read back from the word that it is written as.** Its key holds no delimiter and
starts with no quote, and it is known or unknown keys count; its operator is one of the key and
holds no delimiter; its value is one that it resolves to, and may hold anything. Then key, operator
and value come back as they are, even where the delimiter is the quote or the backslash. -/
theorem parseWord_render (fields : List Field) (allowUnknown : Bool) (unknown : List String)
    (d : Char) (t : Token) (htype : t.type = .filter) (hkey : t.key ≠ "")
    (hkeyDelimiter : d ∉ t.key.toList) (hkeyQuote : t.key.toList.head? ≠ some '"')
    (hknown : findField fields t.key = none → allowUnknown = true)
    (hoperator : t.operator ∈ operatorsFor fields unknown t.key)
    (hoperatorDelimiter : d ∉ t.operator.toList) (hvalue : t.value ≠ "")
    (hresolves : Resolves (findField fields t.key) t.value (.ok (.str t.value))) :
    let opts : LexOptions := ⟨allowUnknown, .namesOrDefault unknown, String.singleton d⟩
    parseWord fields opts (t.render (String.singleton d)).toList =
      .ok (some ⟨t.key, .str t.operator, .str t.value, t.value⟩) := by
  intro opts
  have hdelimiter : opts.delimiter.toList = [d] := String.toList_singleton d
  have hlookUp : opts.lookUp fields t.key = _ := lookUp_eq rfl hknown
  have htext : (t.render (String.singleton d)).toList =
      t.key.toList ++ d :: (t.operator.toList ++ d :: Quoting.quoteIfNeeded t.value.toList) := by
    rw [Token.render, String.toList_ofList, String.toList_singleton,
      renderChars_filter htype hvalue]
    simp
  have hword := parseWord_written hdelimiter (toList_ne_nil hkey) hkeyQuote hkeyDelimiter
    hoperatorDelimiter (by rw [String.ofList_toList]; exact hlookUp)
    (by rw [String.ofList_toList]; exact accepts_names.mpr hoperator)
    (by rw [String.ofList_toList]; exact hresolves.resolveFor_eq)
  rw [htext, hword]
  simp only [String.ofList_toList]

/-- The delimiter is the quote, and the value holds it, an operator, backslashes and blanks. -/
theorem parseWord_render_quote :
    let value := "is\"\\is_not\" \t\"\\"
    let state : Field :=
      { key := "state", label := "State", type := .enum, operators := ["is", "is_not"]
        enumValues := some [.bare "is", .labelled ⟨value, "Odd", none⟩] }
    let t : Token := { id := "a", type := .filter, key := "state", operator := "is_not", value }
    t.type = .filter ∧ t.key ≠ "" ∧ '"' ∉ t.key.toList ∧ t.key.toList.head? ≠ some '"' ∧
      (findField [state] t.key = none → false = true) ∧
      t.operator ∈ operatorsFor [state] [] t.key ∧ '"' ∉ t.operator.toList ∧ t.value ≠ "" ∧
      Resolves (findField [state] t.key) t.value (.ok (.str t.value)) ∧
      (t.render (String.singleton '"')).toList =
        "state\"is_not\"\"is\\\"\\\\is_not\\\" \t\\\"\\\\\"".toList ∧
      parseWord [state] ⟨false, .namesOrDefault [], String.singleton '"'⟩
          (t.render (String.singleton '"')).toList =
        .ok (some ⟨t.key, .str t.operator, .str t.value, t.value⟩) := by
  intro value state t
  have hfind : findField [state] t.key = some state := rfl
  have hknown : findField [state] t.key = none → false = true := by
    rw [hfind]
    exact nofun
  have hresolves : Resolves (findField [state] t.key) t.value (.ok (.str t.value)) :=
    .options state _ hfind rfl rfl (List.cons_ne_nil _ _) (by decide +kernel)
  refine ⟨rfl, by decide, by decide, by decide, hknown, by decide, by decide, by decide +kernel,
    hresolves, by decide +kernel, ?_⟩
  exact parseWord_render [state] false [] '"' t rfl (by decide) (by decide) (by decide) hknown
    (by decide) (by decide) (by decide +kernel) hresolves

end FilterQuery.Query
