import FilterQuery.Proofs.Cuts
import FilterQuery.Proofs.Reading
import FilterQuery.Proofs.Tidy
import FilterQuery.Proofs.Words
import FilterQuery.Query.Render

/-!
# Reading what was written

Canonical tokens are written as tidy text that is one slice, closes its quotes and is read as the
token again (`Written`). Joined by spaces, these texts are cut at just these spaces, so reading a
written query gives its tokens back (`parse_render`).
-/

namespace FilterQuery.Query

open Quoting (Mode quoted quoteIfNeeded)
open Text (isBlank Spaced Tidy)

variable {fields : List Field} {opts : LexOptions} {d : Char} {t : Token}

/-- Text without blanks, quotes and delimiters. -/
structure Plain (d : Char) (cs : List Char) : Prop where
  noBlank : ∀ c ∈ cs, isBlank c = false
  noQuote : '"' ∉ cs
  noDelimiter : d ∉ cs

instance (d : Char) (cs : List Char) : Decidable (Plain d cs) :=
  decidable_of_iff ((cs.all fun c => !isBlank c) = true ∧ '"' ∉ cs ∧ d ∉ cs) <| by
    constructor
    · rintro ⟨hall, hquote, hdelimiter⟩
      exact ⟨fun c hc => by simpa using List.all_eq_true.mp hall c hc, hquote, hdelimiter⟩
    · rintro ⟨hblank, hquote, hdelimiter⟩
      exact ⟨List.all_eq_true.mpr fun c hc => by simp [hblank c hc], hquote, hdelimiter⟩

/-- Tokens that say all they have to say when they are written. -/
inductive Canonical (fields : List Field) (opts : LexOptions) (d : Char) (t : Token) : Prop where
  /-- A filter of a key that may be used, with one of its operators; a value of an enum field is
  one that resolves to itself. -/
  | filter (htype : t.type = .filter) (hkeyNonempty : t.key ≠ "") (hkey : Plain d t.key.toList)
      (field : Option Field) (operators : OperatorSet)
      (hlookUp : opts.lookUp fields t.key = some (field, operators))
      (haccepts : operators.accepts t.operator = true) (hoperator : Plain d t.operator.toList)
      (hnonempty : t.value ≠ "") (hvalue : Spaced t.value.toList)
      (hresolve : ∀ f ∈ field, ∀ options, f.options? = some options →
        resolveEnum options (.str t.value) f.resolver = .ok (.str t.value))
  | quoted (htype : t.type = .freeText) (hquoted : t.quoted = true) (hnonempty : t.value ≠ "")
      (hvalue : Spaced t.value.toList)
  /-- A word that does not read as a filter with a value. -/
  | word (htype : t.type = .freeText) (hquoted : t.quoted = false) (hnonempty : t.value ≠ "")
      (hblank : ∀ c ∈ t.value.toList, isBlank c = false) (hquote : '"' ∉ t.value.toList)
      (f? : Option ParsedFilter) (hparse : parseWord fields opts t.value.toList = .ok f?)
      (hfalsy : ∀ f ∈ f?, f.value.isFalsy = true)

/-- A canonical token as it is read back, under a new id and at a new position. -/
def readBack (id : String) (pos : Nat) (t : Token) : Token :=
  match t.type with
  | .filter =>
      { id, type := .filter, key := t.key, operator := t.operator, value := t.value
        rawValue := t.value, pos := .int pos }
  | type =>
      { id, type, value := t.value, rawValue := t.value, quoted := t.quoted
        rawText := if t.quoted then some (String.ofList (quoted t.value.toList)) else none
        pos := .int pos }

/-- Text that stands for a token in a query. -/
structure Written (fields : List Field) (opts : LexOptions) (t : Token) (text : List Char) :
    Prop where
  tidy : Tidy text
  slices_eq : slices text = [text]
  closed : Mode.outside.after text = .outside
  complete : unclosed? text = none
  token : ∀ id pos, tokenOf fields opts id pos text = .ok (readBack id pos t)

theorem toList_ne_nil {s : String} (h : s ≠ "") : s.toList ≠ [] :=
  fun hnil => h (String.toList_eq_nil_iff.mp hnil)

/-! ## What tokens are written as -/

theorem isEmpty_toList {s : String} (h : s ≠ "") : s.toList.isEmpty = false :=
  List.isEmpty_eq_false_iff.mpr (toList_ne_nil h)

theorem renderChars_filter {t : Token} (htype : t.type = .filter) (hvalue : t.value ≠ "")
    (delimiter : List Char) :
    t.renderChars delimiter =
      t.key.toList ++ delimiter ++ t.operator.toList ++ delimiter ++
        quoteIfNeeded t.value.toList := by
  rw [Token.renderChars, htype]
  simp only [isEmpty_toList hvalue]
  rfl

theorem renderChars_quoted {t : Token} (htype : t.type = .freeText) (hquoted : t.quoted = true)
    (hvalue : t.value ≠ "") (delimiter : List Char) :
    t.renderChars delimiter = quoted t.value.toList := by
  rw [Token.renderChars, htype]
  simp only [isEmpty_toList hvalue, hquoted]
  rfl

theorem renderChars_word {t : Token} (htype : t.type = .freeText) (hquoted : t.quoted = false)
    (delimiter : List Char) : t.renderChars delimiter = t.value.toList := by
  rw [Token.renderChars, htype]
  simp only [hquoted]
  cases t.value.toList <;> rfl

/-! ## Token by token -/

theorem written_quoted (htype : t.type = .freeText) (hquoted : t.quoted = true)
    (hvalue : Spaced t.value.toList) : Written fields opts t (quoted t.value.toList) := by
  constructor
  · exact Tidy.quoted hvalue
  · exact slices_quoted _
  · exact Quoting.after_quoted _
  · show unclosed? ('"' :: (Quoting.escape t.value.toList ++ ['"'])) = none
    rw [unclosed?, readQuoted_quoted]
  · intro id pos
    rw [tokenOf_quoted, readBack, htype, hquoted, String.ofList_toList]
    rfl

theorem head?_ne_of_notMem {cs : List Char} (h : '"' ∉ cs) (hne : cs ≠ []) (rest : List Char) :
    (cs ++ rest).head? ≠ some '"' := by
  obtain ⟨c, cs, rfl⟩ := List.exists_cons_of_ne_nil hne
  intro hhead
  obtain rfl : c = '"' := Option.some.inj hhead
  exact h List.mem_cons_self

theorem space_notMem {cs : List Char} (h : ∀ c ∈ cs, isBlank c = false) : ' ' ∉ cs :=
  fun hmem => absurd (h ' ' hmem) (by decide)

theorem written_word (htype : t.type = .freeText) (hquoted : t.quoted = false)
    (hnonempty : t.value ≠ "") (hblank : ∀ c ∈ t.value.toList, isBlank c = false)
    (hquote : '"' ∉ t.value.toList) {f? : Option ParsedFilter}
    (hparse : parseWord fields opts t.value.toList = .ok f?)
    (hfalsy : ∀ f ∈ f?, f.value.isFalsy = true) : Written fields opts t t.value.toList := by
  have hne := toList_ne_nil hnonempty
  have hhead : t.value.toList.head? ≠ some '"' := by
    have h := head?_ne_of_notMem hquote hne []
    rwa [List.append_nil] at h
  constructor
  · exact Tidy.of_noBlank hne hblank
  · have h : slices (t.value.toList ++ []) = [t.value.toList ++ []] :=
      slices_word hne (space_notMem hblank) hquote []
    rwa [List.append_nil] at h
  · have h := Quoting.after_of_notMem hquote []
    rwa [List.append_nil] at h
  · exact unclosed?_of_head hhead
  · intro id pos
    have hword : ∀ cs, t.value.toList = '"' :: cs → False := by
      intro cs h
      rw [h] at hhead
      exact hhead rfl
    rw [tokenOf.eq_2 _ _ _ _ _ hword, hparse, readBack, htype, hquoted, String.ofList_toList]
    cases f? with
    | none => rfl
    | some f =>
      simp only [Except.mapError, bind, Except.bind, hfalsy f rfl]
      rfl

/-- In front of the value of a filter there is neither a blank nor a quote. -/
theorem of_mem_front (hblank : isBlank d = false) (hquote : d ≠ '"') {key operator : List Char}
    (hkey : Plain d key) (hoperator : Plain d operator) :
    ∀ c ∈ key ++ [d] ++ operator ++ [d], isBlank c = false ∧ c ≠ '"' := by
  have hd : ∀ c ∈ [d], isBlank c = false ∧ c ≠ '"' := by
    intro c hc
    rw [List.mem_singleton.mp hc]
    exact ⟨hblank, hquote⟩
  have hplain : ∀ cs, Plain d cs → ∀ c ∈ cs, isBlank c = false ∧ c ≠ '"' :=
    fun cs h c hc => ⟨h.noBlank c hc, fun heq => h.noQuote (heq ▸ hc)⟩
  intro c hc
  simp only [List.mem_append] at hc
  rcases hc with ((hc | hc) | hc) | hc
  · exact hplain _ hkey c hc
  · exact hd c hc
  · exact hplain _ hoperator c hc
  · exact hd c hc

theorem written_filter (hdelimiter : opts.delimiter.toList = [d]) (hblank : isBlank d = false)
    (hquote : d ≠ '"') (htype : t.type = .filter) (hkeyNonempty : t.key ≠ "")
    (hkey : Plain d t.key.toList) {field : Option Field} {operators : OperatorSet}
    (hlookUp : opts.lookUp fields t.key = some (field, operators))
    (haccepts : operators.accepts t.operator = true) (hoperator : Plain d t.operator.toList)
    (hnonempty : t.value ≠ "") (hvalue : Spaced t.value.toList)
    (hresolve : resolveFor field t.value = .ok (.str t.value)) :
    Written fields opts t
      (t.key.toList ++ [d] ++ t.operator.toList ++ [d] ++ quoteIfNeeded t.value.toList) := by
  have hparse : parseWord fields opts
      (t.key.toList ++ [d] ++ t.operator.toList ++ [d] ++ quoteIfNeeded t.value.toList) =
        .ok (some ⟨t.key, .str t.operator, .str t.value, t.value⟩) := by
    have h : parseWord fields opts (t.key.toList ++ d :: (t.operator.toList ++
        d :: quoteIfNeeded t.value.toList)) = .ok (some _) :=
      parseWord_written hdelimiter (toList_ne_nil hkeyNonempty)
        (fun hhead => hkey.noQuote (List.mem_of_head? hhead)) hkey.noDelimiter
        hoperator.noDelimiter (by rw [String.ofList_toList]; exact hlookUp)
        (by rw [String.ofList_toList]; exact haccepts)
        (by rw [String.ofList_toList]; exact hresolve)
    simp only [String.ofList_toList] at h
    rw [← h]
    simp
  generalize hfront : t.key.toList ++ [d] ++ t.operator.toList ++ [d] = front at hparse ⊢
  have hmem : ∀ c ∈ front, isBlank c = false ∧ c ≠ '"' := by
    rw [← hfront]
    exact of_mem_front hblank hquote hkey hoperator
  have hne : front ≠ [] := by
    rw [← hfront]
    simp
  have hnoBlank : ∀ c ∈ front, isBlank c = false := fun c hc => (hmem c hc).1
  have hnoQuote : '"' ∉ front := fun hc => (hmem _ hc).2 rfl
  have hhead := head?_ne_of_notMem hnoQuote hne (quoteIfNeeded t.value.toList)
  constructor
  · exact (Tidy.of_noBlank hne hnoBlank).append
      (Tidy.quoteIfNeeded (toList_ne_nil hnonempty) hvalue)
  · exact slices_word hne (space_notMem hnoBlank) hnoQuote _
  · exact after_word hnoQuote _
  · exact unclosed?_of_head hhead
  · intro id pos
    have hword : ∀ cs, front ++ quoteIfNeeded t.value.toList = '"' :: cs → False := by
      intro cs h
      rw [h] at hhead
      exact hhead rfl
    have htruthy : (Value.str t.value).isFalsy = false := by
      rw [Value.isFalsy, Bool.eq_false_iff]
      exact fun h => hnonempty (String.isEmpty_iff.mp h)
    rw [tokenOf.eq_2 _ _ _ _ _ hword, hparse, readBack, htype]
    simp only [Except.mapError, bind, Except.bind, htruthy]
    rfl

/-- Each canonical token is written as text that stands for it. -/
theorem written_renderChars (hdelimiter : opts.delimiter.toList = [d]) (hblank : isBlank d = false)
    (hquote : d ≠ '"') (h : Canonical fields opts d t) :
    Written fields opts t (t.renderChars [d]) := by
  cases h with
  | filter htype hkeyNonempty hkey field operators hlookUp haccepts hoperator hnonempty hvalue
      hresolve =>
    have hresolveFor : resolveFor field t.value = .ok (.str t.value) := by
      rw [resolveFor]
      split
      · rename_i f options hbind
        obtain ⟨f', hf', hoptions⟩ := Option.bind_eq_some_iff.mp hbind
        obtain ⟨options', hoptions', heq⟩ := Option.map_eq_some_iff.mp hoptions
        cases heq
        exact hresolve f hf' options hoptions'
      · rfl
    rw [renderChars_filter htype hnonempty]
    exact written_filter hdelimiter hblank hquote htype hkeyNonempty hkey hlookUp haccepts
      hoperator hnonempty hvalue hresolveFor
  | quoted htype hquoted hnonempty hvalue =>
    rw [renderChars_quoted htype hquoted hnonempty]
    exact written_quoted htype hquoted hvalue
  | word htype hquoted hnonempty hnoBlank hnoQuote f? hparse hfalsy =>
    rw [renderChars_word htype hquoted]
    exact written_word htype hquoted hnonempty hnoBlank hnoQuote hparse hfalsy

/-! ## The whole query -/

theorem tokensFrom_map {text : Token → List Char} {ids : Nat → String} {ts : List Token}
    (h : ∀ t ∈ ts, ∀ id pos, tokenOf fields opts id pos (text t) = .ok (readBack id pos t))
    (n : Nat) :
    tokensFrom fields opts ids n (ts.map text) =
      .ok (ts.mapIdx fun i t => readBack (ids (n + i)) (n + i) t) := by
  induction ts generalizing n with
  | nil => rfl
  | cons t ts ih =>
    have hrest := ih (fun u hu => h u (List.mem_cons_of_mem _ hu)) (n + 1)
    have hshift : ∀ i, n + 1 + i = n + (i + 1) := by omega
    simp only [hshift] at hrest
    rw [List.map_cons, tokensFrom, h t List.mem_cons_self, hrest, List.mapIdx_cons]
    rfl

/-- Text that stands for tokens is joined as it is. -/
theorem toList_joinParts {parts : List (List Char)} (h : ∀ part ∈ parts, Tidy part) :
    (joinParts parts).toList = [' '].intercalate parts := by
  have hall : (parts.filter fun part => !part.isEmpty) = parts := by
    rw [List.filter_eq_self]
    intro part hpart
    rw [List.isEmpty_eq_false_iff.mpr (h part hpart).ne_nil]
    rfl
  rw [joinParts, hall, String.toList_ofList]
  by_cases hne : parts = []
  · rw [hne]
    rfl
  · have htidy := Tidy.intercalate hne h
    rw [htidy.collapse_eq, htidy.trim_eq]

/-- **Reading undoes writing.** Canonical tokens come back one for one when the query that they are
written as is read, whatever quotes, backslashes, delimiters and spaces their values hold, and no
quote is left open. -/
theorem parse_render (fields : List Field) (opts : LexOptions) (d : Char)
    (hdelimiter : opts.delimiter = String.singleton d) (hblank : isBlank d = false)
    (hquote : d ≠ '"') (ids : Nat → String) (ts : List Token)
    (hcanonical : ∀ t ∈ ts, Canonical fields opts d t) :
    parse fields opts ids (render opts.delimiter ts) =
      .ok ⟨ts.mapIdx fun i t => readBack (ids i) i t, none⟩ := by
  have htoList : opts.delimiter.toList = [d] := by
    rw [hdelimiter, String.toList_singleton]
  have hwritten : ∀ t ∈ ts, Written fields opts t (t.renderChars [d]) :=
    fun t ht => written_renderChars htoList hblank hquote (hcanonical t ht)
  have hslices : slices (render opts.delimiter ts).toList = ts.map (·.renderChars [d]) := by
    rw [render, htoList, toList_joinParts]
    · apply slices_intercalate
      · intro part hpart
        obtain ⟨t, ht, rfl⟩ := List.mem_map.mp hpart
        exact (hwritten t ht).slices_eq
      · intro part hpart
        obtain ⟨t, ht, rfl⟩ := List.mem_map.mp hpart
        exact (hwritten t ht).closed
    · intro part hpart
      obtain ⟨t, ht, rfl⟩ := List.mem_map.mp hpart
      exact (hwritten t ht).tidy
  rw [parse_eq_ok_iff, hslices]
  constructor
  · have htokens : tokensFrom fields opts ids 0 (ts.map (·.renderChars [d])) = .ok _ :=
      tokensFrom_map (fun t ht => (hwritten t ht).token) 0
    simp only [Nat.zero_add] at htokens
    exact htokens
  · rw [List.getLast?_map]
    cases hlast : ts.getLast? with
    | none => rfl
    | some t => exact (hwritten t (List.mem_of_getLast? hlast)).complete.symm

/-- An enum filter, one of an unknown key whose value holds the delimiter, an operator, quotes and
spaces at its ends, quoted free text that ends in a backslash, and a filter without a value. -/
theorem parse_render_entangled :
    let status : Field :=
      { key := "status", label := "Status", type := .enum, operators := ["is", "is_not"]
        enumValues := some [.bare "open", .labelled ⟨"done", "Closed", none⟩] }
    let opts : LexOptions := { allowUnknown := true, delimiter := "=" }
    let ts : List Token :=
      [{ id := "a", type := .filter, key := "status", operator := "is_not", value := "done" },
       { id := "b", type := .filter, key := "owner", operator := "is", value := " \"is=\\ x\" " },
       { id := "c", type := .freeText, value := "status=is=\\", quoted := true },
       { id := "d", type := .freeText, value := "status=" }]
    let ids : Nat → String := fun n => String.ofList (List.replicate n 'g')
    opts.delimiter = String.singleton '=' ∧ isBlank '=' = false ∧ '=' ≠ '"' ∧
      (∀ t ∈ ts, Canonical [status] opts '=' t) ∧
      (render opts.delimiter ts).toList =
        "status=is_not=done owner=is=\" \\\"is=\\\\ x\\\" \" \"status=is=\\\\\" status=".toList ∧
      parse [status] opts ids (render opts.delimiter ts) =
        .ok ⟨ts.mapIdx fun i t => readBack (ids i) i t, none⟩ := by
  intro status opts ts ids
  have hcanonical : ∀ t ∈ ts, Canonical [status] opts '=' t := by
    intro t ht
    simp only [ts, List.mem_cons, List.not_mem_nil, or_false] at ht
    rcases ht with rfl | rfl | rfl | rfl
    · refine .filter rfl (by decide) (by decide +kernel) (some status) (.names status.operators)
        rfl rfl (by decide +kernel) (by decide) (by decide +kernel) ?_
      rintro _ ⟨⟩ options hoptions
      cases hoptions
      decide +kernel
    · exact .filter rfl (by decide) (by decide +kernel) none opts.unknownOperators rfl rfl
        (by decide +kernel) (by decide) (by decide +kernel) (by simp)
    · exact .quoted rfl rfl (by decide) (by decide +kernel)
    · have hplain : Plain ' ' "status=".toList := by decide +kernel
      refine .word rfl rfl (by decide) hplain.noBlank hplain.noQuote
        (some ⟨"status", .str "is", .str "", ""⟩) (by decide +kernel) ?_
      rintro _ ⟨⟩
      rfl
  refine ⟨rfl, by decide, by decide, hcanonical, by decide +kernel, ?_⟩
  exact parse_render [status] opts '=' rfl (by decide) (by decide) ids ts hcanonical

end FilterQuery.Query
