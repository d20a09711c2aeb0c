import FilterQuery.Proofs.Normalization

/-!
# Modes of free text

The free text of a query is dropped, kept as plain text or kept as terms. What a mode makes of a
token depends neither on its id nor on its position (`unplaced_shape?`), so the documents of one
query can be compared although each is read with ids of its own (`parseTokens_of_parse`). A token
shows in a text through its runs between blanks: plain text shows what the term shows that it was
made of (`shown_plainOf`), and what all modes drop shows nothing, unless it is quoted
(`shown_of_blank`). `modes_agree` says what the documents have in common.
-/

namespace FilterQuery.Query

open Quoting (quoted)

variable {fields : List Field} {opts : LexOptions}

/-! ## Tokens up to their places -/

/-- A token without its id and its position. -/
def unplaced (t : Token) : Token := placed "" 0 t

/-- What a mode makes of a token is the same wherever the token stands. -/
theorem unplaced_shape? (mode : FreeTextMode) (id : String) (pos : Nat) (t : Token) :
    (mode.shape? (placed id pos t)).map unplaced = (mode.shape? t).map unplaced := by
  have hfilter : (placed id pos t).isFilter = t.isFilter := rfl
  have hvalue : (placed id pos t).value = t.value := rfl
  unfold FreeTextMode.shape?
  rw [hfilter, hvalue]
  cases t.isFilter with
  | true => rfl
  | false =>
    cases Text.isBlankString t.value with
    | true => rfl
    | false => cases mode <;> rfl

theorem map_unplaced_filterMap_shape? (mode : FreeTextMode) (ids : Nat → String) (n : Nat)
    (ts : List Token) :
    ((placedFrom ids n ts).filterMap mode.shape?).map unplaced =
      (ts.filterMap mode.shape?).map unplaced := by
  rw [List.map_filterMap, List.map_filterMap]
  induction ts generalizing n with
  | nil => rfl
  | cons t ts ih =>
    rw [placedFrom_cons, List.filterMap_cons, List.filterMap_cons, unplaced_shape?, ih]

theorem map_unplaced_renumber (ts : List Token) : (renumber ts).map unplaced = ts.map unplaced := by
  refine List.ext_getElem (by simp [renumber]) fun i hi hi' => ?_
  simp [renumber, unplaced, placed]

theorem map_pos_renumber (ts : List Token) :
    (renumber ts).map (·.pos) = (List.range (renumber ts).length).map fun i => .int i := by
  refine List.ext_getElem (by simp) fun i hi hi' => ?_
  simp [renumber]

section

variable {ts us : List Token} (h : ts.map unplaced = us.map unplaced)
include h

/-- A test that looks neither at ids nor at positions lets the same tokens pass. -/
theorem map_unplaced_filter {q : Token → Bool} (hq : ∀ t, q (unplaced t) = q t) :
    (ts.filter q).map unplaced = (us.filter q).map unplaced := by
  have hmap : ∀ xs : List Token, (xs.filter q).map unplaced = (xs.map unplaced).filter q := by
    intro xs
    rw [List.filter_map]
    exact congrArg (List.map unplaced) (List.filter_congr fun t _ => (hq t).symm)
  rw [hmap, hmap, h]

theorem map_plainOf_of_unplaced :
    ts.map (fun t => unplaced (plainOf t)) = us.map fun t => unplaced (plainOf t) := by
  have hmap : ∀ xs : List Token, xs.map (fun t => unplaced (plainOf t)) =
      (xs.map unplaced).map fun t => unplaced (plainOf t) := by
    intro xs
    rw [List.map_map]
    rfl
  rw [hmap ts, h, ← hmap us]

end

/-! ## What shows in a text -/

/-- The runs between blanks that a token shows. -/
def shown (delimiter : String) (t : Token) : List (List Char) :=
  Text.runs (t.renderChars delimiter.toList)

theorem render_eq_of_shown {delimiter : String} {ts us : List Token}
    (h : ts.flatMap (shown delimiter) = us.flatMap (shown delimiter)) :
    render delimiter ts = render delimiter us := by
  rw [← String.toList_inj, render, render, toList_joinParts_eq, toList_joinParts_eq,
    List.flatMap_map, List.flatMap_map]
  exact congrArg _ h

theorem render_of_unplaced {ts us : List Token} (h : ts.map unplaced = us.map unplaced)
    (delimiter : String) : render delimiter ts = render delimiter us := by
  have hmap : ∀ xs : List Token,
      (xs.map unplaced).flatMap (shown delimiter) = xs.flatMap (shown delimiter) :=
    fun xs => List.flatMap_map ..
  apply render_eq_of_shown
  rw [← hmap, h, hmap]

/-- What a document shows, token by token of the query. -/
theorem flatMap_shown_filterMap (mode : FreeTextMode) (delimiter : String) (ts : List Token) :
    (ts.filterMap mode.shape?).flatMap (shown delimiter) =
      ts.flatMap fun t => (mode.shape? t).toList.flatMap (shown delimiter) := by
  rw [List.filterMap_eq_flatMap_toList, List.flatMap_assoc]

/-- Plain text shows what the free text shows that it was made of. -/
theorem shown_plainOf (delimiter : String) {t : Token} (htype : t.type = .freeText)
    (hvalue : t.value ≠ "") : shown delimiter (plainOf t) = shown delimiter t := by
  show Text.runs (Text.trim (plainOf t).value.toList) = Text.runs (t.renderChars delimiter.toList)
  rw [Text.runs_trim]
  cases hquoted : t.quoted with
  | true =>
    rw [renderChars_quoted htype hquoted hvalue, plainOf, hquoted]
    exact congrArg Text.runs String.toList_ofList
  | false =>
    rw [renderChars_word htype hquoted, plainOf, hquoted]
    rfl

/-- Blank free text shows nothing, unless it is quoted. -/
theorem shown_of_blank (delimiter : String) {t : Token} (htype : t.type = .freeText)
    (hblank : Text.isBlankString t.value = true) (hquoted : t.quoted = true → t.value = "") :
    shown delimiter t = [] := by
  unfold shown
  cases hquotes : t.quoted with
  | true =>
    have hempty : t.renderChars delimiter.toList = [] := by
      simp [Token.renderChars, htype, hquoted hquotes]
    rw [hempty, Text.runs_nil]
  | false =>
    rw [renderChars_word htype hquotes]
    exact Text.runs_of_allBlank (List.all_eq_true.mp hblank)

/-! ## What the modes keep -/

/-- The free text of a document that is not blank. -/
def terms (ts : List Token) : List Token :=
  ts.filter fun t => t.isFreeText && !Text.isBlankString t.value

/-- What free text is made into, apart from blank free text. -/
def FreeTextMode.term? : FreeTextMode → Token → Option Token
  | .none, _ => Option.none
  | .plain, t => some (plainOf t)
  | .tokenize, t => some t

/-- What a query has for tokens: filters, blank free text and other free text. -/
inductive ReadAs (t : Token) : Prop where
  | filter (htype : t.type = .filter)
  | blank (htype : t.type = .freeText) (hblank : Text.isBlankString t.value = true)
  | term (htype : t.type = .freeText) (hblank : Text.isBlankString t.value = false)

theorem readAs_of_parse {ids : Nat → String} {query : String} {p : Parsed}
    (h : parse fields opts ids query = .ok p) {t : Token} (ht : t ∈ p.tokens) : ReadAs t := by
  have hfree : t.type = .freeText → ReadAs t := by
    intro htype
    cases hblank : Text.isBlankString t.value with
    | true => exact .blank htype hblank
    | false => exact .term htype hblank
  obtain ⟨slice, -, hreading⟩ := exists_reading h ht
  cases hreading with
  | quoted cs hslice heq => exact hfree (by rw [heq])
  | word hslice f? hparse hvalue heq => exact hfree (by rw [heq])
  | filter hslice f hparse hoperator hvalue heq hkey hne => exact .filter (by rw [heq])

section

variable {t : Token} (mode : FreeTextMode)

theorem shape?_of_filter (htype : t.type = .filter) : mode.shape? t = some t := by
  simp [FreeTextMode.shape?, Token.isFilter, htype]

theorem shape?_of_blank (htype : t.type = .freeText)
    (hblank : Text.isBlankString t.value = true) : mode.shape? t = none := by
  simp [FreeTextMode.shape?, Token.isFilter, htype, hblank]

theorem shape?_of_term (htype : t.type = .freeText)
    (hblank : Text.isBlankString t.value = false) : mode.shape? t = mode.term? t := by
  unfold FreeTextMode.shape?
  rw [if_neg (by simp [Token.isFilter, htype]), hblank]
  cases mode <;> rfl

end

/-- Where free text is dropped, only filters are kept. -/
theorem isFilter_of_shape?_none {t u : Token} (h : FreeTextMode.none.shape? t = some u) :
    u.isFilter = true := by
  unfold FreeTextMode.shape? at h
  split at h
  · rename_i hfilter
    cases h
    exact hfilter
  · split at h
    · cases h
    · cases h

section

variable {ts : List Token} (h : ∀ t ∈ ts, ReadAs t)
include h

/-- What passes a test, from what does of each kind of token. -/
theorem filter_shaped (mode : FreeTextMode) (q : Token → Bool) (passed : Token → Option Token)
    (hfilter : ∀ t, t.type = .filter → (some t).filter q = passed t)
    (hblank : ∀ t, t.type = .freeText → Text.isBlankString t.value = true → passed t = none)
    (hterm : ∀ t, t.type = .freeText → Text.isBlankString t.value = false →
      (mode.term? t).filter q = passed t) :
    (ts.filterMap mode.shape?).filter q = ts.filterMap passed := by
  rw [List.filter_filterMap]
  refine List.filterMap_congr fun t ht => ?_
  cases h t ht with
  | filter htype => rw [shape?_of_filter mode htype, hfilter t htype]
  | blank htype hempty =>
    rw [shape?_of_blank mode htype hempty, hblank t htype hempty, Option.filter_none]
  | term htype hsome => rw [shape?_of_term mode htype hsome, hterm t htype hsome]

/-- Of filters each mode keeps all, and it adds none. -/
theorem filter_isFilter_shaped (mode : FreeTextMode) :
    (ts.filterMap mode.shape?).filter (·.isFilter) = ts.filter (·.isFilter) := by
  rw [filter_shaped h mode (·.isFilter) (Option.guard (·.isFilter)), List.filterMap_eq_filter]
  · intro t htype
    simp [Option.guard, Token.isFilter, htype]
  · intro t htype _
    simp [Option.guard, Token.isFilter, htype]
  · intro t htype _
    cases mode <;> simp [FreeTextMode.term?, plainOf, Option.guard, Token.isFilter, htype]

theorem filter_isFreeText_tokenized :
    (ts.filterMap FreeTextMode.tokenize.shape?).filter (·.isFreeText) = terms ts := by
  unfold terms
  rw [filter_shaped h _ (·.isFreeText)
    (Option.guard fun t => t.isFreeText && !Text.isBlankString t.value), List.filterMap_eq_filter]
  · intro t htype
    simp [Option.guard, Token.isFreeText, htype]
  · intro t _ hblank
    simp [Option.guard, hblank]
  · intro t htype hblank
    simp [FreeTextMode.term?, Option.guard, Token.isFreeText, htype, hblank]

theorem filter_isPlaintext_plain :
    (ts.filterMap FreeTextMode.plain.shape?).filter (·.isPlaintext) = (terms ts).map plainOf := by
  unfold terms
  rw [← List.filterMap_eq_map, List.filterMap_filter]
  apply filter_shaped h
  · intro t htype
    simp [Token.isFreeText, Token.isPlaintext, htype]
  · intro t _ hblank
    simp [hblank]
  · intro t htype hblank
    simp [FreeTextMode.term?, Token.isFreeText, Token.isPlaintext, plainOf, htype, hblank]

/-- Documents with plain text and with terms show the same. -/
theorem render_plain (delimiter : String) :
    render delimiter (ts.filterMap FreeTextMode.plain.shape?) =
      render delimiter (ts.filterMap FreeTextMode.tokenize.shape?) := by
  apply render_eq_of_shown
  rw [flatMap_shown_filterMap, flatMap_shown_filterMap]
  refine List.flatMap_congr fun t ht => ?_
  cases h t ht with
  | filter htype => rw [shape?_of_filter _ htype, shape?_of_filter _ htype]
  | blank htype hblank => rw [shape?_of_blank _ htype hblank, shape?_of_blank _ htype hblank]
  | term htype hblank =>
    have hvalue : t.value ≠ "" := by
      rintro hempty
      rw [hempty] at hblank
      cases hblank
    rw [shape?_of_term _ htype hblank, shape?_of_term _ htype hblank]
    show [plainOf t].flatMap (shown delimiter) = [t].flatMap (shown delimiter)
    rw [List.flatMap_singleton, List.flatMap_singleton, shown_plainOf delimiter htype hvalue]

/-- A document with terms shows what the query shows, if no quotes of the query hold blanks only. -/
theorem render_tokenized (delimiter : String)
    (hquoted : ∀ t ∈ ts, t.isFreeText = true → t.quoted = true → t.value ≠ "" →
      Text.isBlankString t.value = false) :
    render delimiter (ts.filterMap FreeTextMode.tokenize.shape?) = render delimiter ts := by
  apply render_eq_of_shown
  rw [flatMap_shown_filterMap]
  refine List.flatMap_congr fun t ht => ?_
  cases h t ht with
  | filter htype =>
    rw [shape?_of_filter _ htype]
    exact List.flatMap_singleton ..
  | blank htype hblank =>
    have hempty : t.quoted = true → t.value = "" := by
      intro hquotes
      by_contra hvalue
      have hterm := hquoted t ht (by simp [Token.isFreeText, htype]) hquotes hvalue
      rw [hblank] at hterm
      cases hterm
    rw [shape?_of_blank _ htype hblank, shown_of_blank delimiter htype hblank hempty]
    rfl
  | term htype hblank =>
    rw [shape?_of_term _ htype hblank]
    exact List.flatMap_singleton ..

end

/-! ## Reading in a mode -/

/-- Where a query cannot be read, it cannot be read in any mode. -/
theorem parseTokens_of_error {ids : Nat → String} {query : String} {e : LexFault}
    (h : parse fields opts ids query = .error e) (ids' : Nat → String) (mode : FreeTextMode) :
    parseTokens fields opts mode ids' query = .error e := by
  rw [parseTokens, parse_supply ids ids', h]
  rfl

/-- A document is the query's tokens as the mode shapes them, up to ids and positions. -/
theorem parseTokens_of_parse {ids : Nat → String} {query : String} {p : Parsed}
    (h : parse fields opts ids query = .ok p) (ids' : Nat → String) (mode : FreeTextMode) :
    ∃ shaped, parseTokens fields opts mode ids' query = .ok (renumber shaped) ∧
      (renumber shaped).map unplaced = (p.tokens.filterMap mode.shape?).map unplaced := by
  refine ⟨(placedFrom ids' 0 p.tokens).filterMap mode.shape?, ?_, ?_⟩
  · rw [parseTokens, parse_supply ids ids', h]
    rfl
  · rw [map_unplaced_renumber, map_unplaced_filterMap_shape?]

/-- What the documents of all modes have in common, for the tokens of a query and a delimiter. -/
structure ModesAgree (delimiter : String) (tokens : List Token)
    (documents : FreeTextMode → List Token) : Prop where
  filters : ∀ mode, ((documents mode).filter (·.isFilter)).map unplaced =
    (tokens.filter (·.isFilter)).map unplaced
  dropped : ∀ t ∈ documents .none, t.isFilter = true
  positions : ∀ mode, (documents mode).map (·.pos) =
    (List.range (documents mode).length).map fun i => .int i
  /-- Plain text stands for terms, one for one and in order. -/
  terms : ((documents .plain).filter (·.isPlaintext)).map unplaced =
    ((documents .tokenize).filter (·.isFreeText)).map fun t => unplaced (plainOf t)
  text : render delimiter (documents .plain) = render delimiter (documents .tokenize)
  /-- Nothing of the query is lost in the text, if no quotes hold blanks only. -/
  faithful : (∀ t ∈ tokens, t.isFreeText = true → t.quoted = true → t.value ≠ "" →
      Text.isBlankString t.value = false) →
    render delimiter (documents .tokenize) = render delimiter tokens

/-- Documents agree if they are what the modes make of the tokens, up to ids and positions. -/
theorem modesAgree_of_unplaced {ts : List Token} (h : ∀ t ∈ ts, ReadAs t)
    {shaped : FreeTextMode → List Token}
    (hshaped : ∀ mode, (renumber (shaped mode)).map unplaced =
      (ts.filterMap mode.shape?).map unplaced) (delimiter : String) :
    ModesAgree delimiter ts fun mode => renumber (shaped mode) where
  filters := by
    intro mode
    rw [map_unplaced_filter (hshaped mode) fun _ => rfl, filter_isFilter_shaped h]
  dropped := by
    intro t ht
    have hmem := List.mem_map_of_mem (f := unplaced) ht
    rw [hshaped] at hmem
    obtain ⟨u, hu, heq⟩ := List.mem_map.mp hmem
    obtain ⟨read, -, hshape⟩ := List.mem_filterMap.mp hu
    have hkept : u.isFilter = true := isFilter_of_shape?_none hshape
    have hsame : (unplaced u).isFilter = (unplaced t).isFilter := by rw [heq]
    exact hsame.symm.trans hkept
  positions := fun mode => map_pos_renumber _
  terms := by
    have hterms := map_unplaced_filter (hshaped .tokenize) (q := (·.isFreeText)) fun _ => rfl
    rw [map_unplaced_filter (hshaped .plain) fun _ => rfl, map_plainOf_of_unplaced hterms,
      filter_isPlaintext_plain h, filter_isFreeText_tokenized h, List.map_map]
    rfl
  text := by
    rw [render_of_unplaced (hshaped .plain), render_of_unplaced (hshaped .tokenize),
      render_plain h]
  faithful := by
    intro hquoted
    rw [render_of_unplaced (hshaped .tokenize), render_tokenized h delimiter hquoted]

/-- **The modes of free text agree.** With a host that keeps its promises a query can be read, and
it can be read in each mode just if it can be read at all. The documents of the modes, each with ids
of its own, have the filters of the query, positions that count their tokens, and the same text, for
every delimiter. -/
theorem modes_agree (fields : List Field) (opts : LexOptions) (ids : Nat → String)
    (idsOf : FreeTextMode → Nat → String) (query : String) :
    (KeepsPromises fields opts → ∃ p, parse fields opts ids query = .ok p) ∧
      (∀ e, parse fields opts ids query = .error e →
        ∀ mode, parseTokens fields opts mode (idsOf mode) query = .error e) ∧
      ∀ p, parse fields opts ids query = .ok p →
        ∃ documents : FreeTextMode → List Token,
          (∀ mode, parseTokens fields opts mode (idsOf mode) query = .ok (documents mode)) ∧
            ∀ delimiter, ModesAgree delimiter p.tokens documents := by
  refine ⟨fun hhost => exists_parse hhost ids query,
    fun e he mode => parseTokens_of_error he (idsOf mode) mode, fun p hp => ?_⟩
  choose shaped hread hshaped using fun mode => parseTokens_of_parse hp (idsOf mode) mode
  exact ⟨fun mode => renumber (shaped mode), hread, fun delimiter =>
    modesAgree_of_unplaced (fun t => readAs_of_parse hp) hshaped delimiter⟩

/-- Blank text in quotes is part of what the query says, but of no document. -/
theorem modes_agree_blank :
    let ids : Nat → String := fun n => String.ofList (List.replicate n 'g')
    let query := "a \" \" \"b c\""
    ∃ p documents, parse [] {} ids query = .ok p ∧
      (∀ mode, parseTokens [] {} mode ids query = .ok (documents mode)) ∧
      ModesAgree ":" p.tokens documents ∧
      render ":" (documents .plain) = "a \"b c\"" ∧ render ":" p.tokens = query := by
  intro ids query
  have hhost : KeepsPromises [] {} := ⟨by simp, "is", rfl⟩
  obtain ⟨hread, -, hdocuments⟩ := modes_agree [] {} ids (fun _ => ids) query
  obtain ⟨p, hp⟩ := hread hhost
  obtain ⟨documents, hmodes, hagree⟩ := hdocuments p hp
  have hplain : (parseTokens [] {} .plain ids query).map (render ":") = .ok "a \"b c\"" := by
    decide +kernel
  have hquery : (parse [] {} ids query).map (fun p => render ":" p.tokens) = .ok query := by
    decide +kernel
  rw [hmodes] at hplain
  rw [hp] at hquery
  exact ⟨p, documents, hp, hmodes, hagree ":", Except.ok.inj hplain, Except.ok.inj hquery⟩

end FilterQuery.Query
