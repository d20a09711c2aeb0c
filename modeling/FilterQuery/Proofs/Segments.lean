import FilterQuery.Proofs.Composition
import FilterQuery.Query.Snapshot

/-!
# Segments and text

A snapshot decides twice what a token says: once for its segments and once for its text. The text
is that of the tokens in which a character is not blank (`render_filter_isVisible`), and these are
the tokens that get a segment (`isSome_segment?`), with two kinds of token set apart. A filter that
consists of blanks only has a segment all the same, because filters are judged by their value. Blank
text in quotes and blank plain text, which the two decisions see differently, are left out of
account. What a filter's segment says is what its token is written with, but for the operator that
the segment names if there is none. `portrays_snapshot` puts this together for all tokens of a
query.
-/

namespace FilterQuery.Query

open Quoting (quoted quoteIfNeeded)

/-- The tokens that get a segment, each with its segment. -/
def described (tokens : List Token) : List (Token × Segment) :=
  tokens.filterMap fun t => (segment? t).map (t, ·)

/-- Not all characters of the token's text are blank. -/
def isVisible (delimiter : String) (t : Token) : Bool := !Text.isBlankString (t.render delimiter)

/-- A filter that has nothing but blanks to be written with. -/
def isBlankFilter (delimiter : String) (t : Token) : Bool :=
  t.isFilter && [delimiter, t.key, t.operator, t.value].all Text.isBlankString

/-- Blank text in quotes, which has no segment but shows, and blank plain text, which has one and
does not show. -/
def isBlankText (t : Token) : Bool :=
  (t.isFreeText && t.quoted || t.isPlaintext) && !t.value.isEmpty && Text.isBlankString t.value

/-! ## Tokens that show -/

variable {delimiter : String} {t : Token}

theorem isVisible_eq_false_iff : isVisible delimiter t = false ↔ shown delimiter t = [] := by
  rw [shown_eq_nil_iff, isVisible, Bool.not_eq_false']

/-- The text of a query is that of the tokens that show. -/
theorem render_filter_isVisible (delimiter : String) (ts : List Token) :
    render delimiter (ts.filter (isVisible delimiter)) = render delimiter ts := by
  rw [render_filter_iff]
  intro t _ hvisible
  exact shown_eq_nil_iff.mp (isVisible_eq_false_iff.mp hvisible)

theorem isVisible_of_mem {c : Char} (hmem : c ∈ t.renderChars delimiter.toList)
    (hc : Text.isBlank c = false) : isVisible delimiter t = true := by
  by_contra hnot
  have hblank := isVisible_eq_false_iff.mp (Bool.eq_false_iff.mpr hnot)
  rw [Text.runs_eq_nil_iff.mp hblank c hmem] at hc
  cases hc

/-- A token without a value shows nothing. -/
theorem isVisible_of_isEmpty (hvalue : t.value.isEmpty = true) : isVisible delimiter t = false := by
  have hnil : t.value.toList = [] := by simpa using hvalue
  have hchars : t.renderChars delimiter.toList = [] := by
    unfold Token.renderChars
    rw [hnil]
    cases t.type <;> rfl
  rw [isVisible_eq_false_iff, shown, hchars, Text.runs_nil]

/-- Quotes are not blank, so quoting makes no text blank. -/
theorem isBlankString_of_quoteIfNeeded {value : String}
    (h : ∀ c ∈ quoteIfNeeded value.toList, Text.isBlank c = true) :
    Text.isBlankString value = true := by
  unfold quoteIfNeeded at h
  split at h
  · have hquote : Text.isBlank '"' = true := h '"' (by simp [quoted])
    cases hquote
  · exact List.all_eq_true.mpr h

/-- A filter with a value shows, unless it consists of blanks. -/
theorem isVisible_filter (htype : t.type = .filter) (hvalue : t.value ≠ "") :
    (isVisible delimiter t || isBlankFilter delimiter t) = true := by
  cases hvisible : isVisible delimiter t with
  | true => rfl
  | false =>
    have hall := Text.runs_eq_nil_iff.mp (isVisible_eq_false_iff.mp hvisible)
    rw [renderChars_filter htype hvalue] at hall
    simp only [List.forall_mem_append] at hall
    obtain ⟨⟨⟨⟨hkey, hdelimiter⟩, hoperator⟩, -⟩, hquoted⟩ := hall
    have hblank : ∀ s ∈ [delimiter, t.key, t.operator, t.value], Text.isBlankString s = true := by
      simp only [List.forall_mem_cons]
      exact ⟨List.all_eq_true.mpr hdelimiter, List.all_eq_true.mpr hkey,
        List.all_eq_true.mpr hoperator, isBlankString_of_quoteIfNeeded hquoted, by simp⟩
    simp [isBlankFilter, Token.isFilter, htype, List.all_eq_true.mpr hblank]

/-- Where a token is written as its value, it shows if its value is not blank. -/
theorem isVisible_of_shown (h : shown delimiter t = Text.runs t.value.toList) :
    isVisible delimiter t = !Text.isBlankString t.value := by
  rw [Bool.eq_iff_iff, ← not_iff_not, Bool.not_eq_true, Bool.not_eq_true, isVisible_eq_false_iff, h,
    Text.runs_eq_nil_iff, Bool.not_eq_false']
  exact List.all_eq_true.symm

theorem isBlankFilter_eq_false (htype : t.type ≠ .filter) : isBlankFilter delimiter t = false := by
  simp [isBlankFilter, Token.isFilter, htype]

/-! ## Tokens with a segment -/

theorem isSome_segment?_filter (htype : t.type = .filter) (hvalue : t.value ≠ "") :
    (segment? t).isSome = (isVisible delimiter t || isBlankFilter delimiter t) := by
  rw [isVisible_filter htype hvalue]
  simp [segment?, htype, hvalue]

/-- Free text has a segment if it shows. Blank text does not show, for it is not in quotes. -/
theorem isSome_segment?_freeText (htype : t.type = .freeText) (hvalue : t.value ≠ "")
    (htext : isBlankText t = false) : (segment? t).isSome = isVisible delimiter t := by
  have hsegment : (segment? t).isSome = !Text.isBlankString t.value := by
    simp only [segment?, htype]
    cases Text.isBlankString t.value <;> rfl
  rw [hsegment]
  cases hquoted : t.quoted with
  | true =>
    have hquote : '"' ∈ t.renderChars delimiter.toList := by
      rw [renderChars_quoted htype hquoted hvalue]
      exact List.mem_cons_self
    rw [isVisible_of_mem hquote rfl]
    simpa [isBlankText, Token.isFreeText, htype, hquoted, hvalue] using htext
  | false => rw [isVisible_of_shown (congrArg Text.runs (renderChars_word htype hquoted _))]

theorem isSome_segment?_plaintext (htype : t.type = .plaintext) (hvalue : t.value ≠ "")
    (htext : isBlankText t = false) : (segment? t).isSome = isVisible delimiter t := by
  have hchars : t.renderChars delimiter.toList = Text.trim t.value.toList := by
    rw [Token.renderChars, htype]
  have hshown : shown delimiter t = Text.runs t.value.toList := by
    rw [shown, hchars, Text.runs_trim]
  have hblank : Text.isBlankString t.value = false := by
    simpa [isBlankText, Token.isPlaintext, htype, hvalue] using htext
  rw [isVisible_of_shown hshown, hblank]
  simp [segment?, htype, hvalue]

/-- Segments and text tell of the same tokens, but for blank text. -/
theorem isSome_segment? (htext : isBlankText t = false) :
    (segment? t).isSome =
      (isVisible delimiter t || (isBlankFilter delimiter t && !t.value.isEmpty)) := by
  by_cases hvalue : t.value = ""
  · have hempty : t.value.isEmpty = true := String.isEmpty_iff.mpr hvalue
    rw [isVisible_of_isEmpty hempty, hempty, Bool.not_true, Bool.and_false]
    cases htype : t.type <;> simp [segment?, htype, hvalue, Text.isBlankString, Text.allBlank]
  · have hempty : t.value.isEmpty = false := by simpa using hvalue
    rw [hempty, Bool.not_false, Bool.and_true]
    cases htype : t.type with
    | filter => exact isSome_segment?_filter htype hvalue
    | freeText =>
      rw [isBlankFilter_eq_false (by simp [htype]), Bool.or_false]
      exact isSome_segment?_freeText htype hvalue htext
    | plaintext =>
      rw [isBlankFilter_eq_false (by simp [htype]), Bool.or_false]
      exact isSome_segment?_plaintext htype hvalue htext

theorem map_fst_described (ts : List Token) :
    (described ts).map (·.1) = ts.filter fun t => (segment? t).isSome := by
  rw [described, List.map_filterMap, ← List.filterMap_eq_filter]
  refine List.filterMap_congr fun t _ => ?_
  cases h : segment? t <;> simp [Option.guard, h]

/-! ## What a filter's segment says -/

/-- The text that a segment tells of, if it is one of a filter. -/
def Segment.written (delimiter : String) (s : Segment) : String :=
  s.key.getD "" ++ delimiter ++ s.operator.getD "" ++ delimiter ++
    String.ofList (quoteIfNeeded s.value.toList)

/-- A filter's segment: with the filter's operator, it tells of the text of the filter. -/
structure Transcribes (delimiter : String) (t : Token) (s : Segment) : Prop where
  id : s.id = some t.id
  key : s.key = some t.key
  operator : s.operator = some (if t.operator.isEmpty then "is" else t.operator)
  value : s.value = t.value
  text : t.render delimiter = Segment.written delimiter { s with operator := some t.operator }

theorem transcribes_of_filter {s : Segment} (hs : segment? t = some s) (htype : s.type = .filter) :
    Transcribes delimiter t s := by
  unfold segment? at hs
  split at hs
  · rename_i hfilter
    split at hs
    · cases hs
    · rename_i hvalue
      obtain rfl := Option.some.inj hs
      refine ⟨rfl, rfl, rfl, rfl, ?_⟩
      have hne : t.value ≠ "" := by simpa using hvalue
      rw [← String.toList_inj, Token.render, String.toList_ofList, renderChars_filter hfilter hne]
      simp [Segment.written]
  · split at hs
    · cases hs
    · obtain rfl := Option.some.inj hs
      cases htype
  · split at hs
    · cases hs
    · obtain rfl := Option.some.inj hs
      cases htype

/-! ## Snapshots -/

/-- What a snapshot says about the tokens it was taken of. -/
structure Portrays (delimiter : String) (tokens : List Token) (s : Snapshot) : Prop where
  segments : s.segments = (described tokens).map (·.2)
  text : s.text = render delimiter (tokens.filter (isVisible delimiter))
  inOrder : ((described tokens).map (·.1)).filter (fun t => !isBlankText t) =
    tokens.filter fun t =>
      !isBlankText t && (isVisible delimiter t || (isBlankFilter delimiter t && !t.value.isEmpty))
  filters : ∀ d ∈ described tokens, d.2.type = .filter → Transcribes delimiter d.1 d.2

/-- **A snapshot's segments and its text tell of the same tokens.** Filters of blanks have a segment
all the same, and of blank text nothing is said. A filter's segment says what the filter is written
with, and names an operator where the filter has none. -/
theorem portrays_snapshot (delimiter : String) (tokens : List Token) :
    Portrays delimiter tokens (snapshot delimiter tokens) where
  segments := by
    rw [described, List.map_filterMap]
    refine (List.filterMap_congr fun t _ => ?_).symm
    rw [Option.map_map]
    exact Option.map_id'
  text := (render_filter_isVisible delimiter tokens).symm
  inOrder := by
    rw [map_fst_described, List.filter_filter]
    refine List.filter_congr fun t _ => ?_
    cases htext : isBlankText t with
    | true => rfl
    | false => rw [isSome_segment? htext]
  filters := by
    intro d hd htype
    obtain ⟨t, -, ht⟩ := List.mem_filterMap.mp hd
    obtain ⟨s, hs, rfl⟩ := Option.map_eq_some_iff.mp ht
    exact transcribes_of_filter hs htype

/-- Where segments and text differ: on blank text, on the operator of a filter that has none, and
on a filter of blanks. -/
theorem segments_besides_text :
    let spoken : Token := { id := "a", type := .freeText, value := " ", quoted := true }
    let blank : Token := { id := "b", type := .plaintext, value := " " }
    let bare : Token := { id := "c", type := .filter, key := "status", value := "open" }
    let tab : Token := { id := "d", type := .filter, value := "\t" }
    let tokens := [spoken, blank, bare]
    (described tokens).map (·.1) = [blank, bare] ∧
      tokens.filter (isVisible ":") = [spoken, bare] ∧
      (described [bare]).map (·.2.written ":") = ["status:is:open"] ∧
      bare.render ":" = "status::open" ∧
      (described [tab]).map (·.1) = [tab] ∧ [tab].filter (isVisible " ") = [] := by
  decide +kernel

end FilterQuery.Query
