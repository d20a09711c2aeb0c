import Mathlib.Data.List.Flatten
import FilterQuery.Proofs.FreeText

/-!
# Texts side by side

A text of tokens is made of the runs between blanks that its tokens show (`runs_render`), so texts
are put together as lists of runs are: the text of two lists of tokens is that of the one beside
that of the other (`render_append`), and leaving tokens out leaves the text as it is just if these
show nothing (`render_filter_iff`). Blanks within keys, operators and values are blanks of the text
like any others.
-/

namespace FilterQuery

/-! ## Squeezed text -/

namespace Text

theorem Tidy.spaced {cs : List Char} (h : Tidy cs) : Spaced cs :=
  h.collapse_eq ▸ spaced_collapse cs

/-- Text without blanks at its ends, and with no other blanks than single spaces. -/
structure Trimmed (cs : List Char) : Prop where
  spaced : Spaced cs
  head : ∀ c, cs.head? = some c → isBlank c = false
  last : ∀ c, cs.getLast? = some c → isBlank c = false

theorem trimmed_squeeze (cs : List Char) : Trimmed (squeeze cs) := by
  by_cases hruns : runs cs = []
  · rw [squeeze_eq_nil_iff.mpr hruns]
    exact ⟨⟨by simp, .nil⟩, by simp, by simp⟩
  · have htidy := tidy_squeeze hruns
    refine ⟨htidy.spaced, fun c hc => ?_, fun c hc => ?_⟩
    · obtain ⟨d, hd, hblank⟩ := htidy.head
      rw [hd] at hc
      cases hc
      exact hblank
    · obtain ⟨d, hd, hblank⟩ := htidy.last
      rw [hd] at hc
      cases hc
      exact hblank

end Text

namespace Query

variable {delimiter : String} {ts us : List Token}

/-! ## The runs of a text -/

theorem shown_eq_nil_iff {t : Token} :
    shown delimiter t = [] ↔ Text.isBlankString (t.render delimiter) = true := by
  rw [Text.isBlankString, Token.render, String.toList_ofList, Text.allBlank, List.all_eq_true,
    shown, Text.runs_eq_nil_iff]

/-- A text is what its parts are joined to, squeezed. -/
theorem exists_squeeze (delimiter : String) (ts : List Token) :
    ∃ cs, (render delimiter ts).toList = Text.squeeze cs ∧
      Text.runs cs = ts.flatMap (shown delimiter) := by
  refine ⟨_, by rw [render, joinParts, String.toList_ofList, Text.trim_collapse], ?_⟩
  rw [Text.runs_intercalate, flatMap_runs_filter, List.flatMap_map]
  rfl

/-- The runs of a text are those that its tokens show. -/
theorem runs_render (delimiter : String) (ts : List Token) :
    Text.runs (render delimiter ts).toList = ts.flatMap (shown delimiter) := by
  obtain ⟨cs, htext, hruns⟩ := exists_squeeze delimiter ts
  rw [htext, Text.runs_squeeze, hruns]

theorem toList_render (delimiter : String) (ts : List Token) :
    (render delimiter ts).toList = [' '].intercalate (ts.flatMap (shown delimiter)) := by
  obtain ⟨cs, htext, hruns⟩ := exists_squeeze delimiter ts
  rw [htext, Text.squeeze, hruns]

theorem render_eq_iff :
    render delimiter ts = render delimiter us ↔
      ts.flatMap (shown delimiter) = us.flatMap (shown delimiter) := by
  refine ⟨fun h => ?_, render_eq_of_shown⟩
  rw [← runs_render, ← runs_render, h]

theorem isEmpty_render :
    (render delimiter ts).isEmpty = (ts.flatMap (shown delimiter)).isEmpty := by
  obtain ⟨cs, htext, hruns⟩ := exists_squeeze delimiter ts
  rw [← hruns, Bool.eq_iff_iff, String.isEmpty_iff, ← String.toList_eq_nil_iff, htext,
    Text.squeeze_eq_nil_iff, List.isEmpty_iff]

/-! ## Putting together -/

/-- Two texts with a space between them, or only one of them where the other one is empty. -/
def beside (s t : String) : String :=
  if s.isEmpty then t else if t.isEmpty then s else s ++ " " ++ t

theorem render_append (delimiter : String) (ts us : List Token) :
    render delimiter (ts ++ us) = beside (render delimiter ts) (render delimiter us) := by
  unfold beside
  rw [isEmpty_render, isEmpty_render]
  split
  · rename_i hts
    rw [render_eq_iff, List.flatMap_append, List.isEmpty_iff.mp hts, List.nil_append]
  · rename_i hts
    split
    · rename_i hus
      rw [render_eq_iff, List.flatMap_append, List.isEmpty_iff.mp hus, List.append_nil]
    · rename_i hus
      have hjoin := Text.intercalate_append (mt List.isEmpty_iff.mpr hts)
        (mt List.isEmpty_iff.mpr hus)
      rw [← String.toList_inj, toList_render, List.flatMap_append, hjoin]
      simp [toList_render]

/-! ## Leaving out -/

/-- Only what is empty can be left out without a trace. -/
theorem flatMap_filter_eq_iff {α β : Type} {f : α → List β} {keep : α → Bool} {xs : List α} :
    (xs.filter keep).flatMap f = xs.flatMap f ↔ ∀ x ∈ xs, keep x = false → f x = [] := by
  induction xs with
  | nil => simp
  | cons x xs ih =>
    rw [List.forall_mem_cons, ← ih, List.flatMap_cons]
    cases hkeep : keep x with
    | true => simp [List.filter_cons_of_pos hkeep]
    | false =>
      rw [List.filter_cons_of_neg (by simp [hkeep])]
      constructor
      · intro h
        -- what is left is no longer than what was there behind `x`
        have hsublist : ((xs.filter keep).flatMap f).Sublist (xs.flatMap f) :=
          List.filter_sublist.flatMap f
        have hlength := hsublist.length_le
        rw [h, List.length_append] at hlength
        have hnil : f x = [] := List.eq_nil_of_length_eq_zero (by omega)
        rw [hnil, List.nil_append] at h
        exact ⟨fun _ => hnil, h⟩
      · rintro ⟨hnil, h⟩
        rw [h, hnil rfl, List.nil_append]

theorem render_filter_iff {keep : Token → Bool} :
    render delimiter (ts.filter keep) = render delimiter ts ↔
      ∀ t ∈ ts, keep t = false → Text.isBlankString (t.render delimiter) = true := by
  rw [render_eq_iff, flatMap_filter_eq_iff]
  simp only [shown_eq_nil_iff]

/-! ## All together -/

/-- How texts are composed. -/
structure Composes (delimiter : String) : Prop where
  trimmed : ∀ ts, Text.Trimmed (render delimiter ts).toList
  append : ∀ ts us,
    render delimiter (ts ++ us) = beside (render delimiter ts) (render delimiter us)
  leave : ∀ ts keep, render delimiter (ts.filter keep) = render delimiter ts ↔
    ∀ t ∈ ts, keep t = false → Text.isBlankString (t.render delimiter) = true

/-- **Texts are canonical and compose.** Whatever blanks keys, operators, values and the delimiter
hold, a text has single spaces only and none at its ends, the texts of two lists of tokens are put
together with a space between them, and tokens can be left out just if their own texts are blank. -/
theorem composes_render (delimiter : String) : Composes delimiter where
  trimmed ts := by
    obtain ⟨cs, htext, -⟩ := exists_squeeze delimiter ts
    rw [htext]
    exact Text.trimmed_squeeze cs
  append := render_append delimiter
  leave ts keep := render_filter_iff

/-- A filter that is nothing but blanks vanishes between two others; a quoted blank does not. -/
example :
    let filter (value : String) : Token := { id := "", type := .filter, key := "\t", value }
    let blank : Token := { id := "", type := .freeText, value := " ", quoted := true }
    render " " [filter "a\n b", filter "\u00A0", blank] = "\"a b\" \" \"" := by
  decide +kernel

end Query

end FilterQuery
