import FilterQuery.Proofs.OpenQuotes

/-!
# Quoted text and its readers

Quoted text has three readers. Unquoting follows the quotes to the end of a text and may open them
again; the reader of free text stops where the first quote closes; and the reader of words copies
quoted text as it stands. What was written between quotes comes back from each of them
(`readers_quoted`). Beyond that the first two agree on all free text that a query has, well written
or not, since the cut of a query ends just where one of them stops and the other has nothing left to
read (`readQuoted_of_cut`). `unquotes_of_parse` says so for whole queries.
-/

namespace FilterQuery.Query

open Quoting (Mode quoted quoteIfNeeded unquote)

variable {fields : List Field} {opts : LexOptions}

/-! ## Text that was quoted -/

/-- A word that starts with text, quoted where it has to be, ends at a space behind it. -/
theorem cut_quoteIfNeeded_space (cs rest : List Char) :
    cut (.word .outside) (quoteIfNeeded cs ++ ' ' :: rest) = (quoteIfNeeded cs, slices rest) := by
  rw [cut_append_space (p := .word .outside) (by simp) (Quoting.after_quoteIfNeeded cs),
    cut_word_quoteIfNeeded]
  rfl

/-- A query that is quoted text and nothing else. -/
theorem parse_quoted (ids : Nat → String) (cs : List Char) :
    parse fields opts ids (String.ofList (quoted cs)) =
      .ok ⟨[{ id := ids 0, type := .freeText, value := String.ofList cs
              rawValue := String.ofList cs, quoted := true
              rawText := some (String.ofList (quoted cs)), pos := .int 0 }], none⟩ := by
  rw [parse_eq_ok_iff, String.toList_ofList, incomplete_eq_none (Quoting.after_quoted cs),
    slices_quoted, tokensFrom, tokenOf_quoted]
  exact ⟨rfl, rfl⟩

/-- **Quoting is read back by every reader.** Unquoting gives a text back and leaves no quote open,
whether the text needed quotes or not, and it knows text between quotes as such. Read as a query,
the text between quotes is a single token of free text with the text for its value, and no quote is
open. A word that starts with the text, quoted where it has to be, ends at the space behind it. -/
theorem readers_quoted (fields : List Field) (opts : LexOptions) (ids : Nat → String)
    (text rest : List Char) :
    ((unquote (quoteIfNeeded text)).value = text ∧
        (unquote (quoteIfNeeded text)).isOpen = false) ∧
      unquote (quoted text) = ⟨text, false, true⟩ ∧
      parse fields opts ids (String.ofList (quoted text)) =
        .ok ⟨[{ id := ids 0, type := .freeText, value := String.ofList text
                rawValue := String.ofList text, quoted := true
                rawText := some (String.ofList (quoted text)), pos := .int 0 }], none⟩ ∧
      cut (.word .outside) (quoteIfNeeded text ++ ' ' :: rest) =
        (quoteIfNeeded text, slices rest) := by
  refine ⟨?_, Quoting.unquote_quoted text, parse_quoted ids text,
    cut_quoteIfNeeded_space text rest⟩
  rw [Quoting.unquote_quoteIfNeeded]
  exact ⟨rfl, rfl⟩

/-! ## Free text of a query -/

/-- What unquoting says about the source of a quoted token of a query. -/
structure Unquotes (query : String) (p : Parsed) (t : Token) (source : String) : Prop where
  rawText : t.rawText = some source
  wasQuoted : (unquote source.toList).wasQuoted = true
  value : (unquote source.toList).value = t.value.toList
  rawValue : t.rawValue = t.value
  /-- It is open just if it ends the query and was reported as open. -/
  isOpen_iff : (unquote source.toList).isOpen = true ↔
    p.tokens.getLast? = some t ∧ p.incomplete.isSome = true
  suffix_of_isOpen : (unquote source.toList).isOpen = true → source.toList <:+ query.toList
  incomplete_of_isOpen : (unquote source.toList).isOpen = true → p.incomplete = some t.value

/-- The token of a slice of free text has for its value what the slice is unquoted to. -/
theorem Reading.unquote_eq {s : List Char} {t : Token} (h : Reading fields opts s t)
    (hs : slices s = [s]) (hquoted : t.quoted = true) :
    unquote s = ⟨t.value.toList, (Mode.outside.after s).isOpen, true⟩ := by
  cases h with
  | quoted cs hslice ht =>
    subst hslice
    have hread := readQuoted_of_cut (m := .inside) (by simp) (cut_of_slices_quoted hs)
    rw [ht, hread, String.toList_ofList]
    rfl
  | word _ _ _ _ ht =>
    rw [ht] at hquoted
    cases hquoted
  | filter _ _ _ _ _ ht _ _ =>
    rw [ht] at hquoted
    cases hquoted

theorem Reading.of_quoted {s : List Char} {t : Token} (h : Reading fields opts s t)
    (hquoted : t.quoted = true) :
    t.type = .freeText ∧ t.rawText = some (String.ofList s) ∧ t.rawValue = t.value := by
  cases h with
  | quoted cs _ ht =>
    rw [ht]
    exact ⟨rfl, rfl, rfl⟩
  | word _ _ _ _ ht =>
    rw [ht] at hquoted
    cases hquoted
  | filter _ _ _ _ _ ht _ _ =>
    rw [ht] at hquoted
    cases hquoted

/-- What belongs to an element that is not the last one is not the last one either. -/
theorem exists_mem_dropLast {α β : Type} {R : α → β → Prop} {as : List α} {bs : List β}
    (h : List.Forall₂ R as bs) {b : β} (hb : b ∈ bs) (hlast : bs.getLast? ≠ some b) :
    ∃ a ∈ as.dropLast, R a b := by
  have hfront : List.Forall₂ R as.dropLast bs.dropLast := by
    rw [List.dropLast_eq_take, List.dropLast_eq_take, h.length_eq]
    exact List.forall₂_take _ h
  have hb := List.mem_dropLast_of_mem_of_ne_getLast? hb (Ne.symm hlast)
  obtain ⟨i, hi, rfl⟩ := List.getElem_of_mem hb
  have hia : i < as.dropLast.length := by rw [hfront.length_eq]; exact hi
  exact ⟨_, List.getElem_mem hia, hfront.get hia hi⟩

section

variable {ids : Nat → String} {query : String} {p : Parsed}
  (hp : parse fields opts ids query = .ok p)
include hp

/-- The last token is what became of the last slice, and the query ends open just if it does. -/
theorem unquotes_last {t : Token} (ht : p.tokens.getLast? = some t) (hquoted : t.quoted = true) :
    ∃ source, Unquotes query p t source := by
  obtain ⟨s, hs, hread⟩ := exists_getLast? (forall₂_reading hp).flip ht
  have hread : Reading fields opts s t := hread
  have hslices := slices_of_mem_slices (List.mem_of_getLast? hs)
  obtain ⟨-, hraw, hvalue⟩ := hread.of_quoted hquoted
  have hunquote := hread.unquote_eq hslices hquoted
  have hincomplete : p.incomplete = unclosed? s := by
    rw [(parse_eq_ok_iff.mp hp).2, hs]
    rfl
  rw [unclosed?_eq hslices (hread.quoted_iff.mp hquoted), hunquote] at hincomplete
  have hopen : Mode.outside.after query.toList = Mode.outside.after s := by
    rw [after_slices, hs]
    rfl
  refine ⟨String.ofList s, hraw, ?_, ?_, hvalue, ?_, ?_, ?_⟩
  all_goals rw [String.toList_ofList, hunquote]
  · rw [ht, hincomplete]
    cases (Mode.outside.after s).isOpen <;> simp
  · intro h
    refine suffix_of_open (fun hclosed => ?_) hs
    rw [← hopen, hclosed] at h
    cases h
  · intro h
    rw [hincomplete, h]
    simp

/-- Any other token is closed. -/
theorem unquotes_front {t : Token} (ht : t ∈ p.tokens) (hlast : p.tokens.getLast? ≠ some t)
    (hquoted : t.quoted = true) : ∃ source, Unquotes query p t source := by
  obtain ⟨s, hs, hread⟩ := exists_mem_dropLast (forall₂_reading hp) ht hlast
  have hclosed := closed_of_mem_dropLast hs
  have hslices := slices_of_mem_slices (List.dropLast_subset _ hs)
  obtain ⟨-, hraw, hvalue⟩ := hread.of_quoted hquoted
  have hunquote := hread.unquote_eq hslices hquoted
  rw [hclosed] at hunquote
  refine ⟨String.ofList s, hraw, ?_, ?_, hvalue, ?_, ?_, ?_⟩
  all_goals rw [String.toList_ofList, hunquote]
  · exact iff_of_false Bool.false_ne_true fun h => hlast h.1
  · exact fun h => absurd h Bool.false_ne_true
  · exact fun h => absurd h Bool.false_ne_true

end

/-- **The readers of free text agree.** With a host that keeps its promises a query is read.
Whenever it is, unquoting the source of a quoted token gives the value of the token; it leaves a
quote open just for the last token and just if the query was reported as open. The source then
reaches the end of the query, and what was reported is the value of the token. A query that is
reported as open ends with such a token. -/
theorem unquotes_of_parse (fields : List Field) (opts : LexOptions) (ids : Nat → String)
    (query : String) :
    (KeepsPromises fields opts → ∃ p, parse fields opts ids query = .ok p) ∧
      ∀ p, parse fields opts ids query = .ok p →
        (∀ t ∈ p.tokens, t.quoted = true →
          t.type = .freeText ∧ ∃ source, Unquotes query p t source) ∧
        (p.incomplete.isSome = true → ∃ t, p.tokens.getLast? = some t ∧ t.type = .freeText ∧
          t.quoted = true ∧ ∃ source, Unquotes query p t source ∧
            (unquote source.toList).isOpen = true) := by
  refine ⟨fun hhost => exists_parse hhost ids query, fun p hp => ⟨?_, ?_⟩⟩
  · intro t ht hquoted
    obtain ⟨s, -, hread⟩ := exists_reading hp ht
    refine ⟨(hread.of_quoted hquoted).1, ?_⟩
    by_cases hlast : p.tokens.getLast? = some t
    · exact unquotes_last hp hlast hquoted
    · exact unquotes_front hp ht hlast hquoted
  · intro hopen
    have hincomplete := (parse_eq_ok_iff.mp hp).2
    cases hs : (slices query.toList).getLast? with
    | none =>
      rw [hincomplete, hs] at hopen
      cases hopen
    | some s =>
      obtain ⟨t, ht, hread⟩ := exists_getLast? (forall₂_reading hp) hs
      -- only quoted free text is ever reported
      have hquoted : t.quoted = true := by
        rw [hread.quoted_iff]
        by_contra hhead
        rw [hincomplete, hs, Option.bind_some, unclosed?_of_head hhead] at hopen
        cases hopen
      obtain ⟨source, hsource⟩ := unquotes_last hp ht hquoted
      exact ⟨t, ht, (hread.of_quoted hquoted).1, hquoted, source, hsource,
        hsource.isOpen_iff.mpr ⟨ht, hopen⟩⟩

/-- An unknown escape, two quoted runs side by side, and a last one that ends in a backslash. -/
theorem unquotes_of_parse_dangling :
    let status : Field := { key := "status", label := "Status", operators := ["is"] }
    let ids (n : Nat) : String := String.ofList (List.replicate n 'g')
    let query := "\"x\\qy\"\"\" status:\"a b\" \"the end\\"
    KeepsPromises [status] {} ∧ ∃ p, parse [status] {} ids query = .ok p ∧
      p.tokens.map (fun t => (t.value, t.quoted)) =
        [("x\\qy", true), ("", true), ("a b", false), ("the end", true)] ∧
      p.incomplete = some "the end" ∧
      (∀ t ∈ p.tokens, t.quoted = true →
        t.type = .freeText ∧ ∃ source, Unquotes query p t source) ∧
      (p.incomplete.isSome = true → ∃ t, p.tokens.getLast? = some t ∧ t.type = .freeText ∧
        t.quoted = true ∧ ∃ source, Unquotes query p t source ∧
          (unquote source.toList).isOpen = true) := by
  intro status ids query
  have hhost : KeepsPromises [status] {} := by
    refine ⟨?_, ⟨"is", rfl⟩⟩
    rintro field hfield resolve hresolve
    obtain rfl := List.mem_singleton.mp hfield
    cases hresolve
  obtain ⟨hparse, hagree⟩ := unquotes_of_parse [status] {} ids query
  obtain ⟨p, hp⟩ := hparse hhost
  have hread : (parse [status] {} ids query).map
      (fun p => (p.tokens.map fun t => (t.value, t.quoted), p.incomplete)) =
        .ok ([("x\\qy", true), ("", true), ("a b", false), ("the end", true)],
          some "the end") := by decide +kernel
  rw [hp] at hread
  obtain ⟨hvalues, hopen⟩ := Prod.ext_iff.mp (Except.ok.inj hread)
  exact ⟨hhost, p, hp, hvalues, hopen, hagree p hp⟩

end FilterQuery.Query
