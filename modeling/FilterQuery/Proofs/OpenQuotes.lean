import FilterQuery.Proofs.Pieces

/-!
# Quotes that stay open

The scanner and the reader of queries both say whether a query ends inside an open quote. A query
ends where its last slice ends (`after_slices`), so all that the scanner sees of open quotes is in
the last slice. The reader reports it where that slice is quoted free text, and is silent where it
is a word with a quote inside: `incomplete_iff` says when there is a report and what it misses, and
`incomplete_silent` shows a filter whose value is still open.
-/

namespace FilterQuery

/-! ## Where the scanner ends -/

namespace Quoting

/-- Without atom boundaries the scanner ends where the automaton does. -/
theorem isInside_eq {cs : List Char} (h : atomBoundary ∉ cs) :
    isInside cs = (Mode.outside.after cs).isOpen := by
  rw [isInside_eq_scanAfter, Mode.scanAfter_eq_after h]

end Quoting

namespace Query

open Quoting (Mode isInside isInside_eq unquote unquoteFrom)

/-! ## The last slice -/

/-- The query ends inside quotes just if its last slice does. -/
theorem isInside_iff {query : List Char} (h : Quoting.atomBoundary ∉ query) :
    isInside query = true ↔ ∃ s, (slices query).getLast? = some s ∧ isInside s = true := by
  rw [isInside_eq h, after_slices]
  cases hlast : (slices query).getLast? with
  | none => simp [Mode.isOpen]
  | some s =>
    have hs : Quoting.atomBoundary ∉ s :=
      fun hmem => h ((of_mem_slices (List.mem_of_getLast? hlast)).2 _ hmem)
    simp [isInside_eq hs]

/-! ## What is reported of a slice -/

/-- Quoted free text that is a single slice is cut no further behind its first quote. -/
theorem cut_of_slices_quoted {cs : List Char} (h : slices ('"' :: cs) = ['"' :: cs]) :
    cut (.quoted .inside) cs = (cs, []) := by
  have h : ('"' :: (cut (.quoted .inside) cs).1) :: (cut (.quoted .inside) cs).2 =
      ['"' :: cs] := h
  obtain ⟨hfront, hrest⟩ := List.cons.inj h
  exact Prod.ext (List.cons.inj hfront).2 hrest

/-- Quoted text that is cut no further is read as it is unquoted, and it is closed just if the
automaton leaves the quotes. -/
theorem readQuoted_of_cut {m : Mode} (hm : m ≠ .outside) {cs : List Char}
    (h : cut (.quoted m) cs = (cs, [])) :
    readQuoted m cs = (unquoteFrom m cs, !(m.after cs).isOpen) := by
  induction cs generalizing m with
  | nil => cases m <;> simp [readQuoted, unquoteFrom, Mode.isOpen] at hm ⊢
  | cons c cs ih =>
    rw [cut] at h
    rw [readQuoted, unquoteFrom, Mode.after_cons]
    by_cases hend : m.next c = .outside
    · -- one stops here, and for the other nothing is left
      rw [if_pos hend] at h ⊢
      obtain rfl : [] = cs := (List.cons.inj (Prod.ext_iff.mp h).1).2
      rw [hend, Mode.spoken_of_closing hm hend]
      rfl
    · rw [if_neg hend] at h ⊢
      obtain ⟨hfront, hrest⟩ := Prod.ext_iff.mp h
      rw [ih hend (Prod.ext (List.cons.inj hfront).2 hrest)]

/-- What is reported of a slice of free text is what unquoting says about it. -/
theorem unclosed?_eq {s : List Char} (hs : slices s = [s]) (hquote : s.head? = some '"') :
    unclosed? s = if (unquote s).isOpen then some (String.ofList (unquote s).value) else none := by
  obtain ⟨cs, rfl⟩ := List.head?_eq_some_iff.mp hquote
  have hopen : (unquote ('"' :: cs)).isOpen = (Mode.inside.after cs).isOpen := rfl
  rw [unclosed?, readQuoted_of_cut (by simp) (cut_of_slices_quoted hs), hopen]
  cases (Mode.inside.after cs).isOpen <;> rfl

/-- A slice of free text is reported as open just if it is. -/
theorem isSome_unclosed? {s : List Char} (hs : slices s = [s]) (hquote : s.head? = some '"') :
    (unclosed? s).isSome = (Mode.outside.after s).isOpen := by
  rw [unclosed?_eq hs hquote]
  obtain ⟨cs, rfl⟩ := List.head?_eq_some_iff.mp hquote
  show Option.isSome (if (Mode.inside.after cs).isOpen then _ else none) =
    (Mode.inside.after cs).isOpen
  cases (Mode.inside.after cs).isOpen <;> rfl

variable {fields : List Field} {opts : LexOptions}

/-- What is reported as open is the value of the token. -/
theorem value_of_unclosed? {s : List Char} {t : Token} (h : Reading fields opts s t)
    {value : String} (hopen : unclosed? s = some value) : t.value = value := by
  cases h with
  | quoted cs hslice ht =>
    subst hslice
    rw [unclosed?] at hopen
    split at hopen
    · rename_i hread
      rw [ht, ← Option.some.inj hopen, hread]
    · cases hopen
  | word hslice f? _ _ _ =>
    rw [unclosed?_of_head hslice] at hopen
    cases hopen
  | filter hslice f _ _ _ _ _ _ =>
    rw [unclosed?_of_head hslice] at hopen
    cases hopen

/-- A slice that starts with a quote has become quoted free text, and no other has. -/
theorem Reading.quoted_iff {s : List Char} {t : Token} (h : Reading fields opts s t) :
    t.quoted = true ↔ s.head? = some '"' := by
  cases h with
  | quoted cs hslice ht =>
    rw [ht, hslice]
    simp
  | word hslice f? _ _ ht =>
    rw [ht]
    simp [hslice]
  | filter hslice f _ _ _ ht _ _ =>
    rw [ht]
    simp [hslice]

theorem exists_getLast? {α β : Type} {R : α → β → Prop} {as : List α} {bs : List β}
    (h : List.Forall₂ R as bs) {a : α} (ha : as.getLast? = some a) :
    ∃ b, bs.getLast? = some b ∧ R a b := by
  obtain ⟨front, rfl⟩ := List.getLast?_eq_some_iff.mp ha
  have hreversed := List.rel_reverse h
  rw [List.reverse_concat, List.forall₂_cons_left_iff] at hreversed
  obtain ⟨b, rest, hab, -, hbs⟩ := hreversed
  exact ⟨b, by rw [List.getLast?_eq_head?_reverse, hbs]; rfl, hab⟩

/-! ## Reports -/

/-- **Free text alone is reported as open.** With a host that keeps its promises a query is read.
Whenever it is, open quotes are reported just if the scanner ends inside quotes and the last token
is quoted free text, and what is reported is the value of that token. Where the scanner ends inside
quotes without a report, they were opened inside the word that the query ends with. -/
theorem incomplete_iff (fields : List Field) (opts : LexOptions) (ids : Nat → String)
    (query : String) (hatom : Quoting.atomBoundary ∉ query.toList) :
    (KeepsPromises fields opts → ∃ p, parse fields opts ids query = .ok p) ∧
      ∀ p, parse fields opts ids query = .ok p →
        (p.incomplete.isSome = true ↔
          isInside query.toList = true ∧ ∃ t, p.tokens.getLast? = some t ∧ t.quoted = true) ∧
        (∀ value, p.incomplete = some value →
          ∃ t, p.tokens.getLast? = some t ∧ t.value = value) ∧
        (isInside query.toList = true → p.incomplete = none →
          ∃ word, (slices query.toList).getLast? = some word ∧ word.head? ≠ some '"' ∧
            isInside word = true) := by
  refine ⟨fun hhost => exists_parse hhost ids query, fun p hp => ?_⟩
  have hincomplete := (parse_eq_ok_iff.mp hp).2
  rw [isInside_iff hatom]
  cases hlast : (slices query.toList).getLast? with
  | none => simp [hincomplete, hlast]
  | some s =>
    have hmem := List.mem_of_getLast? hlast
    have hs : Quoting.atomBoundary ∉ s := fun h => hatom ((of_mem_slices hmem).2 _ h)
    -- the last token is what became of the last slice
    obtain ⟨t, ht, hread⟩ := exists_getLast? (forall₂_reading hp) hlast
    have hincomplete : p.incomplete = unclosed? s := by rw [hincomplete, hlast]; rfl
    simp only [ht, hincomplete, Option.some.injEq, exists_eq_left', hread.quoted_iff]
    by_cases hquote : s.head? = some '"'
    · have hopen := isSome_unclosed? (slices_of_mem_slices hmem) hquote
      rw [← isInside_eq hs] at hopen
      refine ⟨by rw [hopen]; simp [hquote], fun value => value_of_unclosed? hread, ?_⟩
      intro hinside hnone
      rw [hnone, hinside] at hopen
      cases hopen
    · rw [unclosed?_of_head hquote]
      exact ⟨by simp [hquote], by simp, fun hinside _ => ⟨hquote, hinside⟩⟩

/-- A word with quotes of its own, and free text that is still open behind an escaped quote. -/
theorem incomplete_iff_escaped :
    let status : Field := { key := "status", label := "Status", operators := ["is"] }
    let ids (n : Nat) : String := String.ofList (List.replicate n 'g')
    let query := "status:\"a b\" \"say \\\"hi"
    Quoting.atomBoundary ∉ query.toList ∧ KeepsPromises [status] {} ∧
      ∃ p, parse [status] {} ids query = .ok p ∧
        p.tokens.map (·.value) = ["a b", "say \"hi"] ∧ p.incomplete = some "say \"hi" ∧
        (p.incomplete.isSome = true ↔
          isInside query.toList = true ∧ ∃ t, p.tokens.getLast? = some t ∧ t.quoted = true) ∧
        (∀ value, p.incomplete = some value →
          ∃ t, p.tokens.getLast? = some t ∧ t.value = value) ∧
        (isInside query.toList = true → p.incomplete = none →
          ∃ word, (slices query.toList).getLast? = some word ∧ word.head? ≠ some '"' ∧
            isInside word = true) := by
  intro status ids query
  have hatom : Quoting.atomBoundary ∉ query.toList := by decide +kernel
  have hhost : KeepsPromises [status] {} := by
    refine ⟨?_, ⟨"is", rfl⟩⟩
    rintro field hfield resolve hresolve
    obtain rfl := List.mem_singleton.mp hfield
    cases hresolve
  obtain ⟨hparse, hreports⟩ := incomplete_iff [status] {} ids query hatom
  obtain ⟨p, hp⟩ := hparse hhost
  have hread : (parse [status] {} ids query).map
      (fun p => (p.tokens.map (·.value), p.incomplete)) =
        .ok (["a b", "say \"hi"], some "say \"hi") := by decide +kernel
  rw [hp] at hread
  obtain ⟨hvalues, hopen⟩ := Prod.ext_iff.mp (Except.ok.inj hread)
  exact ⟨hatom, hhost, p, hp, hvalues, hopen, hreports p hp⟩

/-- The value of a filter is still open, and nothing is reported. -/
theorem incomplete_silent :
    let status : Field := { key := "status", label := "Status", operators := ["is"] }
    let ids (n : Nat) : String := String.ofList (List.replicate n 'g')
    let query := "status:\"in rev"
    Quoting.atomBoundary ∉ query.toList ∧ isInside query.toList = true ∧
      (parse [status] {} ids query).map (fun p => (p.tokens.map (·.value), p.incomplete)) =
        .ok (["in rev"], none) := by
  decide +kernel

end Query

end FilterQuery
