import FilterQuery.Proofs.Scanning

/-!
# Behind the last word boundary

At a word boundary the scanner stands where it starts: a space counts outside quotes only, and an
atom boundary closes what is open (`scanAfter_of_isWordEnd`). So a text may be cut there, and what
is said about the end of the text can be said from the rest alone: its boundaries are those of the
two pieces (`lastBoundary?_append`), and quotes are open at its end just if they are at the end of
the rest. `quotes_behind_boundary` puts this together.
-/

namespace FilterQuery.Quoting

variable {text : List Char} {v : Visit}

/-- The text behind its last word boundary, or all of it if there is none. -/
def lastWord (text : List Char) : List Char := text.drop ((lastBoundary? text).elim 0 (· + 1))

/-! ## Where words end -/

/-- The scanner starts anew behind a word boundary. -/
theorem scanAfter_of_isWordEnd (hv : v ∈ (scan (fun _ => false) text).visits)
    (hend : v.isWordEnd = true) : Mode.outside.scanAfter (text.take (v.index + 1)) = .outside := by
  obtain ⟨hchar, hinQuote⟩ := of_mem_visits hv
  unfold Visit.isWordEnd at hend
  rcases Bool.or_eq_true_iff.mp hend with hatom | hspace
  · have htake : text.take (v.index + 1) = text.take v.index ++ [atomBoundary] := by
      rw [List.take_add_one, hchar, eq_of_beq hatom]
      rfl
    rw [htake, Mode.scanAfter_atomBoundary]
  · have hclosed : v.inQuote = false := by
      rw [Bool.and_eq_true] at hspace
      simpa using hspace.1
    rw [hclosed] at hinQuote
    exact Mode.isOpen_eq_false_iff.mp hinQuote.symm

theorem exists_wordEnd {b : Nat} (hb : lastBoundary? text = some b) :
    ∃ v ∈ (scan (fun _ => false) text).visits, v.isWordEnd = true ∧ v.index = b := by
  unfold lastBoundary? at hb
  obtain ⟨v, hlast, rfl⟩ := Option.map_eq_some_iff.mp hb
  obtain ⟨hv, hend⟩ := List.mem_filter.mp (List.mem_of_getLast? hlast)
  exact ⟨v, hv, hend, rfl⟩

/-! ## Two pieces -/

/-- A scan that starts at a later index reports later indices and nothing else. -/
theorem visits_add (m : Mode) (i k : Nat) (cs : List Char) :
    (scanFrom (fun _ => false) m (k + i) cs).visits =
      (scanFrom (fun _ => false) m i cs).visits.map fun v => { v with index := k + v.index } := by
  induction cs generalizing m i with
  | nil => rfl
  | cons c cs ih =>
    rw [scanFrom_cons, scanFrom_cons]
    exact congrArg (_ :: ·) (ih (m.scanNext c) (i + 1))

/-- Where the scanner stands as at the start, the last boundary is that of the rest, and only if
there is none there, that of the front. -/
theorem lastBoundary?_append {as : List Char} (h : Mode.outside.scanAfter as = .outside)
    (bs : List Char) :
    lastBoundary? (as ++ bs) =
      ((lastBoundary? bs).map (as.length + ·)).or (lastBoundary? as) := by
  have hrest : ((scanFrom (fun _ => false) .outside as.length bs).visits.filter
      Visit.isWordEnd).getLast?.map Visit.index = (lastBoundary? bs).map (as.length + ·) := by
    have hshift := visits_add .outside 0 as.length bs
    rw [Nat.add_zero] at hshift
    rw [hshift, List.filter_map, List.getLast?_map, lastBoundary?, Option.map_map, Option.map_map]
    rfl
  unfold lastBoundary? at *
  unfold scan
  rw [scanFrom_append, h, Nat.zero_add, List.filter_append, List.getLast?_append, Option.map_or,
    hrest]
  rfl

theorem isInside_append {as : List Char} (h : Mode.outside.scanAfter as = .outside)
    (bs : List Char) : isInside (as ++ bs) = isInside bs := by
  rw [isInside_eq_scanAfter, isInside_eq_scanAfter, Mode.scanAfter_append, h]

/-- An atom boundary is a word boundary wherever it stands. -/
theorem lastBoundary?_concat (as : List Char) :
    lastBoundary? (as ++ [atomBoundary]) = some as.length := by
  have hlast : (scanFrom (fun _ => false) (Mode.outside.scanAfter as) (0 + as.length)
      [atomBoundary]).visits.filter Visit.isWordEnd = [⟨atomBoundary, as.length, false⟩] := by
    rw [Nat.zero_add, scanFrom_cons]
    rfl
  unfold lastBoundary? scan
  rw [scanFrom_append, List.filter_append, List.getLast?_append, hlast]
  rfl

/-! ## The rest of a text -/

theorem lastBoundary?_lastWord (text : List Char) : lastBoundary? (lastWord text) = none := by
  unfold lastWord
  cases hb : lastBoundary? text with
  | none => exact hb
  | some b =>
    obtain ⟨v, hv, hend, rfl⟩ := exists_wordEnd hb
    have happend := lastBoundary?_append (scanAfter_of_isWordEnd hv hend)
      (text.drop (v.index + 1))
    rw [List.take_append_drop, hb] at happend
    -- a later boundary would be the last one of the text
    cases hrest : lastBoundary? (text.drop (v.index + 1)) with
    | none => exact hrest
    | some k =>
      have hlength : (text.take (v.index + 1)).length = v.index + 1 := by
        have hlt := (List.getElem?_eq_some_iff.mp (of_mem_visits hv).1).1
        exact List.length_take_of_le hlt
      rw [hrest, hlength] at happend
      have hindex : v.index = v.index + 1 + k := Option.some.inj happend
      omega

theorem isInside_lastWord (text : List Char) : isInside (lastWord text) = isInside text := by
  unfold lastWord
  cases hb : lastBoundary? text with
  | none => rfl
  | some b =>
    obtain ⟨v, hv, hend, rfl⟩ := exists_wordEnd hb
    have happend := isInside_append (scanAfter_of_isWordEnd hv hend) (text.drop (v.index + 1))
    rw [List.take_append_drop] at happend
    exact happend.symm

/-- **Quotes are local to the last word.** Behind its last word boundary a text has no other one,
and whether it ends inside quotes can be seen from there. An atom boundary is one whatever is open
in front of it: a text that goes on behind one ends inside quotes just if what stands behind does,
and its last boundary is the last one there, or else the atom boundary itself. -/
theorem quotes_behind_boundary (text a c : List Char) :
    (lastBoundary? (lastWord text) = none ∧ isInside (lastWord text) = isInside text) ∧
      isInside (a ++ atomBoundary :: c) = isInside c ∧
      lastBoundary? (a ++ atomBoundary :: c) =
        some ((lastBoundary? c).elim a.length (a.length + 1 + ·)) := by
  have hatom := Mode.scanAfter_atomBoundary .outside a
  have htext : a ++ atomBoundary :: c = (a ++ [atomBoundary]) ++ c := by simp
  refine ⟨⟨lastBoundary?_lastWord text, isInside_lastWord text⟩, ?_, ?_⟩
  · rw [htext, isInside_append hatom]
  · rw [htext, lastBoundary?_append hatom, lastBoundary?_concat, List.length_append]
    cases lastBoundary? c <;> rfl

end FilterQuery.Quoting
