import FilterQuery.Query.Slice

/-!
# Reading what was escaped

Escaped text never leaves the quotes it is written into: whoever reads it from inside quotes is
inside them afterwards, and has read the text. This is said once for each reader: the automaton
(`after_escape`), unquoting (`unquoteFrom_escape`), quoted free text (`readQuoted_escape`) and the
cutting of a query (`cut_escape`).
-/

namespace FilterQuery

open Quoting (Mode escape quoted quoteIfNeeded needsQuotes unquote unquoteFrom)

namespace Quoting

theorem escape_cons_of_special {c : Char} (h : c = '"' ∨ c = '\\') (cs : List Char) :
    escape (c :: cs) = '\\' :: c :: escape cs := by
  rcases h with rfl | rfl <;> rfl

theorem escape_cons_of_plain {c : Char} (hquote : c ≠ '"') (hbackslash : c ≠ '\\')
    (cs : List Char) : escape (c :: cs) = c :: escape cs := by
  simp [escape, hquote, hbackslash]

/-! ## The automaton -/

theorem Mode.next_inside_of_plain {c : Char} (hquote : c ≠ '"') (hbackslash : c ≠ '\\') :
    Mode.inside.next c = .inside := by
  simp [next, hquote, hbackslash]

/-- Only outside quotes are the quotes closed after a space. -/
theorem Mode.eq_outside_of_next_space {m : Mode} (h : (m.next ' ').isOpen = false) :
    m = .outside := by
  cases m with
  | outside => rfl
  | inside => simp [next, isOpen] at h
  | escaped => simp [next, isOpen] at h

theorem after_escape (cs rest : List Char) :
    Mode.inside.after (escape cs ++ rest) = Mode.inside.after rest := by
  induction cs with
  | nil => rfl
  | cons c cs ih =>
    by_cases h : c = '"' ∨ c = '\\'
    · rw [escape_cons_of_special h]
      exact ih
    · obtain ⟨hquote, hbackslash⟩ := not_or.mp h
      rw [escape_cons_of_plain hquote hbackslash, List.cons_append, Mode.after_cons,
        Mode.next_inside_of_plain hquote hbackslash]
      exact ih

theorem after_quoted (cs : List Char) : Mode.outside.after (quoted cs) = .outside :=
  after_escape cs ['"']

/-- Text without quotes does not open any. -/
theorem after_of_notMem {cs : List Char} (h : '"' ∉ cs) (rest : List Char) :
    Mode.outside.after (cs ++ rest) = Mode.outside.after rest := by
  induction cs with
  | nil => rfl
  | cons c cs ih =>
    rw [List.mem_cons, not_or] at h
    obtain ⟨hc, hcs⟩ := h
    rw [List.cons_append, Mode.after_cons, Mode.next, if_neg (Ne.symm hc)]
    exact ih hcs

/-! ## Unquoting -/

theorem unescape_of_special {c : Char} (h : c = '"' ∨ c = '\\') : unescape c = [c] := by
  rcases h with rfl | rfl <;> rfl

theorem unescape_ne_nil (c : Char) : unescape c ≠ [] := by
  rw [unescape]
  split
  · simp
  · split
    · simp
    · split <;> simp

theorem Mode.spoken_inside_of_plain {c : Char} (hquote : c ≠ '"') (hbackslash : c ≠ '\\') :
    Mode.inside.spoken c = [c] := by
  simp [spoken, hquote, hbackslash]

/-- The quote that closes is not spoken. -/
theorem Mode.spoken_of_closing {m : Mode} (hm : m ≠ .outside) {c : Char}
    (hend : m.next c = .outside) : m.spoken c = [] := by
  cases m with
  | outside => exact absurd rfl hm
  | inside =>
    have hquote : c = '"' := by
      by_cases hbackslash : c = '\\'
      · simp [next, hbackslash] at hend
      · simpa [next, hbackslash] using hend
    simp [spoken, hquote]
  | escaped => cases hend

theorem unquoteFrom_escape (cs rest : List Char) :
    unquoteFrom .inside (escape cs ++ rest) = cs ++ unquoteFrom .inside rest := by
  induction cs with
  | nil => rfl
  | cons c cs ih =>
    by_cases h : c = '"' ∨ c = '\\'
    · rw [escape_cons_of_special h]
      show unescape c ++ unquoteFrom .inside (escape cs ++ rest) = _
      rw [ih, unescape_of_special h]
      rfl
    · obtain ⟨hquote, hbackslash⟩ := not_or.mp h
      rw [escape_cons_of_plain hquote hbackslash, List.cons_append, unquoteFrom,
        Mode.next_inside_of_plain hquote hbackslash, ih,
        Mode.spoken_inside_of_plain hquote hbackslash]
      rfl

/-- Text that does not start with a quote is its own value. -/
theorem unquote_of_head {cs : List Char} (h : cs.head? ≠ some '"') :
    unquote cs = ⟨cs, false, false⟩ := by
  rw [unquote]
  rintro cs' rfl
  exact h rfl

theorem unquote_of_notMem {cs : List Char} (h : '"' ∉ cs) : unquote cs = ⟨cs, false, false⟩ :=
  unquote_of_head fun hhead => h (List.mem_of_head? hhead)

/-- Escaped text between quotes comes back. -/
theorem unquote_quoted (cs : List Char) : unquote (quoted cs) = ⟨cs, false, true⟩ := by
  show Quoting.Unquoted.mk (unquoteFrom .inside (escape cs ++ ['"']))
    (Mode.inside.after (escape cs ++ ['"'])).isOpen true = _
  rw [unquoteFrom_escape, after_escape]
  show Quoting.Unquoted.mk (cs ++ []) false true = _
  rw [List.append_nil]

theorem needsQuotes_eq_false {cs : List Char} (h : needsQuotes cs = false) :
    ' ' ∉ cs ∧ '"' ∉ cs := by
  simp only [needsQuotes, List.any_eq_false] at h
  constructor
  · intro hmem
    simpa using h ' ' hmem
  · intro hmem
    simpa using h '"' hmem

/-- Text comes back, whether it needed quotes or not. -/
theorem unquote_quoteIfNeeded (cs : List Char) :
    unquote (quoteIfNeeded cs) = ⟨cs, false, needsQuotes cs⟩ := by
  unfold quoteIfNeeded
  split
  · rename_i h
    rw [unquote_quoted, h]
  · rename_i h
    have hplain := Bool.eq_false_iff.mpr h
    rw [unquote_of_notMem (needsQuotes_eq_false hplain).2, hplain]

theorem after_quoteIfNeeded (cs : List Char) :
    Mode.outside.after (quoteIfNeeded cs) = .outside := by
  rw [quoteIfNeeded]
  split
  · exact after_quoted cs
  · rename_i h
    have hquote := (needsQuotes_eq_false (Bool.eq_false_iff.mpr h)).2
    rw [← List.append_nil cs, after_of_notMem hquote]
    rfl

end Quoting

namespace Query

open Quoting (escape_cons_of_special escape_cons_of_plain)

/-! ## Readers of queries -/

theorem readQuoted_escape (cs rest : List Char) :
    readQuoted .inside (escape cs ++ rest) =
      (cs ++ (readQuoted .inside rest).1, (readQuoted .inside rest).2) := by
  induction cs with
  | nil => rfl
  | cons c cs ih =>
    by_cases h : c = '"' ∨ c = '\\'
    · rw [escape_cons_of_special h]
      show (Quoting.unescape c ++ (readQuoted .inside (escape cs ++ rest)).1,
        (readQuoted .inside (escape cs ++ rest)).2) = _
      rw [ih, Quoting.unescape_of_special h]
      rfl
    · obtain ⟨hquote, hbackslash⟩ := not_or.mp h
      rw [escape_cons_of_plain hquote hbackslash, List.cons_append, readQuoted,
        Mode.next_inside_of_plain hquote hbackslash, ih,
        Mode.spoken_inside_of_plain hquote hbackslash]
      rfl

/-- Quoted text is closed, and it stands for what was quoted. -/
theorem readQuoted_quoted (cs : List Char) : readQuoted .inside (escape cs ++ ['"']) = (cs, true) := by
  rw [readQuoted_escape]
  exact congrArg (·, true) (List.append_nil cs)

/-- Inside quotes a cut takes one character after the other, in words and in quoted free text. -/
theorem cut_inside {place : Mode → Place} (hplace : place = .word ∨ place = .quoted) {m : Mode}
    {c : Char} (hm : m ≠ .outside) (hnext : m.next c ≠ .outside) (cs : List Char) :
    cut (place m) (c :: cs) =
      (c :: (cut (place (m.next c)) cs).1, (cut (place (m.next c)) cs).2) := by
  rcases hplace with rfl | rfl
  · rw [cut, if_neg fun h => hm h.1]
  · rw [cut, if_neg hnext]

theorem cut_escape {place : Mode → Place} (hplace : place = .word ∨ place = .quoted)
    (cs rest : List Char) :
    cut (place .inside) (escape cs ++ rest) =
      (escape cs ++ (cut (place .inside) rest).1, (cut (place .inside) rest).2) := by
  induction cs with
  | nil => rfl
  | cons c cs ih =>
    by_cases h : c = '"' ∨ c = '\\'
    -- a backslash and the character behind it
    · rw [escape_cons_of_special h, List.cons_append,
        cut_inside hplace (m := .inside) (c := '\\') (by simp) (by simp [Mode.next])]
      show (_ :: (cut (place .escaped) (c :: (escape cs ++ rest))).1,
        (cut (place .escaped) (c :: (escape cs ++ rest))).2) = _
      rw [cut_inside hplace (m := .escaped) (by simp) (by simp [Mode.next])]
      show (_ :: _ :: (cut (place .inside) (escape cs ++ rest)).1,
        (cut (place .inside) (escape cs ++ rest)).2) = _
      rw [ih]
      rfl
    · obtain ⟨hquote, hbackslash⟩ := not_or.mp h
      have hnext := Mode.next_inside_of_plain hquote hbackslash
      rw [escape_cons_of_plain hquote hbackslash, List.cons_append,
        cut_inside hplace (m := .inside) (by simp) (by rw [hnext]; simp), hnext, ih]
      rfl

end Query

end FilterQuery
