import FilterQuery.Quoting

/-!
# What a scan reports

The scanner goes along with the automaton of quotes and starts it anew at each atom boundary
(`Mode.scanAfter`). A scan that runs to the end reports where this leaves it after each character
(`getElem?_visits`), and it may be taken in two pieces (`scanFrom_append`). A scan that is stopped
has reported the same up to there (`scanFrom_stops`); what it answers is not always what it has
reported. `scan_stopped_at` says when the two differ, and `scan_stopped_stale` shows it.
-/

namespace FilterQuery.Quoting

namespace Mode

/-- Where the scanner stands after one more character. -/
def scanNext (m : Mode) (c : Char) : Mode := if c = atomBoundary then .outside else m.next c

/-- Where the scanner stands after a text. -/
def scanAfter (m : Mode) (cs : List Char) : Mode := cs.foldl scanNext m

@[simp] theorem scanAfter_nil (m : Mode) : m.scanAfter [] = m := rfl

@[simp] theorem scanAfter_cons (m : Mode) (c : Char) (cs : List Char) :
    m.scanAfter (c :: cs) = (m.scanNext c).scanAfter cs := rfl

theorem scanAfter_append (m : Mode) (as bs : List Char) :
    m.scanAfter (as ++ bs) = (m.scanAfter as).scanAfter bs := by
  simp [scanAfter]

/-- An atom boundary ends any open quote. -/
theorem scanAfter_atomBoundary (m : Mode) (cs : List Char) :
    m.scanAfter (cs ++ [atomBoundary]) = .outside := by
  rw [scanAfter_append, scanAfter_cons, scanAfter_nil, scanNext, if_pos rfl]

theorem scanNext_of_ne {c : Char} (h : c ≠ atomBoundary) (m : Mode) : m.scanNext c = m.next c :=
  if_neg h

/-- Without atom boundaries the scanner stands where the automaton does. -/
theorem scanAfter_eq_after {cs : List Char} (h : atomBoundary ∉ cs) (m : Mode) :
    m.scanAfter cs = m.after cs := by
  induction cs generalizing m with
  | nil => rfl
  | cons c cs ih =>
    rw [List.mem_cons, not_or] at h
    rw [scanAfter_cons, after_cons, scanNext_of_ne (Ne.symm h.1), ih h.2]

end Mode

/-! ## One character -/

theorem scanFrom_cons (stop : Visit → Bool) (m : Mode) (i : Nat) (c : Char) (cs : List Char) :
    scanFrom stop m i (c :: cs) =
      if stop ⟨c, i, (m.scanNext c).isOpen⟩ then
        ⟨[⟨c, i, (m.scanNext c).isOpen⟩],
          if c = atomBoundary then m.isOpen else (m.scanNext c).isOpen⟩
      else
        ⟨⟨c, i, (m.scanNext c).isOpen⟩ :: (scanFrom stop (m.scanNext c) (i + 1) cs).visits,
          (scanFrom stop (m.scanNext c) (i + 1) cs).isOpen⟩ := by
  have hflag : (if c = atomBoundary then false else (m.next c).isOpen) = (m.scanNext c).isOpen := by
    unfold Mode.scanNext
    split <;> rfl
  rw [scanFrom, hflag]
  by_cases hatom : c = atomBoundary
  · simp only [hatom, if_true]
    rfl
  · simp only [hatom, if_false, Mode.scanNext_of_ne hatom]

/-! ## Scans that run to the end -/

/-- A text is scanned piece by piece. -/
theorem scanFrom_append (m : Mode) (i : Nat) (as bs : List Char) :
    scanFrom (fun _ => false) m i (as ++ bs) =
      ⟨(scanFrom (fun _ => false) m i as).visits ++
          (scanFrom (fun _ => false) (m.scanAfter as) (i + as.length) bs).visits,
        (scanFrom (fun _ => false) (m.scanAfter as) (i + as.length) bs).isOpen⟩ := by
  induction as generalizing m i with
  | nil => rfl
  | cons a as ih =>
    have hindex : i + 1 + as.length = i + (as.length + 1) := by omega
    rw [List.cons_append, scanFrom_cons, scanFrom_cons, ih, List.length_cons, hindex]
    rfl

theorem isOpen_scanFrom (m : Mode) (i : Nat) (cs : List Char) :
    (scanFrom (fun _ => false) m i cs).isOpen = (m.scanAfter cs).isOpen := by
  induction cs generalizing m i with
  | nil => rfl
  | cons c cs ih =>
    rw [scanFrom_cons]
    exact ih (m.scanNext c) (i + 1)

theorem isInside_eq_scanAfter (text : List Char) :
    isInside text = (Mode.outside.scanAfter text).isOpen :=
  isOpen_scanFrom .outside 0 text

/-- Each visit shows where the scanner stands after its character. -/
theorem getElem?_visits (m : Mode) (i k : Nat) (cs : List Char) :
    (scanFrom (fun _ => false) m i cs).visits[k]? =
      cs[k]?.map fun c => ⟨c, i + k, (m.scanAfter (cs.take (k + 1))).isOpen⟩ := by
  induction cs generalizing m i k with
  | nil => rfl
  | cons c cs ih =>
    rw [scanFrom_cons]
    cases k with
    | zero => rfl
    | succ k =>
      have hindex : i + 1 + k = i + (k + 1) := by omega
      have hrest := ih (m.scanNext c) (i + 1) k
      rw [hindex] at hrest
      exact hrest

/-- Every character is visited once, in order. -/
theorem map_char_visits (m : Mode) (i : Nat) (cs : List Char) :
    (scanFrom (fun _ => false) m i cs).visits.map (·.char) = cs := by
  induction cs generalizing m i with
  | nil => rfl
  | cons c cs ih =>
    rw [scanFrom_cons]
    exact congrArg (c :: ·) (ih (m.scanNext c) (i + 1))

theorem map_index_visits (m : Mode) (i : Nat) (cs : List Char) :
    (scanFrom (fun _ => false) m i cs).visits.map (·.index) = List.range' i cs.length := by
  induction cs generalizing m i with
  | nil => rfl
  | cons c cs ih =>
    rw [scanFrom_cons]
    exact congrArg (i :: ·) (ih (m.scanNext c) (i + 1))

theorem index_lt_of_mem_visits {i : Nat} {m : Mode} {cs : List Char} {v : Visit}
    (hv : v ∈ (scanFrom (fun _ => false) m i cs).visits) : v.index < i + cs.length := by
  have hindex := List.mem_map_of_mem (f := Visit.index) hv
  rw [map_index_visits, List.mem_range'_1] at hindex
  exact hindex.2

/-- What the scan of a text reports of a character. -/
theorem of_mem_visits {text : List Char} {v : Visit}
    (hv : v ∈ (scan (fun _ => false) text).visits) :
    text[v.index]? = some v.char ∧
      v.inQuote = (Mode.outside.scanAfter (text.take (v.index + 1))).isOpen := by
  obtain ⟨k, hk⟩ := List.mem_iff_getElem?.mp hv
  rw [scan, getElem?_visits, Option.map_eq_some_iff] at hk
  obtain ⟨c, hc, rfl⟩ := hk
  rw [Nat.zero_add]
  exact ⟨hc, rfl⟩

/-! ## Scans that are stopped -/

/-- A scan that is stopped at a character has reported all up to it. Its answer is about the place
behind the character, but behind an atom boundary it is still about the place in front. -/
theorem scanFrom_stops {stop : Visit → Bool} {m : Mode} {i : Nat} {as : List Char} {c : Char}
    (hbefore : ∀ v ∈ (scanFrom (fun _ => false) m i as).visits, stop v = false)
    (hstop : stop ⟨c, i + as.length, (m.scanAfter (as ++ [c])).isOpen⟩ = true) (bs : List Char) :
    scanFrom stop m i (as ++ c :: bs) =
      ⟨(scanFrom (fun _ => false) m i (as ++ [c])).visits,
        if c = atomBoundary then (m.scanAfter as).isOpen
        else (m.scanAfter (as ++ [c])).isOpen⟩ := by
  induction as generalizing m i with
  | nil =>
    have hfirst : stop ⟨c, i, (m.scanNext c).isOpen⟩ = true := hstop
    rw [List.nil_append, scanFrom_cons, if_pos hfirst, List.nil_append, scanFrom_cons]
    rfl
  | cons a as ih =>
    rw [scanFrom_cons] at hbefore
    have hindex : i + 1 + as.length = i + (as.length + 1) := by omega
    have hrest := ih (m := m.scanNext a) (i := i + 1)
      (fun v hv => hbefore v (List.mem_cons_of_mem _ hv)) (by rw [hindex]; exact hstop)
    rw [List.cons_append, scanFrom_cons, hbefore _ List.mem_cons_self, hrest, List.cons_append,
      scanFrom_cons]
    rfl

/-- A scan that is stopped at an index. -/
theorem scan_index {text : List Char} {i : Nat} (hi : i < text.length) :
    scan (fun v => v.index == i) text =
      ⟨(scan (fun _ => false) (text.take (i + 1))).visits,
        if text[i] = atomBoundary then isInside (text.take i)
        else isInside (text.take (i + 1))⟩ := by
  have hlength : (text.take i).length = i := List.length_take_of_le (Nat.le_of_lt hi)
  have htext : text.take i ++ text[i] :: text.drop (i + 1) = text := by
    rw [List.getElem_cons_drop, List.take_append_drop]
  have hbefore : ∀ v ∈ (scanFrom (fun _ => false) .outside 0 (text.take i)).visits,
      (v.index == i) = false := by
    intro v hv
    have hindex := index_lt_of_mem_visits hv
    exact beq_false_of_ne (by omega)
  have hstop : ((0 + (text.take i).length) == i) = true := by
    rw [hlength, Nat.zero_add]
    exact beq_self_eq_true i
  have hstops := @scanFrom_stops (fun v => v.index == i) .outside 0 (text.take i) text[i] hbefore
    hstop (text.drop (i + 1))
  rw [htext, ← List.take_succ_eq_append_getElem hi, ← isInside_eq_scanAfter,
    ← isInside_eq_scanAfter] at hstops
  exact hstops

/-- What is reported of the last character is whether the text ends inside quotes. -/
theorem getLast?_visits {text : List Char} {i : Nat} (hi : i < text.length) :
    (scan (fun _ => false) (text.take (i + 1))).visits.getLast? =
      some ⟨text[i], i, isInside (text.take (i + 1))⟩ := by
  have hlength : (scan (fun _ => false) (text.take (i + 1))).visits.length = i + 1 := by
    have h := congrArg List.length (map_char_visits .outside 0 (text.take (i + 1)))
    rw [List.length_map, List.length_take_of_le hi] at h
    exact h
  have hlast : (text.take (i + 1))[i]? = some text[i] := by
    rw [List.getElem?_take_of_lt (Nat.lt_succ_self i), List.getElem?_eq_getElem hi]
  rw [List.getLast?_eq_getElem?, hlength, scan, Nat.add_sub_cancel, getElem?_visits, hlast,
    List.take_take, Nat.min_self, ← isInside_eq_scanAfter, Nat.zero_add]
  rfl

/-- **A scan that is stopped has seen the front of the text.** It reports each character up to the
one it is stopped at, once and in order, just as a scan of this front reports them, and what it
reports of the last one is whether the front ends inside quotes. That is also its answer, unless it
is stopped at an atom boundary: then it answers for the text in front of the boundary, so the answer
is another one just if the boundary stands inside quotes. -/
theorem scan_stopped_at (text : List Char) (i : Nat) (hi : i < text.length) :
    let stopped := scan (fun v => v.index == i) text
    let front := scan (fun _ => false) (text.take (i + 1))
    stopped.visits = front.visits ∧
      stopped.visits.map (·.char) = text.take (i + 1) ∧
      stopped.visits.map (·.index) = List.range (i + 1) ∧
      stopped.visits.getLast?.map (·.inQuote) = some front.isOpen ∧
      (text[i] = atomBoundary → stopped.isOpen = isInside (text.take i)) ∧
      (stopped.isOpen = front.isOpen ↔
        ¬ (text[i] = atomBoundary ∧ isInside (text.take i) = true)) := by
  intro stopped front
  have hstopped : stopped = ⟨front.visits, if text[i] = atomBoundary then isInside (text.take i)
      else front.isOpen⟩ := scan_index hi
  rw [hstopped]
  refine ⟨rfl, map_char_visits .outside 0 _, ?_, ?_, fun hatom => if_pos hatom, ?_⟩
  · have hindex : front.visits.map (·.index) = List.range' 0 (text.take (i + 1)).length :=
      map_index_visits .outside 0 _
    rw [hindex, List.length_take_of_le hi, List.range_eq_range']
  · rw [getLast?_visits hi]
    rfl
  · by_cases hatom : text[i] = atomBoundary
    · -- behind the boundary no quote is open
      have hclosed : front.isOpen = false := by
        show isInside (text.take (i + 1)) = false
        rw [isInside_eq_scanAfter, List.take_succ_eq_append_getElem hi, hatom,
          Mode.scanAfter_atomBoundary]
        rfl
      simp [hatom, hclosed]
    · simp [hatom]

/-- A scan that is stopped at an escaped quote, after an atom boundary has closed another one. -/
theorem scan_stopped_at_escaped :
    let text := ['"', atomBoundary, '"', '\\', '"', ' ', '"']
    let stopped := scan (fun v => v.index == 4) text
    let front := scan (fun _ => false) (text.take 5)
    4 < text.length ∧
      stopped.visits.map (·.inQuote) = [true, false, true, true, true] ∧ stopped.isOpen = true ∧
      stopped.visits = front.visits ∧
      stopped.visits.map (·.char) = text.take 5 ∧
      stopped.visits.map (·.index) = List.range 5 ∧
      stopped.visits.getLast?.map (·.inQuote) = some front.isOpen ∧
      ('"' = atomBoundary → stopped.isOpen = isInside (text.take 4)) ∧
      (stopped.isOpen = front.isOpen ↔
        ¬ ('"' = atomBoundary ∧ isInside (text.take 4) = true)) := by
  intro text stopped front
  exact ⟨by decide, by decide, by decide, scan_stopped_at text 4 (by decide)⟩

/-- A scan that is stopped at an atom boundary inside quotes reports it as outside and still answers
that it ended inside. -/
theorem scan_stopped_stale :
    let text := ['"', atomBoundary]
    let stopped := scan (fun v => v.index == 1) text
    1 < text.length ∧ stopped.visits.map (·.inQuote) = [true, false] ∧ stopped.isOpen = true ∧
      (scan (fun _ => false) (text.take 2)).isOpen = false := by
  decide

end FilterQuery.Quoting
