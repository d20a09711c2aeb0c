import FilterQuery.Proofs.Boundaries
import FilterQuery.Proofs.Cuts
import FilterQuery.Proofs.Reading

/-!
# Reading a query piece by piece

The scanner reports after each character whether quotes are open, and the reader of queries ends
words at spaces outside quotes. In text without atom boundaries both go along with one automaton
(`getElem?_of_mem_visits`), so they agree on where words end: a query may be read in two pieces at
any space that the scanner reports outside quotes. What is read of a slice depends neither on its id
nor on its position (`tokenOf_eq`), and a piece that ends outside quotes has closed all its quotes
(`unclosed?_of_mem_slices`). `parse_pieces` puts the two readings together.
-/

namespace FilterQuery

/-! ## What the scanner reports -/

namespace Quoting

section

variable {text : List Char} {b : Nat} {v : Visit}

/-- Without atom boundaries each visit shows where the automaton stands after its character. -/
theorem getElem?_of_mem_visits (h : atomBoundary ∉ text)
    (hv : v ∈ (scan (fun _ => false) text).visits) :
    text[v.index]? = some v.char ∧
      v.inQuote = (Mode.outside.after (text.take (v.index + 1))).isOpen := by
  obtain ⟨hchar, hinQuote⟩ := of_mem_visits hv
  have htake : atomBoundary ∉ text.take (v.index + 1) := fun hmem => h (List.mem_of_mem_take hmem)
  rw [Mode.scanAfter_eq_after htake] at hinQuote
  exact ⟨hchar, hinQuote⟩

/-- A space that the scanner reports outside quotes is one for the automaton. -/
theorem after_take_of_visit (h : atomBoundary ∉ text)
    (hv : v ∈ (scan (fun _ => false) text).visits) (hspace : v.char = ' ')
    (hquote : v.inQuote = false) : Mode.outside.after (text.take v.index) = .outside := by
  obtain ⟨hchar, hinQuote⟩ := getElem?_of_mem_visits h hv
  have htake : text.take (v.index + 1) = text.take v.index ++ [' '] := by
    rw [List.take_add_one, hchar, hspace]
    rfl
  rw [hquote, htake, Mode.after_append] at hinQuote
  exact Mode.eq_outside_of_next_space hinQuote.symm

/-- A last boundary that is a space is reported outside quotes. -/
theorem exists_visit_of_lastBoundary? (h : atomBoundary ∉ text) (hb : lastBoundary? text = some b)
    (hspace : text[b]? = some ' ') :
    ∃ v ∈ (scan (fun _ => false) text).visits, v.index = b ∧ v.inQuote = false := by
  obtain ⟨v, hv, hend, rfl⟩ := exists_wordEnd hb
  obtain ⟨hchar, -⟩ := getElem?_of_mem_visits h hv
  have hc : v.char = ' ' := Option.some.inj (hchar.symm.trans hspace)
  refine ⟨v, hv, rfl, ?_⟩
  have hatom : (' ' == atomBoundary) = false := by decide
  simpa [Visit.isWordEnd, hc, hatom] using hend

end

end Quoting

/-! ## Tokens under other ids -/

namespace Query

open Quoting (Mode)

variable {fields : List Field} {opts : LexOptions}

/-- The same token with another id, at another position. -/
def placed (id : String) (pos : Nat) (t : Token) : Token := { t with id, pos := .int pos }

/-- Tokens with the ids of a supply, at positions that count them. -/
def placedFrom (ids : Nat → String) (n : Nat) (ts : List Token) : List Token :=
  ts.mapIdx fun i t => placed (ids (n + i)) (n + i) t

theorem placedFrom_cons (ids : Nat → String) (n : Nat) (t : Token) (ts : List Token) :
    placedFrom ids n (t :: ts) = placed (ids n) n t :: placedFrom ids (n + 1) ts := by
  have hshift : ∀ i, n + 1 + i = n + (i + 1) := by omega
  simp only [placedFrom, List.mapIdx_cons, Nat.add_zero, hshift]

theorem placedFrom_append (ids : Nat → String) (n : Nat) (ts us : List Token) :
    placedFrom ids n (ts ++ us) = placedFrom ids n ts ++ placedFrom ids (n + ts.length) us := by
  have hshift : ∀ i, n + (i + ts.length) = n + ts.length + i := by omega
  simp only [placedFrom, List.mapIdx_append, hshift]

theorem map_id_placedFrom (ids : Nat → String) (n : Nat) (ts : List Token) :
    (placedFrom ids n ts).map (·.id) = (List.range ts.length).map fun i => ids (n + i) := by
  refine List.ext_getElem (by simp [placedFrom]) fun i hi hi' => ?_
  simp [placedFrom, placed]

/-- The same fault after more ids had been taken. -/
def LexFault.after (n : Nat) (e : LexFault) : LexFault := ⟨e.fault, n + e.idsTaken⟩

theorem LexFault.after_zero (e : LexFault) : LexFault.after 0 e = e := by
  rw [LexFault.after, Nat.zero_add]

/-- What is read of a slice depends neither on its id nor on its position. -/
theorem tokenOf_eq (id id' : String) (pos : Nat) (slice : List Char) :
    tokenOf fields opts id pos slice =
      ((tokenOf fields opts id' 0 slice).map (placed id pos)).mapError (.after pos) := by
  by_cases hquote : slice.head? = some '"'
  · obtain ⟨cs, rfl⟩ := List.head?_eq_some_iff.mp hquote
    rfl
  · have hword : ∀ cs, slice = '"' :: cs → False := by
      rintro cs rfl
      exact hquote rfl
    rw [tokenOf.eq_2 _ _ _ _ _ hword, tokenOf.eq_2 _ _ _ _ _ hword]
    cases parseWord fields opts slice with
    | error e => rfl
    | ok f? =>
      cases f? with
      | none => rfl
      | some f =>
        simp only [Except.mapError, bind, Except.bind]
        split
        · rfl
        · cases f.texts <;> rfl

/-- Neither does what is read of some slices. -/
theorem tokensFrom_eq (ids ids' : Nat → String) (n m : Nat) (ss : List (List Char)) :
    tokensFrom fields opts ids (n + m) ss =
      ((tokensFrom fields opts ids' m ss).map (placedFrom ids (n + m))).mapError (.after n) := by
  induction ss generalizing m with
  | nil => rfl
  | cons s ss ih =>
    rw [tokensFrom, tokensFrom, tokenOf_eq (ids (n + m)) "" (n + m),
      tokenOf_eq (ids' m) "" m, Nat.add_assoc, ih (m + 1)]
    cases tokenOf fields opts "" 0 s with
    | error e => exact congrArg Except.error (congrArg _ (Nat.add_assoc n m e.idsTaken))
    | ok t =>
      cases tokensFrom fields opts ids' (m + 1) ss with
      | error e => rfl
      | ok ts =>
        have hplaced : placedFrom ids (n + m) (placed (ids' m) m t :: ts) =
            placed (ids (n + m)) (n + m) t :: placedFrom ids (n + m + 1) ts := placedFrom_cons ..
        exact congrArg Except.ok hplaced.symm

theorem tokensFrom_append (ids : Nat → String) (n : Nat) (ss ss' : List (List Char)) :
    tokensFrom fields opts ids n (ss ++ ss') = do
      let ts ← tokensFrom fields opts ids n ss
      let ts' ← tokensFrom fields opts ids (n + ss.length) ss'
      return ts ++ ts' := by
  induction ss generalizing n with
  | nil =>
    show tokensFrom fields opts ids n ss' = do return [] ++ (← tokensFrom fields opts ids n ss')
    cases tokensFrom fields opts ids n ss' <;> rfl
  | cons s ss ih =>
    have hlength : n + (s :: ss).length = n + 1 + ss.length := by
      rw [List.length_cons]
      omega
    rw [List.cons_append, tokensFrom, tokensFrom, ih, hlength]
    cases tokenOf fields opts (ids n) n s with
    | error e => rfl
    | ok t =>
      cases tokensFrom fields opts ids (n + 1) ss with
      | error e => rfl
      | ok ts => cases tokensFrom fields opts ids (n + 1 + ss.length) ss' <;> rfl

theorem length_of_tokensFrom {ids : Nat → String} {n : Nat} {ss : List (List Char)}
    {ts : List Token} (h : tokensFrom fields opts ids n ss = .ok ts) : ts.length = ss.length := by
  rw [tokensFrom_eq_ok_iff] at h
  rw [← h.length_eq, List.length_zipIdx]

/-- With the ids of another supply a query reads the same, but for the ids. -/
theorem parse_supply (ids ids' : Nat → String) (query : String) :
    parse fields opts ids' query =
      (parse fields opts ids query).map fun p =>
        { p with tokens := placedFrom ids' 0 p.tokens } := by
  have htokens : tokensFrom fields opts ids' 0 (slices query.toList) =
      ((tokensFrom fields opts ids 0 (slices query.toList)).map (placedFrom ids' 0)).mapError
        (.after 0) := tokensFrom_eq ids' ids 0 0 _
  rw [parse, parse, htokens]
  cases tokensFrom fields opts ids 0 (slices query.toList) with
  | error e => exact congrArg Except.error (LexFault.after_zero e)
  | ok ts => rfl

/-- What is read of a query has the ids of the supply. -/
theorem tokens_of_parse {ids ids' : Nat → String} {query : String} {read again : Parsed}
    (hread : parse fields opts ids query = .ok read)
    (hagain : parse fields opts ids' query = .ok again) :
    again.tokens = placedFrom ids' 0 read.tokens := by
  rw [parse_supply ids ids', hread] at hagain
  cases hagain
  rfl

/-- No two tokens of a query have one id, if the supply gives none twice. -/
theorem nodup_id_of_parse {ids : Nat → String} (hids : Function.Injective ids) {query : String}
    {p : Parsed} (h : parse fields opts ids query = .ok p) : (p.tokens.map (·.id)).Nodup := by
  have hrange : (p.tokens.map (·.id)) = (List.range p.tokens.length).map ids := by
    rw [tokens_of_parse h h, map_id_placedFrom]
    simp [placedFrom]
  rw [hrange]
  exact List.Nodup.map hids List.nodup_range

/-! ## Quotes that are closed -/

/-- A cut that ends outside quotes has closed the quotes at hand and those of all its slices. -/
theorem closed_of_after {p : Place} (hp : p ≠ .quoted .outside) {cs : List Char}
    (h : p.mode.after cs = .outside) :
    (∀ m, p = .quoted m → (readQuoted m (cut p cs).1).2 = true) ∧
      ∀ s ∈ (cut p cs).2, unclosed? s = none := by
  induction cs generalizing p with
  | nil =>
    refine ⟨?_, fun s hs => absurd hs (by simp [cut])⟩
    rintro m rfl
    exact absurd (congrArg Place.quoted h) hp
  | cons c cs ih =>
    cases p with
    | between =>
      refine ⟨by simp, ?_⟩
      rw [cut]
      by_cases hspace : c = ' '
      · rw [if_pos hspace]
        exact (ih (p := .between) (by simp) (by rw [hspace] at h; exact h)).2
      · rw [if_neg hspace]
        by_cases hquote : c = '"'
        · subst hquote
          obtain ⟨hread, hrest⟩ := ih (p := .quoted .inside) (by simp) h
          intro s hs
          rcases List.mem_cons.mp hs with rfl | hs
          · have hclosed := hread .inside rfl
            rw [if_pos rfl, unclosed?]
            cases hvalue : readQuoted .inside (cut (.quoted .inside) cs).1 with
            | mk value isClosed =>
              rw [hvalue] at hclosed
              rw [show isClosed = true from hclosed]
          · exact hrest s hs
        · have hnext : Mode.outside.next c = .outside := if_neg hquote
          have hrest : Mode.outside.after cs = .outside := by
            have h : (Mode.outside.next c).after cs = .outside := h
            rwa [hnext] at h
          rw [if_neg hquote]
          intro s hs
          rcases List.mem_cons.mp hs with rfl | hs
          · exact unclosed?_of_head fun hhead => hquote (Option.some.inj hhead)
          · exact (ih (p := .word .outside) (by simp) hrest).2 s hs
    | word m =>
      refine ⟨by simp, ?_⟩
      rw [cut]
      by_cases hend : m = .outside ∧ c = ' '
      · obtain ⟨rfl, rfl⟩ := hend
        rw [if_pos ⟨rfl, rfl⟩]
        exact (ih (p := .between) (by simp) h).2
      · rw [if_neg hend]
        exact (ih (p := .word (m.next c)) (by simp) h).2
    | quoted m =>
      rw [cut]
      by_cases hend : m.next c = .outside
      · rw [if_pos hend]
        refine ⟨?_, ?_⟩
        · rintro m' ⟨⟩
          rw [readQuoted, if_pos hend]
        · have hrest : Mode.outside.after cs = .outside := by
            have h : (m.next c).after cs = .outside := h
            rwa [hend] at h
          exact (ih (p := .between) (by simp) hrest).2
      · rw [if_neg hend]
        obtain ⟨hread, hrest⟩ := ih (p := .quoted (m.next c))
          (fun heq => hend (Place.quoted.inj heq)) h
        refine ⟨?_, hrest⟩
        rintro m' ⟨⟩
        rw [readQuoted, if_neg hend]
        exact hread (m.next c) rfl

theorem unclosed?_of_mem_slices {cs : List Char} (h : Mode.outside.after cs = .outside)
    {s : List Char} (hs : s ∈ slices cs) : unclosed? s = none :=
  (closed_of_after (p := .between) (by simp) h).2 s hs

theorem incomplete_eq_none {cs : List Char} (h : Mode.outside.after cs = .outside) :
    (slices cs).getLast?.bind unclosed? = none := by
  cases hlast : (slices cs).getLast? with
  | none => rfl
  | some s => exact unclosed?_of_mem_slices h (List.mem_of_getLast? hlast)

/-! ## Two pieces -/

/-- **A query may be read in two pieces.** At a space that the scanner reports outside quotes, so at
the last word boundary if that is a space, the query falls into two pieces. Its tokens are those of
the first piece and then those of the second one, up to ids and positions, and where one of the
readings fails the other fails alike. The first piece leaves no quote open, and the query leaves
open just what the second piece does. -/
theorem parse_pieces (fields : List Field) (opts : LexOptions) (ids idsLeft idsRight : Nat → String)
    (query : String) (hatom : Quoting.atomBoundary ∉ query.toList) (b : Nat)
    (hspace : query.toList[b]? = some ' ')
    (houtside :
      (∃ v ∈ (Quoting.scan (fun _ => false) query.toList).visits, v.index = b ∧ v.inQuote = false) ∨
        Quoting.lastBoundary? query.toList = some b) :
    let left := String.ofList (query.toList.take b)
    let right := String.ofList (query.toList.drop (b + 1))
    (parse fields opts ids query = do
      let l ← parse fields opts idsLeft left
      let r ← (parse fields opts idsRight right).mapError (.after l.tokens.length)
      return ⟨placedFrom ids 0 (l.tokens ++ r.tokens), r.incomplete⟩) ∧
      ∀ l, parse fields opts idsLeft left = .ok l → l.incomplete = none := by
  intro left right
  obtain ⟨v, hv, rfl, hquote⟩ : ∃ v ∈ (Quoting.scan (fun _ => false) query.toList).visits,
      v.index = b ∧ v.inQuote = false := by
    rcases houtside with h | h
    · exact h
    · exact Quoting.exists_visit_of_lastBoundary? hatom h hspace
  have hchar : v.char = ' ' :=
    Option.some.inj ((Quoting.getElem?_of_mem_visits hatom hv).1.symm.trans hspace)
  -- the first piece ends outside quotes
  have hclosed : Mode.outside.after left.toList = .outside := by
    rw [String.toList_ofList]
    exact Quoting.after_take_of_visit hatom hv hchar hquote
  have hquery : query.toList = left.toList ++ ' ' :: right.toList := by
    obtain ⟨hlt, hget⟩ := List.getElem?_eq_some_iff.mp hspace
    rw [String.toList_ofList, String.toList_ofList, ← hget, ← List.drop_eq_getElem_cons hlt,
      List.take_append_drop]
  have hslices : slices query.toList = slices left.toList ++ slices right.toList := by
    rw [hquery, slices_append_space hclosed]
  have hincomplete : (slices query.toList).getLast?.bind unclosed? =
      (slices right.toList).getLast?.bind unclosed? := by
    rw [hslices, List.getLast?_append]
    cases hlast : (slices right.toList).getLast? with
    | none => exact incomplete_eq_none hclosed
    | some s => rfl
  refine ⟨?_, fun l hl => ?_⟩
  · have hleft : tokensFrom fields opts ids 0 (slices left.toList) =
        ((tokensFrom fields opts idsLeft 0 (slices left.toList)).map
          (placedFrom ids 0)).mapError (.after 0) := tokensFrom_eq ids idsLeft 0 0 _
    have hright : tokensFrom fields opts ids (slices left.toList).length (slices right.toList) =
        ((tokensFrom fields opts idsRight 0 (slices right.toList)).map
          (placedFrom ids (slices left.toList).length)).mapError
            (.after (slices left.toList).length) := tokensFrom_eq ids idsRight _ 0 _
    rw [parse, parse, parse, hincomplete, hslices, tokensFrom_append, Nat.zero_add, hleft, hright]
    cases hl : tokensFrom fields opts idsLeft 0 (slices left.toList) with
    | error e => exact congrArg Except.error (LexFault.after_zero e)
    | ok ls =>
      rw [← length_of_tokensFrom hl]
      cases tokensFrom fields opts idsRight 0 (slices right.toList) with
      | error e => rfl
      | ok rs =>
        have hplaced : placedFrom ids 0 (ls ++ rs) =
            placedFrom ids 0 ls ++ placedFrom ids ls.length rs := by
          rw [placedFrom_append, Nat.zero_add]
        simp only [Except.map, Except.mapError, bind, Except.bind, pure, Except.pure, hplaced]
  · rw [(parse_eq_ok_iff.mp hl).2, incomplete_eq_none hclosed]

/-- A backslash outside quotes, a quoted run with a space inside a word, and an escaped quote in
free text that is left open. -/
theorem parse_pieces_escaped :
    let status : Field := { key := "status", label := "Status", operators := ["is"] }
    let ids (c : Char) (n : Nat) : String := String.ofList (List.replicate n c)
    let query := "st\\\"x y\" status:is:\"a b\" \"op\\\" q"
    let left := String.ofList (query.toList.take 8)
    let right := String.ofList (query.toList.drop 9)
    Quoting.atomBoundary ∉ query.toList ∧ query.toList[8]? = some ' ' ∧
      (∃ v ∈ (Quoting.scan (fun _ => false) query.toList).visits,
        v.index = 8 ∧ v.inQuote = false) ∧
      (parse [status] {} (ids 'l') left).map (·.tokens.map (·.value)) = .ok ["st\\\"x y\""] ∧
      (parse [status] {} (ids 'r') right).map (fun p => (p.tokens.map (·.value), p.incomplete)) =
        .ok (["a b", "op\" q"], some "op\" q") ∧
      (parse [status] {} (ids 'q') query = do
        let l ← parse [status] {} (ids 'l') left
        let r ← (parse [status] {} (ids 'r') right).mapError (.after l.tokens.length)
        return ⟨placedFrom (ids 'q') 0 (l.tokens ++ r.tokens), r.incomplete⟩) ∧
      ∀ l, parse [status] {} (ids 'l') left = .ok l → l.incomplete = none := by
  intro status ids query left right
  have hatom : Quoting.atomBoundary ∉ query.toList := by decide +kernel
  have hspace : query.toList[8]? = some ' ' := by decide +kernel
  have houtside : ∃ v ∈ (Quoting.scan (fun _ => false) query.toList).visits,
      v.index = 8 ∧ v.inQuote = false := by decide +kernel
  refine ⟨hatom, hspace, houtside, by decide +kernel, by decide +kernel, ?_⟩
  exact parse_pieces [status] {} (ids 'q') (ids 'l') (ids 'r') query hatom 8 hspace
    (Or.inl houtside)

end Query

end FilterQuery
