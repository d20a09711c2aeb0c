import FilterQuery.Proofs.Settling

/-!
# Writing what was read

The canonical text of a query is what its tokens are written as. It is made of what each slice is
written as, squeezed by itself (`normalize_eq`), and its own slices are the slices of these
(`slices_canon`). So one more round changes nothing where all slices settle (`canon_canon`), and
where all slices survive the text reads as their tokens (`parse_canon`). Slices of a canonical text
need not settle, but what becomes of them does. Hence the canonical text of a canonical text can be
another one (`normalize_unsettled`), but a third round is always the last one that changes anything
(`normalize_settles`).
-/

namespace FilterQuery.Query

open Quoting (Mode)
open Text (isBlank runs squeeze)

/-- The canonical text of a query. -/
def normalize (fields : List Field) (opts : LexOptions) (ids : Nat → String) (query : String) :
    Except LexFault String := do
  return render opts.delimiter (← parse fields opts ids query).tokens

variable {fields : List Field} {opts : LexOptions} {d : Char}

/-! ## Parts of a text -/

theorem flatMap_runs_filter (parts : List (List Char)) :
    (parts.filter fun part => !part.isEmpty).flatMap runs = parts.flatMap runs := by
  induction parts with
  | nil => rfl
  | cons part parts ih =>
    cases part with
    | nil => simpa using ih
    | cons c cs => simpa using ih

/-- The runs of all parts, joined by single spaces. -/
theorem toList_joinParts_eq (parts : List (List Char)) :
    (joinParts parts).toList = [' '].intercalate (parts.flatMap runs) := by
  rw [joinParts, String.toList_ofList, Text.trim_collapse, squeeze, Text.runs_intercalate,
    flatMap_runs_filter]

/-- A text made of parts has the slices of these, if only the last part leaves quotes open. -/
theorem slices_intercalate_runs {parts : List (List Char)}
    (hclosed : ∀ part ∈ parts.dropLast, Mode.outside.after part = .outside) :
    slices ([' '].intercalate (parts.flatMap runs)) =
      parts.flatMap fun part => slices (squeeze part) := by
  induction parts with
  | nil => rfl
  | cons part parts ih =>
    cases parts with
    | nil =>
      rw [List.flatMap_singleton, List.flatMap_singleton]
      rfl
    | cons next parts =>
      have ih := ih fun p hp => hclosed p (by
        rw [List.dropLast_cons_cons]
        exact List.mem_cons_of_mem _ hp)
      have hpart := hclosed part (by
        rw [List.dropLast_cons_cons]
        exact List.mem_cons_self)
      rw [List.flatMap_cons, List.flatMap_cons (f := fun part => slices (squeeze part)), ← ih]
      by_cases hruns : runs part = []
      · rw [hruns, Text.squeeze_eq_nil_iff.mpr hruns]
        rfl
      · by_cases hrest : (next :: parts).flatMap runs = []
        · rw [hrest, List.append_nil]
          exact (List.append_nil _).symm
        · rw [Text.intercalate_append hruns hrest]
          exact slices_append_space (Text.after_squeeze (by simp) hpart) _

/-! ## Canonical text -/

/-- The canonical text, slice by slice. -/
def canon (fields : List Field) (opts : LexOptions) (query : List Char) : List Char :=
  [' '].intercalate ((slices query).flatMap fun slice => runs (written fields opts slice))

theorem map_renderChars_placedFrom (delimiter : List Char) (ids : Nat → String) (n : Nat)
    (ts : List Token) :
    (placedFrom ids n ts).map (·.renderChars delimiter) = ts.map (·.renderChars delimiter) := by
  induction ts generalizing n with
  | nil => rfl
  | cons t ts ih =>
    rw [placedFrom_cons, List.map_cons, List.map_cons, ih]
    rfl

/-- Tokens are found again under their ids and positions. -/
theorem exists_placed_mem (ids : Nat → String) (n : Nat) {ts : List Token} {t : Token}
    (ht : t ∈ ts) : ∃ id pos, placed id pos t ∈ placedFrom ids n ts := by
  induction ts generalizing n with
  | nil => cases ht
  | cons u us ih =>
    rw [placedFrom_cons]
    rcases List.mem_cons.mp ht with rfl | ht
    · exact ⟨_, _, List.mem_cons_self⟩
    · obtain ⟨id, pos, hmem⟩ := ih (n + 1) ht
      exact ⟨id, pos, List.mem_cons_of_mem _ hmem⟩

theorem parse_eq (h : Orderly fields opts d) (ids : Nat → String) (query : String) :
    parse fields opts ids query =
      .ok ⟨placedFrom ids 0 ((slices query.toList).map (tokenFor fields opts)),
        (slices query.toList).getLast?.bind unclosed?⟩ :=
  parse_eq_ok_iff.mpr ⟨h.tokensFrom_eq ids 0 _, rfl⟩

/-- Normalizing never fails, and it takes slice by slice. -/
theorem normalize_eq (h : Orderly fields opts d) (ids : Nat → String) (query : String) :
    normalize fields opts ids query = .ok (String.ofList (canon fields opts query.toList)) := by
  have hrender : (render opts.delimiter (placedFrom ids 0
      ((slices query.toList).map (tokenFor fields opts)))).toList =
        canon fields opts query.toList := by
    rw [render, map_renderChars_placedFrom, List.map_map, toList_joinParts_eq, List.flatMap_map]
    rfl
  rw [normalize, parse_eq h, ← hrender, String.ofList_toList]
  rfl

/-- What a slice is written as leaves no quotes open that the slice closes. -/
theorem after_written (h : Orderly fields opts d) {slice : List Char}
    (hclosed : Mode.outside.after slice = .outside) :
    Mode.outside.after (written fields opts slice) = .outside := by
  rw [written_eq h]
  cases h.kind slice with
  | quoted _ htype hquoted =>
    by_cases hvalue : (tokenFor fields opts slice).value = ""
    · simp [Token.renderChars, htype, hvalue]
    · rw [renderChars_quoted htype hquoted hvalue]
      exact Quoting.after_quoted _
  | word _ htype hquoted hvalue =>
    rw [renderChars_word htype hquoted, hvalue]
    exact hclosed
  | filter _ f hf _ _ _ _ _ _ htype hkey hoperator _ hnonempty =>
    have hfront := h.of_mem_front hf hkey hoperator
    rw [renderChars_filter htype hnonempty]
    exact after_word (fun hmem => (hfront _ hmem).2 rfl) _

/-- The slices of a canonical text. -/
theorem slices_canon (h : Orderly fields opts d) (query : List Char) :
    slices (canon fields opts query) =
      (slices query).flatMap fun slice => slices (squeeze (written fields opts slice)) := by
  have hparts : ∀ part ∈ ((slices query).map (written fields opts)).dropLast,
      Mode.outside.after part = .outside := by
    intro part hpart
    rw [← List.map_dropLast] at hpart
    obtain ⟨slice, hslice, rfl⟩ := List.mem_map.mp hpart
    exact after_written h (closed_of_mem_dropLast hslice)
  have hslices := slices_intercalate_runs hparts
  rw [List.flatMap_map, List.flatMap_map] at hslices
  exact hslices

theorem eq_space_of_mem_canon {query : List Char} {c : Char} (hc : c ∈ canon fields opts query)
    (hblank : isBlank c = true) : c = ' ' := by
  have hcanon : canon fields opts query =
      squeeze ([' '].intercalate ((slices query).map (written fields opts))) := by
    rw [squeeze, Text.runs_intercalate, List.flatMap_map]
    rfl
  rw [hcanon] at hc
  exact Text.eq_space_of_mem_squeeze hc hblank

/-- One more round changes nothing where all slices settle. -/
theorem canon_canon (h : Orderly fields opts d) {query : List Char}
    (hsettles : ∀ slice ∈ slices query, Settles fields opts slice) :
    canon fields opts (canon fields opts query) = canon fields opts query := by
  rw [canon, slices_canon h, List.flatMap_assoc, canon]
  congr 1
  refine List.flatMap_congr fun slice hslice => ?_
  rcases hsettles slice hslice with hnil | hfixed
  · rw [hnil, Text.squeeze_eq_nil_iff.mp hnil]
    rfl
  · rw [hfixed.slices_eq, List.flatMap_singleton, hfixed.written_eq, Text.runs_squeeze]

/-- Two rounds are enough for a text whose blanks are spaces. -/
theorem canon_canon_canon (h : Orderly fields opts d) {query : List Char}
    (hspace : ∀ c ∈ query, isBlank c = true → c = ' ') :
    canon fields opts (canon fields opts (canon fields opts query)) =
      canon fields opts (canon fields opts query) := by
  apply canon_canon h
  intro piece hpiece
  rw [slices_canon h, List.mem_flatMap] at hpiece
  obtain ⟨slice, hslice, hpiece⟩ := hpiece
  exact settles_of_mem_slices h hslice
    (fun c hc => hspace c ((of_mem_slices hslice).2 c hc)) hpiece

/-! ## Reading canonical text -/

theorem placed_readBack (id : String) (pos : Nat) (t : Token) :
    placed id pos (readBack "" 0 t) = readBack id pos t := by
  cases htype : t.type <;> simp [readBack, placed, htype]

theorem placedFrom_readBack (ids : Nat → String) (ts : List Token) :
    placedFrom ids 0 (ts.map (readBack "" 0)) = ts.mapIdx fun i t => readBack (ids i) i t := by
  apply List.ext_getElem?
  intro i
  simp only [placedFrom, List.getElem?_mapIdx, List.getElem?_map, Option.map_map,
    Function.comp_def, placed_readBack, Nat.zero_add]

/-- Slices that survive leave one slice for each token with a value. -/
theorem flatMap_slices_of_survives {ss : List (List Char)}
    (hsurvives : ∀ slice ∈ ss, Survives fields opts slice) :
    (ss.flatMap fun slice => slices (squeeze (written fields opts slice))) =
      (((ss.map (tokenFor fields opts)).filter (·.value ≠ "")).map Token.respaced).map
        (·.renderChars opts.delimiter.toList) := by
  induction ss with
  | nil => rfl
  | cons slice ss ih =>
    have hslice := hsurvives slice List.mem_cons_self
    rw [List.flatMap_cons, ih fun s hs => hsurvives s (List.mem_cons_of_mem _ hs), List.map_cons]
    by_cases hvalue : (tokenFor fields opts slice).value = ""
    · rw [hslice.gone hvalue, List.filter_cons_of_neg (by simp [hvalue])]
      rfl
    · have hstands := hslice.standsFor hvalue
      rw [hstands.slices_eq, List.filter_cons_of_pos (by simp [hvalue]), List.map_cons,
        List.map_cons, hstands.renderChars_eq]
      rfl

/-- Where all slices survive, canonical text reads as the tokens that have a value. -/
theorem parse_canon (h : Orderly fields opts d) {query : List Char}
    (hsurvives : ∀ slice ∈ slices query, Survives fields opts slice) (ids : Nat → String) :
    parse fields opts ids (String.ofList (canon fields opts query)) =
      .ok ⟨((((slices query).map (tokenFor fields opts)).filter (·.value ≠ "")).map
        Token.respaced).mapIdx fun i t => readBack (ids i) i t, none⟩ := by
  have hstands : ∀ t ∈ (((slices query).map (tokenFor fields opts)).filter (·.value ≠ "")).map
      Token.respaced, StandsFor fields opts (t.renderChars opts.delimiter.toList) t := by
    intro t ht
    obtain ⟨u, hu, rfl⟩ := List.mem_map.mp ht
    obtain ⟨hu, hvalue⟩ := List.mem_filter.mp hu
    obtain ⟨slice, hslice, rfl⟩ := List.mem_map.mp hu
    have hstands := (hsurvives slice hslice).standsFor (by simpa using hvalue)
    rw [hstands.renderChars_eq]
    exact hstands
  rw [parse_eq h, String.toList_ofList, slices_canon h, flatMap_slices_of_survives hsurvives]
  generalize ((_ : List Token).filter _).map Token.respaced = ts at hstands ⊢
  have htokens : (ts.map (·.renderChars opts.delimiter.toList)).map (tokenFor fields opts) =
      ts.map (readBack "" 0) := by
    rw [List.map_map]
    exact List.map_congr_left fun t ht => (hstands t ht).tokenFor_eq
  have hcomplete : (ts.map (·.renderChars opts.delimiter.toList)).getLast?.bind unclosed? =
      none := by
    rw [List.getLast?_map]
    cases hlast : ts.getLast? with
    | none => rfl
    | some t => exact (hstands t (List.mem_of_getLast? hlast)).complete
  rw [htokens, hcomplete, placedFrom_readBack]

/-- Ids and positions of tokens do not count when these are read back. -/
theorem map_readBack_placedFrom (ids : Nat → String) (n : Nat) (ts : List Token) :
    (((placedFrom ids n ts).filter (·.value ≠ "")).map Token.respaced).map (readBack "" 0) =
      ((ts.filter (·.value ≠ "")).map Token.respaced).map (readBack "" 0) := by
  induction ts generalizing n with
  | nil => rfl
  | cons t ts ih =>
    rw [placedFrom_cons]
    have hplaced : (placed (ids n) n t).value = t.value := rfl
    by_cases hvalue : t.value = ""
    · rw [List.filter_cons_of_neg (by simp [hplaced, hvalue]),
        List.filter_cons_of_neg (by simp [hvalue]), ih]
    · rw [List.filter_cons_of_pos (by simp [hplaced, hvalue]),
        List.filter_cons_of_pos (by simp [hvalue]), List.map_cons, List.map_cons, ih]
      rfl

/-! ## Rounds of normalizing -/

/-- **Normalizing settles.** With plain names for keys and operators, and without options to
resolve, a query has a canonical text, and that one has a canonical text, and so on; after three
rounds nothing changes any more. One round is enough if no token of the query that is written
without quotes holds a blank other than the space; then the canonical text reads as just the tokens
that have a value, of which only blanks have changed. -/
theorem normalize_settles (fields : List Field) (opts : LexOptions) (d : Char)
    (h : Orderly fields opts d) (query : String) :
    ∃ once twice thrice,
      (∀ ids, normalize fields opts ids query = .ok once ∧
        normalize fields opts ids once = .ok twice ∧
        normalize fields opts ids twice = .ok thrice ∧
        normalize fields opts ids thrice = .ok thrice) ∧
      ∀ ids p, parse fields opts ids query = .ok p → (∀ t ∈ p.tokens, t.IsSheltered) →
        twice = once ∧ ∀ ids', parse fields opts ids' once =
          .ok ⟨((p.tokens.filter (·.value ≠ "")).map Token.respaced).mapIdx fun i t =>
            readBack (ids' i) i t, none⟩ := by
  refine ⟨_, _, _, fun ids => ⟨normalize_eq h ids query, normalize_eq h ids _,
    normalize_eq h ids _, ?_⟩, ?_⟩
  · rw [normalize_eq h]
    simp only [String.toList_ofList]
    rw [canon_canon_canon h fun c hc => eq_space_of_mem_canon hc]
  · intro ids p hp hsheltered
    rw [parse_eq h] at hp
    obtain rfl := Except.ok.inj hp
    have hsurvives : ∀ slice ∈ slices query.toList, Survives fields opts slice := by
      intro slice hslice
      apply survives_of_isSheltered h hslice
      obtain ⟨id, pos, hmem⟩ :=
        exists_placed_mem ids 0 (List.mem_map_of_mem (f := tokenFor fields opts) hslice)
      have hplaced : (placed id pos (tokenFor fields opts slice)).IsSheltered := hsheltered _ hmem
      exact hplaced
    constructor
    · rw [String.toList_ofList, canon_canon h fun slice hslice => (hsurvives slice hslice).settles]
    · intro ids'
      rw [parse_canon h hsurvives, ← placedFrom_readBack, ← placedFrom_readBack,
        map_readBack_placedFrom]

/-- Three rounds may be needed: a tab sets a filter free, whose value holds an escaped line break
and then a filter. A value with a space is safe, as it is written between quotes, and so are words
whose blanks are spaces and free text whose quote is still open. -/
theorem normalize_settles_late :
    let status : Field := { key := "status", label := "Status", operators := ["is"] }
    let normalize := normalize [status] {}
    Orderly [status] {} ':' ∧
      (∀ ids, normalize ids "x\tstatus:\"a\\nstatus:b\"" = .ok "x status:\"a\\nstatus:b\"" ∧
        normalize ids "x status:\"a\\nstatus:b\"" = .ok "x status:is:a status:b" ∧
        normalize ids "x status:is:a status:b" = .ok "x status:is:a status:is:b" ∧
        normalize ids "x status:is:a status:is:b" = .ok "x status:is:a status:is:b") ∧
      let query := "status:\"a\\n status:b\" \"\" x\"y  z\" \"b "
      let once := "status:is:\"a status:b\" x\"y z\" \"b \""
      ∀ ids, normalize ids query = .ok once ∧ normalize ids once = .ok once ∧
        parse [status] {} ids once = .ok
          ⟨[{ id := ids 0, type := .filter, key := "status", operator := "is"
              value := "a status:b", rawValue := "a status:b", pos := .int 0 },
            { id := ids 1, type := .freeText, value := "x\"y z\"", rawValue := "x\"y z\""
              pos := .int 1 },
            { id := ids 2, type := .freeText, value := "b ", rawValue := "b ", quoted := true
              rawText := some "\"b \"", pos := .int 2 }], none⟩ := by
  intro status normalize
  have horderly : Orderly [status] {} ':' :=
    ⟨rfl, by decide, by decide, rfl, by decide, by decide +kernel, by decide +kernel⟩
  let ids : Nat → String := fun n => String.ofList (List.replicate n 'g')
  refine ⟨horderly, ?_, ?_⟩
  · obtain ⟨once, twice, thrice, hrounds, -⟩ :=
      normalize_settles [status] {} ':' horderly "x\tstatus:\"a\\nstatus:b\""
    obtain ⟨h₁, h₂, h₃, -⟩ := hrounds ids
    have honce : normalize ids "x\tstatus:\"a\\nstatus:b\"" =
        .ok "x status:\"a\\nstatus:b\"" := by decide +kernel
    obtain rfl := Except.ok.inj (h₁.symm.trans honce)
    have htwice : normalize ids "x status:\"a\\nstatus:b\"" = .ok "x status:is:a status:b" := by
      decide +kernel
    obtain rfl := Except.ok.inj (h₂.symm.trans htwice)
    have hthrice : normalize ids "x status:is:a status:b" = .ok "x status:is:a status:is:b" := by
      decide +kernel
    obtain rfl := Except.ok.inj (h₃.symm.trans hthrice)
    exact hrounds
  · intro query once
    obtain ⟨once', twice, thrice, hrounds, hsheltered⟩ :=
      normalize_settles [status] {} ':' horderly query
    have honce : normalize ids query = .ok once := by decide +kernel
    obtain rfl := Except.ok.inj ((hrounds ids).1.symm.trans honce)
    let word : Token :=
      { id := "gg", type := .freeText, value := "x\"y  z\"", rawValue := "x\"y  z\""
        pos := .int 2 }
    let ts : List Token :=
      [{ id := "", type := .filter, key := "status", operator := "is"
         value := "a\n status:b", rawValue := "a\n status:b", pos := .int 0 },
       { id := "g", type := .freeText, quoted := true, rawText := some "\"\"", pos := .int 1 },
       word,
       { id := "ggg", type := .freeText, value := "b ", rawValue := "b ", quoted := true
         rawText := some "\"b ", pos := .int 3 }]
    have hparse : parse [status] {} ids query = .ok ⟨ts, some "b "⟩ := by decide +kernel
    have hspaces : (word.value.toList.all fun c => !isBlank c || c = ' ') = true := by
      decide +kernel
    obtain ⟨rfl, hback⟩ := hsheltered ids _ hparse (by
      intro t ht
      simp only [ts, List.mem_cons, List.not_mem_nil, or_false] at ht
      rcases ht with rfl | rfl | rfl | rfl
      · rintro ⟨⟩
      · rintro ⟨⟩
      · intro _ c hc hblank
        simpa [hblank] using List.all_eq_true.mp hspaces c hc
      · rintro ⟨⟩)
    refine fun ids => ⟨(hrounds ids).1, (hrounds ids).2.1, ?_⟩
    have hleft : (ts.filter (·.value ≠ "")).map Token.respaced =
        [{ id := "", type := .filter, key := "status", operator := "is"
           value := "a status:b", rawValue := "a\n status:b", pos := .int 0 },
         { word with value := "x\"y z\"" },
         { id := "ggg", type := .freeText, value := "b ", rawValue := "b ", quoted := true
           rawText := some "\"b ", pos := .int 3 }] := by
      decide +kernel
    rw [hback ids, hleft]
    rfl

/-- Normalizing twice may differ from normalizing once: an escaped line break in a quoted value ends
up as a space outside quotes, and what stands behind it becomes a filter of its own. -/
theorem normalize_unsettled :
    let status : Field := { key := "status", label := "Status", operators := ["is"] }
    let normalize := normalize [status] {} fun n => String.ofList (List.replicate n 'g')
    let once := "status:is:a status:b"
    let twice := "status:is:a status:is:b"
    Orderly [status] {} ':' ∧ normalize "status:\"a\\nstatus:b\"" = .ok once ∧
      normalize once = .ok twice ∧ twice ≠ once := by
  intro status normalize once twice
  have horderly : Orderly [status] {} ':' :=
    ⟨rfl, by decide, by decide, rfl, by decide, by decide +kernel, by decide +kernel⟩
  exact ⟨horderly, by decide +kernel, by decide +kernel, by decide⟩

end FilterQuery.Query
