import Mathlib.Data.List.Nodup
import FilterQuery.Proofs.Entries
import FilterQuery.Proofs.Escapes
import FilterQuery.Proofs.Slices
import FilterQuery.Query.Parse

/-!
# What becomes of the slices

Each slice of a query becomes one token, and `Reading` says which. Reading can only fail through the
host: with resolvers that answer text with text, and operators that are text, it always succeeds
(`exists_parse`). `parse_lossless` puts this together with where the slices lie: the tokens of a
query stand for pieces of it that leave out nothing but spaces.
-/

namespace FilterQuery.Query

open Quoting (quoted unquote)

variable {fields : List Field} {opts : LexOptions}

/-! ## Slice by slice -/

theorem tokensFrom_eq_mapM (ids : Nat → String) (n : Nat) (ss : List (List Char)) :
    tokensFrom fields opts ids n ss =
      (ss.zipIdx n).mapM fun s => tokenOf fields opts (ids s.2) s.2 s.1 := by
  induction ss generalizing n with
  | nil => rfl
  | cons s ss ih => rw [tokensFrom, ih, List.zipIdx_cons, List.mapM_cons]

/-- Tokens are made of the slices one by one. -/
theorem tokensFrom_eq_ok_iff {ids : Nat → String} {n : Nat} {ss : List (List Char)}
    {ts : List Token} :
    tokensFrom fields opts ids n ss = .ok ts ↔
      List.Forall₂ (fun s t => tokenOf fields opts (ids s.2) s.2 s.1 = .ok t) (ss.zipIdx n) ts := by
  rw [tokensFrom_eq_mapM, mapM_eq_ok_iff]

/-- Quoted text becomes free text with what was quoted for its value. -/
theorem tokenOf_quoted (id : String) (pos : Nat) (cs : List Char) :
    tokenOf fields opts id pos (quoted cs) =
      .ok { id, type := .freeText, value := String.ofList cs, rawValue := String.ofList cs
            quoted := true, rawText := some (String.ofList (quoted cs)), pos := .int pos } := by
  show tokenOf fields opts id pos ('"' :: (Quoting.escape cs ++ ['"'])) = _
  rw [tokenOf, readQuoted_quoted]
  rfl

/-- A word is no filter, or it splits into a known key and further parts that make up the rest. -/
theorem parseWord_cases (fields : List Field) (opts : LexOptions) (word : List Char) :
    parseWord fields opts word = .ok none ∨
      ∃ c cs part rest field operators,
        split opts.delimiter.toList word = (c :: cs) :: part :: rest ∧
        opts.lookUp fields (String.ofList (c :: cs)) = some (field, operators) ∧
        parseWord fields opts word = do
          let (operator, raw) ← chooseOperator operators opts.delimiter.toList part rest
          let value ← resolveFor field (String.ofList (unquote raw).value)
          return some ⟨String.ofList (c :: cs), operator, value,
            String.ofList (unquote raw).value⟩ := by
  simp only [parseWord]
  split
  · exact Or.inl rfl
  · split
    · exact Or.inl rfl
    · split
      · rename_i c cs part rest hsplit
        split
        · exact Or.inl rfl
        · rename_i field operators hlookUp
          exact Or.inr ⟨c, cs, part, rest, field, operators, hsplit, hlookUp, rfl⟩
      · exact Or.inl rfl

/-- What a word that reads as a filter is made of. -/
theorem parseWord_eq_some {word : List Char} {f : ParsedFilter}
    (h : parseWord fields opts word = .ok (some f)) :
    ∃ c cs part rest field operators raw,
      split opts.delimiter.toList word = (c :: cs) :: part :: rest ∧
      f.key = String.ofList (c :: cs) ∧
      opts.lookUp fields f.key = some (field, operators) ∧
      chooseOperator operators opts.delimiter.toList part rest = .ok (f.operator, raw) ∧
      f.rawValue = String.ofList (unquote raw).value ∧
      resolveFor field f.rawValue = .ok f.value := by
  rcases parseWord_cases fields opts word with
    hnone | ⟨c, cs, part, rest, field, operators, hsplit, hlookUp, hparse⟩
  · rw [h] at hnone
    cases hnone
  · rw [h] at hparse
    cases hchoose : chooseOperator operators opts.delimiter.toList part rest with
    | error e =>
      rw [hchoose] at hparse
      cases hparse
    | ok chosen =>
      obtain ⟨operator, raw⟩ := chosen
      rw [hchoose] at hparse
      cases hresolve : resolveFor field (String.ofList (unquote raw).value) with
      | error e =>
        simp only [bind, Except.bind, hresolve] at hparse
        cases hparse
      | ok value =>
        simp only [bind, Except.bind, hresolve] at hparse
        cases hparse
        exact ⟨c, cs, part, rest, field, operators, raw, hsplit, rfl, hlookUp, hchoose, rfl,
          hresolve⟩

/-- What a slice may have become. -/
inductive Reading (fields : List Field) (opts : LexOptions) (slice : List Char) (t : Token) :
    Prop where
  /-- Quoted free text keeps its source. -/
  | quoted (cs : List Char) (hslice : slice = '"' :: cs)
      (ht : t =
        { id := t.id, type := .freeText, value := String.ofList (readQuoted .inside cs).1
          rawValue := String.ofList (readQuoted .inside cs).1, quoted := true
          rawText := some (String.ofList slice), pos := t.pos })
  /-- A word that is no filter, or one without a value, is free text. -/
  | word (hslice : slice.head? ≠ some '"') (f? : Option ParsedFilter)
      (hparse : parseWord fields opts slice = .ok f?) (hvalue : ∀ f ∈ f?, f.value.isFalsy = true)
      (ht : t =
        { id := t.id, type := .freeText, value := String.ofList slice
          rawValue := String.ofList slice, pos := t.pos })
  | filter (hslice : slice.head? ≠ some '"') (f : ParsedFilter)
      (hparse : parseWord fields opts slice = .ok (some f))
      (hoperator : f.operator = .str t.operator) (hvalue : f.value = .str t.value)
      (ht : t =
        { id := t.id, type := .filter, key := f.key, operator := t.operator, value := t.value
          rawValue := f.rawValue, pos := t.pos })
      (hkeyNonempty : t.key ≠ "") (hvalueNonempty : t.value ≠ "")

theorem texts_eq_ok {f : ParsedFilter} {operator value : String}
    (h : f.texts = .ok (operator, value)) : f.operator = .str operator ∧ f.value = .str value := by
  obtain ⟨key, operator', value', rawValue⟩ := f
  simp only [ParsedFilter.texts] at h
  split at h
  · cases h
    exact ⟨rfl, rfl⟩
  · cases h

theorem reading_of_tokenOf {id : String} {pos : Nat} {slice : List Char} {t : Token}
    (h : tokenOf fields opts id pos slice = .ok t) :
    Reading fields opts slice t ∧ t.id = id ∧ t.pos = .int pos := by
  by_cases hquote : slice.head? = some '"'
  · obtain ⟨cs, rfl⟩ := List.head?_eq_some_iff.mp hquote
    rw [tokenOf] at h
    cases h
    exact ⟨.quoted cs rfl rfl, rfl, rfl⟩
  · have hword : ∀ cs, slice = '"' :: cs → False := by
      rintro cs rfl
      exact hquote rfl
    rw [tokenOf.eq_2 _ _ _ _ _ hword] at h
    cases hparse : parseWord fields opts slice with
    | error e =>
      rw [hparse] at h
      cases h
    | ok f? =>
      rw [hparse] at h
      cases f? with
      | none =>
        cases h
        exact ⟨.word hquote none hparse (by simp) rfl, rfl, rfl⟩
      | some f =>
        simp only [Except.mapError, bind, Except.bind] at h
        -- a filter without a value stays free text
        split at h
        · rename_i hfalsy
          cases h
          refine ⟨.word hquote (some f) hparse ?_ rfl, rfl, rfl⟩
          rintro _ ⟨⟩
          exact hfalsy
        · rename_i htruthy
          cases htexts : f.texts with
          | error e =>
            rw [htexts] at h
            cases h
          | ok texts =>
            obtain ⟨operator, value⟩ := texts
            rw [htexts] at h
            cases h
            obtain ⟨hoperator, hvalue⟩ := texts_eq_ok htexts
            obtain ⟨c, cs, -, -, -, -, -, -, hkey, -⟩ := parseWord_eq_some hparse
            refine ⟨.filter hquote f hparse hoperator hvalue rfl ?_ ?_, rfl, rfl⟩
            · show f.key ≠ ""
              rw [hkey]
              exact fun hempty => List.cons_ne_nil c cs (String.ofList_eq_empty_iff.mp hempty)
            · rintro rfl
              rw [hvalue] at htruthy
              exact htruthy rfl

/-! ## Hosts that keep their promises -/

/-- Resolvers answer text with text or with nothing, and operators of unknown fields are text. -/
structure KeepsPromises (fields : List Field) (opts : LexOptions) : Prop where
  resolver : ∀ field ∈ fields, ∀ resolve, field.resolver = some (.custom resolve) →
    ∀ (query : String) (option : EnumOption), resolve (.str query) option = .ok .null ∨
      ∃ answer, resolve (.str query) option = .ok (.str answer)
  operator : ∃ operator, opts.unknownOperators.first = .ok (.str operator)

theorem search_eq_ok {r : Resolver} {query : String}
    (hr : ∀ option, r.resolve (.str query) option = .ok .null ∨
      ∃ answer, r.resolve (.str query) option = .ok (.str answer)) (values : List EnumValue) :
    r.search (.str query) values = .ok .null ∨
      ∃ answer, r.search (.str query) values = .ok (.str answer) := by
  induction values with
  | nil => exact Or.inl rfl
  | cons v vs ih =>
    rw [Resolver.search]
    rcases hr v.option with hnull | ⟨answer, hanswer⟩
    · rw [hnull]
      exact ih
    · rw [hanswer]
      exact Or.inr ⟨answer, rfl⟩

theorem exists_resolveFor (h : KeepsPromises fields opts) {field : Option Field}
    (hfield : ∀ f ∈ field, f ∈ fields) (rawValue : String) :
    ∃ value, resolveFor field rawValue = .ok (.str value) := by
  rw [resolveFor]
  split
  · rename_i f options hbind
    obtain ⟨f', hf', hoptions⟩ := Option.bind_eq_some_iff.mp hbind
    obtain ⟨_, -, heq⟩ := Option.map_eq_some_iff.mp hoptions
    cases heq
    have hresolve : ∀ option, (f.resolver.getD .caseInsensitive).resolve (.str rawValue) option =
        .ok .null ∨ ∃ answer, (f.resolver.getD .caseInsensitive).resolve (.str rawValue) option =
          .ok (.str answer) := by
      intro option
      cases hresolver : f.resolver with
      | none =>
        simp only [Option.getD_none, Resolver.resolve]
        split
        · exact Or.inr ⟨_, rfl⟩
        · exact Or.inl rfl
      | some r =>
        cases r with
        | custom resolve => exact h.resolver f (hfield f hf') resolve hresolver rawValue option
        | exact | caseInsensitive =>
          simp only [Option.getD_some, Resolver.resolve]
          split
          · exact Or.inr ⟨_, rfl⟩
          · exact Or.inl rfl
    rw [resolveEnum]
    split
    · exact ⟨rawValue, rfl⟩
    · rcases search_eq_ok hresolve options with hnull | ⟨answer, hanswer⟩
      · rw [hnull]
        exact ⟨rawValue, rfl⟩
      · rw [hanswer]
        exact ⟨answer, rfl⟩
  · exact ⟨rawValue, rfl⟩

theorem lookUp_eq_some {key : String} {field : Option Field} {operators : OperatorSet}
    (h : opts.lookUp fields key = some (field, operators)) :
    (∃ f ∈ fields, field = some f ∧ operators = .names f.operators) ∨
      (field = none ∧ operators = opts.unknownOperators) := by
  rw [LexOptions.lookUp] at h
  split at h
  · rename_i f hf
    cases h
    exact Or.inl ⟨f, List.mem_of_find?_eq_some hf, rfl, rfl⟩
  · split at h
    · cases h
      exact Or.inr ⟨rfl, rfl⟩
    · cases h

theorem exists_chooseOperator {operators : OperatorSet} {first : String}
    (h : operators.first = .ok (.str first)) (delimiter part : List Char)
    (rest : List (List Char)) :
    ∃ operator raw, chooseOperator operators delimiter part rest = .ok (.str operator, raw) := by
  rw [chooseOperator]
  split
  · exact ⟨_, _, rfl⟩
  · rw [h]
    exact ⟨_, _, rfl⟩

theorem exists_parseWord (h : KeepsPromises fields opts) (word : List Char) :
    parseWord fields opts word = .ok none ∨
      ∃ key operator value rawValue,
        parseWord fields opts word = .ok (some ⟨key, .str operator, .str value, rawValue⟩) := by
  rcases parseWord_cases fields opts word with
    hnone | ⟨c, cs, part, rest, field, operators, -, hlookUp, hparse⟩
  · exact Or.inl hnone
  · -- a field has text for operators anyhow, and the host promises it for unknown keys
    have hfirst : ∃ first, operators.first = .ok (.str first) := by
      rcases lookUp_eq_some hlookUp with ⟨f, -, -, rfl⟩ | ⟨-, rfl⟩
      · exact ⟨_, rfl⟩
      · exact h.operator
    have hfield : ∀ f ∈ field, f ∈ fields := by
      rcases lookUp_eq_some hlookUp with ⟨f, hf, rfl, -⟩ | ⟨rfl, -⟩
      · rintro _ ⟨⟩
        exact hf
      · simp
    obtain ⟨first, hfirst⟩ := hfirst
    obtain ⟨operator, raw, hchoose⟩ :=
      exists_chooseOperator hfirst opts.delimiter.toList part rest
    obtain ⟨value, hresolve⟩ := exists_resolveFor h hfield (String.ofList (unquote raw).value)
    rw [hchoose] at hparse
    simp only [bind, Except.bind, hresolve] at hparse
    exact Or.inr ⟨_, _, _, _, hparse⟩

/-- Reading a slice does not fail where reading it as a word gives text. -/
theorem exists_tokenOf_of_parseWord {slice : List Char}
    (h : parseWord fields opts slice = .ok none ∨
      ∃ key operator value rawValue,
        parseWord fields opts slice = .ok (some ⟨key, .str operator, .str value, rawValue⟩))
    (id : String) (pos : Nat) : ∃ t, tokenOf fields opts id pos slice = .ok t := by
  by_cases hquote : slice.head? = some '"'
  · obtain ⟨cs, rfl⟩ := List.head?_eq_some_iff.mp hquote
    exact ⟨_, rfl⟩
  · have hword : ∀ cs, slice = '"' :: cs → False := by
      rintro cs rfl
      exact hquote rfl
    rw [tokenOf.eq_2 _ _ _ _ _ hword]
    rcases h with hparse | ⟨key, operator, value, rawValue, hparse⟩
    · rw [hparse]
      exact ⟨_, rfl⟩
    · rw [hparse]
      simp only [Except.mapError, bind, Except.bind]
      split
      · exact ⟨_, rfl⟩
      · exact ⟨_, rfl⟩

theorem exists_tokenOf (h : KeepsPromises fields opts) (id : String) (pos : Nat)
    (slice : List Char) : ∃ t, tokenOf fields opts id pos slice = .ok t :=
  exists_tokenOf_of_parseWord (exists_parseWord h slice) id pos

theorem parse_eq_ok_iff {ids : Nat → String} {query : String} {p : Parsed} :
    parse fields opts ids query = .ok p ↔
      tokensFrom fields opts ids 0 (slices query.toList) = .ok p.tokens ∧
        p.incomplete = (slices query.toList).getLast?.bind unclosed? := by
  obtain ⟨tokens, incomplete⟩ := p
  rw [parse]
  cases htokens : tokensFrom fields opts ids 0 (slices query.toList) with
  | error e =>
    simp [bind, Except.bind]
  | ok ts =>
    simp [bind, Except.bind, pure, Except.pure, eq_comm]

/-- Reading fails only through the host. -/
theorem exists_parse (h : KeepsPromises fields opts) (ids : Nat → String) (query : String) :
    ∃ p, parse fields opts ids query = .ok p := by
  have htokens : ∀ (ss : List (List Char)) (n : Nat),
      ∃ ts, tokensFrom fields opts ids n ss = .ok ts := by
    intro ss
    induction ss with
    | nil => exact fun n => ⟨[], rfl⟩
    | cons s ss ih =>
      intro n
      obtain ⟨t, ht⟩ := exists_tokenOf h (ids n) n s
      obtain ⟨ts, hts⟩ := ih (n + 1)
      rw [tokensFrom, ht, hts]
      exact ⟨t :: ts, rfl⟩
  obtain ⟨ts, hts⟩ := htokens (slices query.toList) 0
  exact ⟨⟨ts, _⟩, parse_eq_ok_iff.mpr ⟨hts, rfl⟩⟩

/-! ## The tokens of a query -/

/-- The tokens of a query are what became of its slices, one for one and in order. -/
theorem forall₂_reading {ids : Nat → String} {query : String} {p : Parsed}
    (h : parse fields opts ids query = .ok p) :
    List.Forall₂ (Reading fields opts) (slices query.toList) p.tokens := by
  have htokens := tokensFrom_eq_ok_iff.mp (parse_eq_ok_iff.mp h).1
  rw [← List.zipIdx_map_fst 0 (slices query.toList), List.forall₂_map_left_iff]
  exact htokens.imp fun _ _ hslice => (reading_of_tokenOf hslice).1

/-- Every token of a query is what became of one of its slices. -/
theorem exists_reading {ids : Nat → String} {query : String} {p : Parsed}
    (h : parse fields opts ids query = .ok p) {t : Token} (ht : t ∈ p.tokens) :
    ∃ slice ∈ slices query.toList, Reading fields opts slice t := by
  have hread := forall₂_reading h
  obtain ⟨i, hi, rfl⟩ := List.getElem_of_mem ht
  have hslice := hread.get (by rw [hread.length_eq]; exact hi) hi
  exact ⟨_, List.getElem_mem _, hslice⟩

theorem unclosed?_of_head {cs : List Char} (h : cs.head? ≠ some '"') : unclosed? cs = none := by
  rw [unclosed?]
  rintro cs' rfl
  exact h rfl

theorem map_eq_of_forall₂ {α β γ : Type} {f : α → γ} {g : β → γ} {as : List α} {bs : List β}
    (h : List.Forall₂ (fun a b => g b = f a) as bs) : bs.map g = as.map f := by
  induction h with
  | nil => rfl
  | cons hab _ ih => rw [List.map_cons, List.map_cons, hab, ih]

/-- **Reading a query loses and duplicates nothing.** With a host that keeps its promises it gives a
result. Whenever it does, the tokens stand, one for one and in order, for spans of the query that
leave out nothing but spaces; positions count the tokens, and no id is given twice. -/
theorem parse_lossless (fields : List Field) (opts : LexOptions) (ids : Nat → String)
    (hids : Function.Injective ids) (query : String) :
    (KeepsPromises fields opts → ∃ p, parse fields opts ids query = .ok p) ∧
      ∀ p, parse fields opts ids query = .ok p →
        ∃ spans, Tiling query.toList spans ∧
          List.Forall₂ (fun s t => Reading fields opts (s.chars query.toList) t) spans p.tokens ∧
          p.tokens.map (·.pos) = (List.range p.tokens.length).map (fun i => .int i) ∧
          (p.tokens.map (·.id)).Nodup := by
  refine ⟨fun hhost => exists_parse hhost ids query, fun p hp => ?_⟩
  obtain ⟨spans, htiling, hslices⟩ := exists_tiling_slices query.toList
  obtain ⟨htokens, -⟩ := parse_eq_ok_iff.mp hp
  rw [tokensFrom_eq_ok_iff] at htokens
  have hread : List.Forall₂ (fun s t => Reading fields opts s.1 t ∧ t.id = ids s.2 ∧
      t.pos = .int s.2) ((slices query.toList).zipIdx 0) p.tokens :=
    htokens.imp fun _ _ h => reading_of_tokenOf h
  have hlength : (slices query.toList).length = p.tokens.length := by
    rw [← hread.length_eq, List.length_zipIdx]
  refine ⟨spans, htiling, ?_, ?_, ?_⟩
  · rw [← List.forall₂_map_left_iff (R := fun s t => Reading fields opts s t), hslices,
      ← List.zipIdx_map_fst 0 (slices query.toList), List.forall₂_map_left_iff]
    exact hread.imp fun _ _ h => h.1
  · have hpos := map_eq_of_forall₂ (f := fun s => Value.int s.2) (hread.imp fun _ _ h => h.2.2)
    rw [hpos, ← hlength, List.range_eq_range', ← List.zipIdx_map_snd 0, List.map_map]
    rfl
  · have hid := map_eq_of_forall₂ (f := fun s => ids s.2) (hread.imp fun _ _ h => h.2.1)
    have hindices : ((slices query.toList).zipIdx 0).map (fun s => ids s.2) =
        (List.range' 0 (slices query.toList).length).map ids := by
      rw [← List.zipIdx_map_snd 0, List.map_map]
      rfl
    rw [hid, hindices]
    exact List.Nodup.map hids List.nodup_range'

/-- Two quoted slices without a space between them, a filter, and a word whose quote stays open. -/
theorem parse_lossless_adjacent :
    let status : Field := { key := "status", label := "Status", operators := ["is"] }
    let ids : Nat → String := fun n => String.ofList (List.replicate n 'g')
    let query := "  \"a\\\"\"\"b\" status:\"c d\"  e\"f "
    Function.Injective ids ∧ KeepsPromises [status] {} ∧
      ∃ p, parse [status] {} ids query = .ok p ∧
        p.tokens.map (·.value) = ["a\"", "b", "c d", "e\"f "] ∧
        ∃ spans, Tiling query.toList spans ∧
          List.Forall₂ (fun s t => Reading [status] {} (s.chars query.toList) t) spans p.tokens ∧
          p.tokens.map (·.pos) = (List.range p.tokens.length).map (fun i => .int i) ∧
          (p.tokens.map (·.id)).Nodup := by
  intro status ids query
  have hids : Function.Injective ids := by
    intro n m h
    have hlength := congrArg List.length (String.ofList_injective h)
    simpa using hlength
  have hhost : KeepsPromises [status] {} := by
    refine ⟨?_, ⟨"is", rfl⟩⟩
    rintro field hfield resolve hresolve
    obtain rfl := List.mem_singleton.mp hfield
    cases hresolve
  obtain ⟨hparse, hspans⟩ := parse_lossless [status] {} ids hids query
  obtain ⟨p, hp⟩ := hparse hhost
  have hvalues : (parse [status] {} ids query).map (fun p => p.tokens.map (·.value)) =
      .ok ["a\"", "b", "c d", "e\"f "] := by decide +kernel
  rw [hp] at hvalues
  exact ⟨hids, hhost, p, hp, Except.ok.inj hvalues, hspans p hp⟩

end FilterQuery.Query
