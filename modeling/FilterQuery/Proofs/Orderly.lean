import FilterQuery.Proofs.Grammar
import FilterQuery.Proofs.Pieces

/-!
# Reading by an orderly catalogue

A catalogue is orderly if its names can be told from what stands around them, if no other keys count
and if values are taken as they are. Then a filter can be seen from the front of its word alone: a
word that starts with a known key and the delimiter reads as a filter of that key
(`parseWord_known`), and no other word does (`parseWord_cases`). Reading a slice never fails: the
slice has one token, up to id and position (`tokenFor`), and `Kind` says which.
-/

namespace FilterQuery.Query

open Quoting (Mode quoted quoteIfNeeded unquote)

variable {fields : List Field} {opts : LexOptions} {d : Char}

/-- Only known keys count, no value is resolved, and names hold no blank, quote or delimiter. -/
structure Orderly (fields : List Field) (opts : LexOptions) (d : Char) : Prop where
  delimiter : opts.delimiter = String.singleton d
  noBlank : Text.isBlank d = false
  noQuote : d ≠ '"'
  known : opts.allowUnknown = false
  noEnum : ∀ f ∈ fields, f.isEnum = false
  key : ∀ f ∈ fields, Plain d f.key.toList
  operator : ∀ f ∈ fields, ∀ o ∈ f.operators, Plain d o.toList

theorem lookUp_of_find {key : String} {f : Field} (hfind : findField fields key = some f) :
    opts.lookUp fields key = some (some f, .names f.operators) := by
  rw [LexOptions.lookUp, hfind]

namespace Orderly

theorem delimiter_toList (h : Orderly fields opts d) : opts.delimiter.toList = [d] := by
  rw [h.delimiter, String.toList_singleton]

/-- In front of the value of a known filter there is neither a blank nor a quote. -/
theorem of_mem_front (h : Orderly fields opts d) {f : Field} (hf : f ∈ fields) {t : Token}
    (hkey : t.key = f.key) (hoperator : t.operator ∈ f.operators) :
    ∀ c ∈ t.key.toList ++ [d] ++ t.operator.toList ++ [d], Text.isBlank c = false ∧ c ≠ '"' := by
  have hplain := h.key f hf
  rw [← hkey] at hplain
  exact Query.of_mem_front h.noBlank h.noQuote hplain (h.operator f hf _ hoperator)

/-! ## Words -/

theorem lookUp_eq_some (h : Orderly fields opts d) {key : String} {field : Option Field}
    {operators : OperatorSet} (hlookUp : opts.lookUp fields key = some (field, operators)) :
    ∃ f ∈ fields, f.key = key ∧ findField fields key = some f := by
  rw [LexOptions.lookUp, h.known] at hlookUp
  cases hfind : findField fields key with
  | none =>
    rw [hfind] at hlookUp
    cases hlookUp
  | some f =>
    exact ⟨f, List.mem_of_find?_eq_some hfind, by simpa using List.find?_some hfind, rfl⟩

/-- Values are taken as they are. -/
theorem resolveFor_eq (h : Orderly fields opts d) {f : Field} (hf : f ∈ fields)
    (rawValue : String) : resolveFor (some f) rawValue = .ok (.str rawValue) := by
  have hoptions : f.options? = none := by
    rw [Field.options?, h.noEnum f hf]
    split <;> rfl
  rw [resolveFor, Option.bind_some, hoptions]
  rfl

/-- A word that starts with a known key and the delimiter reads as a filter of that key. -/
theorem parseWord_known (h : Orderly fields opts d) {f : Field} (hf : f ∈ fields)
    (hfind : findField fields f.key = some f) (hne : f.key ≠ "") (rest : List Char) :
    ∃ operator raw, operator ∈ f.operators ∧
      (rest = raw ∨ rest = operator.toList ++ d :: raw) ∧
      parseWord fields opts (f.key.toList ++ d :: rest) =
        .ok (some ⟨f.key, .str operator, .str (String.ofList (unquote raw).value),
          String.ofList (unquote raw).value⟩) := by
  obtain ⟨operator, raw, hchoice⟩ := exists_operatorChoice f.operators_ne_nil [d] rest
  have hrest : rest = raw ∨ rest = operator.toList ++ d :: raw := by
    rcases hchoice.text_eq with hraw | hwritten
    · exact Or.inl hraw
    · exact Or.inr (hwritten.trans (List.append_cons _ d raw).symm)
  refine ⟨operator, raw, hchoice.mem, hrest, ?_⟩
  have hchoose := hchoice.chooseIn_eq (List.cons_ne_nil d [])
  have hcut := firstCut_singleton (h.key f hf).noDelimiter rest
  have hhead : (f.key.toList ++ d :: rest).head? ≠ some '"' :=
    head?_ne_of_notMem (h.key f hf).noQuote (toList_ne_nil hne) (d :: rest)
  rw [← h.delimiter_toList] at hchoose hcut
  have hdelimiter : opts.delimiter.toList ≠ [] := by
    rw [h.delimiter_toList]
    exact List.cons_ne_nil d []
  rw [parseWord_of_cut hdelimiter (fun hquoted => hhead hquoted.1) hcut (toList_ne_nil hne),
    String.ofList_toList, lookUp_of_find hfind]
  simp only [hchoose, bind, Except.bind, h.resolveFor_eq hf]
  rfl

/-- Any other word is no filter. -/
theorem parseWord_cases (h : Orderly fields opts d) (word : List Char) :
    parseWord fields opts word = .ok none ∨
      ∃ f ∈ fields, ∃ rest, findField fields f.key = some f ∧ f.key ≠ "" ∧
        word = f.key.toList ++ d :: rest := by
  rcases Query.parseWord_cases fields opts word with
    hnone | ⟨c, cs, part, rest, field, operators, hsplit, hlookUp, -⟩
  · exact Or.inl hnone
  · right
    obtain ⟨f, hf, hkey, hfind⟩ := h.lookUp_eq_some hlookUp
    have hword := intercalate_split (List.cons_ne_nil d []) word
    rw [h.delimiter_toList] at hsplit
    rw [hsplit, List.intercalate_cons_cons, List.append_assoc] at hword
    refine ⟨f, hf, [d].intercalate (part :: rest), ?_, ?_, ?_⟩
    · rw [hkey]
      exact hfind
    · rw [hkey]
      exact fun hempty => List.cons_ne_nil c cs (String.ofList_eq_empty_iff.mp hempty)
    · rw [hkey, String.toList_ofList]
      exact hword.symm

/-! ## Slices -/

/-- Reading a slice never fails. -/
theorem exists_tokenOf (h : Orderly fields opts d) (id : String) (pos : Nat) (slice : List Char) :
    ∃ t, tokenOf fields opts id pos slice = .ok t := by
  apply exists_tokenOf_of_parseWord
  rcases h.parseWord_cases slice with hnone | ⟨f, hf, rest, hfind, hne, rfl⟩
  · exact Or.inl hnone
  · obtain ⟨operator, raw, -, -, hparse⟩ := h.parseWord_known hf hfind hne rest
    exact Or.inr ⟨_, _, _, _, hparse⟩

end Orderly

/-- The token of a slice, up to id and position. -/
def tokenFor (fields : List Field) (opts : LexOptions) (slice : List Char) : Token :=
  match tokenOf fields opts "" 0 slice with
  | .ok t => t
  | .error _ => default

/-- The kind of a slice, and what its token says. -/
inductive Kind (fields : List Field) (opts : LexOptions) (d : Char) (slice : List Char)
    (t : Token) : Prop where
  | quoted (hhead : slice.head? = some '"') (htype : t.type = .freeText) (hquoted : t.quoted = true)
  | word (hhead : slice.head? ≠ some '"') (htype : t.type = .freeText) (hquoted : t.quoted = false)
      (hvalue : t.value.toList = slice) (ht : t = readBack "" 0 t) (f? : Option ParsedFilter)
      (hparse : parseWord fields opts slice = .ok f?) (hfalsy : ∀ f ∈ f?, f.value.isFalsy = true)
  | filter (hhead : slice.head? ≠ some '"') (f : Field) (hf : f ∈ fields)
      (hfind : findField fields f.key = some f) (hkeyNonempty : f.key ≠ "")
      (rest raw : List Char) (hslice : slice = f.key.toList ++ d :: rest)
      (hrest : rest = raw ∨ rest = t.operator.toList ++ d :: raw) (htype : t.type = .filter)
      (hkey : t.key = f.key) (hoperator : t.operator ∈ f.operators)
      (hvalue : t.value.toList = (unquote raw).value) (hnonempty : t.value ≠ "")

namespace Orderly

theorem tokenOf_eq (h : Orderly fields opts d) (slice : List Char) :
    tokenOf fields opts "" 0 slice = .ok (tokenFor fields opts slice) := by
  obtain ⟨t, ht⟩ := h.exists_tokenOf "" 0 slice
  rw [tokenFor, ht]

/-- The tokens of some slices are those of each. -/
theorem tokensFrom_eq (h : Orderly fields opts d) (ids : Nat → String) (n : Nat)
    (ss : List (List Char)) :
    tokensFrom fields opts ids n ss =
      .ok (placedFrom ids n (ss.map (tokenFor fields opts))) := by
  induction ss generalizing n with
  | nil => rfl
  | cons s ss ih =>
    rw [tokensFrom, Query.tokenOf_eq (ids n) "" n, h.tokenOf_eq, ih, List.map_cons,
      placedFrom_cons]
    rfl

theorem kind (h : Orderly fields opts d) (slice : List Char) :
    Kind fields opts d slice (tokenFor fields opts slice) := by
  obtain ⟨htoken, hid, hpos⟩ := reading_of_tokenOf (h.tokenOf_eq slice)
  generalize tokenFor fields opts slice = t at htoken hid hpos
  cases htoken with
  | quoted cs hslice ht =>
    rw [ht, hslice]
    exact .quoted rfl rfl rfl
  | word hslice f? hparse hvalue ht =>
    rw [hid, hpos] at ht
    rw [ht]
    exact .word hslice rfl rfl String.toList_ofList rfl f? hparse hvalue
  | filter hslice f hparse hoperator hvalue ht hkeyNonempty hvalueNonempty =>
    rcases h.parseWord_cases slice with hnone | ⟨field, hfield, rest, hfind, hne, rfl⟩
    · rw [hparse] at hnone
      cases hnone
    · obtain ⟨operator, raw, hmem, hrest, hknown⟩ := h.parseWord_known hfield hfind hne rest
      rw [hparse] at hknown
      obtain rfl := Option.some.inj (Except.ok.inj hknown)
      obtain rfl := Value.str.inj hoperator
      have hvalue : t.value.toList = (unquote raw).value := by
        rw [← Value.str.inj hvalue, String.toList_ofList]
      exact .filter hslice field hfield hfind hne rest raw rfl hrest (by rw [ht]) (by rw [ht])
        hmem hvalue hvalueNonempty

end Orderly

end FilterQuery.Query
