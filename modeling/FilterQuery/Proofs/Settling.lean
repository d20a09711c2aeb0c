import FilterQuery.Proofs.Orderly
import FilterQuery.Proofs.Runs

/-!
# What becomes of a slice when it is written again

A slice is read as a token, and the token is written and squeezed. If the blanks of the token stand
between quotes or are spaces anyhow, what is left stands for the same token with other blanks
(`survives_of_isSheltered`), and it is written as it is: the slice settles (`Settles`). A value with
other blanks but without a space is written without quotes, and falls apart at its blanks. Its
pieces have no blanks and no quotes, so they settle in turn: all that is left of a slice of squeezed
text settles (`settles_of_mem_slices`).
-/

namespace FilterQuery

open Quoting (Mode quoted quoteIfNeeded needsQuotes unquote unquoteFrom)
open Text (isBlank runs squeeze collapse collapseFrom)

/-- Whether a token, or its value, is written between quotes. -/
def Token.showsQuotes (t : Token) : Bool :=
  match t.type with
  | .filter => needsQuotes t.value.toList
  | .freeText | .plaintext => t.quoted

/-- The blanks of a token are spaces, unless they are written between quotes. -/
def Token.IsSheltered (t : Token) : Prop :=
  t.showsQuotes = false → ∀ c ∈ t.value.toList, isBlank c = true → c = ' '

/-- A token with the blanks that are left when it is written: runs of them are single spaces, and
there are none at the ends of a word. -/
def Token.respaced (t : Token) : Token :=
  let value := t.value.toList
  let left := if t.isFreeText && !t.quoted then squeeze value else collapse value
  { t with value := String.ofList left }

namespace Query

variable {fields : List Field} {opts : LexOptions} {d : Char}

/-- What a slice is written as, before blanks are squeezed. -/
def written (fields : List Field) (opts : LexOptions) (slice : List Char) : List Char :=
  (tokenFor fields opts slice).renderChars opts.delimiter.toList

/-- A slice that is written as it is. -/
structure Fixed (fields : List Field) (opts : LexOptions) (slice : List Char) : Prop where
  slices_eq : slices slice = [slice]
  written_eq : written fields opts slice = slice

/-- A slice of which nothing is left or that becomes a fixed one. -/
def Settles (fields : List Field) (opts : LexOptions) (slice : List Char) : Prop :=
  squeeze (written fields opts slice) = [] ∨ Fixed fields opts (squeeze (written fields opts slice))

/-- A slice that a token is written as and that is read as this token. -/
structure StandsFor (fields : List Field) (opts : LexOptions) (slice : List Char) (t : Token) :
    Prop where
  slices_eq : slices slice = [slice]
  complete : unclosed? slice = none
  tokenFor_eq : tokenFor fields opts slice = readBack "" 0 t
  renderChars_eq : t.renderChars opts.delimiter.toList = slice

/-- What is left of a slice stands for its token with other blanks, and nothing is left of a token
without a value. -/
structure Survives (fields : List Field) (opts : LexOptions) (slice : List Char) : Prop where
  gone : (tokenFor fields opts slice).value = "" → squeeze (written fields opts slice) = []
  standsFor : (tokenFor fields opts slice).value ≠ "" →
    StandsFor fields opts (squeeze (written fields opts slice))
      (tokenFor fields opts slice).respaced

theorem renderChars_readBack (id : String) (pos : Nat) (t : Token) (delimiter : List Char) :
    (readBack id pos t).renderChars delimiter = t.renderChars delimiter := by
  cases htype : t.type <;> simp [readBack, Token.renderChars, htype]

theorem StandsFor.fixed {slice : List Char} {t : Token} (h : StandsFor fields opts slice t) :
    Fixed fields opts slice := by
  refine ⟨h.slices_eq, ?_⟩
  rw [written, h.tokenFor_eq, renderChars_readBack, h.renderChars_eq]

theorem Survives.settles {slice : List Char} (h : Survives fields opts slice) :
    Settles fields opts slice := by
  by_cases hvalue : (tokenFor fields opts slice).value = ""
  · exact Or.inl (h.gone hvalue)
  · exact Or.inr (h.standsFor hvalue).fixed

/-! ## Canonical tokens -/

theorem standsFor_renderChars (h : Orderly fields opts d) {t : Token}
    (hcanonical : Canonical fields opts d t) :
    StandsFor fields opts (t.renderChars [d]) t := by
  have hwritten := written_renderChars h.delimiter_toList h.noBlank h.noQuote hcanonical
  refine ⟨hwritten.slices_eq, hwritten.complete, ?_, ?_⟩
  · rw [tokenFor, hwritten.token "" 0]
  · rw [h.delimiter_toList]

/-- The blanks of a token that is no word are collapsed. -/
theorem toList_value_respaced {t : Token} (h : (t.isFreeText && !t.quoted) = false) :
    t.respaced.value.toList = collapse t.value.toList := by
  simp only [Token.respaced, h, String.toList_ofList]
  rfl

theorem spaced_value_respaced {t : Token} (h : (t.isFreeText && !t.quoted) = false) :
    Text.Spaced t.respaced.value.toList := by
  rw [toList_value_respaced h]
  exact Text.spaced_collapse _

theorem value_respaced_ne_empty {t : Token} (h : (t.isFreeText && !t.quoted) = false)
    (hvalue : t.value ≠ "") : t.respaced.value ≠ "" := by
  intro hempty
  have hcollapse := toList_value_respaced h
  rw [hempty] at hcollapse
  exact Text.collapse_ne_nil (toList_ne_nil hvalue) hcollapse.symm

/-! ## Slices that survive -/

/-- Quoted free text survives. -/
theorem survives_quoted (h : Orderly fields opts d) {slice : List Char}
    (htype : (tokenFor fields opts slice).type = .freeText)
    (hquoted : (tokenFor fields opts slice).quoted = true) : Survives fields opts slice := by
  constructor
  · intro hvalue
    simp [written, Token.renderChars, htype, hvalue]
  · rw [written]
    generalize tokenFor fields opts slice = t at htype hquoted
    intro hvalue
    have hword : (t.isFreeText && !t.quoted) = false := by simp [hquoted]
    have hvalue' := value_respaced_ne_empty hword hvalue
    have hsqueeze : squeeze (t.renderChars opts.delimiter.toList) =
        t.respaced.renderChars [d] := by
      have hcollapse : squeeze ([] ++ quoted t.value.toList) =
          [] ++ quoted (collapse t.value.toList) := Text.squeeze_append_quoted (by simp) _
      rw [renderChars_quoted htype hquoted hvalue,
        renderChars_quoted (t := t.respaced) htype hquoted hvalue', toList_value_respaced hword]
      exact hcollapse
    rw [hsqueeze]
    exact standsFor_renderChars h
      (.quoted htype hquoted hvalue' (spaced_value_respaced hword))

/-- A filter survives if its value keeps its form. -/
theorem survives_filter (h : Orderly fields opts d) {slice : List Char} {f : Field}
    (hf : f ∈ fields) (hfind : findField fields f.key = some f) (hkeyNonempty : f.key ≠ "")
    {t : Token} (ht : tokenFor fields opts slice = t) (htype : t.type = .filter)
    (hkey : t.key = f.key) (hoperator : t.operator ∈ f.operators) (hnonempty : t.value ≠ "")
    (hform : needsQuotes t.value.toList = true ∨ ∀ c ∈ t.value.toList, isBlank c = false) :
    Survives fields opts slice := by
  have hword : (t.isFreeText && !t.quoted) = false := by simp [Token.isFreeText, htype]
  have hvalue := value_respaced_ne_empty hword hnonempty
  have hplain : Plain d t.key.toList := by
    rw [hkey]
    exact h.key f hf
  have hfront := h.of_mem_front hf hkey hoperator
  have hsqueeze : squeeze (t.renderChars [d]) = t.respaced.renderChars [d] := by
    rw [renderChars_filter htype hnonempty,
      renderChars_filter (t := t.respaced) htype hvalue,
      Text.squeeze_append_quoteIfNeeded (fun c hc => (hfront c hc).1) hform,
      toList_value_respaced hword]
    rfl
  have hcanonical : Canonical fields opts d t.respaced := by
    refine .filter htype ?_ hplain (some f) (.names f.operators) ?_ ?_
      (h.operator f hf _ hoperator) hvalue (spaced_value_respaced hword) ?_
    · show t.key ≠ ""
      rw [hkey]
      exact hkeyNonempty
    · show opts.lookUp fields t.key = _
      rw [hkey]
      exact lookUp_of_find hfind
    · show f.operators.contains t.operator = true
      simpa using hoperator
    · rintro _ ⟨⟩ options hoptions
      rw [Field.options?, h.noEnum f hf] at hoptions
      split at hoptions <;> cases hoptions
  constructor
  · rw [ht]
    exact fun hempty => absurd hempty hnonempty
  · intro _
    rw [written, ht, h.delimiter_toList, hsqueeze]
    exact standsFor_renderChars h hcanonical

/-! ## Words -/

theorem cut_word_append_left {m : Mode} {as bs : List Char}
    (h : cut (.word m) (as ++ bs) = (as ++ bs, [])) : cut (.word m) as = (as, []) := by
  induction as generalizing m with
  | nil => rfl
  | cons a as ih =>
    rw [List.cons_append, cut] at h
    rw [cut]
    split at h
    · cases h
    · rename_i hend
      rw [if_neg hend]
      simp only [Prod.mk.injEq, List.cons.injEq, true_and] at h
      rw [ih (Prod.ext h.1 h.2)]

/-- A word whose spaces are inside quotes stays one when they are collapsed. -/
theorem cut_word_collapseFrom {m : Mode} {inRun : Bool} (hrun : inRun = true → m = .inside)
    {cs : List Char} (hspace : ∀ c ∈ cs, isBlank c = true → c = ' ')
    (h : cut (.word m) cs = (cs, [])) :
    cut (.word m) (collapseFrom inRun cs) = (collapseFrom inRun cs, []) := by
  induction cs generalizing m inRun with
  | nil => rfl
  | cons c cs ih =>
    rw [cut] at h
    split at h
    · cases h
    · rename_i hend
      simp only [Prod.mk.injEq, List.cons.injEq, true_and] at h
      have hrest : cut (.word (m.next c)) cs = (cs, []) := Prod.ext h.1 h.2
      have hspace' : ∀ d ∈ cs, isBlank d = true → d = ' ' :=
        fun d hd => hspace d (List.mem_cons_of_mem _ hd)
      rw [collapseFrom]
      by_cases hc : isBlank c = true
      · obtain rfl := hspace c List.mem_cons_self hc
        -- behind a space the quotes are still open
        have hinside : m.next ' ' = .inside := by
          cases m with
          | outside => exact absurd ⟨rfl, rfl⟩ hend
          | inside | escaped => rfl
        rw [hinside] at hrest
        rw [if_pos hc]
        cases inRun with
        | true =>
          rw [if_pos rfl, hrun rfl]
          exact ih (fun _ => rfl) hspace' hrest
        | false =>
          rw [if_neg Bool.false_ne_true, cut, if_neg hend, hinside,
            ih (fun _ => rfl) hspace' hrest]
      · rw [if_neg hc, cut, if_neg hend, ih (by simp) hspace' hrest]

theorem noBlank_of_unquoteFrom {m : Mode} {cs : List Char} (h : unquoteFrom m cs = []) :
    ∀ c ∈ cs, isBlank c = false := by
  induction cs generalizing m with
  | nil => simp
  | cons c cs ih =>
    rw [unquoteFrom, List.append_eq_nil_iff] at h
    intro b hb
    rcases List.mem_cons.mp hb with rfl | hb
    · rw [Bool.eq_false_iff]
      intro hblank
      have hquote : b ≠ '"' := by
        rintro rfl
        cases hblank
      have hbackslash : b ≠ '\\' := by
        rintro rfl
        cases hblank
      cases m with
      | outside => simp [Mode.spoken, hquote] at h
      | inside => simp [Mode.spoken, hquote, hbackslash] at h
      | escaped => exact Quoting.unescape_ne_nil b h.1
    · exact ih h.2 b hb

/-- Text between quotes of which nothing is left held no blanks. -/
theorem noBlank_of_unquote {raw : List Char} (h : (unquote raw).value = []) :
    ∀ c ∈ raw, isBlank c = false := by
  by_cases hquote : raw.head? = some '"'
  · obtain ⟨cs, rfl⟩ := List.head?_eq_some_iff.mp hquote
    have hcs : unquoteFrom .inside cs = [] := h
    intro c hc
    rcases List.mem_cons.mp hc with rfl | hc
    · rfl
    · exact noBlank_of_unquoteFrom hcs c hc
  · rw [Quoting.unquote_of_head hquote] at h
    obtain rfl : raw = [] := h
    simp

/-- A word that starts like a filter but has no value holds no blanks. -/
theorem noBlank_of_valueless (h : Orderly fields opts d) {f : Field} (hf : f ∈ fields)
    (hfind : findField fields f.key = some f) (hkeyNonempty : f.key ≠ "") {rest : List Char}
    {f? : Option ParsedFilter}
    (hparse : parseWord fields opts (f.key.toList ++ d :: rest) = .ok f?)
    (hfalsy : ∀ f ∈ f?, f.value.isFalsy = true) :
    ∀ c ∈ f.key.toList ++ d :: rest, isBlank c = false := by
  obtain ⟨operator, raw, hoperator, hrest, hknown⟩ :=
    h.parseWord_known hf hfind hkeyNonempty rest
  rw [hparse] at hknown
  have hvalue : (unquote raw).value = [] := by
    have hempty := hfalsy _ (Except.ok.inj hknown)
    simpa [Value.isFalsy] using hempty
  have hraw := noBlank_of_unquote hvalue
  have hcons : ∀ {cs : List Char}, (∀ c ∈ cs, isBlank c = false) →
      ∀ {name : List Char}, Plain d name → ∀ c ∈ name ++ d :: cs, isBlank c = false := by
    intro cs hcs name hname c hc
    rcases List.mem_append.mp hc with hc | hc
    · exact hname.noBlank c hc
    · rcases List.mem_cons.mp hc with rfl | hc
      · exact h.noBlank
      · exact hcs c hc
  apply hcons _ (h.key f hf)
  rcases hrest with rfl | rfl
  · exact hraw
  · exact hcons hraw (h.operator f hf _ hoperator)

/-- A word whose blanks are spaces inside quotes is still a word when it is squeezed, and starts
with the same character. -/
theorem slices_squeeze_word {c : Char} {cs : List Char} (hslices : slices (c :: cs) = [c :: cs])
    (hhead : c ≠ ' ') (hquote : c ≠ '"') (hspace : ∀ b ∈ c :: cs, isBlank b = true → b = ' ') :
    slices (squeeze (c :: cs)) = [squeeze (c :: cs)] ∧ (squeeze (c :: cs)).head? = some c := by
  have hc : isBlank c = false := by
    rw [Bool.eq_false_iff]
    exact fun hblank => hhead (hspace c List.mem_cons_self hblank)
  -- what is squeezed is a front of what is collapsed
  obtain ⟨front, back, -, hback, hfront, hcollapse⟩ :=
    Text.collapseFrom_eq_append false (c :: cs)
  rw [hfront (Or.inr ⟨c, rfl, hc⟩), List.nil_append, collapseFrom, if_neg (by simp [hc])]
    at hcollapse
  obtain ⟨more, hsqueeze⟩ : ∃ more, squeeze (c :: cs) = c :: more := by
    cases hx : squeeze (c :: cs) with
    | nil =>
      rw [hx, List.nil_append] at hcollapse
      have hblank := hback c (hcollapse ▸ List.mem_cons_self)
      rw [hc] at hblank
      cases hblank
    | cons x xs =>
      rw [hx] at hcollapse
      exact ⟨xs, by rw [(List.cons.inj hcollapse).1]⟩
  rw [hsqueeze] at hcollapse ⊢
  refine ⟨?_, rfl⟩
  have hcut : cut (.word .outside) cs = (cs, []) := by
    rw [slices, cut, if_neg hhead, if_neg hquote] at hslices
    simp only [List.cons.injEq, true_and] at hslices
    exact Prod.ext hslices.1 hslices.2
  have hcollapsed : cut (.word .outside) (collapseFrom false cs) = (collapseFrom false cs, []) :=
    cut_word_collapseFrom (by simp) (fun b hb => hspace b (List.mem_cons_of_mem _ hb)) hcut
  rw [(List.cons.inj hcollapse).2] at hcollapsed
  rw [slices, cut, if_neg hhead, if_neg hquote, cut_word_append_left hcollapsed]

theorem written_eq (h : Orderly fields opts d) (slice : List Char) :
    written fields opts slice = (tokenFor fields opts slice).renderChars [d] := by
  rw [written, h.delimiter_toList]

/-- Words are read alike if they have the same value. -/
theorem eq_readBack_of_value_eq {t u : Token} (ht : t = readBack "" 0 t)
    (htype : t.type = .freeText) (hquoted : t.quoted = false) (hu : u.type = .freeText)
    (huQuoted : u.quoted = false) (hvalue : t.value = u.value) : t = readBack "" 0 u := by
  rw [ht]
  simp [readBack, htype, hquoted, hu, huQuoted, hvalue]

/-- A word that is squeezed is no filter if the word has no value. -/
theorem not_filter_of_squeeze (h : Orderly fields opts d) {c : Char} {cs : List Char}
    (hc : isBlank c = false) (hblank : ¬∀ b ∈ c :: cs, isBlank b = false) {f? : Option ParsedFilter}
    (hparse : parseWord fields opts (c :: cs) = .ok f?) (hfalsy : ∀ f ∈ f?, f.value.isFalsy = true)
    {f : Field} (hf : f ∈ fields) (hfind : findField fields f.key = some f)
    (hkeyNonempty : f.key ≠ "") (rest : List Char) :
    squeeze (c :: cs) ≠ f.key.toList ++ d :: rest := by
  intro hslice
  -- the word itself starts like that, so it has no value and no blanks
  have hprefix : f.key.toList ++ [d] <+: c :: cs := by
    apply Text.prefix_of_prefix_squeeze
    · intro b hb
      rcases List.mem_append.mp hb with hb | hb
      · exact (h.key f hf).noBlank b hb
      · rw [List.mem_singleton.mp hb]
        exact h.noBlank
    · intro b hb
      obtain rfl := Option.some.inj hb
      exact hc
    · rw [hslice]
      exact ⟨rest, by simp⟩
  obtain ⟨rest', hslice'⟩ := hprefix
  rw [List.append_assoc, List.singleton_append] at hslice'
  rw [← hslice'] at hparse hblank
  exact hblank (noBlank_of_valueless h hf hfind hkeyNonempty hparse hfalsy)

/-- A word without a value survives if its blanks are spaces. -/
theorem survives_word (h : Orderly fields opts d) {slice : List Char}
    (hslices : slices slice = [slice]) (hhead : slice.head? ≠ some ' ')
    (hword : slice.head? ≠ some '"') (hspace : ∀ c ∈ slice, isBlank c = true → c = ' ')
    {t : Token} (ht : tokenFor fields opts slice = t) (htype : t.type = .freeText)
    (hquoted : t.quoted = false) (hvalue : t.value.toList = slice) (hback : t = readBack "" 0 t)
    {f? : Option ParsedFilter} (hparse : parseWord fields opts slice = .ok f?)
    (hfalsy : ∀ f ∈ f?, f.value.isFalsy = true) : Survives fields opts slice := by
  have hwritten : written fields opts slice = slice := by
    rw [written_eq h, ht, renderChars_word htype hquoted, hvalue]
  have hrespaced : t.respaced.value = String.ofList (squeeze slice) := by
    simp [Token.respaced, Token.isFreeText, htype, hquoted, hvalue]
  obtain ⟨c, cs, rfl⟩ : ∃ c cs, slice = c :: cs := by
    cases slice with
    | nil => cases hslices
    | cons c cs => exact ⟨c, cs, rfl⟩
  have hnotSpace : c ≠ ' ' := fun heq => hhead (congrArg some heq)
  have hnotQuote : c ≠ '"' := fun heq => hword (congrArg some heq)
  have hc : isBlank c = false := by
    rw [Bool.eq_false_iff]
    exact fun hblank => hnotSpace (hspace c List.mem_cons_self hblank)
  obtain ⟨hsqueezed, hhead'⟩ := slices_squeeze_word hslices hnotSpace hnotQuote hspace
  have hword' : (squeeze (c :: cs)).head? ≠ some '"' := by
    rw [hhead']
    exact fun heq => hnotQuote (Option.some.inj heq)
  -- the squeezed word is read as a word, and then its value is all that counts
  have hback' : tokenFor fields opts (squeeze (c :: cs)) = readBack "" 0 t.respaced := by
    by_cases hblank : ∀ b ∈ c :: cs, isBlank b = false
    · rw [Text.squeeze_of_noBlank hblank] at hrespaced ⊢
      rw [ht]
      refine eq_readBack_of_value_eq hback htype hquoted htype hquoted ?_
      rw [hrespaced, ← hvalue, String.ofList_toList]
    · have hkind := h.kind (squeeze (c :: cs))
      generalize tokenFor fields opts (squeeze (c :: cs)) = u at hkind ⊢
      cases hkind with
      | quoted hquote => exact absurd hquote hword'
      | word _ hutype huquoted huvalue huback =>
        refine eq_readBack_of_value_eq huback hutype huquoted htype hquoted ?_
        rw [hrespaced, ← huvalue, String.ofList_toList]
      | filter _ f hf hfind hkeyNonempty rest raw hslice =>
        exact absurd hslice
          (not_filter_of_squeeze h hc hblank hparse hfalsy hf hfind hkeyNonempty rest)
  constructor
  · rw [ht]
    intro hempty
    rw [hempty] at hvalue
    cases hvalue
  · intro _
    rw [hwritten, ht]
    refine ⟨hsqueezed, unclosed?_of_head hword', hback', ?_⟩
    rw [renderChars_word (t := t.respaced) htype hquoted, hrespaced, String.toList_ofList]

/-! ## What survives and what settles -/

/-- A slice survives if the blanks of its token are spaces or stand between quotes. -/
theorem survives_of_isSheltered (h : Orderly fields opts d) {query slice : List Char}
    (hslice : slice ∈ slices query) (hsheltered : (tokenFor fields opts slice).IsSheltered) :
    Survives fields opts slice := by
  have hslices := slices_of_mem_slices hslice
  have hhead := (of_mem_slices hslice).1
  cases h.kind slice with
  | quoted _ htype hquoted => exact survives_quoted h htype hquoted
  | word hword htype hquoted hvalue hback f? hparse hfalsy =>
    have hshows : (tokenFor fields opts slice).showsQuotes = false := by
      rw [Token.showsQuotes, htype]
      exact hquoted
    have hspace := hsheltered hshows
    rw [hvalue] at hspace
    exact survives_word h hslices hhead hword hspace rfl htype hquoted hvalue hback hparse hfalsy
  | filter _ f hf hfind hkeyNonempty _ _ _ _ htype hkey hoperator _ hnonempty =>
    refine survives_filter h hf hfind hkeyNonempty rfl htype hkey hoperator hnonempty ?_
    by_cases hneeds : needsQuotes (tokenFor fields opts slice).value.toList = true
    · exact Or.inl hneeds
    · right
      rw [Bool.not_eq_true] at hneeds
      have hshows : (tokenFor fields opts slice).showsQuotes = false := by
        rw [Token.showsQuotes, htype]
        exact hneeds
      intro c hc
      rw [Bool.eq_false_iff]
      intro hblank
      obtain rfl := hsheltered hshows c hc hblank
      exact (Quoting.needsQuotes_eq_false hneeds).1 hc

/-- Text without quotes has a token of its own characters. -/
theorem mem_of_mem_value (h : Orderly fields opts d) {slice : List Char} (hquote : '"' ∉ slice)
    {c : Char} (hc : c ∈ (tokenFor fields opts slice).value.toList) : c ∈ slice := by
  cases h.kind slice with
  | quoted hhead => exact absurd (List.mem_of_head? hhead) hquote
  | word _ _ _ hvalue => rwa [hvalue] at hc
  | filter _ f _ _ _ rest raw hslice hrest _ _ _ hvalue =>
    have hraw : ∀ b ∈ raw, b ∈ slice := by
      intro b hb
      rw [hslice]
      apply List.mem_append_right
      apply List.mem_cons_of_mem
      rcases hrest with rfl | rfl
      · exact hb
      · exact List.mem_append_right _ (List.mem_cons_of_mem _ hb)
    have hunquote : unquote raw = ⟨raw, false, false⟩ := Quoting.unquote_of_notMem fun hb =>
      hquote (hraw _ hb)
    rw [hvalue, hunquote] at hc
    exact hraw c hc

/-- A fixed slice that is squeezed settles. -/
theorem settles_of_fixed {slice : List Char} (hfixed : Fixed fields opts (squeeze slice)) :
    Settles fields opts (squeeze slice) := by
  right
  rw [hfixed.written_eq, Text.squeeze_squeeze]
  exact hfixed

/-- What a slice of a squeezed text is written as settles: a value that falls apart at its blanks
leaves pieces without blanks and quotes. -/
theorem settles_of_mem_slices (h : Orderly fields opts d) {query slice : List Char}
    (hslice : slice ∈ slices query) (hspace : ∀ c ∈ slice, isBlank c = true → c = ' ')
    {piece : List Char} (hpiece : piece ∈ slices (squeeze (written fields opts slice))) :
    Settles fields opts piece := by
  by_cases hsheltered : (tokenFor fields opts slice).IsSheltered
  · rcases (survives_of_isSheltered h hslice hsheltered).settles with hnil | hfixed
    · rw [hnil] at hpiece
      cases hpiece
    · rw [hfixed.slices_eq] at hpiece
      obtain rfl := List.mem_singleton.mp hpiece
      exact settles_of_fixed hfixed
  · -- only the value of a filter can be in the open
    cases h.kind slice with
    | quoted _ htype hquoted =>
      refine absurd (fun hshows => ?_) hsheltered
      rw [Token.showsQuotes, htype] at hshows
      rw [hquoted] at hshows
      cases hshows
    | word _ _ _ hvalue =>
      refine absurd (fun _ => ?_) hsheltered
      rw [hvalue]
      exact hspace
    | filter _ f hf _ _ _ _ _ _ htype hkey hoperator _ hnonempty =>
      have hneeds : needsQuotes (tokenFor fields opts slice).value.toList = false := by
        rw [← Bool.not_eq_true]
        intro hneeds
        refine hsheltered fun hshows => ?_
        rw [Token.showsQuotes, htype] at hshows
        rw [hneeds] at hshows
        cases hshows
      have hfront := h.of_mem_front hf hkey hoperator
      have hquote : '"' ∉ written fields opts slice := by
        rw [written_eq h, renderChars_filter htype hnonempty, quoteIfNeeded, hneeds]
        intro hmem
        rcases List.mem_append.mp hmem with hmem | hmem
        · exact (hfront _ hmem).2 rfl
        · exact (Quoting.needsQuotes_eq_false hneeds).2 hmem
      have hruns : ∀ run ∈ runs (written fields opts slice),
          run ≠ [] ∧ (∀ c ∈ run, isBlank c = false) ∧ '"' ∉ run := by
        intro run hrun
        obtain ⟨hne, hmem⟩ := Text.of_mem_runs hrun
        exact ⟨hne, fun c hc => (hmem c hc).1, fun hc => hquote (hmem _ hc).2⟩
      have hone : ∀ run ∈ runs (written fields opts slice), slices run = [run] := by
        intro run hrun
        obtain ⟨hne, hblank, hquote⟩ := hruns run hrun
        have hword := slices_word hne (space_notMem hblank) hquote []
        rwa [show quoteIfNeeded [] = [] from rfl, List.append_nil] at hword
      have hclosed : ∀ run ∈ runs (written fields opts slice),
          Mode.outside.after run = .outside := by
        intro run hrun
        have hafter := Quoting.after_of_notMem (hruns run hrun).2.2 []
        rwa [List.append_nil] at hafter
      rw [squeeze, slices_intercalate hone hclosed] at hpiece
      obtain ⟨-, hblank, hquote⟩ := hruns piece hpiece
      have hself : piece ∈ slices piece := by
        rw [hone piece hpiece]
        exact List.mem_singleton.mpr rfl
      refine (survives_of_isSheltered h hself ?_).settles
      intro _ c hc hc'
      rw [hblank c (mem_of_mem_value h hquote hc)] at hc'
      cases hc'

end Query

end FilterQuery
