import Mathlib.Data.List.TakeWhile
import FilterQuery.Proofs.Tidy

/-!
# Runs between blanks

The runs of a text are its longest pieces without blanks. Collapsing and trimming leave just these,
joined by single spaces (`trim_collapse`), so what the two do to a whole text can be said of its
parts: a text falls into its runs at every blank (`runs_append_blank`), and everything about runs
follows from that one equation. Quotes are open after the squeezed text just if they are open after
the text itself (`after_squeeze`).
-/

namespace FilterQuery.Text

open Quoting (Mode quoted quoteIfNeeded)

/-- The longest pieces of a text without blanks. -/
def runs (cs : List Char) : List (List Char) :=
  (cs.splitOnP isBlank).filter fun run => !run.isEmpty

/-- The runs of a text, joined by single spaces. -/
def squeeze (cs : List Char) : List Char := [' '].intercalate (runs cs)

/-! ## Taking runs -/

@[simp] theorem runs_nil : runs [] = [] := by
  simp [runs]

/-- At a blank a text falls into its runs. -/
theorem runs_append_blank (as : List Char) {b : Char} (hb : isBlank b = true) (bs : List Char) :
    runs (as ++ b :: bs) = runs as ++ runs bs := by
  rw [runs, List.splitOnP_append_cons _ _ hb, List.filter_append]
  rfl

theorem runs_of_noBlank {cs : List Char} (hne : cs ≠ []) (h : ∀ c ∈ cs, isBlank c = false) :
    runs cs = [cs] := by
  rw [runs, List.splitOnP_eq_singleton h]
  simp [hne]

theorem runs_ne_nil_of_noBlank {cs : List Char} (hne : cs ≠ []) (h : ∀ c ∈ cs, isBlank c = false) :
    runs cs ≠ [] := by
  rw [runs_of_noBlank hne h]
  exact List.cons_ne_nil _ _

/-- A text without blanks, or one that goes on behind its first blank. -/
theorem blankInduction {motive : List Char → Prop}
    (noBlank : ∀ cs, (∀ c ∈ cs, isBlank c = false) → motive cs)
    (blank : ∀ as b bs, (∀ c ∈ as, isBlank c = false) → isBlank b = true → motive bs →
      motive (as ++ b :: bs)) (cs : List Char) : motive cs := by
  induction hn : cs.length using Nat.strongRecOn generalizing cs with
  | ind n ih =>
    have hsplit := List.takeWhile_append_dropWhile (p := fun c => !isBlank c) (l := cs)
    have hfront : ∀ c ∈ cs.takeWhile fun c => !isBlank c, isBlank c = false := by
      intro c hc
      simpa using List.mem_takeWhile_imp hc
    cases hrest : cs.dropWhile fun c => !isBlank c with
    | nil =>
      rw [hrest, List.append_nil] at hsplit
      rw [hsplit] at hfront
      exact noBlank cs hfront
    | cons b bs =>
      have hb : isBlank b = true := by
        have hhead := List.head?_dropWhile_not (fun c => !isBlank c) cs
        rw [hrest] at hhead
        simpa using hhead
      rw [hrest] at hsplit
      rw [← hsplit]
      refine blank _ b bs hfront hb (ih bs.length ?_ bs rfl)
      rw [← hn, ← hsplit, List.length_append, List.length_cons]
      omega

/-- A run is not empty and holds no blank, and it is made of characters of the text. -/
theorem of_mem_runs {cs run : List Char} (h : run ∈ runs cs) :
    run ≠ [] ∧ ∀ c ∈ run, isBlank c = false ∧ c ∈ cs := by
  induction cs using blankInduction with
  | noBlank cs hcs =>
    by_cases hne : cs = []
    · rw [hne] at h
      cases h
    · rw [runs_of_noBlank hne hcs] at h
      obtain rfl := List.mem_singleton.mp h
      exact ⟨hne, fun c hc => ⟨hcs c hc, hc⟩⟩
  | blank as b bs has hb ih =>
    rw [runs_append_blank as hb, List.mem_append] at h
    rcases h with h | h
    · by_cases hne : as = []
      · rw [hne] at h
        cases h
      · rw [runs_of_noBlank hne has] at h
        obtain rfl := List.mem_singleton.mp h
        exact ⟨hne, fun c hc => ⟨has c hc, List.mem_append_left _ hc⟩⟩
    · obtain ⟨hne, hrun⟩ := ih h
      exact ⟨hne, fun c hc => ⟨(hrun c hc).1,
        List.mem_append_right _ (List.mem_cons_of_mem b (hrun c hc).2)⟩⟩

theorem runs_cons_blank {b : Char} (hb : isBlank b = true) (bs : List Char) :
    runs (b :: bs) = runs bs :=
  runs_append_blank [] hb bs

/-- Blanks in front of a text do not show in its runs. -/
theorem runs_append_of_allBlank {front : List Char} (h : ∀ c ∈ front, isBlank c = true)
    (cs : List Char) : runs (front ++ cs) = runs cs := by
  induction front with
  | nil => rfl
  | cons b bs ih =>
    rw [List.cons_append, runs_cons_blank (h b List.mem_cons_self)]
    exact ih fun c hc => h c (List.mem_cons_of_mem _ hc)

theorem runs_of_allBlank {cs : List Char} (h : ∀ c ∈ cs, isBlank c = true) : runs cs = [] := by
  have hruns := runs_append_of_allBlank h []
  rwa [List.append_nil, runs_nil] at hruns

theorem runs_eq_nil_iff {cs : List Char} : runs cs = [] ↔ ∀ c ∈ cs, isBlank c = true := by
  refine ⟨fun h => ?_, runs_of_allBlank⟩
  induction cs using blankInduction with
  | noBlank cs hcs =>
    by_contra hsome
    refine runs_ne_nil_of_noBlank ?_ hcs h
    rintro rfl
    exact hsome fun c hc => absurd hc List.not_mem_nil
  | blank as b bs has hb ih =>
    rw [runs_append_blank as hb, List.append_eq_nil_iff] at h
    have hnil : as = [] := by
      by_contra hne
      exact runs_ne_nil_of_noBlank hne has h.1
    rw [hnil, List.nil_append, List.forall_mem_cons]
    exact ⟨hb, ih h.2⟩

/-- Nor do those that trimming takes away. -/
theorem runs_trim (cs : List Char) : runs (trim cs) = runs cs := by
  have hfront : runs (cs.dropWhile isBlank) = runs cs := by
    rw [← runs_append_of_allBlank (fun c hc => List.mem_takeWhile_imp hc) (cs.dropWhile isBlank),
      List.takeWhile_append_dropWhile]
  rw [← hfront, ← trim_append_takeWhile cs]
  have hback : ∀ c ∈ ((cs.dropWhile isBlank).reverse.takeWhile isBlank).reverse,
      isBlank c = true := fun c hc => List.mem_takeWhile_imp (List.mem_reverse.mp hc)
  -- the text falls apart at the first of the blanks behind it
  cases hrest : ((cs.dropWhile isBlank).reverse.takeWhile isBlank).reverse with
  | nil => rw [List.append_nil]
  | cons b bs =>
    rw [hrest] at hback
    rw [runs_append_blank _ (hback b List.mem_cons_self),
      runs_of_allBlank fun c hc => hback c (List.mem_cons_of_mem _ hc), List.append_nil]

/-- The runs of texts that are joined by spaces are the runs of each. -/
theorem runs_intercalate (parts : List (List Char)) :
    runs ([' '].intercalate parts) = parts.flatMap runs := by
  induction parts with
  | nil => simp
  | cons part parts ih =>
    cases parts with
    | nil => rw [List.intercalate_singleton, List.flatMap_singleton]
    | cons next parts =>
      rw [List.intercalate_cons_cons, List.append_assoc, List.singleton_append,
        runs_append_blank part rfl, ih, List.flatMap_cons (f := runs) (x := part)]

/-- Runs that are joined by spaces come back. -/
theorem runs_squeeze (cs : List Char) : runs (squeeze cs) = runs cs := by
  have hself : ∀ run ∈ runs cs, runs run = [run] := fun run hrun =>
    runs_of_noBlank (of_mem_runs hrun).1 fun c hc => ((of_mem_runs hrun).2 c hc).1
  rw [squeeze, runs_intercalate, List.flatMap_congr hself, List.flatMap_singleton']

/-! ## Squeezed text -/

@[simp] theorem squeeze_nil : squeeze [] = [] := by
  simp [squeeze]

theorem squeeze_of_noBlank {cs : List Char} (h : ∀ c ∈ cs, isBlank c = false) :
    squeeze cs = cs := by
  by_cases hne : cs = []
  · rw [hne, squeeze_nil]
  · rw [squeeze, runs_of_noBlank hne h, List.intercalate_singleton]

theorem squeeze_squeeze (cs : List Char) : squeeze (squeeze cs) = squeeze cs := by
  rw [squeeze, runs_squeeze]
  rfl

/-- Squeezed text is tidy, unless nothing is left. -/
theorem tidy_squeeze {cs : List Char} (h : runs cs ≠ []) : Tidy (squeeze cs) :=
  Tidy.intercalate h fun _ hrun =>
    Tidy.of_noBlank (of_mem_runs hrun).1 fun c hc => ((of_mem_runs hrun).2 c hc).1

theorem squeeze_eq_nil_iff {cs : List Char} : squeeze cs = [] ↔ runs cs = [] := by
  constructor
  · intro h
    by_contra hne
    exact (tidy_squeeze hne).ne_nil h
  · intro h
    rw [squeeze, h]
    rfl

theorem intercalate_append {xs ys : List (List Char)} (hxs : xs ≠ []) (hys : ys ≠ []) :
    [' '].intercalate (xs ++ ys) = [' '].intercalate xs ++ ' ' :: [' '].intercalate ys := by
  induction xs with
  | nil => exact absurd rfl hxs
  | cons x xs ih =>
    cases xs with
    | nil =>
      rw [List.singleton_append, List.intercalate_cons_of_ne_nil hys, List.intercalate_singleton,
        List.append_assoc, List.singleton_append]
    | cons next xs =>
      have hrest := ih (List.cons_ne_nil next xs)
      rw [List.cons_append, List.cons_append, List.intercalate_cons_cons, ← List.cons_append,
        hrest, List.intercalate_cons_cons]
      simp only [List.append_assoc, List.cons_append, List.nil_append]

theorem squeeze_append_blank {as bs : List Char} {b : Char} (hb : isBlank b = true)
    (has : runs as ≠ []) (hbs : runs bs ≠ []) :
    squeeze (as ++ b :: bs) = squeeze as ++ ' ' :: squeeze bs := by
  rw [squeeze, runs_append_blank as hb, intercalate_append has hbs]
  rfl

/-- Blanks behind a text, where `bs` holds nothing else. -/
theorem squeeze_append_of_runs_nil {as bs : List Char} {b : Char} (hb : isBlank b = true)
    (hbs : runs bs = []) : squeeze (as ++ b :: bs) = squeeze as := by
  rw [squeeze, runs_append_blank as hb, hbs, List.append_nil]
  rfl

/-- Blanks in front of a text, where `as` holds nothing else. -/
theorem squeeze_append_of_nil_runs {as bs : List Char} {b : Char} (hb : isBlank b = true)
    (has : runs as = []) : squeeze (as ++ b :: bs) = squeeze bs := by
  rw [squeeze, runs_append_blank as hb, has]
  rfl

/-! ## Collapsing and trimming -/

theorem trim_of_allBlank {cs : List Char} (h : ∀ c ∈ cs, isBlank c = true) : trim cs = [] := by
  rw [trim, List.dropWhile_eq_nil_iff.mpr h]
  rfl

/-- Trimming takes blanks away from the ends of tidy text. -/
theorem Tidy.trim_append {front cs back : List Char} (h : Tidy cs)
    (hfront : ∀ c ∈ front, isBlank c = true) (hback : ∀ c ∈ back, isBlank c = true) :
    trim (front ++ cs ++ back) = cs := by
  obtain ⟨c, hhead, hc⟩ := h.head_append back
  obtain ⟨d, hlast, hd⟩ := h.last
  rw [← List.head?_reverse] at hlast
  rw [trim, List.append_assoc, List.dropWhile_append_of_pos hfront, dropWhile_of_head hhead hc,
    List.reverse_append, List.dropWhile_append_of_pos (by simpa using hback),
    dropWhile_of_head hlast hd, List.reverse_reverse]

/-- Collapsing leaves blanks at the ends. There are none in front if they belong to a run of blanks
that was already written, or if the text starts with no blank. -/
theorem collapseFrom_eq_append (inRun : Bool) (cs : List Char) :
    ∃ front back, (∀ c ∈ front, isBlank c = true) ∧ (∀ c ∈ back, isBlank c = true) ∧
      (inRun = true ∨ (∃ c, cs.head? = some c ∧ isBlank c = false) → front = []) ∧
      collapseFrom inRun cs = front ++ squeeze cs ++ back := by
  induction cs using blankInduction generalizing inRun with
  | noBlank cs hcs =>
    refine ⟨[], [], by simp, by simp, fun _ => rfl, ?_⟩
    rw [collapseFrom_of_noBlank hcs, squeeze_of_noBlank hcs, List.append_nil]
    rfl
  | blank as b bs has hb ih =>
    obtain ⟨front, back, -, hback, hfront, hbs⟩ := ih true
    rw [hfront (Or.inl rfl), List.nil_append] at hbs
    by_cases hne : as = []
    · subst hne
      rw [List.nil_append, squeeze, runs_cons_blank hb, ← squeeze, collapseFrom, if_pos hb]
      cases inRun with
      | true => exact ⟨[], back, by simp, hback, fun _ => rfl, hbs⟩
      | false =>
        refine ⟨[' '], back, by simp; rfl, hback, ?_, ?_⟩
        · rintro (h | ⟨c, hhead, hc⟩)
          · cases h
          · obtain rfl : b = c := Option.some.inj hhead
            rw [hb] at hc
            cases hc
        · rw [if_neg Bool.false_ne_true, hbs]
          rfl
    · have hends : endsBlank inRun as = false := (Tidy.of_noBlank hne has).endsBlank_eq_false inRun
      have hruns := runs_ne_nil_of_noBlank hne has
      have hcollapse : collapseFrom inRun (as ++ b :: bs) = as ++ ' ' :: (squeeze bs ++ back) := by
        rw [collapseFrom_append, collapseFrom_of_noBlank has, hends, collapseFrom, if_pos hb,
          if_neg Bool.false_ne_true, hbs]
      by_cases hrest : runs bs = []
      · refine ⟨[], ' ' :: back, by simp, by simpa using ⟨rfl, hback⟩, fun _ => rfl, ?_⟩
        rw [hcollapse, squeeze_append_of_runs_nil hb hrest, squeeze_of_noBlank has,
          squeeze_eq_nil_iff.mpr hrest]
        rfl
      · refine ⟨[], back, by simp, hback, fun _ => rfl, ?_⟩
        rw [hcollapse, squeeze_append_blank hb hruns hrest, squeeze_of_noBlank has]
        simp

/-- Collapsing and trimming leave the runs of a text, joined by single spaces. -/
theorem trim_collapse (cs : List Char) : trim (collapse cs) = squeeze cs := by
  obtain ⟨front, back, hfront, hback, -, hcollapse⟩ := collapseFrom_eq_append false cs
  rw [collapse, hcollapse]
  by_cases h : runs cs = []
  · rw [squeeze_eq_nil_iff.mpr h, List.append_nil]
    apply trim_of_allBlank
    intro c hc
    exact (List.mem_append.mp hc).elim (hfront c) (hback c)
  · exact (tidy_squeeze h).trim_append hfront hback

theorem eq_space_of_mem_squeeze {cs : List Char} {c : Char} (h : c ∈ squeeze cs)
    (hc : isBlank c = true) : c = ' ' := by
  obtain ⟨front, back, -, -, -, hcollapse⟩ := collapseFrom_eq_append false cs
  have hmem : c ∈ collapse cs := by
    rw [collapse, hcollapse]
    exact List.mem_append_left back (List.mem_append_right front h)
  exact eq_space_of_mem_collapse hmem hc

/-- Quotes keep the blanks at the ends of a value. -/
theorem squeeze_append_quoted {front : List Char} (hfront : ∀ c ∈ front, isBlank c = false)
    (cs : List Char) : squeeze (front ++ quoted cs) = front ++ quoted (collapse cs) := by
  have hquoted : Tidy (quoted (collapse cs)) := Tidy.quoted (spaced_collapse cs)
  have htidy : Tidy (front ++ quoted (collapse cs)) := by
    by_cases hne : front = []
    · rw [hne]
      exact hquoted
    · exact (Tidy.of_noBlank hne hfront).append hquoted
  have hcollapse : collapse (front ++ quoted cs) = front ++ quoted (collapse cs) := by
    rw [collapse, collapseFrom_append, collapseFrom_of_noBlank hfront, collapseFrom_of_head rfl rfl,
      collapse_quoted]
  rw [← trim_collapse, hcollapse, htidy.trim_eq]

/-- A written value keeps its form, unless it holds blanks that do not call for quotes. -/
theorem squeeze_append_quoteIfNeeded {front : List Char} (hfront : ∀ c ∈ front, isBlank c = false)
    {cs : List Char} (h : Quoting.needsQuotes cs = true ∨ ∀ c ∈ cs, isBlank c = false) :
    squeeze (front ++ quoteIfNeeded cs) = front ++ quoteIfNeeded (collapse cs) := by
  by_cases hneeds : Quoting.needsQuotes cs = true
  · rw [quoteIfNeeded, quoteIfNeeded, if_pos hneeds, if_pos (needsQuotes_collapse hneeds)]
    exact squeeze_append_quoted hfront cs
  · have hcs := h.resolve_left hneeds
    have hcollapse : collapse cs = cs := collapseFrom_of_noBlank hcs false
    rw [hcollapse, quoteIfNeeded, if_neg hneeds]
    apply squeeze_of_noBlank
    intro c hc
    exact (List.mem_append.mp hc).elim (hfront c) (hcs c)

/-- What starts a squeezed text without a blank also starts the text, if that has none in front. -/
theorem prefix_of_prefix_squeeze {front cs : List Char} (hfront : ∀ c ∈ front, isBlank c = false)
    (hhead : ∀ c, cs.head? = some c → isBlank c = false) (h : front <+: squeeze cs) :
    front <+: cs := by
  induction cs using blankInduction with
  | noBlank cs hcs =>
    rwa [squeeze_of_noBlank hcs] at h
  | blank as b bs has hb =>
    have hne : as ≠ [] := by
      rintro rfl
      have hnot := hhead b rfl
      rw [hb] at hnot
      cases hnot
    have hruns := runs_ne_nil_of_noBlank hne has
    have has : front <+: as := by
      by_cases hrest : runs bs = []
      · rwa [squeeze_append_of_runs_nil hb hrest, squeeze_of_noBlank has] at h
      · rw [squeeze_append_blank hb hruns hrest, squeeze_of_noBlank has] at h
        rcases List.prefix_or_prefix_of_prefix h (List.prefix_append as _) with h' | ⟨more, rfl⟩
        · exact h'
        · -- it does not reach over the space
          rw [List.prefix_append_right_inj] at h
          cases more with
          | nil => exact ⟨[], by simp⟩
          | cons c more =>
            obtain ⟨rfl, -⟩ := List.cons_prefix_cons.mp h
            have hspace := hfront ' ' (by simp)
            cases hspace
    exact has.trans (List.prefix_append as _)

/-! ## Quotes -/

/-- Inside quotes and outside, one blank does what another does. -/
theorem next_of_isBlank {b : Char} (hb : isBlank b = true) (m : Mode) : m.next b = m.next ' ' := by
  have hquote : b ≠ '"' := by
    rintro rfl
    cases hb
  have hbackslash : b ≠ '\\' := by
    rintro rfl
    cases hb
  cases m <;> simp [Mode.next, hquote, hbackslash]

/-- Squeezing leaves quotes closed. -/
theorem after_squeeze {m : Mode} (hm : m ≠ .escaped) {cs : List Char}
    (h : m.after cs = .outside) : m.after (squeeze cs) = .outside := by
  induction cs using blankInduction generalizing m with
  | noBlank cs hcs => rwa [squeeze_of_noBlank hcs]
  | blank as b bs has hb ih =>
    rw [Mode.after_append, Mode.after_cons, next_of_isBlank hb] at h
    have hrest := ih (m := (m.after as).next ' ') (by cases m.after as <;> simp [Mode.next]) h
    by_cases hne : as = []
    · subst hne
      have hstays : m.next ' ' = m := by
        cases m with
        | outside | inside => rfl
        | escaped => exact absurd rfl hm
      rw [squeeze_append_of_nil_runs hb runs_nil]
      rwa [Mode.after_nil, hstays] at hrest
    · have hruns := runs_ne_nil_of_noBlank hne has
      by_cases hnil : runs bs = []
      · rw [squeeze_append_of_runs_nil hb hnil, squeeze_of_noBlank has]
        rw [squeeze_eq_nil_iff.mpr hnil, Mode.after_nil] at hrest
        exact Mode.eq_outside_of_next_space (by rw [hrest]; rfl)
      · rw [squeeze_append_blank hb hruns hnil, squeeze_of_noBlank has, Mode.after_append]
        exact hrest

end FilterQuery.Text
