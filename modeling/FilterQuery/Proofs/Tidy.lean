import Mathlib.Data.List.Chain
import FilterQuery.Proofs.Escapes
import FilterQuery.Text.Blank

/-!
# Text that stays as it is

The blanks of a written query are collapsed and trimmed over the whole text. `Tidy` text is left
alone by both: it has no blanks to collapse and none at its ends. Tidy texts joined by a space are
tidy again (`Tidy.join`), so the whole text may be judged part by part.
-/

namespace FilterQuery.Text

open Quoting (escape quoted quoteIfNeeded escape_cons_of_special escape_cons_of_plain)

/-- Text with no blanks but single spaces. -/
structure Spaced (cs : List Char) : Prop where
  eq_space : ∀ c ∈ cs, isBlank c = true → c = ' '
  apart : cs.IsChain fun a b => ¬(a = ' ' ∧ b = ' ')

instance (cs : List Char) : Decidable (Spaced cs) :=
  decidable_of_iff ((cs.all fun c => !isBlank c || c == ' ') = true ∧
      cs.IsChain fun a b => ¬(a = ' ' ∧ b = ' ')) <| by
    constructor
    · rintro ⟨hall, happart⟩
      refine ⟨fun c hc hblank => ?_, happart⟩
      simpa [hblank] using List.all_eq_true.mp hall c hc
    · rintro ⟨hspace, happart⟩
      refine ⟨List.all_eq_true.mpr fun c hc => ?_, happart⟩
      cases hblank : isBlank c with
      | true => simp [hspace c hc hblank]
      | false => rfl

/-! ## Collapsing -/

/-- Whether a text ends in a run of blanks, where `inRun` speaks for the empty text. -/
def endsBlank (inRun : Bool) (cs : List Char) : Bool := cs.foldl (fun _ c => isBlank c) inRun

theorem collapseFrom_append (inRun : Bool) (as bs : List Char) :
    collapseFrom inRun (as ++ bs) =
      collapseFrom inRun as ++ collapseFrom (endsBlank inRun as) bs := by
  induction as generalizing inRun with
  | nil => rfl
  | cons a as ih =>
    rw [List.cons_append, collapseFrom, collapseFrom]
    cases ha : isBlank a with
    | true =>
      have hend : endsBlank inRun (a :: as) = endsBlank true as := by
        rw [endsBlank, List.foldl_cons, ha, endsBlank]
      cases inRun <;> simp [ih, hend]
    | false =>
      have hend : endsBlank inRun (a :: as) = endsBlank false as := by
        rw [endsBlank, List.foldl_cons, ha, endsBlank]
      simp [ih, hend]

theorem endsBlank_eq {cs : List Char} {c : Char} (h : cs.getLast? = some c) (inRun : Bool) :
    endsBlank inRun cs = isBlank c := by
  obtain ⟨front, rfl⟩ := List.getLast?_eq_some_iff.mp h
  rw [endsBlank, List.foldl_append]
  rfl

/-- Nothing is left out at a character that is no blank. -/
theorem collapseFrom_of_head {cs : List Char} {c : Char} (hhead : cs.head? = some c)
    (hc : isBlank c = false) (inRun : Bool) : collapseFrom inRun cs = collapse cs := by
  obtain ⟨cs, rfl⟩ := List.head?_eq_some_iff.mp hhead
  rw [collapse, collapseFrom, collapseFrom, hc]
  rfl

theorem collapseFrom_of_noBlank {cs : List Char} (h : ∀ c ∈ cs, isBlank c = false)
    (inRun : Bool) : collapseFrom inRun cs = cs := by
  induction cs generalizing inRun with
  | nil => rfl
  | cons c cs ih =>
    rw [collapseFrom, h c List.mem_cons_self, if_neg Bool.false_ne_true,
      ih (fun d hd => h d (List.mem_cons_of_mem _ hd))]

theorem collapse_of_spaced {cs : List Char} (h : Spaced cs) : collapse cs = cs := by
  have hfrom : ∀ inRun, (inRun = true → cs.head? ≠ some ' ') → collapseFrom inRun cs = cs := by
    obtain ⟨hspace, happart⟩ := h
    induction cs with
    | nil => exact fun _ _ => rfl
    | cons c cs ih =>
      have ih := ih (fun d hd => hspace d (List.mem_cons_of_mem _ hd)) happart.tail
      intro inRun hrun
      rw [collapseFrom]
      cases hc : isBlank c with
      | false => rw [if_neg Bool.false_ne_true, ih false (by simp)]
      | true =>
        obtain rfl := hspace c List.mem_cons_self hc
        have hfree : inRun = false := by
          rw [Bool.eq_false_iff]
          exact fun h => hrun h rfl
        -- a space is followed by no other one
        have hnext : cs.head? ≠ some ' ' := by
          intro hhead
          obtain ⟨cs', rfl⟩ := List.head?_eq_some_iff.mp hhead
          exact (List.isChain_cons_cons.mp happart).1 ⟨rfl, rfl⟩
        rw [if_pos rfl, hfree, if_neg Bool.false_ne_true, ih true fun _ => hnext]
  exact hfrom false (by simp)

/-- Escaping does not touch blanks. -/
theorem collapseFrom_escape (inRun : Bool) (cs : List Char) :
    collapseFrom inRun (escape cs) = escape (collapseFrom inRun cs) := by
  induction cs generalizing inRun with
  | nil => rfl
  | cons c cs ih =>
    cases hc : isBlank c with
    | true =>
      have hquote : c ≠ '"' := by rintro rfl; cases hc
      have hbackslash : c ≠ '\\' := by rintro rfl; cases hc
      rw [escape_cons_of_plain hquote hbackslash, collapseFrom, collapseFrom, hc, if_pos rfl,
        if_pos rfl]
      cases inRun with
      | true => exact ih true
      | false => exact congrArg (' ' :: ·) (ih true)
    | false =>
      rw [collapseFrom, hc, if_neg Bool.false_ne_true]
      by_cases h : c = '"' ∨ c = '\\'
      · have hbackslash : isBlank '\\' = false := rfl
        rw [escape_cons_of_special h, escape_cons_of_special h, collapseFrom, hbackslash,
          if_neg Bool.false_ne_true, collapseFrom, hc]
        exact congrArg ('\\' :: c :: ·) (ih false)
      · obtain ⟨hquote, hbackslash⟩ := not_or.mp h
        rw [escape_cons_of_plain hquote hbackslash, escape_cons_of_plain hquote hbackslash,
          collapseFrom, hc]
        exact congrArg (c :: ·) (ih false)

/-- Nor does quoting. -/
theorem collapse_quoted (cs : List Char) : collapse (quoted cs) = quoted (collapse cs) := by
  show '"' :: collapseFrom false (escape cs ++ ['"']) = _
  rw [collapseFrom_append, collapseFrom_escape]
  rfl

/-- Collapsed text has no blanks but single spaces. -/
theorem spaced_collapse (cs : List Char) : Spaced (collapse cs) := by
  refine ⟨fun c hc => eq_space_of_mem_collapse hc, ?_⟩
  rw [List.isChain_iff_getElem]
  rintro i hi ⟨ha, hb⟩
  have hsplit : collapse cs = (collapse cs).take i ++
      (collapse cs)[i] :: (collapse cs)[i + 1] :: (collapse cs).drop (i + 2) := by
    rw [List.getElem_cons_drop, List.getElem_cons_drop, List.take_append_drop]
  have hblank := isBlank_of_collapse_eq_append hsplit (by rw [ha]; rfl)
  rw [hb] at hblank
  cases hblank

theorem mem_collapseFrom_of_noBlank {inRun : Bool} {cs : List Char} {c : Char} (h : c ∈ cs)
    (hc : isBlank c = false) : c ∈ collapseFrom inRun cs := by
  induction cs generalizing inRun with
  | nil => cases h
  | cons d ds ih =>
    rw [collapseFrom]
    rcases List.mem_cons.mp h with rfl | h
    · rw [hc, if_neg Bool.false_ne_true]
      exact List.mem_cons_self
    · split
      · split
        · exact ih h
        · exact List.mem_cons_of_mem _ (ih h)
      · exact List.mem_cons_of_mem _ (ih h)

/-- Where there is a blank, collapsing leaves a space. -/
theorem space_mem_collapse {cs : List Char} {b : Char} (h : b ∈ cs) (hb : isBlank b = true) :
    ' ' ∈ collapse cs := by
  rw [collapse]
  induction cs with
  | nil => cases h
  | cons d ds ih =>
    rw [collapseFrom]
    split
    · exact List.mem_cons_self
    · rename_i hd
      rcases List.mem_cons.mp h with rfl | h
      · exact absurd hb hd
      · exact List.mem_cons_of_mem _ (ih h)

theorem collapse_ne_nil {cs : List Char} (h : cs ≠ []) : collapse cs ≠ [] := by
  obtain ⟨c, hc⟩ := List.exists_mem_of_ne_nil cs h
  by_cases hblank : isBlank c = true
  · exact List.ne_nil_of_mem (space_mem_collapse hc hblank)
  · exact List.ne_nil_of_mem (mem_collapseFrom_of_noBlank hc (Bool.eq_false_iff.mpr hblank))

/-- What needs quotes needs them after collapsing too. -/
theorem needsQuotes_collapse {cs : List Char} (h : Quoting.needsQuotes cs = true) :
    Quoting.needsQuotes (collapse cs) = true := by
  rw [Quoting.needsQuotes, List.any_eq_true] at h ⊢
  obtain ⟨c, hc, hspecial⟩ := h
  by_cases hblank : isBlank c = true
  · exact ⟨' ', space_mem_collapse hc hblank, rfl⟩
  · exact ⟨c, mem_collapseFrom_of_noBlank hc (Bool.eq_false_iff.mpr hblank), hspecial⟩

/-! ## Trimming -/

theorem dropWhile_of_head {cs : List Char} {c : Char} (hhead : cs.head? = some c)
    (hc : isBlank c = false) : cs.dropWhile isBlank = cs := by
  obtain ⟨cs, rfl⟩ := List.head?_eq_some_iff.mp hhead
  rw [List.dropWhile_cons, hc, if_neg Bool.false_ne_true]

theorem trim_of_ends {cs : List Char} {c d : Char} (hhead : cs.head? = some c)
    (hc : isBlank c = false) (hlast : cs.getLast? = some d) (hd : isBlank d = false) :
    trim cs = cs := by
  rw [← List.head?_reverse] at hlast
  rw [trim, dropWhile_of_head hhead hc, dropWhile_of_head hlast hd, List.reverse_reverse]

/-! ## Tidy text -/

/-- Text that neither collapsing nor trimming changes, and that is not empty. -/
structure Tidy (cs : List Char) : Prop where
  collapse_eq : collapse cs = cs
  head : ∃ c, cs.head? = some c ∧ isBlank c = false
  last : ∃ c, cs.getLast? = some c ∧ isBlank c = false

namespace Tidy

variable {as bs : List Char}

theorem ne_nil (h : Tidy as) : as ≠ [] := by
  rintro rfl
  obtain ⟨c, hc, -⟩ := h.head
  cases hc

theorem trim_eq (h : Tidy as) : trim as = as := by
  obtain ⟨c, hhead, hc⟩ := h.head
  obtain ⟨d, hlast, hd⟩ := h.last
  exact trim_of_ends hhead hc hlast hd

theorem endsBlank_eq_false (h : Tidy as) (inRun : Bool) : endsBlank inRun as = false := by
  obtain ⟨d, hlast, hd⟩ := h.last
  rw [endsBlank_eq hlast, hd]

theorem head_append (h : Tidy as) (rest : List Char) :
    ∃ c, (as ++ rest).head? = some c ∧ isBlank c = false := by
  obtain ⟨c, hhead, hc⟩ := h.head
  exact ⟨c, by rw [List.head?_append, hhead]; rfl, hc⟩

theorem last_append (h : Tidy bs) (front : List Char) :
    ∃ c, (front ++ bs).getLast? = some c ∧ isBlank c = false := by
  obtain ⟨d, hlast, hd⟩ := h.last
  exact ⟨d, by rw [List.getLast?_append, hlast]; rfl, hd⟩

theorem append (has : Tidy as) (hbs : Tidy bs) : Tidy (as ++ bs) := by
  refine ⟨?_, has.head_append bs, hbs.last_append as⟩
  have hcollapse : collapseFrom false as = as := has.collapse_eq
  rw [collapse, collapseFrom_append, has.endsBlank_eq_false, hcollapse]
  exact congrArg (as ++ ·) hbs.collapse_eq

/-- A single space between tidy texts stays. -/
theorem join (has : Tidy as) (hbs : Tidy bs) : Tidy (as ++ ' ' :: bs) := by
  refine ⟨?_, has.head_append _, ?_⟩
  · obtain ⟨c, hhead, hc⟩ := hbs.head
    have hcollapse : collapseFrom false as = as := has.collapse_eq
    have hrest : collapseFrom false (' ' :: bs) = ' ' :: collapseFrom true bs := rfl
    rw [collapse, collapseFrom_append, has.endsBlank_eq_false, hcollapse, hrest,
      collapseFrom_of_head hhead hc, hbs.collapse_eq]
  · have hlast := hbs.last_append (as ++ [' '])
    rwa [List.append_assoc] at hlast

theorem intercalate {parts : List (List Char)} (hne : parts ≠ []) (h : ∀ part ∈ parts, Tidy part) :
    Tidy ([' '].intercalate parts) := by
  induction parts with
  | nil => exact absurd rfl hne
  | cons part parts ih =>
    have hpart := h part List.mem_cons_self
    cases parts with
    | nil => rwa [List.intercalate_singleton]
    | cons next parts =>
      have hrest := ih (List.cons_ne_nil _ _) fun q hq => h q (List.mem_cons_of_mem _ hq)
      rw [List.intercalate_cons_cons, List.append_assoc, List.singleton_append]
      exact hpart.join hrest

theorem of_noBlank (hne : as ≠ []) (h : ∀ c ∈ as, isBlank c = false) : Tidy as := by
  refine ⟨collapseFrom_of_noBlank h false, ⟨as.head hne, ?_, h _ (List.head_mem hne)⟩,
    ⟨as.getLast hne, ?_, h _ (List.getLast_mem hne)⟩⟩
  · exact List.head?_eq_some_head hne
  · exact List.getLast?_eq_some_getLast hne

theorem quoted (h : Spaced as) : Tidy (quoted as) := by
  refine ⟨?_, ⟨'"', rfl, rfl⟩, ⟨'"', ?_, rfl⟩⟩
  · rw [collapse_quoted, collapse_of_spaced h]
  · exact List.getLast?_concat ..

/-- Without quotes there is not even a space. -/
theorem quoteIfNeeded (hne : as ≠ []) (h : Spaced as) : Tidy (quoteIfNeeded as) := by
  rw [Quoting.quoteIfNeeded]
  split
  · exact quoted h
  · rename_i hneeds
    have hspace := (Quoting.needsQuotes_eq_false (Bool.eq_false_iff.mpr hneeds)).1
    refine of_noBlank hne fun c hc => ?_
    rw [Bool.eq_false_iff]
    intro hblank
    exact hspace (h.eq_space c hc hblank ▸ hc)

end Tidy

end FilterQuery.Text
