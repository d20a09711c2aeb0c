import FilterQuery.Query.Word

/-!
# Splitting at a delimiter

A delimiter may have any length, and its occurrences may overlap. Splitting looks for the first one
(`FirstCut`) and goes on behind it (`FirstCut.split_eq`) until there is none left
(`split_of_not_occurs`). So the parts, put together again, are the text (`intercalate_split`).
-/

namespace FilterQuery.Query

variable {delimiter text front behind : List Char} {c d : Char}

/-- The text in front of the first occurrence of a delimiter, and the text behind it. -/
structure FirstCut (delimiter text front behind : List Char) : Prop where
  text_eq : text = front ++ delimiter ++ behind
  length_le : ∀ front' behind', text = front' ++ delimiter ++ behind' →
    front.length ≤ front'.length

/-! ## Where the first occurrence is -/

theorem firstCut_nil (delimiter behind : List Char) :
    FirstCut delimiter (delimiter ++ behind) [] behind :=
  ⟨rfl, fun front' _ _ => Nat.zero_le front'.length⟩

namespace FirstCut

theorem cons (h : FirstCut delimiter text front behind) (hstarts : ¬ delimiter <+: c :: text) :
    FirstCut delimiter (c :: text) (c :: front) behind := by
  refine ⟨by rw [h.text_eq]; rfl, fun front' behind' htext => ?_⟩
  cases front' with
  | nil => exact absurd ⟨behind', htext.symm⟩ hstarts
  | cons c' front' =>
    obtain ⟨-, htext⟩ := List.cons.inj htext
    exact Nat.succ_le_succ (h.length_le front' behind' htext)

theorem tail (h : FirstCut delimiter (c :: text) (c :: front) behind) :
    FirstCut delimiter text front behind := by
  refine ⟨(List.cons.inj h.text_eq).2, fun front' behind' htext => ?_⟩
  have hle := h.length_le (c :: front') behind' (congrArg (c :: ·) htext)
  exact Nat.le_of_succ_le_succ hle

/-- A text with something in front of the first occurrence does not start with one. -/
theorem not_starts (h : FirstCut delimiter text (c :: front) behind) : ¬ delimiter <+: text := by
  rintro ⟨rest, hrest⟩
  exact Nat.not_succ_le_zero _ (h.length_le [] rest hrest.symm)

end FirstCut

theorem exists_firstCut (h : delimiter <:+: text) :
    ∃ front behind, FirstCut delimiter text front behind := by
  induction text with
  | nil =>
    obtain rfl := List.infix_nil.mp h
    exact ⟨[], [], firstCut_nil [] []⟩
  | cons c text ih =>
    by_cases hstarts : delimiter <+: c :: text
    · obtain ⟨behind, hbehind⟩ := hstarts
      rw [← hbehind]
      exact ⟨[], behind, firstCut_nil delimiter behind⟩
    · have hrest := (List.infix_cons_iff.mp h).resolve_left hstarts
      obtain ⟨front, behind, hcut⟩ := ih hrest
      exact ⟨c :: front, behind, hcut.cons hstarts⟩

/-- A delimiter of one character occurs first where this character does. -/
theorem firstCut_singleton (h : d ∉ front) (behind : List Char) :
    FirstCut [d] (front ++ d :: behind) front behind := by
  induction front with
  | nil => exact firstCut_nil [d] behind
  | cons c front ih =>
    rw [List.mem_cons, not_or] at h
    refine (ih h.2).cons ?_
    rw [List.cons_prefix_cons]
    exact fun heq => h.1 heq.1

/-! ## Parts -/

theorem split_ne_nil (delimiter text : List Char) : split delimiter text ≠ [] :=
  List.cons_ne_nil _ _

/-- The characters of an occurrence that was found are passed over. -/
theorem splitFrom_skip (delimiter : List Char) (skip : Nat) (cs : List Char) :
    splitFrom delimiter skip cs = splitFrom delimiter 0 (cs.drop skip) := by
  induction cs generalizing skip with
  | nil => rw [List.drop_nil, splitFrom, splitFrom]
  | cons c cs ih =>
    cases skip with
    | zero => rfl
    | succ skip => exact ih skip

theorem split_delimiter_append (hne : delimiter ≠ []) (behind : List Char) :
    split delimiter (delimiter ++ behind) = [] :: split delimiter behind := by
  obtain ⟨c, cs, rfl⟩ := List.exists_cons_of_ne_nil hne
  have hstarts : (c :: cs).isPrefixOf (c :: (cs ++ behind)) = true :=
    List.isPrefixOf_iff_prefix.mpr ⟨behind, rfl⟩
  have hdrop : (cs ++ behind).drop ((c :: cs).length - 1) = behind := List.drop_left
  rw [split, List.cons_append, splitFrom, if_pos hstarts, splitFrom_skip, hdrop]
  rfl

theorem split_cons (h : ¬ delimiter <+: c :: text) :
    split delimiter (c :: text) = (split delimiter text).modifyHead (c :: ·) := by
  have hstarts : ¬ delimiter.isPrefixOf (c :: text) = true :=
    fun hstarts => h (List.isPrefixOf_iff_prefix.mp hstarts)
  rw [split, splitFrom, if_neg hstarts]
  rfl

/-- The first part ends at the first occurrence, and the others are those of the text behind. -/
theorem FirstCut.split_eq (h : FirstCut delimiter text front behind) (hne : delimiter ≠ []) :
    split delimiter text = front :: split delimiter behind := by
  induction front generalizing text with
  | nil =>
    rw [h.text_eq]
    exact split_delimiter_append hne behind
  | cons c front ih =>
    have htext : text = c :: (front ++ delimiter ++ behind) := h.text_eq
    have hstarts := h.not_starts
    rw [htext] at h hstarts ⊢
    rw [split_cons hstarts, ih h.tail]
    rfl

theorem split_of_not_occurs (h : ¬ delimiter <:+: text) : split delimiter text = [text] := by
  induction text with
  | nil => rw [split, splitFrom]
  | cons c text ih =>
    rw [List.infix_cons_iff, not_or] at h
    rw [split_cons h.1, ih h.2]
    rfl

/-- The parts between delimiters, put together again. -/
theorem intercalate_split (hne : delimiter ≠ []) (text : List Char) :
    delimiter.intercalate (split delimiter text) = text := by
  induction hlength : text.length using Nat.strongRecOn generalizing text with
  | ind n ih =>
    by_cases hoccurs : delimiter <:+: text
    · obtain ⟨front, behind, hcut⟩ := exists_firstCut hoccurs
      have hshorter : behind.length < n := by
        have hpos := List.length_pos_iff.mpr hne
        have htext := congrArg List.length hcut.text_eq
        simp only [List.length_append] at htext
        omega
      rw [hcut.split_eq hne, List.intercalate_cons_of_ne_nil (split_ne_nil _ _),
        ih behind.length hshorter behind rfl]
      exact hcut.text_eq.symm
    · rw [split_of_not_occurs hoccurs, List.intercalate_singleton]

end FilterQuery.Query
