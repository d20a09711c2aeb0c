import FilterQuery.Query.Slice

/-!
# Where slices lie

The slices of a query are pieces of it, given by where they start and stop. `Laid` walks over the
query once and says what may stand at each step: a space, or a slice. That the pieces are in order,
do not overlap and leave out nothing but spaces (`Tiling`) follows from the walk, and
`exists_tiling_slices` says that the slices of every query are laid out like that.
-/

namespace FilterQuery.Query

/-- A piece of a text: the index of its first character, and the index just after its last one. -/
structure Span where
  start : Nat
  stop : Nat
deriving DecidableEq

/-- The characters of a piece. -/
def Span.chars (text : List Char) (s : Span) : List Char :=
  (text.drop s.start).take (s.stop - s.start)

/-- Spans that cover a query up to spaces. -/
structure Tiling (query : List Char) (spans : List Span) : Prop where
  nonempty : ∀ s ∈ spans, s.start < s.stop
  inside : ∀ s ∈ spans, s.stop ≤ query.length
  ordered : spans.Pairwise fun s t => s.stop ≤ t.start
  /-- What no span covers is a space. -/
  gap : ∀ i c, query[i]? = some c → (∀ s ∈ spans, ¬(s.start ≤ i ∧ i < s.stop)) → c = ' '
  /-- No span starts with a space. -/
  head : ∀ s ∈ spans, query[s.start]? ≠ some ' '
  /-- Spans that do not start with a quote end at a space or at the end of the query. -/
  next : ∀ s ∈ spans, query[s.start]? ≠ some '"' →
    query[s.stop]? = some ' ' ∨ s.stop = query.length

/-! ## Walking over a query -/

/-- A walk over a query from an index to its end, past spaces and over spans. -/
inductive Laid (query : List Char) : Nat → List Span → Prop where
  | done : Laid query query.length []
  | space {i : Nat} {spans : List Span} (h : query[i]? = some ' ')
      (hrest : Laid query (i + 1) spans) : Laid query i spans
  | span {i j : Nat} {spans : List Span} (hlt : i < j) (hhead : query[i]? ≠ some ' ')
      (hnext : query[i]? ≠ some '"' → query[j]? = some ' ' ∨ j = query.length)
      (hrest : Laid query j spans) :
      Laid query i (⟨i, j⟩ :: spans)

namespace Laid

variable {query : List Char}

theorem le_length {i : Nat} {spans : List Span} (h : Laid query i spans) : i ≤ query.length := by
  induction h with
  | done => exact Nat.le_refl _
  | space _ _ ih => exact Nat.le_of_succ_le ih
  | span hlt _ _ _ ih => exact Nat.le_trans (Nat.le_of_lt hlt) ih

/-- A walk only looks ahead. -/
theorem le_start {i : Nat} {spans : List Span} (h : Laid query i spans) :
    ∀ s ∈ spans, i ≤ s.start := by
  induction h with
  | done => exact fun s hs => absurd hs List.not_mem_nil
  | space _ _ ih => exact fun s hs => Nat.le_of_succ_le (ih s hs)
  | span hlt _ _ _ ih =>
    intro s hs
    rcases List.mem_cons.mp hs with rfl | hs
    · exact Nat.le_refl _
    · exact Nat.le_trans (Nat.le_of_lt hlt) (ih s hs)

/-- What a walk passes without a span is a space. -/
theorem gap {i : Nat} {spans : List Span} (h : Laid query i spans) :
    ∀ k c, i ≤ k → query[k]? = some c → (∀ s ∈ spans, ¬(s.start ≤ k ∧ k < s.stop)) → c = ' ' := by
  induction h with
  | done =>
    intro k c hk hc
    rw [List.getElem?_eq_none hk] at hc
    cases hc
  | @space i spans hspace _ ih =>
    intro k c hk hc hfree
    -- the space itself, or something after it
    by_cases heq : k = i
    · rw [heq, hspace] at hc
      exact (Option.some.inj hc).symm
    · exact ih k c (by omega) hc hfree
  | @span i j spans hlt _ _ _ ih =>
    intro k c hk hc hfree
    -- within the span `k` would be covered
    have hpast : j ≤ k := by
      have hnot := hfree ⟨i, j⟩ List.mem_cons_self
      simp only at hnot
      omega
    exact ih k c hpast hc fun s hs => hfree s (List.mem_cons_of_mem _ hs)

theorem of_mem {i : Nat} {spans : List Span} (h : Laid query i spans) :
    ∀ s ∈ spans, s.start < s.stop ∧ s.stop ≤ query.length ∧ query[s.start]? ≠ some ' ' ∧
      (query[s.start]? ≠ some '"' → query[s.stop]? = some ' ' ∨ s.stop = query.length) := by
  induction h with
  | done => exact fun s hs => absurd hs List.not_mem_nil
  | space _ _ ih => exact ih
  | span hlt hhead hnext hrest ih =>
    intro s hs
    rcases List.mem_cons.mp hs with rfl | hs
    · exact ⟨hlt, hrest.le_length, hhead, hnext⟩
    · exact ih s hs

theorem ordered {i : Nat} {spans : List Span} (h : Laid query i spans) :
    spans.Pairwise fun s t => s.stop ≤ t.start := by
  induction h with
  | done => exact List.Pairwise.nil
  | space _ _ ih => exact ih
  | span _ _ _ hrest ih => exact List.Pairwise.cons hrest.le_start ih

/-- A walk over the whole query lays it out. -/
theorem tiling {spans : List Span} (h : Laid query 0 spans) : Tiling query spans := by
  constructor
  · exact fun s hs => (h.of_mem s hs).1
  · exact fun s hs => (h.of_mem s hs).2.1
  · exact h.ordered
  · exact fun i c hc hfree => h.gap i c (Nat.zero_le i) hc hfree
  · exact fun s hs => (h.of_mem s hs).2.2.1
  · exact fun s hs => (h.of_mem s hs).2.2.2

end Laid

/-! ## Cutting walks -/

theorem cut_between_fst (cs : List Char) : (cut .between cs).1 = [] := by
  induction cs with
  | nil => rfl
  | cons c cs ih =>
    rw [cut]
    split
    · exact ih
    · rfl

/-- What a cut has done from an index on: it has taken the rest of the slice at hand, and walked
over the slices after it. A word goes on until a space or the end. -/
structure Walked (query : List Char) (p : Place) (i : Nat) (taken : List Char)
    (slices : List (List Char)) : Prop where
  front : taken <+: query.drop i
  laid : ∃ spans, Laid query (i + taken.length) spans ∧ spans.map (Span.chars query) = slices
  next : ∀ m, p = .word m →
    query[i + taken.length]? = some ' ' ∨ i + taken.length = query.length

namespace Walked

variable {query : List Char} {p q : Place} {i : Nat} {c : Char} {taken : List Char}
  {slices : List (List Char)}

/-- A character of the slice at hand is taken together with the rest of it. -/
theorem take (hdrop : query.drop i = c :: query.drop (i + 1))
    (h : Walked query q (i + 1) taken slices) (hword : ∀ m, p = .word m → ∃ m', q = .word m') :
    Walked query p i (c :: taken) slices := by
  have hlength : i + (c :: taken).length = i + 1 + taken.length := by
    rw [List.length_cons]
    omega
  constructor
  · rw [hdrop, List.cons_prefix_cons]
    exact ⟨rfl, h.front⟩
  · rw [hlength]
    exact h.laid
  · intro m hm
    obtain ⟨m', hq⟩ := hword m hm
    rw [hlength]
    exact h.next m' hq

/-- Between slices, what has been taken is a slice of its own. -/
theorem slice (htaken : taken ≠ []) (hhead : query[i]? ≠ some ' ')
    (hword : query[i]? ≠ some '"' → ∃ m, p = .word m) (h : Walked query p i taken slices) :
    Walked query .between i [] (taken :: slices) := by
  obtain ⟨spans, hlaid, hslices⟩ := h.laid
  have hpositive : 0 < taken.length := List.length_pos_iff.mpr htaken
  have hchars : Span.chars query ⟨i, i + taken.length⟩ = taken := by
    rw [Span.chars, Nat.add_sub_cancel_left]
    exact (List.prefix_iff_eq_take.mp h.front).symm
  refine ⟨List.nil_prefix, ⟨⟨i, i + taken.length⟩ :: spans, ?_, ?_⟩, by simp⟩
  · refine .span (Nat.lt_add_of_pos_right hpositive) hhead (fun hquote => ?_) hlaid
    obtain ⟨m, hp⟩ := hword hquote
    exact h.next m hp
  · rw [List.map_cons, hchars, hslices]

end Walked

/-- A cut walks. -/
theorem walked_cut {query : List Char} {cs : List Char} {i : Nat} (hdrop : query.drop i = cs)
    (hi : i ≤ query.length) (p : Place) : Walked query p i (cut p cs).1 (cut p cs).2 := by
  induction cs generalizing i p with
  | nil =>
    have hend : i = query.length := Nat.le_antisymm hi (List.drop_eq_nil_iff.mp hdrop)
    rw [cut, hend]
    exact ⟨List.nil_prefix, ⟨[], .done, rfl⟩, fun _ _ => Or.inr rfl⟩
  | cons c cs ih =>
    have hlt : i < query.length := by
      rw [← Nat.not_le, ← List.drop_eq_nil_iff, hdrop]
      exact List.cons_ne_nil c cs
    have hhere : query[i]? = some c := by
      rw [← List.head?_drop, hdrop]
      rfl
    have hrest : query.drop (i + 1) = cs := by
      rw [← List.tail_drop, hdrop]
      rfl
    have ih := fun p => ih hrest hlt p
    rw [← hrest] at hdrop
    -- from outside a slice the walk goes on at the next character
    obtain ⟨-, ⟨between, hlaid, hslices⟩, -⟩ := ih .between
    rw [cut_between_fst, List.length_nil, Nat.add_zero] at hlaid
    cases p with
    | between =>
      rw [cut]
      split
      · rename_i hspace
        rw [cut_between_fst]
        exact ⟨List.nil_prefix, ⟨between, .space (hspace ▸ hhere) hlaid, hslices⟩, by simp⟩
      · rename_i hspace
        split
        · rename_i hquote
          have hslice : Walked query (.quoted .inside) i (c :: (cut (.quoted .inside) cs).1)
              (cut (.quoted .inside) cs).2 := Walked.take hdrop (ih _) (by simp)
          refine hslice.slice (List.cons_ne_nil _ _) ?_ fun hother => ?_
          · rw [hhere]
            exact fun h => hspace (Option.some.inj h)
          · rw [hhere, hquote] at hother
            exact absurd rfl hother
        · have hslice : Walked query (.word .outside) i (c :: (cut (.word .outside) cs).1)
              (cut (.word .outside) cs).2 := Walked.take hdrop (ih _) fun _ _ => ⟨_, rfl⟩
          refine hslice.slice (List.cons_ne_nil _ _) ?_ fun _ => ⟨_, rfl⟩
          rw [hhere]
          exact fun h => hspace (Option.some.inj h)
    | word m =>
      rw [cut]
      split
      · rename_i hspace
        obtain ⟨-, hspace⟩ := hspace
        rw [hspace] at hhere
        exact ⟨List.nil_prefix, ⟨between, .space hhere hlaid, hslices⟩,
          fun _ _ => Or.inl hhere⟩
      · exact Walked.take hdrop (ih (.word (m.next c))) fun _ _ => ⟨_, rfl⟩
    | quoted m =>
      rw [cut]
      split
      · refine ⟨?_, ⟨between, hlaid, hslices⟩, by simp⟩
        rw [hdrop, List.cons_prefix_cons]
        exact ⟨rfl, List.nil_prefix⟩
      · exact Walked.take hdrop (ih (.quoted (m.next c))) (by simp)

/-- The slices of a query tile it. -/
theorem exists_tiling_slices (query : List Char) :
    ∃ spans, Tiling query spans ∧ spans.map (Span.chars query) = slices query := by
  obtain ⟨spans, hlaid, hslices⟩ := (walked_cut List.drop_zero (Nat.zero_le _) .between).laid
  rw [cut_between_fst, List.length_nil] at hlaid
  exact ⟨spans, hlaid.tiling, hslices⟩

end FilterQuery.Query
