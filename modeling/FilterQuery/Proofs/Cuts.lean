import FilterQuery.Proofs.Escapes
import FilterQuery.Proofs.Slices

/-!
# Cutting at a space

The cutting of a query and the quoting automaton agree on where quotes are open. So a query may be
cut in two at any space outside quotes, and its slices are those of the two sides
(`slices_append_space`). Text that is one slice and closes its quotes can be joined by spaces and
cut again (`slices_intercalate`).
-/

namespace FilterQuery.Query

open Quoting (Mode escape quoted quoteIfNeeded needsQuotes)

/-- Where the automaton stands at a place. -/
def Place.mode : Place → Mode
  | .between => .outside
  | .word m => m
  | .quoted m => m

/-- A space outside quotes ends the slice at hand. No place is in quoted text that is closed. -/
theorem cut_append_space {p : Place} (hp : p ≠ .quoted .outside) {cs : List Char}
    (h : p.mode.after cs = .outside) (rest : List Char) :
    cut p (cs ++ ' ' :: rest) = ((cut p cs).1, (cut p cs).2 ++ slices rest) := by
  -- the automaton stands where the cut does, one character after the other
  induction cs generalizing p with
  | nil =>
    cases p with
    | between => exact Prod.ext (cut_between_fst rest) rfl
    | word m =>
      obtain rfl : m = .outside := h
      rfl
    | quoted m =>
      obtain rfl : m = .outside := h
      exact absurd rfl hp
  | cons c cs ih =>
    rw [List.cons_append]
    cases p with
    | between =>
      rw [cut, cut]
      by_cases hspace : c = ' '
      · rw [if_pos hspace, if_pos hspace]
        exact ih (by simp) (by rw [hspace] at h; exact h)
      · rw [if_neg hspace, if_neg hspace]
        by_cases hquote : c = '"'
        · rw [if_pos hquote, ih (p := .quoted .inside) (by simp) (by rw [hquote] at h; exact h)]
          rfl
        · have hrest : Mode.outside.after cs = .outside := by
            have hnext : Mode.outside.next c = .outside := if_neg hquote
            have h : (Mode.outside.next c).after cs = .outside := h
            rwa [hnext] at h
          rw [if_neg hquote, ih (p := .word .outside) (by simp) hrest]
          rfl
    | word m =>
      rw [cut, cut]
      by_cases hend : m = .outside ∧ c = ' '
      · obtain ⟨rfl, rfl⟩ := hend
        rw [if_pos ⟨rfl, rfl⟩, if_pos ⟨rfl, rfl⟩, ih (p := .between) (by simp) h]
      · rw [if_neg hend, if_neg hend, ih (p := .word (m.next c)) (by simp) h]
    | quoted m =>
      rw [cut, cut]
      by_cases hend : m.next c = .outside
      · have hrest : Mode.outside.after cs = .outside := by
          have h : (m.next c).after cs = .outside := h
          rwa [hend] at h
        rw [if_pos hend, if_pos hend, ih (p := .between) (by simp) hrest]
      · rw [if_neg hend, if_neg hend,
          ih (p := .quoted (m.next c)) (fun heq => hend (Place.quoted.inj heq)) h]

/-- A query may be cut in two at a space outside quotes. -/
theorem slices_append_space {cs : List Char} (h : Mode.outside.after cs = .outside)
    (rest : List Char) : slices (cs ++ ' ' :: rest) = slices cs ++ slices rest := by
  rw [slices, cut_append_space (p := .between) (by simp) h]
  rfl

/-- Slices that close their quotes come back when they are joined by spaces. -/
theorem slices_intercalate {parts : List (List Char)}
    (hslices : ∀ part ∈ parts, slices part = [part])
    (hclosed : ∀ part ∈ parts, Mode.outside.after part = .outside) :
    slices ([' '].intercalate parts) = parts := by
  induction parts with
  | nil => rfl
  | cons part parts ih =>
    have hpart := hslices part List.mem_cons_self
    cases parts with
    | nil => rw [List.intercalate_singleton, hpart]
    | cons next parts =>
      have hrest := ih (fun q hq => hslices q (List.mem_cons_of_mem _ hq))
        (fun q hq => hclosed q (List.mem_cons_of_mem _ hq))
      rw [List.intercalate_cons_cons, List.append_assoc, List.singleton_append,
        slices_append_space (hclosed part List.mem_cons_self), hpart, hrest]
      rfl

/-! ## Text that is one slice -/

theorem slices_quoted (cs : List Char) : slices (quoted cs) = [quoted cs] := by
  show (('"' :: (cut (.quoted .inside) (escape cs ++ ['"'])).1) ::
    (cut (.quoted .inside) (escape cs ++ ['"'])).2) = _
  rw [cut_escape (Or.inr rfl)]
  rfl

theorem cut_word_of_notMem {cs : List Char} (hspace : ' ' ∉ cs) (hquote : '"' ∉ cs)
    (rest : List Char) :
    cut (.word .outside) (cs ++ rest) =
      (cs ++ (cut (.word .outside) rest).1, (cut (.word .outside) rest).2) := by
  induction cs with
  | nil => rfl
  | cons c cs ih =>
    rw [List.mem_cons, not_or] at hspace hquote
    have hnext : Mode.outside.next c = .outside := if_neg (Ne.symm hquote.1)
    rw [List.cons_append, cut, if_neg fun h => hspace.1 h.2.symm, hnext, ih hspace.2 hquote.2]
    rfl

theorem cut_word_quoteIfNeeded (cs : List Char) :
    cut (.word .outside) (quoteIfNeeded cs) = (quoteIfNeeded cs, []) := by
  rw [quoteIfNeeded]
  split
  · show ('"' :: (cut (.word .inside) (escape cs ++ ['"'])).1,
      (cut (.word .inside) (escape cs ++ ['"'])).2) = _
    rw [cut_escape (Or.inl rfl)]
    rfl
  · rename_i h
    obtain ⟨hspace, hquote⟩ := Quoting.needsQuotes_eq_false (Bool.eq_false_iff.mpr h)
    have hcut := cut_word_of_notMem hspace hquote []
    rw [List.append_nil, cut, List.append_nil] at hcut
    exact hcut

/-- A word may go on with quoted text. -/
theorem slices_word {cs : List Char} (hne : cs ≠ []) (hspace : ' ' ∉ cs) (hquote : '"' ∉ cs)
    (value : List Char) :
    slices (cs ++ quoteIfNeeded value) = [cs ++ quoteIfNeeded value] := by
  obtain ⟨c, cs, rfl⟩ := List.exists_cons_of_ne_nil hne
  have hcut := cut_word_of_notMem hspace hquote (quoteIfNeeded value)
  rw [List.mem_cons, not_or] at hspace hquote
  have hrest := cut_word_of_notMem hspace.2 hquote.2 (quoteIfNeeded value)
  rw [cut_word_quoteIfNeeded] at hrest
  rw [slices, List.cons_append, cut, if_neg (Ne.symm hspace.1), if_neg (Ne.symm hquote.1), hrest]

theorem after_word {cs : List Char} (hquote : '"' ∉ cs) (value : List Char) :
    Mode.outside.after (cs ++ quoteIfNeeded value) = .outside := by
  rw [Quoting.after_of_notMem hquote, Quoting.after_quoteIfNeeded]

/-! ## Slices of slices -/

/-- What a cut takes is cut no further. -/
theorem cut_cut (p : Place) (cs : List Char) :
    cut p (cut p cs).1 = ((cut p cs).1, []) ∧ ∀ s ∈ (cut p cs).2, slices s = [s] := by
  induction cs generalizing p with
  | nil => exact ⟨rfl, fun s hs => absurd hs List.not_mem_nil⟩
  | cons c cs ih =>
    cases p with
    | between =>
      refine ⟨by rw [cut_between_fst]; rfl, ?_⟩
      rw [cut]
      by_cases hspace : c = ' '
      · rw [if_pos hspace]
        exact (ih .between).2
      · rw [if_neg hspace]
        obtain ⟨hfront, hrest⟩ := ih (if c = '"' then .quoted .inside else .word .outside)
        intro s hs
        rcases List.mem_cons.mp hs with rfl | hs
        · rw [slices, cut, if_neg hspace, hfront]
        · exact hrest s hs
    | word m =>
      rw [cut]
      by_cases hend : m = .outside ∧ c = ' '
      · rw [if_pos hend]
        exact ⟨rfl, (ih .between).2⟩
      · obtain ⟨hfront, hrest⟩ := ih (.word (m.next c))
        rw [if_neg hend]
        refine ⟨?_, hrest⟩
        rw [cut, if_neg hend, hfront]
    | quoted m =>
      rw [cut]
      by_cases hend : m.next c = .outside
      · rw [if_pos hend]
        refine ⟨?_, (ih .between).2⟩
        rw [cut, if_pos hend]
        rfl
      · obtain ⟨hfront, hrest⟩ := ih (.quoted (m.next c))
        rw [if_neg hend]
        refine ⟨?_, hrest⟩
        rw [cut, if_neg hend, hfront]

/-- A slice is a single slice of itself. -/
theorem slices_of_mem_slices {query s : List Char} (hs : s ∈ slices query) : slices s = [s] :=
  (cut_cut .between query).2 s hs

/-- A slice starts with no space, and it is made of characters of the query. -/
theorem of_mem_slices {query s : List Char} (hs : s ∈ slices query) :
    s.head? ≠ some ' ' ∧ ∀ c ∈ s, c ∈ query := by
  obtain ⟨spans, htiling, hmap⟩ := exists_tiling_slices query
  rw [← hmap] at hs
  obtain ⟨span, hspan, rfl⟩ := List.mem_map.mp hs
  constructor
  · intro hhead
    rw [Span.chars, List.head?_take] at hhead
    split at hhead
    · cases hhead
    · rw [List.head?_drop] at hhead
      exact htiling.head span hspan hhead
  · intro c hc
    exact List.mem_of_mem_drop (List.mem_of_mem_take hc)

/-- Where a slice goes on behind its first character, the automaton stands behind that character. -/
theorem mode_first (c : Char) :
    (if c = '"' then Place.quoted .inside else .word .outside).mode = Mode.outside.next c ∧
      (if c = '"' then Place.quoted .inside else .word .outside) ≠ .quoted .outside := by
  by_cases hquote : c = '"' <;> simp [hquote, Place.mode, Mode.next]

/-- Only the last slice may leave its quotes open, and so may the slice at hand if no other one
follows it. -/
theorem closed_of_cut {p : Place} (hp : p ≠ .quoted .outside) (cs : List Char) :
    ((cut p cs).2 ≠ [] → p.mode.after (cut p cs).1 = .outside) ∧
      ∀ s ∈ (cut p cs).2.dropLast, Mode.outside.after s = .outside := by
  induction cs generalizing p with
  | nil => exact ⟨fun h => absurd rfl h, fun s hs => absurd hs List.not_mem_nil⟩
  | cons c cs ih =>
    cases p with
    | between =>
      refine ⟨fun _ => by rw [cut_between_fst]; rfl, ?_⟩
      rw [cut]
      by_cases hspace : c = ' '
      · rw [if_pos hspace]
        exact (ih (p := .between) (by simp)).2
      · rw [if_neg hspace]
        obtain ⟨hmode, hplace⟩ := mode_first c
        obtain ⟨hfront, hrest⟩ := ih hplace
        intro s hs
        cases hslices : (cut (if c = '"' then Place.quoted .inside else .word .outside) cs).2 with
        | nil =>
          simp only [hslices] at hs
          cases hs
        | cons next slices =>
          simp only [hslices, List.dropLast_cons_cons] at hs hrest
          rcases List.mem_cons.mp hs with rfl | hs
          · rw [Mode.after_cons, ← hmode]
            exact hfront (by rw [hslices]; exact List.cons_ne_nil _ _)
          · exact hrest s hs
    | word m =>
      rw [cut]
      by_cases hend : m = .outside ∧ c = ' '
      · rw [if_pos hend]
        exact ⟨fun _ => hend.1, (ih (p := .between) (by simp)).2⟩
      · rw [if_neg hend]
        exact ih (p := .word (m.next c)) (by simp)
    | quoted m =>
      rw [cut]
      by_cases hend : m.next c = .outside
      · rw [if_pos hend]
        exact ⟨fun _ => hend, (ih (p := .between) (by simp)).2⟩
      · rw [if_neg hend]
        exact ih (p := .quoted (m.next c)) fun heq => hend (Place.quoted.inj heq)

theorem closed_of_mem_dropLast {query s : List Char} (hs : s ∈ (slices query).dropLast) :
    Mode.outside.after s = .outside :=
  (closed_of_cut (p := .between) (by simp) query).2 s hs

/-- The automaton ends where the last slice ends, or the slice at hand if no other one follows. -/
theorem after_cut {p : Place} (hp : p ≠ .quoted .outside) (cs : List Char) :
    p.mode.after cs =
      (cut p cs).2.getLast?.elim (p.mode.after (cut p cs).1) Mode.outside.after := by
  induction cs generalizing p with
  | nil => rfl
  | cons c cs ih =>
    have hbetween := ih (p := .between) (by simp)
    rw [cut_between_fst] at hbetween
    cases p with
    | between =>
      rw [cut]
      by_cases hspace : c = ' '
      · rw [if_pos hspace, hspace, cut_between_fst]
        exact hbetween
      · rw [if_neg hspace]
        obtain ⟨hmode, hplace⟩ := mode_first c
        have hrest := ih hplace
        rw [hmode] at hrest
        show (Mode.outside.next c).after cs = (List.getLast? (_ :: _)).elim _ Mode.outside.after
        rw [hrest]
        cases (cut (if c = '"' then Place.quoted .inside else .word .outside) cs).2 with
        | nil => rfl
        | cons s ss => rfl
    | word m =>
      rw [cut]
      by_cases hend : m = .outside ∧ c = ' '
      · obtain ⟨rfl, rfl⟩ := hend
        rw [if_pos ⟨rfl, rfl⟩]
        exact hbetween
      · rw [if_neg hend]
        exact ih (p := .word (m.next c)) (by simp)
    | quoted m =>
      rw [cut]
      by_cases hend : m.next c = .outside
      · rw [if_pos hend]
        show (m.next c).after cs = (cut .between cs).2.getLast?.elim (m.next c) _
        rw [hend]
        exact hbetween
      · rw [if_neg hend]
        exact ih (p := .quoted (m.next c)) fun heq => hend (Place.quoted.inj heq)

/-- A query ends where its last slice ends, and outside quotes if it has no slices. -/
theorem after_slices (query : List Char) :
    Mode.outside.after query = (slices query).getLast?.elim .outside Mode.outside.after := by
  have hcut := after_cut (p := .between) (by simp) query
  rwa [cut_between_fst] at hcut

/-- A cut stops early only at a space outside quotes or behind a closing quote. So where the text
ends inside quotes the last slice reaches its end, or the slice at hand if no other one follows. -/
theorem reaches_of_open {p : Place} (hp : p ≠ .quoted .outside) {cs : List Char}
    (h : p.mode.after cs ≠ .outside) :
    (cut p cs).2.getLast?.elim ((cut p cs).1 = cs) (· <:+ cs) := by
  induction cs generalizing p with
  | nil => rfl
  | cons c cs ih =>
    -- what reaches the end behind a character reaches the end with it
    have hgrow : ∀ (last : Option (List Char)) {a b : Prop}, (a → b) →
        last.elim a (· <:+ cs) → last.elim b (· <:+ c :: cs) := by
      intro last a b hab hlast
      cases last with
      | none => exact hab hlast
      | some s => exact hlast.trans (List.suffix_cons c cs)
    -- where a slice has ended another one begins, for only that can be open at the end
    have hended : ∀ b : Prop, Mode.outside.after cs ≠ .outside →
        (cut .between cs).2.getLast?.elim b (· <:+ c :: cs) := by
      intro b hopen
      have hbetween := ih (p := .between) (by simp) hopen
      rw [cut_between_fst] at hbetween
      refine hgrow _ (fun hnil => ?_) hbetween
      rw [← hnil] at hopen
      exact absurd rfl hopen
    cases p with
    | between =>
      rw [cut]
      by_cases hspace : c = ' '
      · rw [if_pos hspace]
        rw [hspace] at h
        exact hended _ h
      · rw [if_neg hspace]
        obtain ⟨hmode, hplace⟩ := mode_first c
        have hrest := ih hplace (by rw [hmode]; exact h)
        rcases hslices : (cut (if c = '"' then Place.quoted .inside else .word .outside) cs).2 with
          - | ⟨s, ss⟩
        · rw [hslices] at hrest
          simp only [hslices, show (cut _ cs).1 = cs from hrest]
          exact List.suffix_rfl
        · obtain ⟨last, hlast⟩ : ∃ last, (s :: ss).getLast? = some last :=
            ⟨_, List.getLast?_eq_some_getLast (List.cons_ne_nil s ss)⟩
          rw [hslices, hlast] at hrest
          simp only [hslices, List.getLast?_cons_cons, hlast]
          exact hgrow (some last) (a := False) False.elim hrest
    | word m =>
      rw [cut]
      by_cases hend : m = .outside ∧ c = ' '
      · obtain ⟨rfl, rfl⟩ := hend
        rw [if_pos ⟨rfl, rfl⟩]
        exact hended _ h
      · rw [if_neg hend]
        exact hgrow _ (congrArg (c :: ·)) (ih (p := .word (m.next c)) (by simp) h)
    | quoted m =>
      rw [cut]
      by_cases hend : m.next c = .outside
      · have h : (m.next c).after cs ≠ .outside := h
        rw [hend] at h
        rw [if_pos hend]
        exact hended _ h
      · rw [if_neg hend]
        exact hgrow _ (congrArg (c :: ·))
          (ih (p := .quoted (m.next c)) (fun heq => hend (Place.quoted.inj heq)) h)

/-- Where a query ends inside quotes, its last slice reaches its end. -/
theorem suffix_of_open {query s : List Char} (hopen : Mode.outside.after query ≠ .outside)
    (hs : (slices query).getLast? = some s) : s <:+ query := by
  have hreach := reaches_of_open (p := .between) (by simp) hopen
  rw [show (cut .between query).2.getLast? = some s from hs] at hreach
  exact hreach

end FilterQuery.Query
