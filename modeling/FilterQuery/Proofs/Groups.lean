import FilterQuery.Rule.Unique
import Mathlib.Data.List.Induction
import Mathlib.Data.List.Nodup

/-!
# Groups of duplicates

Groups are collected in one sweep that inserts each token at the end of its group. Read afterwards
they have a closed form, `groups_eq`: one group for each signature in the order of first occurrence,
with all tokens of that signature in document order.
-/

namespace FilterQuery.Unique

variable {τ : Type} [TokenLike τ]

/-! ## Signatures in order of first occurrence -/

theorem eraseDups_concat (ss : List String) (s : String) :
    (ss ++ [s]).eraseDups = if s ∈ ss then ss.eraseDups else ss.eraseDups ++ [s] := by
  rw [List.eraseDups_append]
  by_cases h : s ∈ ss
  · simp [List.removeAll, h]
  · simp [List.removeAll, h, List.eraseDups_cons]

theorem nodup_eraseDups (ss : List String) : ss.eraseDups.Nodup := by
  induction ss using List.reverseRecOn with
  | nil => exact List.nodup_nil
  | append_singleton ss s ih =>
    rw [eraseDups_concat]
    split
    · exact ih
    · rename_i hs
      refine List.nodup_append.mpr ⟨ih, List.nodup_singleton s, ?_⟩
      intro a ha b hb hab
      rw [List.mem_eraseDups] at ha
      rw [List.mem_singleton] at hb
      exact hs (hb ▸ hab ▸ ha)

/-! ## Insertion -/

theorem insert_of_notMem {s : String} {t : τ} {gs : List (Group τ)}
    (h : ∀ g ∈ gs, g.signature ≠ s) :
    insert s t gs = gs ++ [⟨s, TokenLike.key t, [t]⟩] := by
  induction gs with
  | nil => rfl
  | cons g gs ih =>
    rw [insert, if_neg (h g List.mem_cons_self),
      ih fun g hg => h g (List.mem_cons_of_mem _ hg)]
    rfl

theorem insert_map_of_mem {s : String} {t : τ} {ss : List String} (hnodup : ss.Nodup) (hs : s ∈ ss)
    (G : String → Group τ) (hG : ∀ s, (G s).signature = s) :
    insert s t (ss.map G) =
      ss.map fun s' => if s' = s then { G s' with tokens := (G s').tokens ++ [t] } else G s' := by
  induction ss with
  | nil => cases hs
  | cons first ss ih =>
    obtain ⟨hfirst, hnodup⟩ := List.nodup_cons.mp hnodup
    rw [List.map_cons, List.map_cons, insert]
    by_cases heq : first = s
    · have hrest : ss.map G = ss.map fun s' =>
          if s' = s then { G s' with tokens := (G s').tokens ++ [t] } else G s' := by
        refine List.map_congr_left fun s' hs' => ?_
        have hne : s' ≠ s := fun h => hfirst (heq ▸ h ▸ hs')
        rw [if_neg hne]
      rw [if_pos (by rw [hG, heq]), if_pos heq, hrest]
    · rw [if_neg (by rw [hG]; exact heq), if_neg heq]
      rcases List.mem_cons.mp hs with hs | hs
      · exact absurd hs.symm heq
      · rw [ih hnodup hs]

/-! ## The closed form -/

/-- The group of a signature among some tokens. -/
def groupOf (c : Constraint) (tokens : List τ) (s : String) : Group τ where
  signature := s
  key := ((tokens.find? fun t => signature c t = s).map TokenLike.key).getD .null
  tokens := tokens.filter fun t => signature c t = s

theorem groupOf_concat (c : Constraint) (tokens : List τ) (t : τ) {s : String}
    (hs : s ∈ tokens.map (signature c)) :
    groupOf c (tokens ++ [t]) s =
      if s = signature c t then
        { groupOf c tokens s with tokens := (groupOf c tokens s).tokens ++ [t] }
      else groupOf c tokens s := by
  obtain ⟨u, hu, hus⟩ := List.mem_map.mp hs
  have hfind : (tokens.find? fun t => signature c t = s).isSome = true := by
    rw [List.find?_isSome]
    exact ⟨u, hu, by simp [hus]⟩
  obtain ⟨first, hfirst⟩ := Option.isSome_iff_exists.mp hfind
  by_cases h : s = signature c t
  · subst h
    simp [groupOf, hfirst]
  · simp [groupOf, hfirst, h, Ne.symm h]

theorem groupOf_concat_new (c : Constraint) (tokens : List τ) (t : τ)
    (hs : signature c t ∉ tokens.map (signature c)) :
    groupOf c (tokens ++ [t]) (signature c t) = ⟨signature c t, TokenLike.key t, [t]⟩ := by
  have hnone : ∀ u ∈ tokens, signature c u ≠ signature c t :=
    fun u hu h => hs (h ▸ List.mem_map_of_mem hu)
  have hfind : (tokens.find? fun u => signature c u = signature c t) = none := by
    rw [List.find?_eq_none]
    simpa using hnone
  have hfilter : (tokens.filter fun u => signature c u = signature c t) = [] := by
    rw [List.filter_eq_nil_iff]
    simpa using hnone
  simp [groupOf, hfind, hfilter]

theorem groups_concat (c : Constraint) (tokens : List τ) (t : τ) :
    groups c (tokens ++ [t]) = insert (signature c t) t (groups c tokens) := by
  unfold groups
  rw [List.foldl_append]
  rfl

/-- The groups of some tokens: one for each signature, in order of first occurrence. -/
theorem groups_eq (c : Constraint) (tokens : List τ) :
    groups c tokens = (tokens.map (signature c)).eraseDups.map (groupOf c tokens) := by
  induction tokens using List.reverseRecOn with
  | nil => rfl
  | append_singleton tokens t ih =>
    rw [groups_concat, ih, List.map_append, List.map_cons, List.map_nil, eraseDups_concat]
    have hold : ∀ s ∈ (tokens.map (signature c)).eraseDups, s ∈ tokens.map (signature c) :=
      fun s hs => List.mem_eraseDups.mp hs
    by_cases hs : signature c t ∈ tokens.map (signature c)
    -- the last token joins the group of its signature
    · rw [if_pos hs, insert_map_of_mem (nodup_eraseDups _) (List.mem_eraseDups.mpr hs) _
        fun _ => rfl]
      refine List.map_congr_left fun s hmem => ?_
      rw [groupOf_concat c tokens t (hold s hmem)]
    -- or opens a new one, and leaves the others as they are
    · rw [if_neg hs, List.map_append, List.map_cons, List.map_nil,
        groupOf_concat_new c tokens t hs, insert_of_notMem]
      · congr 1
        refine List.map_congr_left fun s hmem => ?_
        have hne : s ≠ signature c t := fun h => hs (h ▸ hold s hmem)
        rw [groupOf_concat c tokens t (hold s hmem), if_neg hne]
      · intro g hg heq
        obtain ⟨s, hmem, rfl⟩ := List.mem_map.mp hg
        exact hs (heq ▸ hold s hmem)

theorem mem_groups_iff {c : Constraint} {tokens : List τ} {g : Group τ} :
    g ∈ groups c tokens ↔ ∃ t ∈ tokens, g = groupOf c tokens (signature c t) := by
  rw [groups_eq, List.mem_map]
  constructor
  · rintro ⟨s, hs, rfl⟩
    obtain ⟨t, ht, rfl⟩ := List.mem_map.mp (List.mem_eraseDups.mp hs)
    exact ⟨t, ht, rfl⟩
  · rintro ⟨t, ht, rfl⟩
    exact ⟨_, List.mem_eraseDups.mpr (List.mem_map_of_mem ht), rfl⟩

/-- The conflicts are the signatures that two tokens or more have. -/
theorem mem_conflicts_iff {c : Constraint} {tokens : List τ} {g : Group τ} :
    g ∈ conflicts c tokens ↔
      ∃ s, g = groupOf c tokens s ∧ 1 < (tokens.filter fun t => signature c t = s).length := by
  rw [conflicts, List.mem_filter, mem_groups_iff, decide_eq_true_eq]
  constructor
  · rintro ⟨⟨t, -, rfl⟩, hlength⟩
    exact ⟨_, rfl, hlength⟩
  · rintro ⟨s, rfl, hlength⟩
    obtain ⟨t, ht⟩ := List.exists_mem_of_length_pos (Nat.zero_lt_of_lt hlength)
    rw [List.mem_filter, decide_eq_true_eq] at ht
    exact ⟨⟨t, ht.1, by rw [ht.2]⟩, hlength⟩

theorem mem_of_mem_conflict {c : Constraint} {tokens : List τ} {g : Group τ}
    (hg : g ∈ conflicts c tokens) {t : τ} (ht : t ∈ g.tokens) : t ∈ tokens := by
  obtain ⟨s, rfl, -⟩ := mem_conflicts_iff.mp hg
  exact List.mem_of_mem_filter ht

end FilterQuery.Unique
