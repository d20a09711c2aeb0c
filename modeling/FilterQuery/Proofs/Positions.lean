import FilterQuery.Proofs.Rejection

/-!
# Duplicates in any order

Which tokens of a group of duplicates go is a question of what is being edited. Of a mixed group,
with new tokens and old ones, the rejecting rule deletes just the new ones
(`Unique.mem_keepOld_iff`); of a group with new tokens the replacing rule spares the last of these
(`Unique.newest?_of_fresh`). So documents of the same tokens lose the same ones, in whatever order
they hold them (`deleted_unique_perm`), if only all groups are mixed, or, for the replacing rule,
have new tokens and hold these in one order.
-/

namespace FilterQuery

open Manifest (StrategyName)
open Plan (demand? isAbandoned)
open Validation (context run visible)

variable {τ : Type} [TokenLike τ]

/-! ## Orders of pairs -/

theorem sublist_filter_of_pair {α : Type} {xs : List α} {p : α → Bool} {a b : α}
    (h : [a, b].Sublist xs) (ha : p a = true) (hb : p b = true) : [a, b].Sublist (xs.filter p) := by
  have hfilter := h.filter p
  rwa [List.filter_cons_of_pos ha, List.filter_cons_of_pos hb] at hfilter

/-- Without repetitions two elements stand in one order only. -/
theorem not_sublist_swap {α : Type} {xs : List α} (hnodup : xs.Nodup) {a b : α}
    (h : [a, b].Sublist xs) : ¬[b, a].Sublist xs := by
  induction xs with
  | nil => cases h
  | cons x xs ih =>
    obtain ⟨hx, hnodup⟩ := List.nodup_cons.mp hnodup
    intro h'
    cases h with
    | cons _ h =>
      cases h' with
      | cons _ h' => exact ih hnodup h h'
      | cons_cons _ h' => exact hx (h.subset (by simp))
    | cons_cons _ h =>
      cases h' with
      | cons _ h' => exact hx (h'.subset (by simp))
      | cons_cons _ h' => exact hx (h.subset (by simp))

/-- Rearranged elements are as they were if no two of them changed their order. -/
theorem eq_of_perm_of_pairs {α : Type} {xs ys : List α} (hperm : xs.Perm ys) (hnodup : xs.Nodup)
    (horder : ∀ a b, [a, b].Sublist xs → [a, b].Sublist ys) : xs = ys := by
  have hxs : xs.Pairwise fun a b => [a, b].Sublist ys :=
    List.pairwise_of_forall_sublist fun {a b} hab => horder a b hab
  have hys : ys.Pairwise fun a b => [a, b].Sublist ys :=
    List.pairwise_of_forall_sublist fun {a b} hab => hab
  refine List.Perm.eq_of_pairwise ?_ hxs hys hperm
  intro a b _ _ hab hba
  exact absurd hba (not_sublist_swap (hperm.nodup hnodup) hab)

namespace Unique

/-! ## One group -/

section

variable {ctx : Context τ} {ts us : List τ} {t : τ}

/-- A group with new and old members. -/
def Mixed (ctx : Context τ) (ts : List τ) : Prop :=
  (∃ t ∈ ts, ctx.isEditing t = true) ∧ ∃ t ∈ ts, ctx.isEditing t = false

theorem Mixed.perm (h : Mixed ctx ts) (hperm : ts.Perm us) : Mixed ctx us := by
  obtain ⟨⟨t, ht, hnew⟩, u, hu, hold⟩ := h
  exact ⟨⟨t, hperm.mem_iff.mp ht, hnew⟩, u, hperm.mem_iff.mp hu, hold⟩

theorem Mixed.fresh_ne_nil (h : Mixed ctx ts) : fresh ctx ts ≠ [] := by
  obtain ⟨⟨t, ht, hnew⟩, -⟩ := h
  exact List.ne_nil_of_mem (List.mem_filter.mpr ⟨ht, hnew⟩)

theorem Mixed.stale_ne_nil (h : Mixed ctx ts) : stale ctx ts ≠ [] := by
  obtain ⟨-, t, ht, hold⟩ := h
  exact List.ne_nil_of_mem (List.mem_filter.mpr ⟨ht, by rw [hold]; rfl⟩)

/-- Of a mixed group just the new members are rejected. -/
theorem mem_keepOld_iff (h : Mixed ctx ts) :
    t ∈ (keepOld ts ctx).delete ↔ t ∈ ts ∧ ctx.isEditing t = true := by
  rw [keepOld_of_mixed h.fresh_ne_nil h.stale_ne_nil]
  exact List.mem_filter

theorem newest?_of_fresh (hfresh : fresh ctx ts ≠ []) :
    newest? ctx ts = (fresh ctx ts).getLast? := by
  have hlast : (fresh ctx ts).getLast?.isSome = true := by
    rw [List.getLast?_isSome]
    exact hfresh
  exact Option.or_of_isSome hlast

end

theorem twins_perm {ts us : List τ} (h : ts.Perm us) (c : Constraint) (s : String) :
    (twins c ts s).Perm (twins c us s) :=
  (h.filter _).filter _

/-- The new members of a group are in one order wherever any two of them are. -/
theorem fresh_twins_eq {ctx : Context τ} {tokens tokens' : List τ} (hperm : tokens.Perm tokens')
    (hids : (tokens.map TokenLike.id).Nodup) (c : Constraint) (s : String)
    (horder : ∀ t ∈ twins c tokens s, ∀ u ∈ twins c tokens s, ctx.isEditing t = true →
      ctx.isEditing u = true → [t, u].Sublist tokens → [t, u].Sublist tokens') :
    fresh ctx (twins c tokens s) = fresh ctx (twins c tokens' s) := by
  refine eq_of_perm_of_pairs ((twins_perm hperm c s).filter _) ((nodup_twins hids c s).filter _) ?_
  intro t u hpair
  obtain ⟨ht, hnewt⟩ := List.mem_filter.mp (hpair.subset (by simp : t ∈ [t, u]))
  obtain ⟨hu, hnewu⟩ := List.mem_filter.mp (hpair.subset (by simp : u ∈ [t, u]))
  have htokens : [t, u].Sublist tokens :=
    ((hpair.trans List.filter_sublist).trans List.filter_sublist).trans List.filter_sublist
  have hmoved := horder t ht u hu hnewt hnewu htokens
  -- both members pass all filters on the way back
  obtain ⟨hvisiblet, hst⟩ := List.mem_filter.mp ht
  obtain ⟨hvisibleu, hsu⟩ := List.mem_filter.mp hu
  exact sublist_filter_of_pair (sublist_filter_of_pair (sublist_filter_of_pair hmoved
    (List.mem_filter.mp hvisiblet).2 (List.mem_filter.mp hvisibleu).2) hst hsu) hnewt hnewu

end Unique

/-! ## What a pass deletes -/

namespace Validation

section

variable {tokens : List τ} (hids : (tokens.map TokenLike.id).Nodup) (fields : List Field)
  (editing : List String) (c : Constraint) (s : StrategyName) (priority : Value)
include hids

/-- A uniqueness rule deletes visible tokens only. -/
theorem mem_visible_of_delete {t : τ} (ht : t ∈ tokens)
    (h : (demand? .delete (run tokens fields [Unique.ruleBy c s priority] editing)
      (TokenLike.id t)).isSome = true) : t ∈ visible tokens := by
  obtain ⟨-, hlisted, -⟩ := (demand?_unique_iff hids fields editing c s priority ht .delete).mp h
  exact (Unique.mem_twins_iff.mp (mem_of_mem_resolveGroup.1 hlisted)).1

/-- The deleted tokens are those that are pruned and those that the strategy wants gone from a group
of duplicates, unless their field switches the rule off. -/
theorem mem_deleted_unique (pruneEmpty : Bool) {id : String} :
    id ∈ (validateTokens tokens fields [Unique.ruleBy c s priority] editing
        pruneEmpty).plan.deleted ↔
      ∃ t ∈ tokens, TokenLike.id t = id ∧ ((pruneEmpty && isAbandoned editing t) = true ∨
        t ∈ visible tokens ∧ 1 < (Unique.twins c tokens (Unique.signature c t)).length ∧
          t ∈ (s.resolveGroup (Unique.twins c tokens (Unique.signature c t))
            (context tokens fields editing)).delete ∧
          isSwitchedOff fields (Unique.ruleId c) t = false) := by
  show id ∈ (Plan.build tokens _ editing pruneEmpty).deleted ↔ _
  rw [Plan.mem_deleted_build, List.mem_map]
  constructor
  · rintro ⟨⟨t, ht, rfl⟩, hpruned | hdelete⟩
    · rw [Plan.isPruned_eq hids editing pruneEmpty ht] at hpruned
      exact ⟨t, ht, rfl, Or.inl hpruned⟩
    · have hvisible := mem_visible_of_delete hids fields editing c s priority ht hdelete
      exact ⟨t, ht, rfl, Or.inr ⟨hvisible,
        (demand?_unique_iff hids fields editing c s priority ht .delete).mp hdelete⟩⟩
  · rintro ⟨t, ht, rfl, hpruned | ⟨-, hdelete⟩⟩
    · rw [← Plan.isPruned_eq hids editing pruneEmpty ht] at hpruned
      exact ⟨⟨t, ht, rfl⟩, Or.inl hpruned⟩
    · exact ⟨⟨t, ht, rfl⟩, Or.inr
        ((demand?_unique_iff hids fields editing c s priority ht .delete).mpr hdelete)⟩

/-- Documents with the same tokens lose the same ones if each group does. -/
theorem mem_deleted_unique_perm {tokens' : List τ} (hperm : tokens.Perm tokens')
    (hgroups : ∀ signature, 1 < (Unique.twins c tokens signature).length → ∀ t,
      t ∈ (s.resolveGroup (Unique.twins c tokens signature)
          (context tokens fields editing)).delete ↔
        t ∈ (s.resolveGroup (Unique.twins c tokens' signature)
          (context tokens' fields editing)).delete) (pruneEmpty : Bool) (id : String) :
    id ∈ (validateTokens tokens fields [Unique.ruleBy c s priority] editing
        pruneEmpty).plan.deleted ↔
      id ∈ (validateTokens tokens' fields [Unique.ruleBy c s priority] editing
        pruneEmpty).plan.deleted := by
  have hids' : (tokens'.map TokenLike.id).Nodup := (hperm.map _).nodup hids
  have hvisible : (visible tokens).Perm (visible tokens') := hperm.filter _
  rw [mem_deleted_unique hids, mem_deleted_unique hids']
  refine exists_congr fun t => and_congr hperm.mem_iff (and_congr_right fun _ => or_congr_right ?_)
  refine and_congr hvisible.mem_iff ?_
  rw [(Unique.twins_perm hperm c (Unique.signature c t)).length_eq]
  refine and_congr_right fun hlength => and_congr_left fun _ => hgroups _ ?_ t
  rwa [(Unique.twins_perm hperm c (Unique.signature c t)).length_eq]

/-- Nobody is marked where the strategy marks nobody of any group. -/
theorem marked_unique_eq_nil (pruneEmpty : Bool)
    (hgroups : ∀ signature, 1 < (Unique.twins c tokens signature).length →
      (s.resolveGroup (Unique.twins c tokens signature) (context tokens fields editing)).mark =
        []) :
    (validateTokens tokens fields [Unique.ruleBy c s priority] editing pruneEmpty).plan.marked =
      [] := by
  rw [List.eq_nil_iff_forall_not_mem]
  intro id hid
  obtain ⟨-, -, hmark⟩ := Plan.mem_marked_build.mp hid
  obtain ⟨v, hv, hasks⟩ := Plan.demand?_isSome_iff.mp hmark
  rw [run_unique hids, List.mem_flatMap] at hv
  obtain ⟨g, hg, hv⟩ := hv
  obtain ⟨signature, rfl, hlength⟩ := Unique.mem_conflicts_visible.mp hg
  obtain ⟨u, hu, -⟩ := List.mem_map.mp (Resolution.asks_mark.mp ⟨v, hv, hasks⟩)
  have hmember := List.mem_of_mem_filter hu
  have hnone := hgroups signature hlength
  rw [show (s.resolveGroup (Unique.groupOf c (visible tokens) signature).tokens _).mark = [] from
    hnone] at hmember
  cases hmember

end

/-! ## Two orders -/

theorem isEditing_iff {tokens : List τ} {fields : List Field} {editing : List String} {t : τ} :
    (context tokens fields editing).isEditing t = true ↔ TokenLike.id t ∈ editing := by
  simp [Context.isEditing, context]

theorem isEditing_eq_false_iff {tokens : List τ} {fields : List Field} {editing : List String}
    {t : τ} : (context tokens fields editing).isEditing t = false ↔ TokenLike.id t ∉ editing := by
  simp [Context.isEditing, context]

section

variable {tokens tokens' : List τ} (hperm : tokens.Perm tokens')
  (hids : (tokens.map TokenLike.id).Nodup) (fields : List Field) (editing : List String)
  (c : Constraint) (priority : Value) (pruneEmpty : Bool)

include hids in
theorem marked_reject_eq_nil
    (hmixed : ∀ s, 1 < (Unique.twins c tokens s).length →
      Unique.Mixed (context tokens fields editing) (Unique.twins c tokens s)) :
    (validateTokens tokens fields [Unique.ruleBy c .reject priority] editing
      pruneEmpty).plan.marked = [] :=
  marked_unique_eq_nil hids fields editing c .reject priority pruneEmpty
    fun s hlength => Unique.mark_keepOld_of_fresh (hmixed s hlength).fresh_ne_nil

include hperm in
/-- Groups that are mixed in one order are mixed in any other. -/
theorem mixed_twins_perm
    (hmixed : ∀ s, 1 < (Unique.twins c tokens s).length →
      Unique.Mixed (context tokens fields editing) (Unique.twins c tokens s)) {s : String}
    (hlength : 1 < (Unique.twins c tokens' s).length) :
    Unique.Mixed (context tokens' fields editing) (Unique.twins c tokens' s) := by
  have htwins := Unique.twins_perm hperm c s
  rw [← htwins.length_eq] at hlength
  exact (hmixed s hlength).perm htwins

include hperm hids in
/-- Of mixed groups the same tokens are rejected in any order. -/
theorem mem_deleted_reject_perm
    (hmixed : ∀ s, 1 < (Unique.twins c tokens s).length →
      Unique.Mixed (context tokens fields editing) (Unique.twins c tokens s)) (id : String) :
    id ∈ (validateTokens tokens fields [Unique.ruleBy c .reject priority] editing
        pruneEmpty).plan.deleted ↔
      id ∈ (validateTokens tokens' fields [Unique.ruleBy c .reject priority] editing
        pruneEmpty).plan.deleted := by
  refine mem_deleted_unique_perm hids fields editing c .reject priority hperm ?_ pruneEmpty id
  intro s hlength t
  have htwins := Unique.twins_perm hperm c s
  have hmixed' := mixed_twins_perm hperm fields editing c hmixed (htwins.length_eq ▸ hlength)
  show t ∈ (Unique.keepOld _ _).delete ↔ t ∈ (Unique.keepOld _ _).delete
  rw [Unique.mem_keepOld_iff (hmixed s hlength), Unique.mem_keepOld_iff hmixed', htwins.mem_iff]
  exact Iff.rfl

include hperm hids in
/-- Of groups whose new members are in one order the same tokens are replaced. -/
theorem mem_deleted_replace_perm
    (hnew : ∀ s, 1 < (Unique.twins c tokens s).length →
      Unique.fresh (context tokens fields editing) (Unique.twins c tokens s) ≠ [] ∧
        Unique.fresh (context tokens fields editing) (Unique.twins c tokens s) =
          Unique.fresh (context tokens' fields editing) (Unique.twins c tokens' s))
    (id : String) :
    id ∈ (validateTokens tokens fields [Unique.ruleBy c .replace priority] editing
        pruneEmpty).plan.deleted ↔
      id ∈ (validateTokens tokens' fields [Unique.ruleBy c .replace priority] editing
        pruneEmpty).plan.deleted := by
  refine mem_deleted_unique_perm hids fields editing c .replace priority hperm ?_ pruneEmpty id
  intro s hlength t
  obtain ⟨hfresh, hsame⟩ := hnew s hlength
  have hids' : (tokens'.map TokenLike.id).Nodup := (hperm.map _).nodup hids
  -- the last of the new members is the one that stays
  have hnewest : Unique.newest? (context tokens fields editing) (Unique.twins c tokens s) =
      Unique.newest? (context tokens' fields editing) (Unique.twins c tokens' s) := by
    rw [Unique.newest?_of_fresh hfresh, Unique.newest?_of_fresh (hsame ▸ hfresh), hsame]
  show t ∈ (Unique.keepNew _ _).delete ↔ t ∈ (Unique.keepNew _ _).delete
  rw [Unique.mem_keepNew_iff (Unique.nodup_twins hids c s),
    Unique.mem_keepNew_iff (Unique.nodup_twins hids' c s), hnewest,
    (Unique.twins_perm hperm c s).mem_iff]

end

end Validation

/-- **Duplicates go wherever they stand.** Take two documents of the same tokens in any two orders.
If each group of duplicates has both a token that is being edited and one that is not, the rejecting
rule deletes the same tokens of both documents and marks none. If each group has a token that is
being edited, and those of one group are in the same order in both documents, then the replacing
rule deletes the same tokens of both. -/
theorem deleted_unique_perm (host : Host) (c : Constraint) (priority priority' : Value)
    (rejects replaces : Rule Token)
    (hrejects : (Preset.unique c .reject).rule host priority = .ok rejects)
    (hreplaces : (Preset.unique c .replace).rule host priority' = .ok replaces)
    (tokens tokens' : List Token) (hperm : tokens.Perm tokens')
    (hids : (tokens.map (·.id)).Nodup) (fields : List Field) (editing : List String)
    (pruneEmpty : Bool) :
    let groups := Unique.conflicts c (visible tokens)
    let plan (r : Rule Token) (ts : List Token) : Plan :=
      (validateTokens ts fields [r] editing pruneEmpty).plan
    ((∀ g ∈ groups, (∃ t ∈ g.tokens, t.id ∈ editing) ∧ ∃ t ∈ g.tokens, t.id ∉ editing) →
      (∀ id, id ∈ (plan rejects tokens).deleted ↔ id ∈ (plan rejects tokens').deleted) ∧
        (plan rejects tokens).marked = [] ∧ (plan rejects tokens').marked = []) ∧
    ((∀ g ∈ groups, (∃ t ∈ g.tokens, t.id ∈ editing) ∧
        ∀ t ∈ g.tokens, ∀ u ∈ g.tokens, t.id ∈ editing → u.id ∈ editing →
          ([t, u].Sublist tokens ↔ [t, u].Sublist tokens')) →
      ∀ id, id ∈ (plan replaces tokens).deleted ↔ id ∈ (plan replaces tokens').deleted) := by
  obtain rfl := Preset.rule_unique hrejects
  obtain rfl := Preset.rule_unique hreplaces
  intro groups plan
  constructor
  case left =>
    intro hgroups
    have hmixed : ∀ s, 1 < (Unique.twins c tokens s).length →
        Unique.Mixed (context tokens fields editing) (Unique.twins c tokens s) := by
      intro s hlength
      obtain ⟨⟨t, ht, hnew⟩, u, hu, hold⟩ :=
        hgroups _ (Unique.mem_conflicts_visible.mpr ⟨s, rfl, hlength⟩)
      exact ⟨⟨t, ht, Validation.isEditing_iff.mpr hnew⟩,
        u, hu, Validation.isEditing_eq_false_iff.mpr hold⟩
    have hids' : (tokens'.map TokenLike.id).Nodup := (hperm.map _).nodup hids
    exact ⟨Validation.mem_deleted_reject_perm hperm hids fields editing c priority pruneEmpty
        hmixed,
      Validation.marked_reject_eq_nil hids fields editing c priority pruneEmpty hmixed,
      Validation.marked_reject_eq_nil hids' fields editing c priority pruneEmpty
        fun _ => Validation.mixed_twins_perm hperm fields editing c hmixed⟩
  case right =>
    intro hgroups
    refine Validation.mem_deleted_replace_perm hperm hids fields editing c priority' pruneEmpty ?_
    intro s hlength
    obtain ⟨⟨u, hu, hnew⟩, horder⟩ :=
      hgroups _ (Unique.mem_conflicts_visible.mpr ⟨s, rfl, hlength⟩)
    refine ⟨List.ne_nil_of_mem (List.mem_filter.mpr ⟨hu, Validation.isEditing_iff.mpr hnew⟩), ?_⟩
    refine Unique.fresh_twins_eq hperm hids c s ?_
    intro t ht u hu hnewt hnewu hpair
    exact (horder t ht u hu (Validation.isEditing_iff.mp hnewt)
      (Validation.isEditing_iff.mp hnewu)).mp hpair

/-- One old token and two new ones, with a token of another key between them: wherever the old one
stands, it is the one that stays when duplicates are rejected, and the last of the new ones is when
they are replaced. -/
theorem deleted_unique_perm_shuffled :
    let token (id key : String) : Token := { id, type := .filter, key, value := id }
    let tokens := [token "a" "tag", token "x" "owner", token "b" "tag", token "c" "tag"]
    let tokens' := [token "b" "tag", token "c" "tag", token "a" "tag", token "x" "owner"]
    let rejects : Rule Token := Unique.ruleBy .key .reject .null
    let replaces : Rule Token := Unique.ruleBy .key .replace .null
    let groups := Unique.conflicts .key (visible tokens)
    let plan (r : Rule Token) (ts : List Token) : Plan :=
      (validateTokens ts [] [r] ["b", "c"] true).plan
    (Preset.unique .key .reject).rule .standard .null = .ok rejects ∧
      (Preset.unique .key .replace).rule .standard .null = .ok replaces ∧
      tokens.Perm tokens' ∧ (tokens.map (·.id)).Nodup ∧
      (∀ g ∈ groups, (∃ t ∈ g.tokens, t.id ∈ ["b", "c"]) ∧ ∃ t ∈ g.tokens, t.id ∉ ["b", "c"]) ∧
      (∀ g ∈ groups, (∃ t ∈ g.tokens, t.id ∈ ["b", "c"]) ∧
        ∀ t ∈ g.tokens, ∀ u ∈ g.tokens, t.id ∈ ["b", "c"] → u.id ∈ ["b", "c"] →
          ([t, u].Sublist tokens ↔ [t, u].Sublist tokens')) ∧
      (plan rejects tokens).deleted = ["b", "c"] ∧
      (∀ id, id ∈ (plan rejects tokens).deleted ↔ id ∈ (plan rejects tokens').deleted) ∧
      (plan rejects tokens).marked = [] ∧ (plan rejects tokens').marked = [] ∧
      (plan replaces tokens).deleted = ["a", "b"] ∧
      (∀ id, id ∈ (plan replaces tokens).deleted ↔ id ∈ (plan replaces tokens').deleted) := by
  intro token tokens tokens' rejects replaces groups plan
  have hperm : tokens.Perm tokens' := by decide
  have hids : (tokens.map (·.id)).Nodup := by decide
  have hgroups : groups = [⟨"filter:tag", .str "tag",
      [token "a" "tag", token "b" "tag", token "c" "tag"]⟩] := by decide +kernel
  have hmixed : ∀ g ∈ groups,
      (∃ t ∈ g.tokens, t.id ∈ ["b", "c"]) ∧ ∃ t ∈ g.tokens, t.id ∉ ["b", "c"] := by
    rw [hgroups]
    decide
  have horder : ∀ g ∈ groups, (∃ t ∈ g.tokens, t.id ∈ ["b", "c"]) ∧
      ∀ t ∈ g.tokens, ∀ u ∈ g.tokens, t.id ∈ ["b", "c"] → u.id ∈ ["b", "c"] →
        ([t, u].Sublist tokens ↔ [t, u].Sublist tokens') := by
    rw [hgroups]
    decide
  obtain ⟨hreject, hreplace⟩ := deleted_unique_perm .standard .key .null .null rejects replaces
    rfl rfl tokens tokens' hperm hids [] ["b", "c"] true
  obtain ⟨hrejected, hmarked, hmarked'⟩ := hreject hmixed
  refine ⟨rfl, rfl, hperm, hids, hmixed, horder, ?_, hrejected, hmarked, hmarked', ?_,
    hreplace horder⟩
  · simp only [plan, validateTokens, Validation.run_singleton]
    decide +kernel
  · simp only [plan, validateTokens, Validation.run_singleton]
    decide +kernel

end FilterQuery
