import FilterQuery.Proofs.Survival

/-!
# How many a limit leaves

The queue of a rejecting limit has the tokens being edited first and then the untouched ones,
backwards. What is cut off its front is therefore a head of the edited tokens and, once these are
used up, a tail of the untouched ones; what stays of the edited tokens is a tail (`edited_kept`) and
what stays of the untouched ones is a head (`untouched_kept`). A marking limit cuts a tail of the
counted tokens themselves. `outcome_maxCount` says this of a plan and of the tokens after it, with
the numbers, whatever the limit and whoever is being edited.
-/

namespace FilterQuery

open Manifest (StrategyName)
open Plan (demand?)

namespace MaxCount

/-- Whether a limit on a key counts a token. An asterisk stands for all keys, and plain text is
never counted. -/
def counts (key : String) (t : Token) : Bool :=
  !t.isPlaintext && (key = "*" || t.key = key)

theorem covers_ofValue (key : String) (t : Token) :
    (Scope.ofValue (.str key)).covers t = (key = "*" || t.key = key) := by
  by_cases hall : key = "*"
  · subst hall
    rfl
  · have hscope : Scope.ofValue (.str key) = .ofKey (.str key) := by
      unfold Scope.ofValue
      split
      · rename_i h
        exact absurd (Value.str.inj h) hall
      · rfl
    rw [hscope]
    simp [Scope.covers, hall, Bool.beq_eq_decide_eq]

theorem counted_ofValue (key : String) (tokens : List Token) :
    counted (.ofValue (.str key)) tokens = tokens.filter (counts key) := by
  rw [counted, Validation.visible, List.filter_filter]
  refine List.filter_congr fun t _ => ?_
  rw [covers_ofValue, TokenLike.isPlaintext_token, Bool.and_comm]
  rfl

theorem counts_of_unseen {f : Token → Token} (hf : Unseen f) (key : String) (t : Token) :
    counts key (f t) = counts key t := by
  have hplain := hf.isPlaintext t
  rw [TokenLike.isPlaintext_token, TokenLike.isPlaintext_token] at hplain
  rw [counts, counts, hplain, Value.str.inj (hf.key t)]

/-! ## What stays of a queue -/

section

variable {α : Type} [DecidableEq α] {l : List α} (h : l.Nodup)
include h

/-- A sublist has just its own members in the order of the list. -/
theorem filter_mem_eq {front : List α} (hsublist : front.Sublist l) :
    l.filter (· ∈ front) = front := by
  have hself : front.filter (· ∈ front) = front :=
    List.filter_eq_self.mpr fun a ha => decide_eq_true ha
  have hle : front.Sublist (l.filter (· ∈ front)) := by
    simpa only [hself] using hsublist.filter (· ∈ front)
  have hperm : front.Perm (l.filter (· ∈ front)) := by
    rw [List.perm_ext_iff_of_nodup (hsublist.nodup h) (h.filter _)]
    intro a
    rw [List.mem_filter, decide_eq_true_eq]
    exact ⟨fun ha => ⟨hsublist.subset ha, ha⟩, And.right⟩
  exact (hle.eq_of_length hperm.length_eq).symm

/-- What is not among the first elements is all that comes after them. -/
theorem filter_notMem_take (n : Nat) : (l.filter fun a => a ∉ l.take n) = l.drop n := by
  rw [← filter_mem_eq h (List.drop_sublist n l)]
  refine List.filter_congr fun a ha => ?_
  rw [decide_eq_decide]
  rw [← List.take_append_drop n l, List.mem_append] at ha
  constructor
  · intro hnot
    exact ha.resolve_left hnot
  · intro hback hfront
    exact List.disjoint_take_drop h (Nat.le_refl n) hfront hback

end

section

variable {ctx : Context Token} {ts : List Token} {n : Nat}

theorem mem_of_mem_take_queue {t : Token} (h : t ∈ (queue ctx ts).take n) : t ∈ ts :=
  (queue_perm ctx ts).mem_iff.mp (List.mem_of_mem_take h)

theorem mem_take_queue_of_edited {t : Token} (ht : ctx.isEditing t = true) :
    t ∈ (queue ctx ts).take n ↔ t ∈ (ts.filter ctx.isEditing).take n := by
  rw [queue_eq, List.take_append, List.mem_append, or_iff_left_iff_imp]
  intro h
  have huntouched := List.of_mem_filter (List.mem_reverse.mp (List.mem_of_mem_take h))
  simp [ht] at huntouched

theorem mem_take_queue_of_untouched {t : Token} (ht : ctx.isEditing t = false) :
    t ∈ (queue ctx ts).take n ↔
      t ∈ (ts.filter (!ctx.isEditing ·)).reverse.take (n - (ts.filter ctx.isEditing).length) := by
  rw [queue_eq, List.take_append, List.mem_append, or_iff_right_iff_imp]
  intro h
  have hedited := List.of_mem_filter (List.mem_of_mem_take h)
  simp [ht] at hedited

end

/-- The tokens that stay where a limit rejects the others. -/
def kept (ctx : Context Token) (most : Nat) (ts : List Token) : List Token :=
  ts.filter fun t => t ∉ (queue ctx ts).take (ts.length - most)

section

variable {ts : List Token} (hnodup : ts.Nodup) (ctx : Context Token) (most : Nat)
include hnodup

/-- The edited tokens go from the first on, so a tail of them stays. -/
theorem edited_kept :
    (kept ctx most ts).filter ctx.isEditing =
      (ts.filter ctx.isEditing).drop (ts.length - most) := by
  rw [kept, List.filter_comm, ← filter_notMem_take (hnodup.filter _)]
  refine List.filter_congr fun t ht => ?_
  rw [decide_eq_decide, mem_take_queue_of_edited (List.of_mem_filter ht)]

/-- The untouched tokens go from the last on, and only once all edited ones are gone. -/
theorem untouched_kept :
    (kept ctx most ts).filter (!ctx.isEditing ·) = (ts.filter (!ctx.isEditing ·)).take most := by
  have hsplit := List.length_eq_length_filter_add (l := ts) ctx.isEditing
  have hreverse : (ts.filter (!ctx.isEditing ·)).reverse.Nodup :=
    List.nodup_reverse.mpr (hnodup.filter _)
  have hhead : (ts.filter (!ctx.isEditing ·)).take most =
      (ts.filter (!ctx.isEditing ·)).take ((ts.filter (!ctx.isEditing ·)).length -
        (ts.length - most - (ts.filter ctx.isEditing).length)) := by
    rw [List.take_eq_take_iff]
    omega
  -- seen from the end, what goes is a head of the untouched tokens
  rw [hhead]
  apply List.reverse_injective
  rw [kept, List.filter_comm, ← List.filter_reverse, ← List.drop_reverse,
    ← filter_notMem_take hreverse]
  refine List.filter_congr fun t ht => ?_
  have huntouched : ctx.isEditing t = false := by
    simpa using List.of_mem_filter (List.mem_reverse.mp ht)
  rw [decide_eq_decide, mem_take_queue_of_untouched huntouched]

theorem length_kept : (kept ctx most ts).length = min ts.length most := by
  have hsplit := List.length_eq_length_filter_add (l := ts) ctx.isEditing
  have hkept := List.length_eq_length_filter_add (l := kept ctx most ts) ctx.isEditing
  rw [edited_kept hnodup, untouched_kept hnodup, List.length_drop, List.length_take] at hkept
  omega

end

/-! ## The outcome -/

/-- What a rejecting limit does to the counted tokens: its plan, and what is left of them. -/
structure Rejected (most : Nat) (ctx : Context Token) (ts left : List Token) (plan : Plan) :
    Prop where
  /-- Who is deleted is counted, and is deleted once. -/
  deleted_counted : plan.deleted.Sublist (ts.map (·.id))
  length_deleted : plan.deleted.length = ts.length - most
  left_eq : left = (ts.filter fun t => t.id ∉ plan.deleted).map (·.cleared)
  length_left : left.length = min ts.length most
  /-- No untouched token goes before the last edited one. -/
  edited_first : ∀ t ∈ ts, ctx.isEditing t = false → t.id ∈ plan.deleted →
    ∀ u ∈ ts, ctx.isEditing u = true → u.id ∈ plan.deleted
  /-- The last ones of the edited tokens are left. -/
  left_edited : left.filter ctx.isEditing =
    ((ts.filter ctx.isEditing).drop (ts.length - most)).map (·.cleared)
  /-- The first ones of the untouched tokens are left. -/
  left_untouched : left.filter (!ctx.isEditing ·) =
    ((ts.filter (!ctx.isEditing ·)).take most).map (·.cleared)

/-- What a marking limit does to the counted tokens. -/
structure Marked (most : Nat) (ts : List Token) (plan : Plan) : Prop where
  deleted_eq : plan.deleted = []
  marked_last : plan.marked <:+ ts.map (·.id)
  length_marked : plan.marked.length = ts.length - most

/-- A plan that deletes just the front of the queue meets the limit. -/
theorem rejected_of_deleted {ts : List Token} (hids : (ts.map (·.id)).Nodup) (most : Nat)
    (ctx : Context Token) {plan : Plan}
    (hdeleted : plan.deleted =
      (ts.filter fun t => t ∈ (queue ctx ts).take (ts.length - most)).map (·.id)) :
    Rejected most ctx ts ((kept ctx most ts).map (·.cleared)) plan := by
  have hnodup : ts.Nodup := List.Nodup.of_map _ hids
  have hgone : ∀ t ∈ ts, t.id ∈ plan.deleted ↔ t ∈ (queue ctx ts).take (ts.length - most) := by
    intro t ht
    rw [hdeleted, List.mem_map]
    constructor
    · rintro ⟨u, hu, hid⟩
      obtain ⟨hu, hfront⟩ := List.mem_filter.mp hu
      obtain rfl : u = t := List.inj_on_of_nodup_map hids hu ht hid
      exact of_decide_eq_true hfront
    · intro hfront
      exact ⟨t, List.mem_filter.mpr ⟨ht, decide_eq_true hfront⟩, rfl⟩
  have hediting : ∀ t, ctx.isEditing (Token.cleared t) = ctx.isEditing t := by
    intro t
    unfold Context.isEditing
    rw [Token.unseen_cleared.id]
  constructor
  case deleted_counted =>
    rw [hdeleted]
    exact List.filter_sublist.map _
  case length_deleted =>
    have hsplit := List.length_eq_length_filter_add (l := ts)
      fun t => t ∈ (queue ctx ts).take (ts.length - most)
    have hkept := length_kept hnodup ctx most
    simp only [kept, decide_not] at hkept
    rw [hdeleted, List.length_map]
    omega
  case left_eq =>
    congr 1
    refine List.filter_congr fun t ht => ?_
    rw [decide_eq_decide, hgone t ht]
  case length_left =>
    rw [List.length_map, length_kept hnodup]
  case edited_first =>
    intro t ht huntouched hdeleted u hu hedited
    rw [hgone t ht, mem_take_queue_of_untouched huntouched] at hdeleted
    rw [hgone u hu, mem_take_queue_of_edited hedited]
    -- the cut reaches the untouched tokens, so it is behind all edited ones
    have hreach := List.length_pos_of_mem hdeleted
    rw [List.length_take] at hreach
    rw [List.take_of_length_le (by omega)]
    exact List.mem_filter.mpr ⟨hu, hedited⟩
  case left_edited =>
    rw [filter_map_comm hediting, edited_kept hnodup]
  case left_untouched =>
    rw [filter_map_comm fun t => by rw [hediting], untouched_kept hnodup]

/-- A plan that marks just the tail of the counted tokens meets the limit. -/
theorem marked_of_marked {ts : List Token} {most : Nat} {plan : Plan}
    (hdeleted : plan.deleted = [])
    (hmarked : plan.marked = (ts.drop (ts.length - (ts.length - most))).map (·.id)) :
    Marked most ts plan where
  deleted_eq := hdeleted
  marked_last := by
    rw [hmarked]
    exact (List.drop_suffix _ _).map _
  length_marked := by
    rw [hmarked, List.length_map, List.length_drop]
    omega

end MaxCount

namespace Validation

open MaxCount (counts limit queue kept)

variable {tokens : List Token} (hids : (tokens.map (·.id)).Nodup) {fields : List Field}
  {key : String} (hfields : ∀ f ∈ fields,
    f.isRuleDisabled (MaxCount.ruleId (.ofValue (.str key))) = false)
  (editing : List String) (most : Int) (message : String) (priority : Value)
include hids hfields

/-- Where no field switches the rule off, all of the front go. -/
theorem delete_maxCount_iff_front {t : Token} (ht : t ∈ tokens) :
    (demand? .delete (run tokens fields
        [MaxCount.ruleBy (.ofValue (.str key)) most .reject message priority] editing)
        t.id).isSome = true ↔
      t ∈ (queue (context tokens fields editing) (tokens.filter (counts key))).take
        ((tokens.filter (counts key)).length - limit most) := by
  have hiff := delete_maxCount_iff hids fields editing (.ofValue (.str key)) most message priority
    ht
  rw [isSwitchedOff_eq_false hfields, MaxCount.front, MaxCount.excess,
    MaxCount.counted_ofValue] at hiff
  simpa using hiff

theorem deleted_maxCount :
    (validateTokens tokens fields
        [MaxCount.ruleBy (.ofValue (.str key)) most .reject message priority] editing
        false).plan.deleted =
      ((tokens.filter (counts key)).filter fun t =>
        t ∈ (queue (context tokens fields editing) (tokens.filter (counts key))).take
          ((tokens.filter (counts key)).length - limit most)).map (·.id) := by
  rw [deleted_eq, List.filter_filter]
  congr 1
  refine List.filter_congr fun t ht => ?_
  rw [Bool.eq_iff_iff, Bool.and_eq_true, decide_eq_true_eq]
  refine (delete_maxCount_iff_front hids hfields editing most message priority ht).trans ?_
  rw [iff_self_and]
  exact fun hfront => List.of_mem_filter (MaxCount.mem_of_mem_take_queue hfront)

theorem left_maxCount :
    (pass fields [MaxCount.ruleBy (.ofValue (.str key)) most .reject message priority] editing
        tokens).filter (counts key) =
      (kept (context tokens fields editing) (limit most) (tokens.filter (counts key))).map
        (·.cleared) := by
  rw [pass_eq hids, filter_map_comm (MaxCount.counts_of_unseen (unseen_settle _) key), survivors,
    List.filter_comm, kept]
  refine Eq.trans (congrArg (List.map _) (List.filter_congr fun t ht => ?_))
    (List.map_congr_left fun t _ => ?_)
  · rw [Bool.eq_iff_iff, Option.isNone_iff_eq_none, ← Option.not_isSome_iff_eq_none,
      decide_eq_true_eq]
    exact not_congr (delete_maxCount_iff_front hids hfields editing most message priority
      (List.mem_of_mem_filter ht))
  · apply settle_eq_cleared
    rw [← Option.not_isSome_iff_eq_none, Plan.demand?_isSome_iff, run_maxCount_reject hids,
      Resolution.asks_mark, Resolution.enforced, MaxCount.mark_dropNew]
    exact List.not_mem_nil

/-- What a marking limit marks is the tail of the counted tokens. -/
theorem marked_maxCount :
    let plan := (validateTokens tokens fields
      [MaxCount.ruleBy (.ofValue (.str key)) most .mark message priority] editing false).plan
    plan.deleted = [] ∧
      plan.marked = ((tokens.filter (counts key)).drop ((tokens.filter (counts key)).length -
        ((tokens.filter (counts key)).length - limit most))).map (·.id) := by
  intro plan
  let before := tokens.filter (counts key)
  let late := before.drop (before.length - (before.length - limit most))
  have hlate : late.Sublist tokens := (List.drop_sublist _ before).trans List.filter_sublist
  have hrun : run tokens fields
      [MaxCount.ruleBy (.ofValue (.str key)) most .mark message priority] editing =
        Resolution.violations { mark := late } (MaxCount.ruleId (.ofValue (.str key)))
          MaxCount.reason message := by
    rw [run_maxCount_eq hids, Resolution.enforced_eq_self hfields, MaxCount.excess,
      MaxCount.counted_ofValue]
    rfl
  have hdelete : ∀ t : Token, (demand? .delete (run tokens fields
      [MaxCount.ruleBy (.ofValue (.str key)) most .mark message priority] editing)
        (TokenLike.id t)).isSome = false := by
    intro t
    rw [← Bool.not_eq_true, hrun, Plan.demand?_isSome_iff, Resolution.asks_delete]
    exact List.not_mem_nil
  constructor
  · show (validateTokens _ _ _ _ _).plan.deleted = []
    rw [deleted_eq]
    simp only [hdelete, List.filter_false, List.map_nil]
  · show (validateTokens _ _ _ _ _).plan.marked = late.map _
    rw [marked_eq, ← MaxCount.filter_mem_eq (List.Nodup.of_map _ hids) hlate]
    simp only [hdelete, Bool.not_false, Bool.true_and]
    congr 1
    refine List.filter_congr fun t ht => ?_
    rw [Bool.eq_iff_iff, decide_eq_true_eq, hrun]
    exact Resolution.demand?_isSome_iff (r := { mark := late }) hids .mark
      (fun u hu => hlate.subset hu) _ _ _ ht

end Validation

open MaxCount (counts limit Rejected Marked) in
/-- **Limits are met exactly.** A limit on a key, or on all keys, rejects or marks just as many of
the tokens it counts as there are too many. Rejecting takes the edited tokens from the first on and
then the untouched ones from the last on; marking takes the last ones of all. No field may switch
the rule off. There is such a rule for every number allowed that can be written at all. -/
theorem outcome_maxCount (host : Host) (key : String) (most : Int) (s : StrategyName)
    (message : Option String) (priority : Value) (tokens : List Token)
    (hids : (tokens.map (·.id)).Nodup) (fields : List Field)
    (hfields : ∀ f ∈ fields, f.isRuleDisabled (MaxCount.ruleId (.ofValue (.str key))) = false)
    (editing : List String) :
    let preset := Preset.maxCount (.ofValue (.str key)) most s message
    ((∃ r : Rule Token, preset.rule host priority = .ok r) ↔
      limit most < Decimal.leastLong) ∧
      ∀ r : Rule Token, preset.rule host priority = .ok r →
        let plan := (validateTokens tokens fields [r] editing false).plan
        let before := tokens.filter (counts key)
        let left := (plan.apply tokens).filter (counts key)
        (s = .reject →
          Rejected (limit most) (Validation.context tokens fields editing) before left plan) ∧
        (s = .mark → Marked (limit most) before plan) := by
  intro preset
  refine ⟨Preset.exists_rule_maxCount_iff, fun r hr => ?_⟩
  obtain rfl := Preset.rule_maxCount hr
  refine ⟨?_, ?_⟩
  · rintro rfl
    have hcounted : ((tokens.filter (counts key)).map (·.id)).Nodup :=
      hids.sublist (List.filter_sublist.map _)
    have hleft := Validation.left_maxCount hids hfields editing most
      (message.getD (MaxCount.defaultMessage (.ofValue (.str key)) most)) priority
    rw [Validation.pass] at hleft
    rw [hleft]
    exact MaxCount.rejected_of_deleted hcounted _ _
      (Validation.deleted_maxCount hids hfields editing most _ priority)
  · rintro rfl
    obtain ⟨hdeleted, hmarked⟩ := Validation.marked_maxCount hids hfields editing most
      (message.getD (MaxCount.defaultMessage (.ofValue (.str key)) most)) priority
    exact MaxCount.marked_of_marked hdeleted hmarked

/-- Five tokens are counted and two are allowed: rejecting takes both edited ones and the last of
the others, marking takes the last three. -/
theorem outcome_maxCount_mixed :
    let tag : Field := { key := "tag", label := "Tag", operators := ["is"]
                         validation := [("max-count-total", false)] }
    let token (id key : String) : Token := { id, type := .filter, key, value := id }
    let tokens := [token "a" "tag", token "b" "tag", token "c" "owner",
      { token "d" "tag" with type := .plaintext }, token "e" "tag", token "f" "tag",
      token "g" "tag"]
    let r (s : StrategyName) : Rule Token :=
      MaxCount.ruleBy (.ofKey (.str "tag")) 2 s "Too many" (.int 0)
    let plan (s : StrategyName) := (validateTokens tokens [tag] [r s] ["b", "f"] false).plan
    let before := tokens.filter (MaxCount.counts "tag")
    let left := ((plan .reject).apply tokens).filter (MaxCount.counts "tag")
    let preset (s : StrategyName) : Preset :=
      .maxCount (.ofValue (.str "tag")) 2 s (some "Too many")
    (tokens.map (·.id)).Nodup ∧
      (∀ f ∈ [tag], f.isRuleDisabled (MaxCount.ruleId (.ofValue (.str "tag"))) = false) ∧
      (∀ s, (preset s).rule .standard (.int 0) = .ok (r s)) ∧
      MaxCount.Rejected (MaxCount.limit 2) (Validation.context tokens [tag] ["b", "f"]) before left
        (plan .reject) ∧
      MaxCount.Marked (MaxCount.limit 2) before (plan .mark) ∧
      (plan .reject).deleted = ["b", "f", "g"] ∧ left = [token "a" "tag", token "e" "tag"] ∧
      (plan .mark).marked = ["e", "f", "g"] := by
  intro tag token tokens r plan before left preset
  have hids : (tokens.map (·.id)).Nodup := by decide
  have hfields : ∀ f ∈ [tag],
      f.isRuleDisabled (MaxCount.ruleId (.ofValue (.str "tag"))) = false := by decide
  have hbuilt : ∀ s, (preset s).rule .standard (.int 0) = .ok (r s) := fun _ =>
    Preset.rule_maxCount_iff.mpr ⟨rfl, by decide +kernel, rfl⟩
  have houtcome := fun s => (outcome_maxCount .standard "tag" 2 s (some "Too many") (.int 0) tokens
    hids [tag] hfields ["b", "f"]).2 (r s) (hbuilt s)
  refine ⟨hids, hfields, hbuilt, (houtcome .reject).1 rfl, (houtcome .mark).2 rfl, ?_⟩
  simp only [left, plan, validateTokens, Validation.run_singleton]
  decide +kernel

end FilterQuery
