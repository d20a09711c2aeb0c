import FilterQuery.Proofs.Rejection

/-!
# Who survives a uniqueness rule

A pass of a uniqueness rule does the same to all twins: those that the strategy deletes are gone,
those that it marks are flagged, and all others are left without a flag. So the twins after a pass
can be computed from the twins before it, whatever stands between them (`twins_pass`). What is left
to say is what the strategies delete and mark of a list of twins, and `outcome_unique` says it for
groups of any size.
-/

namespace FilterQuery

open Manifest (StrategyName)
open Plan (demand? settle)

/-- The token without the flag it may have had. -/
def Token.cleared (t : Token) : Token :=
  if t.invalid then { t with invalid := false, invalidReason := none, invalidMessage := none }
  else t

/-- A token about which nothing is found loses its flag, if it had one. -/
theorem settle_eq_cleared {violations : List Violation} {t : Token}
    (h : demand? .mark violations t.id = none) : settle violations t = t.cleared :=
  settle_of_unmarked h

theorem Token.unseen_cleared : Unseen Token.cleared := by
  have hsettle : Token.cleared = settle [] := funext fun t => (settle_eq_cleared rfl).symm
  rw [hsettle]
  exact unseen_settle []

namespace Unique

/-- The token, flagged as a duplicate among its twins. -/
def flagged (c : Constraint) (ts : List Token) (t : Token) : Token :=
  { t with
    invalid := true, invalidReason := some reason, invalidMessage := some (messageFor c ts) }

/-- The twins, of which the first is valid. -/
def firstValid (c : Constraint) (ts : List Token) : List Token :=
  (ts.take 1).map (·.cleared) ++ (ts.drop 1).map (flagged c ts)

/-- What a strategy leaves of twins; of a token without a twin it is not asked. -/
def resolved (c : Constraint) (s : StrategyName) (ctx : Context Token) (ts : List Token) :
    List Token :=
  (ts.filter fun t => ¬(1 < ts.length ∧ t ∈ (s.resolveGroup ts ctx).delete)).map fun t =>
    if 1 < ts.length ∧ t ∈ (s.resolveGroup ts ctx).mark then flagged c ts t else t.cleared

/-! ## The twins after a pass -/

theorem twins_map {f : Token → Token} (hf : Unseen f) (c : Constraint) (tokens : List Token)
    (signature : String) :
    twins c (tokens.map f) signature = (twins c tokens signature).map f := by
  have hsame : ∀ t, decide (Unique.signature c (f t) = signature) =
      decide (Unique.signature c t = signature) := by
    intro t
    rw [hf.signature]
  rw [twins, hf.visible, filter_map_comm hsame]
  rfl

end Unique

namespace Validation

section

variable {tokens : List Token} (hids : (tokens.map (·.id)).Nodup) {fields : List Field}
  {c : Constraint} (hfields : ∀ f ∈ fields, f.isRuleDisabled (Unique.ruleId c) = false)
  (editing : List String) (priority : Value) (s : StrategyName)
include hids hfields

/-- What becomes of the flag of a token. -/
theorem settle_eq {t : Token} (ht : t ∈ tokens) :
    settle (run tokens fields [Unique.ruleBy c s priority] editing) t =
      if 1 < (Unique.twins c tokens (Unique.signature c t)).length ∧
          t ∈ (s.resolveGroup (Unique.twins c tokens (Unique.signature c t))
            (context tokens fields editing)).mark
      then Unique.flagged c (Unique.twins c tokens (Unique.signature c t)) t else t.cleared := by
  have hmarked := demand?_isSome_iff_of_enabled hids hfields editing priority s ht .mark
  rw [TokenLike.id_token] at hmarked
  cases hmark : demand? .mark (run tokens fields [Unique.ruleBy c s priority] editing) t.id with
  | some v =>
    rw [hmark] at hmarked
    rw [settle_of_mark hmark, demand?_mark_unique hids fields editing c s priority ht hmark, if_pos]
    · rfl
    · exact hmarked.mp rfl
  | none =>
    rw [hmark] at hmarked
    rw [if_neg, settle_eq_cleared hmark]
    exact fun h => Bool.false_ne_true (hmarked.mpr h)

/-- Which tokens stay. -/
theorem isNone_demand?_delete {t : Token} (ht : t ∈ tokens) :
    (demand? .delete (run tokens fields [Unique.ruleBy c s priority] editing)
        (TokenLike.id t)).isNone =
      decide (¬(1 < (Unique.twins c tokens (Unique.signature c t)).length ∧
        t ∈ (s.resolveGroup (Unique.twins c tokens (Unique.signature c t))
          (context tokens fields editing)).delete)) := by
  rw [Bool.eq_iff_iff, decide_eq_true_eq, Option.isNone_iff_eq_none,
    ← Option.not_isSome_iff_eq_none]
  exact not_congr (demand?_isSome_iff_of_enabled hids hfields editing priority s ht .delete)

/-- After a pass there is of all twins what the strategy leaves of them. -/
theorem twins_pass (signature : String) :
    Unique.twins c (pass fields [Unique.ruleBy c s priority] editing tokens) signature =
      Unique.resolved c s (context tokens fields editing)
        (Unique.twins c tokens signature) := by
  have htwin : ∀ t ∈ Unique.twins c tokens signature,
      t ∈ tokens ∧ Unique.signature c t = signature := by
    intro t ht
    obtain ⟨hvisible, hsignature⟩ := Unique.mem_twins_iff.mp ht
    exact ⟨mem_of_mem_visible hvisible, hsignature⟩
  rw [pass_eq hids, Unique.twins_map (unseen_settle _), survivors, Unique.twins_filter,
    Unique.resolved]
  refine Eq.trans (congrArg (List.map _) (List.filter_congr fun t ht => ?_))
    (List.map_congr_left fun t ht => ?_)
  · obtain ⟨htokens, rfl⟩ := htwin t ht
    exact isNone_demand?_delete hids hfields editing priority s htokens
  · obtain ⟨htokens, rfl⟩ := htwin t (List.mem_of_mem_filter ht)
    exact settle_eq hids hfields editing priority s htokens

end

end Validation

/-! ## The strategies -/

namespace Unique

section

variable {c : Constraint} {ctx : Context Token} {ts : List Token}

theorem resolved_singleton (s : StrategyName) (t : Token) : resolved c s ctx [t] = [t.cleared] := by
  simp [resolved]

/-- Where nobody is marked, those that are not deleted are left without a flag. -/
theorem resolved_of_unmarked {s : StrategyName} (hmark : (s.resolveGroup ts ctx).mark = []) :
    resolved c s ctx ts =
      (ts.filter fun t => ¬(1 < ts.length ∧ t ∈ (s.resolveGroup ts ctx).delete)).map
        (·.cleared) := by
  rw [resolved, hmark]
  simp

/-- Where all but the first are marked, they are left. -/
theorem resolved_of_late {s : StrategyName} (hnodup : ts.Nodup)
    (hdelete : (s.resolveGroup ts ctx).delete = [])
    (hmark : (s.resolveGroup ts ctx).mark = ts.drop 1) : resolved c s ctx ts = firstValid c ts := by
  rw [resolved, hdelete, hmark, List.filter_eq_self.mpr (by simp)]
  cases ts with
  | nil => rfl
  | cons first rest =>
    have hfirst := (List.nodup_cons.mp hnodup).1
    have hlate : ∀ t ∈ rest, 1 < (first :: rest).length := by
      intro t ht
      simpa using List.length_pos_of_mem ht
    rw [firstValid, List.map_cons, if_neg fun h => hfirst h.2]
    refine congrArg (first.cleared :: ·) (List.map_congr_left fun t ht => ?_)
    exact if_pos ⟨hlate t ht, ht⟩

theorem resolved_mark (hnodup : ts.Nodup) : resolved c .mark ctx ts = firstValid c ts :=
  resolved_of_late hnodup rfl rfl

/-- The newest twin is left alone. -/
theorem resolved_replace (hnodup : ts.Nodup) (hlength : 1 < ts.length) :
    ∃ t, newest? ctx ts = some t ∧ resolved c .replace ctx ts = [t.cleared] := by
  have hne : ts ≠ [] := List.ne_nil_of_length_pos (Nat.zero_lt_of_lt hlength)
  obtain ⟨k, hk, hnewest⟩ := exists_newest? ctx hne
  refine ⟨k, hnewest, ?_⟩
  have hleft : ∀ t ∈ ts, decide (¬(1 < ts.length ∧ t ∈ (keepNew ts ctx).delete)) =
      decide (t = k) := by
    intro t ht
    rw [decide_eq_decide, mem_keepNew_iff hnodup, hnewest]
    simp [hlength, ht, eq_comm]
  rw [resolved_of_unmarked (s := .replace) (mark_keepNew ts ctx)]
  show (ts.filter fun t => ¬(1 < ts.length ∧ t ∈ (keepNew ts ctx).delete)).map _ = [k.cleared]
  rw [List.filter_congr hleft, List.filter_eq, List.count_eq_one_of_mem hnodup hk]
  rfl

/-- Where some twins are new, what is kept is left without a flag. -/
theorem resolved_reject_of_fresh (hnodup : ts.Nodup) (hfresh : fresh ctx ts ≠ []) :
    resolved c .reject ctx ts = (kept ctx ts).map (·.cleared) := by
  rw [resolved_of_unmarked (s := .reject) (mark_keepOld_of_fresh hfresh)]
  congr 1
  apply filter_eq_kept hnodup
  intro t _
  simp [StrategyName.resolveGroup]

theorem resolved_reject_of_stale (hnodup : ts.Nodup) (hfresh : fresh ctx ts = []) :
    resolved c .reject ctx ts = firstValid c ts :=
  resolved_of_late hnodup (delete_keepOld_of_stale hfresh) (mark_keepOld_of_stale hfresh)

end

/-- What is left of a group of twins under each strategy. -/
structure Outcome (c : Constraint) (s : StrategyName) (ctx : Context Token)
    (ts left : List Token) : Prop where
  /-- A token without a twin loses its flag, if it had one. -/
  single : ∀ t, ts = [t] → left = [t.cleared]
  mark : s = .mark → left = firstValid c ts
  /-- The last twin that is being edited is left, or else the last one. -/
  replace : s = .replace → 1 < ts.length → ∃ t, newest? ctx ts = some t ∧ left = [t.cleared]
  reject_new : s = .reject → 1 < ts.length → stale ctx ts = [] → left = (ts.take 1).map (·.cleared)
  reject_old : s = .reject → 1 < ts.length → fresh ctx ts = [] → left = firstValid c ts
  reject_mixed : s = .reject → fresh ctx ts ≠ [] → stale ctx ts ≠ [] →
    left = (stale ctx ts).map (·.cleared)

theorem outcome_resolved {ts : List Token} (hnodup : ts.Nodup) (c : Constraint) (s : StrategyName)
    (ctx : Context Token) : Outcome c s ctx ts (resolved c s ctx ts) where
  single := by
    rintro t rfl
    exact resolved_singleton s t
  mark := by
    rintro rfl
    exact resolved_mark hnodup
  replace := by
    rintro rfl hlength
    exact resolved_replace hnodup hlength
  reject_new := by
    rintro rfl hlength hstale
    have hfresh : fresh ctx ts ≠ [] := by
      rw [fresh_eq_self hstale]
      exact List.ne_nil_of_length_pos (Nat.zero_lt_of_lt hlength)
    rw [resolved_reject_of_fresh hnodup hfresh, kept_of_fresh hstale]
  reject_old := by
    rintro rfl - hfresh
    exact resolved_reject_of_stale hnodup hfresh
  reject_mixed := by
    rintro rfl hfresh hstale
    rw [resolved_reject_of_fresh hnodup hfresh, kept_of_stale hstale]

end Unique

open Validation in
/-- **Who survives a uniqueness rule.** After a pass of the rule alone, each group of twins is what
the strategy leaves of it, in document order, whatever the group's size and wherever its members
stand. No field may switch the rule off. -/
theorem outcome_unique (host : Host) (c : Constraint) (s : StrategyName) (priority : Value)
    (r : Rule Token) (hr : (Preset.unique c s).rule host priority = .ok r) (tokens : List Token)
    (hids : (tokens.map (·.id)).Nodup) (fields : List Field)
    (hfields : ∀ f ∈ fields, f.isRuleDisabled r.id = false) (editing : List String) :
    let after := (validateTokens tokens fields [r] editing false).plan.apply tokens
    ∀ signature, Unique.Outcome c s (context tokens fields editing)
      (Unique.twins c tokens signature) (Unique.twins c after signature) := by
  obtain rfl := Preset.rule_unique hr
  intro after signature
  have hafter : Unique.twins c after signature = _ :=
    twins_pass hids hfields editing priority s signature
  rw [hafter]
  exact Unique.outcome_resolved (Unique.nodup_twins hids c signature) c s _

/-- Two groups that are interleaved and a token without a twin. -/
theorem outcome_unique_interleaved :
    let token (id key : String) : Token :=
      { id, type := .filter, key, value := id, invalid := true, invalidReason := some "old" }
    let valid (t : Token) : Token := { t with invalid := false, invalidReason := none }
    let tokens := [token "a" "tag", token "b" "owner", token "c" "status", token "d" "tag",
      token "e" "owner", token "f" "tag"]
    let r : Rule Token := Unique.ruleBy .key .reject (.int 1)
    let after := (validateTokens tokens [] [r] ["d"] false).plan.apply tokens
    let left (key : String) := Unique.twins .key after ("filter:" ++ key)
    (Preset.unique .key .reject).rule .standard (.int 1) = .ok r ∧ (tokens.map (·.id)).Nodup ∧
      (∀ f ∈ ([] : List Field), f.isRuleDisabled r.id = false) ∧
      (∀ signature, Unique.Outcome .key .reject (Validation.context tokens [] ["d"])
        (Unique.twins .key tokens signature) (Unique.twins .key after signature)) ∧
      left "tag" = [valid (token "a" "tag"), valid (token "f" "tag")] ∧
      left "status" = [valid (token "c" "status")] ∧
      left "owner" =
        [valid (token "b" "owner"),
         { token "e" "owner" with
           invalidReason := some "duplicate"
           invalidMessage := some "Only one \"owner\" filter is allowed" }] := by
  intro token valid tokens r after left
  have hr : (Preset.unique .key .reject).rule .standard (.int 1) = .ok r := rfl
  have hids : (tokens.map (·.id)).Nodup := by decide
  have hfields : ∀ f ∈ ([] : List Field), f.isRuleDisabled r.id = false := by simp
  have houtcome := outcome_unique .standard .key .reject (.int 1) r hr tokens hids [] hfields ["d"]
  refine ⟨hr, hids, hfields, houtcome, ?_⟩
  simp only [left, after, validateTokens, Validation.run_singleton]
  decide +kernel

end FilterQuery
