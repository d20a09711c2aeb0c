import FilterQuery.Proofs.Repetition

/-!
# When rejecting duplicates settles

A rule that keeps old duplicates and discards new ones has three cases: a group may be all new, all
old, or mixed. In a mixed group the new tokens go and nobody else is marked. If two old ones are
left, they are a group that is all old for the next pass, which marks all but the first of them. So
one pass is enough just where no mixed group has two old tokens (`reject_settles_iff`); deletions
are over after one pass in any case.
-/

namespace FilterQuery

open Manifest (StrategyName)
open Plan (demand? settle)

variable {τ : Type} [TokenLike τ]

namespace Unique

/-! ## The three cases -/

/-- The members of a group that are being edited. -/
def fresh (ctx : Context τ) (ts : List τ) : List τ := ts.filter ctx.isEditing

/-- The members of a group that are not. -/
def stale (ctx : Context τ) (ts : List τ) : List τ := ts.filter fun t => !ctx.isEditing t

theorem split_eq (ctx : Context τ) (ts : List τ) : ctx.split ts = (fresh ctx ts, stale ctx ts) := by
  rw [Context.split, List.partition_eq_filter_filter]
  rfl

section

variable {ctx : Context τ} {ts : List τ}

theorem fresh_eq_self (h : stale ctx ts = []) : fresh ctx ts = ts := by
  rw [stale, List.filter_eq_nil_iff] at h
  rw [fresh, List.filter_eq_self]
  intro t ht
  simpa using h t ht

theorem stale_eq_self (h : fresh ctx ts = []) : stale ctx ts = ts := by
  rw [fresh, List.filter_eq_nil_iff] at h
  rw [stale, List.filter_eq_self]
  intro t ht
  simpa using h t ht

theorem keepOld_of_fresh (h : stale ctx ts = []) : keepOld ts ctx = { delete := ts.drop 1 } := by
  rw [keepOld, split_eq, h, fresh_eq_self h]

theorem keepOld_of_stale (h : fresh ctx ts = []) (hne : stale ctx ts ≠ []) :
    keepOld ts ctx = { mark := ts.drop 1 } := by
  obtain ⟨t, rest, ht⟩ := List.exists_cons_of_ne_nil hne
  rw [keepOld, split_eq, h, ht]
  rfl

theorem keepOld_of_mixed (hfresh : fresh ctx ts ≠ []) (hstale : stale ctx ts ≠ []) :
    keepOld ts ctx = { delete := fresh ctx ts } := by
  obtain ⟨t, rest, ht⟩ := List.exists_cons_of_ne_nil hstale
  obtain ⟨u, rest', hu⟩ := List.exists_cons_of_ne_nil hfresh
  rw [keepOld, split_eq, hu, ht]

theorem mark_keepOld_of_fresh (h : fresh ctx ts ≠ []) : (keepOld ts ctx).mark = [] := by
  by_cases hstale : stale ctx ts = []
  · rw [keepOld_of_fresh hstale]
  · rw [keepOld_of_mixed h hstale]

theorem mark_keepOld_of_stale (h : fresh ctx ts = []) : (keepOld ts ctx).mark = ts.drop 1 := by
  by_cases hstale : stale ctx ts = []
  · rw [keepOld_of_fresh hstale, ← fresh_eq_self hstale, h]
    rfl
  · rw [keepOld_of_stale h hstale]

theorem delete_keepOld_of_stale (h : fresh ctx ts = []) : (keepOld ts ctx).delete = [] := by
  by_cases hstale : stale ctx ts = []
  · rw [keepOld_of_fresh hstale, ← fresh_eq_self hstale, h]
    rfl
  · rw [keepOld_of_stale h hstale]

end

/-! ## What is kept of a group -/

/-- The old members if there are some, and else the first new one. -/
def kept (ctx : Context τ) (ts : List τ) : List τ :=
  match stale ctx ts with
  | [] => ts.take 1
  | t :: rest => t :: rest

section

variable {ctx : Context τ} {ts : List τ}

theorem kept_of_fresh (h : stale ctx ts = []) : kept ctx ts = ts.take 1 := by
  rw [kept, h]

theorem kept_of_stale (h : stale ctx ts ≠ []) : kept ctx ts = stale ctx ts := by
  obtain ⟨t, rest, ht⟩ := List.exists_cons_of_ne_nil h
  rw [kept, ht]

theorem kept_eq_self (h : fresh ctx ts = []) : kept ctx ts = ts := by
  have hstale := stale_eq_self h
  by_cases hnil : stale ctx ts = []
  · rw [kept_of_fresh hnil, ← hstale, hnil]
    rfl
  · rw [kept_of_stale hnil, hstale]

theorem length_kept_le (h : (stale ctx ts).length ≤ 1) : (kept ctx ts).length ≤ 1 := by
  by_cases hnil : stale ctx ts = []
  · rw [kept_of_fresh hnil, List.length_take]
    omega
  · rw [kept_of_stale hnil]
    exact h

theorem fresh_stale (ctx : Context τ) (ts : List τ) : fresh ctx (stale ctx ts) = [] := by
  rw [fresh, stale, List.filter_filter, List.filter_eq_nil_iff]
  simp

/-- A test that fails for just the tokens that are deleted selects the kept ones. -/
theorem filter_eq_kept (hnodup : ts.Nodup) {p : τ → Bool}
    (hp : ∀ t ∈ ts, p t = false ↔ 1 < ts.length ∧ t ∈ (keepOld ts ctx).delete) :
    ts.filter p = kept ctx ts := by
  by_cases hstale : stale ctx ts = []
  · -- all are new: the first one stays
    rw [kept_of_fresh hstale]
    rw [keepOld_of_fresh hstale] at hp
    cases ts with
    | nil => rfl
    | cons t rest =>
      have hrest : ∀ u ∈ rest, p u = false := by
        intro u hu
        have hpos := List.length_pos_of_mem hu
        exact (hp u (List.mem_cons_of_mem _ hu)).mpr ⟨by simpa using hpos, hu⟩
      have ht : p t = true := by
        rw [← Bool.not_eq_false]
        intro hfalse
        exact (List.nodup_cons.mp hnodup).1 ((hp t List.mem_cons_self).mp hfalse).2
      rw [List.filter_cons_of_pos ht, List.filter_eq_nil_iff.mpr (by simpa using hrest)]
      rfl
  · rw [kept_of_stale hstale]
    by_cases hfresh : fresh ctx ts = []
    · -- all are old: nobody goes
      rw [keepOld_of_stale hfresh hstale] at hp
      rw [stale_eq_self hfresh, List.filter_eq_self]
      intro t ht
      rw [← Bool.not_eq_false, hp t ht]
      simp
    · rw [keepOld_of_mixed hfresh hstale] at hp
      have hlength : 1 < ts.length := by
        have hsum : (fresh ctx ts).length + (stale ctx ts).length = ts.length :=
          (List.length_eq_length_filter_add ctx.isEditing).symm
        have hposFresh := List.length_pos_of_ne_nil hfresh
        have hposStale := List.length_pos_of_ne_nil hstale
        omega
      rw [stale]
      refine List.filter_congr fun t ht => ?_
      have hgone : p t = false ↔ ctx.isEditing t = true := by
        rw [hp t ht, fresh, List.mem_filter]
        exact ⟨fun h => h.2.2, fun h => ⟨hlength, ht, h⟩⟩
      cases hedit : ctx.isEditing t with
      | true => exact hgone.mpr hedit
      | false =>
        rw [hedit] at hgone
        simpa using hgone

end

end Unique

/-! ## What a pass leaves -/

namespace Validation

section

variable {tokens : List τ} (hids : (tokens.map TokenLike.id).Nodup) {fields : List Field}
  {c : Constraint} (hfields : ∀ f ∈ fields, f.isRuleDisabled (Unique.ruleId c) = false)
  (editing : List String) (priority : Value)
include hids hfields

/-- Something is asked of a token just if it has twins and the strategy wants it. -/
theorem demand?_isSome_iff_of_enabled (s : StrategyName) {t : τ} (ht : t ∈ tokens)
    (action : Action) :
    (demand? action (run tokens fields [Unique.ruleBy c s priority] editing)
        (TokenLike.id t)).isSome = true ↔
      1 < (Unique.twins c tokens (Unique.signature c t)).length ∧
        t ∈ (s.resolveGroup (Unique.twins c tokens (Unique.signature c t))
          (context tokens fields editing)).listed action := by
  have hiff := demand?_unique_iff hids fields editing c s priority ht action
  rw [isSwitchedOff_eq_false hfields] at hiff
  simpa using hiff

/-- A pass leaves of each group what is to be kept of it. -/
theorem twins_survivors (s : String) :
    Unique.twins c (survivors (run tokens fields [Unique.ruleBy c .reject priority] editing) tokens)
        s =
      Unique.kept (context tokens fields editing) (Unique.twins c tokens s) := by
  rw [survivors, Unique.twins_filter]
  apply Unique.filter_eq_kept (Unique.nodup_twins hids c s)
  intro t ht
  obtain ⟨hvisible, rfl⟩ := Unique.mem_twins_iff.mp ht
  rw [Option.isNone_eq_false_iff]
  exact demand?_isSome_iff_of_enabled hids hfields editing priority .reject
    (mem_of_mem_visible hvisible) .delete

/-- In a group that is all old every member but the first is marked. -/
theorem demand?_mark_of_late {t : τ} (ht : t ∈ visible tokens)
    (hfresh : Unique.fresh (context tokens fields editing)
      (Unique.twins c tokens (Unique.signature c t)) = [])
    (hlate : t ∈ (Unique.twins c tokens (Unique.signature c t)).drop 1) :
    demand? .mark (run tokens fields [Unique.ruleBy c .reject priority] editing)
        (TokenLike.id t) =
      some (Unique.markOf c (Unique.twins c tokens (Unique.signature c t))
        ((Unique.twins c tokens (Unique.signature c t)).drop 1)) := by
  have hlength : 1 < (Unique.twins c tokens (Unique.signature c t)).length := by
    have hpos := List.length_pos_of_mem hlate
    rw [List.length_drop] at hpos
    omega
  have hmark : (StrategyName.reject.resolveGroup (Unique.twins c tokens (Unique.signature c t))
      (context tokens fields editing)).mark =
        (Unique.twins c tokens (Unique.signature c t)).drop 1 :=
    Unique.mark_keepOld_of_stale hfresh
  rw [← hmark] at hlate
  obtain ⟨v, hv⟩ := Option.isSome_iff_exists.mp
    ((demand?_isSome_iff_of_enabled hids hfields editing priority .reject (mem_of_mem_visible ht)
      .mark).mpr ⟨hlength, hlate⟩)
  rw [hv, demand?_mark_unique hids fields editing c .reject priority (mem_of_mem_visible ht) hv,
    enforcedOn_eq_self hfields, hmark]

omit hfields in
/-- Nobody else is. -/
theorem demand?_mark_eq_none {t : τ} (ht : t ∈ tokens)
    (h : ¬(Unique.fresh (context tokens fields editing)
        (Unique.twins c tokens (Unique.signature c t)) = [] ∧
      t ∈ (Unique.twins c tokens (Unique.signature c t)).drop 1)) :
    demand? .mark (run tokens fields [Unique.ruleBy c .reject priority] editing)
      (TokenLike.id t) = none := by
  rw [← Option.not_isSome_iff_eq_none, demand?_unique_iff hids fields editing c .reject
    priority ht .mark]
  rintro ⟨-, hmark, -⟩
  have hfresh : Unique.fresh (context tokens fields editing)
      (Unique.twins c tokens (Unique.signature c t)) = [] := by
    by_contra hne
    exact List.ne_nil_of_mem hmark (Unique.mark_keepOld_of_fresh hne)
  refine h ⟨hfresh, ?_⟩
  rw [← Unique.mark_keepOld_of_stale hfresh]
  exact hmark

/-- After a pass there is nothing to delete. -/
theorem action_of_mem_run_survivors {v : Violation}
    (hv : v ∈ run (survivors (run tokens fields [Unique.ruleBy c .reject priority] editing) tokens)
      fields [Unique.ruleBy c .reject priority] editing) : v.action = .mark := by
  have htwins := twins_survivors hids hfields editing priority
  have hidsLeft := nodup_survivors hids
    (run tokens fields [Unique.ruleBy c .reject priority] editing)
  generalize survivors _ tokens = left at hv htwins hidsLeft
  obtain ⟨s, hlength, hv⟩ := (mem_run_unique_iff hidsLeft fields editing c .reject
    priority).mp hv
  rw [Unique.findings, Resolution.enforced_eq_self hfields] at hv
  refine Resolution.action_eq_mark (Unique.delete_keepOld_of_stale ?_) hv
  show Unique.fresh (context tokens fields editing) _ = []
  rw [htwins] at hlength ⊢
  by_cases hstale : Unique.stale (context tokens fields editing) (Unique.twins c tokens s) = []
  · rw [Unique.kept_of_fresh hstale, List.length_take] at hlength
    omega
  · rw [Unique.kept_of_stale hstale, Unique.fresh_stale]

end

/-! ## When the next pass changes nothing -/

section

variable {tokens : List τ} (hids : (tokens.map TokenLike.id).Nodup) {fields : List Field}
  {c : Constraint} (hfields : ∀ f ∈ fields, f.isRuleDisabled (Unique.ruleId c) = false)
  (editing : List String) (priority : Value)
include hids hfields

/-- Without a mixed group of two old tokens or more, the next pass marks whom the first one did. -/
theorem demand?_mark_survivors
    (hmixed : ∀ s, Unique.fresh (context tokens fields editing) (Unique.twins c tokens s) ≠ [] →
      (Unique.stale (context tokens fields editing) (Unique.twins c tokens s)).length ≤ 1)
    {t : τ}
    (ht : t ∈ survivors (run tokens fields [Unique.ruleBy c .reject priority] editing) tokens) :
    demand? .mark (run (survivors (run tokens fields [Unique.ruleBy c .reject priority] editing)
        tokens) fields [Unique.ruleBy c .reject priority] editing) (TokenLike.id t) =
      demand? .mark (run tokens fields [Unique.ruleBy c .reject priority] editing)
        (TokenLike.id t) := by
  have htokens : t ∈ tokens := List.mem_of_mem_filter ht
  have htwins := twins_survivors hids hfields editing priority (Unique.signature c t)
  have hidsLeft := nodup_survivors hids
    (run tokens fields [Unique.ruleBy c .reject priority] editing)
  generalize survivors _ tokens = left at ht htwins hidsLeft ⊢
  by_cases hfresh : Unique.fresh (context tokens fields editing)
      (Unique.twins c tokens (Unique.signature c t)) = []
  · -- nobody of an old group went
    rw [Unique.kept_eq_self hfresh] at htwins
    by_cases hlate : t ∈ (Unique.twins c tokens (Unique.signature c t)).drop 1
    · have htwin := List.mem_of_mem_drop hlate
      rw [demand?_mark_of_late hids hfields editing priority (Unique.mem_twins_iff.mp htwin).1
        hfresh hlate]
      rw [← htwins] at htwin hlate hfresh ⊢
      exact demand?_mark_of_late hidsLeft hfields editing priority
        (Unique.mem_twins_iff.mp htwin).1 hfresh hlate
    · rw [demand?_mark_eq_none hids editing priority htokens fun h => hlate h.2]
      rw [← htwins] at hlate
      exact demand?_mark_eq_none hidsLeft editing priority ht fun h => hlate h.2
  · -- of any other group one token is left
    rw [demand?_mark_eq_none hids editing priority htokens fun h => hfresh h.1]
    have hlength := Unique.length_kept_le (hmixed (Unique.signature c t) hfresh)
    rw [← htwins] at hlength
    refine demand?_mark_eq_none hidsLeft editing priority ht fun h => ?_
    have hpos := List.length_pos_of_mem h.2
    rw [List.length_drop] at hpos
    omega

/-- Of the old members of a mixed group the first pass marks nobody, and the next one marks all but
the first. -/
theorem marks_of_mixed {s : String}
    (hfresh : Unique.fresh (context tokens fields editing) (Unique.twins c tokens s) ≠ [])
    {t : τ} (ht : t ∈ (Unique.stale (context tokens fields editing)
      (Unique.twins c tokens s)).drop 1) :
    t ∈ survivors (run tokens fields [Unique.ruleBy c .reject priority] editing) tokens ∧
      demand? .mark (run tokens fields [Unique.ruleBy c .reject priority] editing)
        (TokenLike.id t) = none ∧
      (demand? .mark (run (survivors (run tokens fields [Unique.ruleBy c .reject priority] editing)
        tokens) fields [Unique.ruleBy c .reject priority] editing)
          (TokenLike.id t)).isSome = true := by
  have hstale := List.mem_of_mem_drop ht
  obtain ⟨hvisible, rfl⟩ := Unique.mem_twins_iff.mp (List.mem_of_mem_filter hstale)
  have htwins := twins_survivors hids hfields editing priority (Unique.signature c t)
  have hidsLeft := nodup_survivors hids
    (run tokens fields [Unique.ruleBy c .reject priority] editing)
  rw [Unique.kept_of_stale (List.ne_nil_of_mem hstale)] at htwins
  have hleft : t ∈ Unique.twins c (survivors
      (run tokens fields [Unique.ruleBy c .reject priority] editing) tokens)
        (Unique.signature c t) := by
    rw [htwins]
    exact hstale
  have hagain := (Unique.mem_twins_iff.mp hleft).1
  refine ⟨mem_of_mem_visible hagain, ?_, ?_⟩
  · exact demand?_mark_eq_none hids editing priority (mem_of_mem_visible hvisible)
      fun h => hfresh h.1
  · rw [demand?_mark_of_late hidsLeft hfields editing priority hagain]
    · rfl
    · rw [htwins]
      exact Unique.fresh_stale _ _
    · rw [htwins]
      exact ht

end

end Validation

/-- A token that a pass leaves unmarked changes if the next one marks it. -/
theorem demand?_mark_of_settle {found again : List Violation} {t : Token}
    (hfound : demand? .mark found t.id = none)
    (h : settle again (settle found t) = settle found t) : demand? .mark again t.id = none := by
  cases hagain : demand? .mark again t.id with
  | none => rfl
  | some v =>
    have hid : (settle found t).id = t.id := (unseen_settle found).id t
    have hvalid : (settle found t).invalid = false := by
      rw [settle_of_unmarked hfound]
      cases hinvalid : t.invalid <;> simp [hinvalid]
    rw [settle_of_mark (v := v) (by rw [hid, hagain])] at h
    have hflag : true = (settle found t).invalid := congrArg (·.invalid) h
    rw [hvalid] at hflag
    cases hflag

open Validation in
/-- **When rejecting duplicates settles.** The pass after a pass never deletes anything. It changes
nothing just if no group of duplicates had both a token that is being edited and two that are
not. -/
theorem reject_settles_iff (host : Host) (c : Constraint) (priority : Value) (r : Rule Token)
    (hr : (Preset.unique c .reject).rule host priority = .ok r) (tokens : List Token)
    (hids : (tokens.map (·.id)).Nodup) (fields : List Field)
    (hfields : ∀ f ∈ fields, f.isRuleDisabled r.id = false) (editing : List String) :
    let ctx := context tokens fields editing
    let after := (validateTokens tokens fields [r] editing false).plan.apply tokens
    let again := validateTokens after fields [r] editing false
    again.plan.deleted = [] ∧
      (again.plan.apply after = after ↔
        ∀ s, Unique.fresh ctx (Unique.twins c tokens s) ≠ [] →
          (Unique.stale ctx (Unique.twins c tokens s)).length ≤ 1) := by
  obtain rfl := Preset.rule_unique hr
  intro ctx after again
  have hblind : ∀ r ∈ [Unique.ruleBy (τ := Token) c .reject priority], r.IsBlind := by
    simpa using Preset.isBlind_rule hr
  -- the second pass judges the tokens that the first one left, whose flags it does not see
  have hafter : after = (survivors (run tokens fields _ editing) tokens).map
    (settle (run tokens fields _ editing)) := pass_eq hids fields _ editing
  have hrun : run after fields [Unique.ruleBy c .reject priority] editing =
      run (survivors (run tokens fields [Unique.ruleBy c .reject priority] editing) tokens) fields
        [Unique.ruleBy c .reject priority] editing := by
    rw [hafter, (unseen_settle _).run hblind]
  have hidsLeft := nodup_survivors hids
    (run tokens fields [Unique.ruleBy c .reject priority] editing)
  have hkeeps : Keeps fields [Unique.ruleBy c .reject priority] editing after := by
    apply keeps_of_marks
    intro v hv
    rw [hrun] at hv
    exact action_of_mem_run_survivors hids hfields editing priority hv
  have hagain : again.plan.apply after =
      after.map (settle (run after fields [Unique.ruleBy c .reject priority] editing)) :=
    pass_eq_of_keeps (nodup_pass hids) hkeeps
  refine ⟨hkeeps, ?_⟩
  rw [hagain, hrun, hafter, List.map_map, List.map_inj_left]
  constructor
  · intro hsettled s hfresh
    by_contra hlength
    obtain ⟨t, ht⟩ := List.exists_mem_of_length_pos
      (l := (Unique.stale ctx (Unique.twins c tokens s)).drop 1) (by rw [List.length_drop]; omega)
    obtain ⟨hleft, hfirst, hsecond⟩ := marks_of_mixed hids hfields editing priority hfresh ht
    have hunmarked := demand?_mark_of_settle hfirst (hsettled t hleft)
    rw [TokenLike.id_token, hunmarked] at hsecond
    cases hsecond
  · intro hmixed t ht
    exact settle_settle (demand?_mark_survivors hids hfields editing priority hmixed ht)

/-- Two old twins settle at once where the new token is no twin of theirs. -/
theorem reject_settles_iff_apart :
    let token (id key : String) : Token := { id, type := .filter, key, value := id }
    let tokens := [token "a" "tag", token "b" "tag", token "c" "owner"]
    let r : Rule Token := Unique.ruleBy .key .reject (.int 1)
    let ctx := Validation.context tokens [] ["c"]
    let after := (validateTokens tokens [] [r] ["c"] false).plan.apply tokens
    let again := validateTokens after [] [r] ["c"] false
    (Preset.unique .key .reject).rule .standard (.int 1) = .ok r ∧ (tokens.map (·.id)).Nodup ∧
      (∀ f ∈ ([] : List Field), f.isRuleDisabled r.id = false) ∧
      again.plan.deleted = [] ∧
      (again.plan.apply after = after ↔
        ∀ s, Unique.fresh ctx (Unique.twins .key tokens s) ≠ [] →
          (Unique.stale ctx (Unique.twins .key tokens s)).length ≤ 1) ∧
      again.plan.apply after = after := by
  intro token tokens r ctx after again
  have hr : (Preset.unique .key .reject).rule .standard (.int 1) = .ok r := rfl
  have hids : (tokens.map (·.id)).Nodup := by decide
  have hfields : ∀ f ∈ ([] : List Field), f.isRuleDisabled r.id = false := by simp
  have hsettled : again.plan.apply after = after := by
    simp only [again, after, validateTokens, Validation.run_singleton]
    decide +kernel
  obtain ⟨hkeeps, hiff⟩ :=
    reject_settles_iff .standard .key (.int 1) r hr tokens hids [] hfields ["c"]
  exact ⟨hr, hids, hfields, hkeeps, hiff, hsettled⟩

/-- Two old tokens whose new twin was rejected are marked by the next pass only. -/
theorem reject_unsettled :
    let token (id : String) : Token := { id, type := .filter, key := "tag", value := id }
    let tokens := ["a", "b", "c"].map token
    let r : Rule Token := Unique.ruleBy .key .reject (.int 1)
    let after := (validateTokens tokens [] [r] ["c"] false).plan.apply tokens
    let again := validateTokens after [] [r] ["c"] false
    let flagged : Token :=
      { token "b" with
        invalid := true, invalidReason := some "duplicate"
        invalidMessage := some "Only one \"tag\" filter is allowed" }
    after = [token "a", token "b"] ∧ again.plan.deleted = [] ∧
      again.plan.apply after = [token "a", flagged] ∧ again.plan.apply after ≠ after := by
  intro token tokens r after again flagged
  have hafter : after = [token "a", token "b"] := by
    simp only [after, validateTokens, Validation.run_singleton]
    decide +kernel
  simp only [again, hafter, validateTokens, Validation.run_singleton]
  decide +kernel

end FilterQuery
