import FilterQuery.Proofs.Isolation

/-!
# Rules in another order

Which tokens a plan deletes, marks and clears hangs on what is demanded of which id, and not on who
demands it first: plans of violations that demand the same have the same outline
(`outline_build_congr`). A pass of the same checks in another order reports the same violations in
another order (`run_perm`), so its plan differs in reasons and messages at most
(`outline_validateTokens`).
-/

namespace FilterQuery

variable {τ : Type} [TokenLike τ]

/-- What an action does to which token, without the reason why. -/
def TokenAction.outline (a : TokenAction) : ActionType × String × Value :=
  (a.type, a.tokenId, a.pos)

namespace Plan

/-- The actions of a plan without their reasons, in order. -/
def outline (p : Plan) : List (ActionType × String × Value) := p.actions.map TokenAction.outline

theorem idsOf_eq_outline (p : Plan) (type : ActionType) :
    p.idsOf type = (p.outline.filter (·.1 = type)).map (·.2.1) := by
  rw [idsOf, outline, List.filter_map, List.map_map]
  rfl

theorem outline_deletion? (doomed : List (String × String)) (t : τ) :
    (deletion? doomed t).map TokenAction.outline =
      if (doomed.lookup (TokenLike.id t)).isSome then
        some (.delete, TokenLike.id t, TokenLike.pos t)
      else none := by
  rw [deletion?]
  cases doomed.lookup (TokenLike.id t) with
  | none => rfl
  | some reason => rfl

theorem outline_flagging? (marks : List (String × Violation)) (t : τ) :
    (flagging? marks t).map TokenAction.outline =
      if (marks.lookup (TokenLike.id t)).isSome then some (.mark, TokenLike.id t, TokenLike.pos t)
      else if TokenLike.isInvalid t then some (.clear, TokenLike.id t, TokenLike.pos t)
      else none := by
  rw [flagging?]
  cases marks.lookup (TokenLike.id t) with
  | none => cases TokenLike.isInvalid t <;> rfl
  | some v => rfl

/-- Plans of violations that demand the same of every id have the same outline. -/
theorem outline_build_congr {vs ws : List Violation}
    (h : ∀ action id, (demand? action vs id).isSome = (demand? action ws id).isSome)
    (tokens : List τ) (editing : List String) (pruneEmpty : Bool) :
    (build tokens vs editing pruneEmpty).outline =
      (build tokens ws editing pruneEmpty).outline := by
  have hdoomed : ∀ t : τ,
      ((deletions tokens vs editing pruneEmpty).lookup (TokenLike.id t)).isSome =
        ((deletions tokens ws editing pruneEmpty).lookup (TokenLike.id t)).isSome := by
    intro t
    rw [isSome_lookup_deletions, isSome_lookup_deletions, isDoomed, isDoomed, h]
  have hspared : ∀ t : τ, (deletion? (deletions tokens vs editing pruneEmpty) t).isNone =
      (deletion? (deletions tokens ws editing pruneEmpty) t).isNone := by
    intro t
    rw [← Option.not_isSome, ← Option.not_isSome, isSome_deletion?, isSome_deletion?, hdoomed]
  simp only [outline, build, List.map_append, List.map_filterMap, outline_deletion?, hdoomed,
    hspared, outline_flagging?, lookup_demands, h]

theorem outline_build_perm {vs ws : List Violation} (h : vs.Perm ws) (tokens : List τ)
    (editing : List String) (pruneEmpty : Bool) :
    (build tokens vs editing pruneEmpty).outline =
      (build tokens ws editing pruneEmpty).outline := by
  refine outline_build_congr (fun action id => ?_) tokens editing pruneEmpty
  rw [Bool.eq_iff_iff, demand?_isSome_iff, demand?_isSome_iff]
  simp only [h.mem_iff]

end Plan

namespace Validation

/-- The same checks in another order, under any ids and priorities, find the same violations in
another order. -/
theorem run_perm {rules rules' : List (Rule τ)}
    (h : (rules.map Rule.validate).Perm (rules'.map Rule.validate)) (tokens : List τ)
    (fields : List Field) (editing : List String) :
    (run tokens fields rules editing).Perm (run tokens fields rules' editing) := by
  let found (validate : Context τ → Except Fault (List Violation)) : List Violation :=
    run tokens fields [Rule.ofFunction "" .null validate] editing
  have hfound : ∀ rules : List (Rule τ),
      (run tokens fields rules editing).Perm ((rules.map Rule.validate).flatMap found) := by
    intro rules
    have hsingle : (fun r : Rule τ => run tokens fields [r] editing) =
        fun r => found r.validate :=
      funext fun r => run_congr (funext fun ctx =>
        (Rule.validate_ofFunction "" .null r.validate ctx).symm) tokens fields editing
    rw [run_eq_flatMap, hsingle, List.flatMap_map]
    exact (List.mergeSort_perm rules _).flatMap_right _
  exact (hfound rules).trans ((h.flatMap_right found).trans (hfound rules').symm)

end Validation

/-- **The order of rules changes reasons only.** Two passes whose rules have the same validation
functions, in any order and of any priorities, plan the same for each token, in the same order. -/
theorem outline_validateTokens (tokens : List τ) (fields : List Field)
    (rules rules' : List (Rule τ))
    (h : (rules.map Rule.validate).Perm (rules'.map Rule.validate)) (editing : List String)
    (pruneEmpty : Bool) :
    let plan := (validateTokens tokens fields rules editing pruneEmpty).plan
    let plan' := (validateTokens tokens fields rules' editing pruneEmpty).plan
    plan.actions.map (fun a => (a.type, a.tokenId, a.pos)) =
        plan'.actions.map (fun a => (a.type, a.tokenId, a.pos)) ∧
      plan.deleted = plan'.deleted ∧ plan.marked = plan'.marked ∧
      plan.cleared = plan'.cleared := by
  intro plan plan'
  have houtline : plan.outline = plan'.outline :=
    Plan.outline_build_perm (Validation.run_perm h tokens fields editing) tokens editing pruneEmpty
  have hids : ∀ type, plan.idsOf type = plan'.idsOf type := by
    intro type
    rw [Plan.idsOf_eq_outline, Plan.idsOf_eq_outline, houtline]
  exact ⟨houtline, hids .delete, hids .mark, hids .clear⟩

/-- Taken the other way round and with other ranks, the second of two marks gives the reason; which
tokens are deleted, marked and cleared stays the same, and the rule that fails fails again. -/
theorem outline_validateTokens_reversed :
    let token (id : String) : Token := { id, type := .filter, key := "tag", value := id }
    let tokens := [token "a", token "b", { token "c" with invalid := true }]
    let report (action : Action) (reason : String) (ids : List String) : Violation :=
      { ruleId := "r", reason, action, targets := ids.map ({ tokenId := · }) }
    let late : Context Token → Except Fault (List Violation) :=
      fun _ => .ok [report .mark "late" ["a", "b"]]
    let long : Context Token → Except Fault (List Violation) :=
      fun _ => .ok [report .mark "long" ["a"], report .delete "long" ["b"]]
    let broken : Context Token → Except Fault (List Violation) := fun _ => .error .wrongType
    let rules := [Rule.ofFunction "late" .null late, Rule.ofFunction "long" .null long,
      Rule.ofFunction "broken" .null broken]
    let rules' := [Rule.ofFunction "x" (.int 2) broken, Rule.ofFunction "y" (.int 1) long,
      Rule.ofFunction "z" (.int (-1)) late]
    let plan := (validateTokens tokens [] rules [] false).plan
    let plan' := (validateTokens tokens [] rules' [] false).plan
    (rules.map Rule.validate).Perm (rules'.map Rule.validate) ∧
      plan.actions.map (·.reason) = [some "long", some "late", none] ∧
      plan'.actions.map (·.reason) = [some "long", some "long", none] ∧
      plan.actions.map (fun a => (a.type, a.tokenId, a.pos)) =
        plan'.actions.map (fun a => (a.type, a.tokenId, a.pos)) ∧
      plan.deleted = plan'.deleted ∧ plan.marked = plan'.marked ∧
      plan.cleared = plan'.cleared := by
  intro token tokens report late long broken rules rules' plan plan'
  have hvalidate : ∀ (id : String) (priority : Value)
      (f : Context Token → Except Fault (List Violation)),
      (Rule.ofFunction id priority f).validate = f :=
    fun id priority f => funext fun ctx => Rule.validate_ofFunction id priority f ctx
  have hperm : (rules.map Rule.validate).Perm (rules'.map Rule.validate) := by
    simp only [rules, rules', List.map_cons, List.map_nil, hvalidate]
    exact (List.reverse_perm [late, long, broken]).symm
  have hsort : Validation.sortRules rules = rules := by
    simp [Validation.sortRules, List.mergeSort, List.MergeSort.Internal.splitInTwo, rules,
      Rule.rank, Rule.ofFunction, Value.rank]
  have hsort' : Validation.sortRules rules' = rules' := by
    simp [Validation.sortRules, List.mergeSort, List.MergeSort.Internal.splitInTwo, rules',
      Rule.rank, Rule.ofFunction, Value.rank]
  have hreasons : plan.actions.map (·.reason) = [some "long", some "late", none] := by
    simp only [plan, validateTokens, Validation.run, hsort]
    decide +kernel
  have hreasons' : plan'.actions.map (·.reason) = [some "long", some "long", none] := by
    simp only [plan', validateTokens, Validation.run, hsort']
    decide +kernel
  exact ⟨hperm, hreasons, hreasons', outline_validateTokens tokens [] rules rules' hperm [] false⟩

end FilterQuery
