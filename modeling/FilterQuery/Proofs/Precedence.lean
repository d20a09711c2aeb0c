import Mathlib.Data.List.Forall2
import Mathlib.Data.List.ReduceOption
import FilterQuery.Proofs.Plan

/-!
# Which instruction a token gets

Four things can be said about a token: it is pruned, a violation wants it deleted, a violation wants
it marked, and it is flagged already. The first of them that holds decides, and the first violation
that says it gives the reason (`Instructed`). A plan is these instructions, one for each token at
most, with the deletions moved to the front (`actions_build`). All of it is said about ids: what is
aimed at ids that no token has is not seen (`build_among`), and tokens that share an id share its
fate, so that a token goes along with an abandoned filter of its id (`build_deletes_namesake`).
-/

namespace FilterQuery

open Plan (demand? isPruned isAbandoned emptyReason)

/-! ## The rule of precedence -/

/-- The instruction of a token, if it gets one. Violations are taken in the order of the list. -/
inductive Instructed (pruned : String → Bool) (violations : List Violation) (t : Token) :
    Option TokenAction → Prop where
  | prune (hpruned : pruned t.id = true) :
      Instructed pruned violations t
        (some { type := .delete, tokenId := t.id, pos := t.pos, reason := some emptyReason })
  | delete (hpruned : pruned t.id = false) (v : Violation)
      (hdelete : violations.find? (·.asks .delete t.id) = some v) :
      Instructed pruned violations t
        (some { type := .delete, tokenId := t.id, pos := t.pos, reason := some v.reason })
  | mark (hpruned : pruned t.id = false) (hdelete : ∀ v ∈ violations, v.asks .delete t.id = false)
      (v : Violation) (hmark : violations.find? (·.asks .mark t.id) = some v) :
      Instructed pruned violations t
        (some { type := .mark, tokenId := t.id, pos := t.pos, reason := some v.reason
                message := v.message })
  | clear (hpruned : pruned t.id = false) (hdelete : ∀ v ∈ violations, v.asks .delete t.id = false)
      (hmark : ∀ v ∈ violations, v.asks .mark t.id = false) (hflag : t.invalid = true) :
      Instructed pruned violations t
        (some { type := .clear, tokenId := t.id, pos := t.pos })
  | leave (hpruned : pruned t.id = false) (hdelete : ∀ v ∈ violations, v.asks .delete t.id = false)
      (hmark : ∀ v ∈ violations, v.asks .mark t.id = false) (hflag : t.invalid = false) :
      Instructed pruned violations t none

namespace Plan

/-- What a plan has for a token follows the rule. -/
theorem instructed_actionOf (tokens : List Token) (violations : List Violation)
    (editing : List String) (pruneEmpty : Bool) (t : Token) :
    Instructed (isPruned tokens editing pruneEmpty) violations t
      (actionOf (deletions tokens violations editing pruneEmpty) (demands .mark violations) t) := by
  unfold actionOf deletion? flagging?
  rw [lookup_deletions, lookup_demands]
  rcases hpruned : isPruned tokens editing pruneEmpty t.id with - | -
  · rcases hdelete : demand? .delete violations t.id with - | v
    · have hspared := demand?_eq_none_iff.mp hdelete
      rcases hmark : demand? .mark violations t.id with - | w
      · have hunmarked := demand?_eq_none_iff.mp hmark
        rcases hflag : t.invalid with - | -
        · simpa [hpruned, hdelete, hmark, hflag] using
            Instructed.leave hpruned hspared hunmarked hflag
        · simpa [hpruned, hdelete, hmark, hflag] using
            Instructed.clear hpruned hspared hunmarked hflag
      · simpa [hpruned, hdelete, hmark] using Instructed.mark hpruned hspared w hmark
    · simpa [hpruned, hdelete] using Instructed.delete hpruned v hdelete
  · simpa [hpruned] using (Instructed.prune hpruned : Instructed _ violations t _)

/-! ## Two blocks -/

variable {τ : Type} [TokenLike τ]

section

variable (doomed : List (String × String)) (marks : List (String × Violation)) (t : τ)

theorem filter_delete_actionOf :
    (actionOf doomed marks t).filter (·.type = .delete) = deletion? doomed t := by
  unfold actionOf
  rcases hdelete : deletion? doomed t with - | a
  · rcases hflag : flagging? marks t with - | a
    · rfl
    · simp [Option.filter, type_of_flagging? hflag]
  · simp [Option.filter, type_of_deletion? hdelete]

theorem filter_keep_actionOf :
    (actionOf doomed marks t).filter (·.type ≠ .delete) =
      if (deletion? doomed t).isNone then flagging? marks t else none := by
  unfold actionOf
  rcases hdelete : deletion? doomed t with - | a
  · rcases hflag : flagging? marks t with - | a
    · rfl
    · simp [Option.filter, type_of_flagging? hflag]
  · simp [Option.filter, type_of_deletion? hdelete]

end

/-- A plan has the actions of its tokens in document order, the deletions first. -/
theorem actions_build (tokens : List τ) (violations : List Violation) (editing : List String)
    (pruneEmpty : Bool) :
    let actions := tokens.filterMap
      (actionOf (deletions tokens violations editing pruneEmpty) (demands .mark violations))
    (build tokens violations editing pruneEmpty).actions =
      actions.filter (·.type = .delete) ++ actions.filter (·.type ≠ .delete) := by
  intro actions
  simp only [actions, List.filter_filterMap, filter_delete_actionOf, filter_keep_actionOf]
  rw [build, List.filterMap_filter]

/-! ## Targets that are no tokens -/

theorem flagging?_congr {marks marks' : List (String × Violation)} {t : τ}
    (h : (marks.lookup (TokenLike.id t)).map (fun v => (v.reason, v.message)) =
      (marks'.lookup (TokenLike.id t)).map fun v => (v.reason, v.message)) :
    flagging? marks t = flagging? marks' t := by
  unfold flagging?
  rcases hv : marks.lookup (TokenLike.id t) with - | v <;>
    rcases hw : marks'.lookup (TokenLike.id t) with - | w <;> rw [hv, hw] at h
  · cases h
  · cases h
  · obtain ⟨hreason, hmessage⟩ := Prod.ext_iff.mp (Option.some.inj h)
    simp only at hreason hmessage
    simp only [hreason, hmessage]

/-- Plans differ only where the first demands about a token differ. -/
theorem build_congr {tokens : List τ} {vs ws : List Violation}
    (h : ∀ t ∈ tokens, ∀ action,
      (demand? action vs (TokenLike.id t)).map (fun v => (v.reason, v.message)) =
        (demand? action ws (TokenLike.id t)).map fun v => (v.reason, v.message))
    (editing : List String) (pruneEmpty : Bool) :
    build tokens vs editing pruneEmpty = build tokens ws editing pruneEmpty := by
  have hactions : ∀ t ∈ tokens,
      actionOf (deletions tokens vs editing pruneEmpty) (demands .mark vs) t =
        actionOf (deletions tokens ws editing pruneEmpty) (demands .mark ws) t := by
    intro t ht
    have hreason := congrArg (Option.map Prod.fst) (h t ht .delete)
    rw [Option.map_map, Option.map_map] at hreason
    have hdelete : deletion? (deletions tokens vs editing pruneEmpty) t =
        deletion? (deletions tokens ws editing pruneEmpty) t := by
      unfold deletion?
      rw [lookup_deletions, lookup_deletions]
      exact congrArg _ (congrArg _ hreason)
    have hflag : flagging? (demands .mark vs) t = flagging? (demands .mark ws) t := by
      apply flagging?_congr
      rw [lookup_demands, lookup_demands]
      exact h t ht .mark
    rw [actionOf, actionOf, hdelete, hflag]
  have hplan := actions_build tokens vs editing pruneEmpty
  simp only [List.filterMap_congr hactions] at hplan
  rw [← actions_build tokens ws editing pruneEmpty] at hplan
  exact congrArg Plan.mk hplan

end Plan

/-- The violation without the targets that are not among some ids. -/
def Violation.among (ids : List String) (v : Violation) : Violation :=
  { v with targets := v.targets.filter fun target => ids.contains target.tokenId }

theorem Violation.asks_among {ids : List String} {id : String} (hid : id ∈ ids) (v : Violation)
    (action : Action) : (v.among ids).asks action id = v.asks action id := by
  rw [Bool.eq_iff_iff, asks_iff, asks_iff]
  simp only [among, tokenIds, List.mem_map, List.mem_filter, List.contains_iff_mem]
  constructor
  · rintro ⟨haction, target, ⟨hmem, -⟩, rfl⟩
    exact ⟨haction, target, hmem, rfl⟩
  · rintro ⟨haction, target, hmem, rfl⟩
    exact ⟨haction, target, ⟨hmem, hid⟩, rfl⟩

namespace Plan

variable {τ : Type} [TokenLike τ]

theorem demand?_among {ids : List String} {id : String} (hid : id ∈ ids) (action : Action)
    (violations : List Violation) :
    demand? action (violations.map (·.among ids)) id =
      (demand? action violations id).map (·.among ids) := by
  unfold demand?
  rw [List.find?_map]
  congr 2
  funext v
  exact Violation.asks_among hid v action

/-- Targets that are no tokens do nothing. -/
theorem build_among (tokens : List τ) (violations : List Violation) (editing : List String)
    (pruneEmpty : Bool) :
    build tokens (violations.map (·.among (tokens.map TokenLike.id))) editing pruneEmpty =
      build tokens violations editing pruneEmpty := by
  refine build_congr (fun t ht action => ?_) editing pruneEmpty
  rw [demand?_among (List.mem_map_of_mem ht), Option.map_map]
  rfl

end Plan

/-- **What a plan says.** Every token of a document has an instruction or none, by the rule of
precedence, and the plan is these instructions in document order, the deletions first. Targets that
are no tokens do nothing. Where a token shares its id with no other, its id is pruned just if the
token itself is an abandoned filter. -/
theorem instructed_build (tokens : List Token) (violations : List Violation)
    (editing : List String) (pruneEmpty : Bool) :
    let plan := Plan.build tokens violations editing pruneEmpty
    (∃ slots : List (Option TokenAction),
        List.Forall₂ (Instructed (isPruned tokens editing pruneEmpty) violations) tokens slots ∧
          plan.actions = slots.reduceOption.filter (·.type = .delete) ++
            slots.reduceOption.filter (·.type ≠ .delete)) ∧
      Plan.build tokens (violations.map (·.among (tokens.map (·.id)))) editing pruneEmpty = plan ∧
      ∀ t ∈ tokens, (∀ u ∈ tokens, u.id = t.id → u = t) →
        isPruned tokens editing pruneEmpty t.id = (pruneEmpty && isAbandoned editing t) := by
  intro plan
  let instruction := Plan.actionOf (τ := Token)
    (Plan.deletions tokens violations editing pruneEmpty) (Plan.demands .mark violations)
  refine ⟨⟨tokens.map instruction, ?_, ?_⟩, Plan.build_among tokens violations editing pruneEmpty,
    fun t ht => Plan.isPruned_of_unique editing pruneEmpty ht⟩
  · rw [List.forall₂_map_right_iff, List.forall₂_same]
    exact fun t _ => Plan.instructed_actionOf tokens violations editing pruneEmpty t
  · have hslots : (tokens.map instruction).reduceOption = tokens.filterMap instruction := by
      rw [List.reduceOption, List.filterMap_map]
      rfl
    rw [hslots]
    exact Plan.actions_build tokens violations editing pruneEmpty

/-- Two tokens of one id, one that is pruned and deleted at once, one that is marked twice, and
targets that are no tokens. -/
theorem instructed_build_overlap :
    let a : Token := { id := "a", type := .filter, key := "owner", pos := .int 0 }
    let tokens : List Token :=
      [a, { id := "b", type := .filter, key := "status", value := "open", pos := .int 1 },
       { id := "c", type := .freeText, value := "late", pos := .int 2 },
       { id := "b", type := .plaintext, value := "and", pos := .int 3, invalid := true },
       { id := "d", type := .freeText, value := "soon", pos := .int 4, invalid := true }]
    let violation (action : Action) (reason : String) (ids : List String) : Violation :=
      { ruleId := "r", reason, action, targets := ids.map ({ tokenId := · }) }
    let violations := [violation .mark "first" ["c", "b"], violation .delete "gone" ["x", "c"],
      violation .mark "second" ["b", "b"], violation .delete "late" ["a", "c"]]
    let plan := Plan.build tokens violations [] true
    plan.actions =
        [{ type := .delete, tokenId := "a", pos := .int 0, reason := some "empty" },
         { type := .delete, tokenId := "c", pos := .int 2, reason := some "gone" },
         { type := .mark, tokenId := "b", pos := .int 1, reason := some "first" },
         { type := .mark, tokenId := "b", pos := .int 3, reason := some "first" },
         { type := .clear, tokenId := "d", pos := .int 4 }] ∧
      (∃ slots : List (Option TokenAction),
        List.Forall₂ (Instructed (isPruned tokens [] true) violations) tokens slots ∧
          plan.actions = slots.reduceOption.filter (·.type = .delete) ++
            slots.reduceOption.filter (·.type ≠ .delete)) ∧
      Plan.build tokens (violations.map (·.among (tokens.map (·.id)))) [] true = plan ∧
      a ∈ tokens ∧ (∀ u ∈ tokens, u.id = a.id → u = a) ∧
      isPruned tokens [] true a.id = (true && isAbandoned [] a) := by
  intro a tokens violation violations plan
  have ha : a ∈ tokens := List.mem_cons_self
  have hunique : ∀ u ∈ tokens, u.id = a.id → u = a := by decide +kernel
  obtain ⟨hslots, hamong, hpruned⟩ := instructed_build tokens violations [] true
  exact ⟨by decide +kernel, hslots, hamong, ha, hunique, hpruned a ha hunique⟩

/-- A token with a value, about which nobody says a thing, is deleted as empty: it has the id of an
abandoned filter. -/
theorem build_deletes_namesake :
    let tokens : List Token :=
      [{ id := "x", type := .filter, key := "status", operator := "is", pos := .int 0 },
       { id := "x", type := .filter, key := "status", operator := "is", value := "open"
         pos := .int 1 }]
    tokens.map (isAbandoned []) = [true, false] ∧
      (Plan.build tokens [] [] true).actions =
        [{ type := .delete, tokenId := "x", pos := .int 0, reason := some "empty" },
         { type := .delete, tokenId := "x", pos := .int 1, reason := some "empty" }] := by
  decide

end FilterQuery
