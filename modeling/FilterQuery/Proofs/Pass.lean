import FilterQuery.Proofs.Switches

/-!
# The tokens after a pass

A pass judges the tokens, plans and applies the plan. Its outcome can be read off its violations
alone: `settled_validateTokens` says which tokens stay and what becomes of the flag of each.
-/

namespace FilterQuery

open Plan (isSpared settle demand? isAbandoned)

/-- What violations make of a token that stays. -/
structure Settled (violations : List Violation) (before after : Token) : Prop where
  /-- A token is flagged just if some violation marks it. -/
  invalid_iff : after.invalid = true ↔ ∃ v ∈ violations, v.asks .mark before.id = true
  /-- The first violation that marks a token gives the reason and the message. -/
  reason_of_mark : ∀ v, violations.find? (·.asks .mark before.id) = some v →
    after.invalidReason = some v.reason ∧ after.invalidMessage = v.message
  /-- A valid token that nobody marks stays as it is. -/
  eq_of_valid : (∀ v ∈ violations, v.asks .mark before.id = false) → before.invalid = false →
    after = before
  /-- An invalid token that nobody marks loses its flag. -/
  cleared_of_invalid : (∀ v ∈ violations, v.asks .mark before.id = false) → before.invalid = true →
    after.invalid = false ∧ after.invalidReason = none ∧ after.invalidMessage = none
  /-- Nothing but the flag changes. -/
  eq_up_to_flag : after = { before with
    invalid := after.invalid
    invalidReason := after.invalidReason
    invalidMessage := after.invalidMessage }

theorem settle_of_mark {violations : List Violation} {t : Token} {v : Violation}
    (h : demand? .mark violations t.id = some v) :
    settle violations t =
      { t with invalid := true, invalidReason := some v.reason, invalidMessage := v.message } := by
  rw [settle, TokenLike.id_token, h]
  rfl

theorem settle_of_unmarked {violations : List Violation} {t : Token}
    (h : demand? .mark violations t.id = none) :
    settle violations t =
      if t.invalid then { t with invalid := false, invalidReason := none, invalidMessage := none }
      else t := by
  rw [settle, TokenLike.id_token, h]
  rfl

theorem settled_settle (violations : List Violation) (t : Token) :
    Settled violations t (settle violations t) := by
  cases hmark : demand? .mark violations t.id with
  | some v =>
    have hasks : ∃ v ∈ violations, v.asks .mark t.id = true :=
      Plan.demand?_isSome_iff.mp (Option.isSome_of_eq_some hmark)
    have hmarked : ¬∀ v ∈ violations, v.asks .mark t.id = false := by
      obtain ⟨w, hw, hasksw⟩ := hasks
      intro hnone
      rw [hnone w hw] at hasksw
      cases hasksw
    rw [settle_of_mark hmark]
    constructor
    · exact ⟨fun _ => hasks, fun _ => rfl⟩
    · intro w hw
      obtain rfl : v = w := Option.some.inj (hmark.symm.trans hw)
      exact ⟨rfl, rfl⟩
    · exact fun hnone => absurd hnone hmarked
    · exact fun hnone => absurd hnone hmarked
    · rfl
  | none =>
    have hnone := Plan.demand?_eq_none_iff.mp hmark
    rw [settle_of_unmarked hmark]
    constructor
    · constructor
      · intro h
        cases hinvalid : t.invalid <;> simp [hinvalid] at h
      · rintro ⟨v, hv, hasks⟩
        rw [hnone v hv] at hasks
        cases hasks
    · intro v hv
      rw [show violations.find? (·.asks .mark t.id) = none from hmark] at hv
      cases hv
    · intro _ hvalid
      rw [hvalid]
      rfl
    · intro _ hinvalid
      rw [hinvalid]
      exact ⟨rfl, rfl, rfl⟩
    · cases t.invalid <;> rfl

/-- **The state after a pass is what its violations say.** The tokens that stay are, in order, those
that no violation deletes and that are not pruned; of each only the flag changes, and it is up to
date afterwards. -/
theorem settled_validateTokens (tokens : List Token) (hids : (tokens.map (·.id)).Nodup)
    (fields : List Field) (rules : List (Rule Token)) (editing : List String) (pruneEmpty : Bool) :
    let r := validateTokens tokens fields rules editing pruneEmpty
    List.Forall₂ (Settled r.violations)
      (tokens.filter fun t =>
        !(r.violations.any (·.asks .delete t.id)) &&
          !(pruneEmpty && t.isFilter && t.value.isEmpty && !editing.contains t.id))
      (r.plan.apply tokens) := by
  intro r
  have hspared : ∀ t : Token, isSpared r.violations editing pruneEmpty t =
      (!(r.violations.any (·.asks .delete t.id)) &&
        !(pruneEmpty && t.isFilter && t.value.isEmpty && !editing.contains t.id)) := by
    intro t
    have hdelete : (demand? .delete r.violations t.id).isNone =
        !(r.violations.any (·.asks .delete t.id)) := by
      rw [Bool.eq_iff_iff]
      simp [Plan.demand?_eq_none_iff]
    simp [isSpared, isAbandoned, hdelete, Token.underConstruction, Bool.and_assoc]
  have happly : r.plan.apply tokens =
      (tokens.filter (isSpared r.violations editing pruneEmpty)).map (settle r.violations) :=
    Plan.apply_build hids r.violations editing pruneEmpty
  rw [happly, funext hspared, List.forall₂_map_right_iff, List.forall₂_same]
  exact fun t _ => settled_settle r.violations t

/-- A token with two marks, one with a mark and a deletion, one to prune and one to clear. -/
theorem settled_validateTokens_overlap :
    let tokens : List Token :=
      [{ id := "a", type := .filter, key := "status", value := "open" },
       { id := "b", type := .freeText, value := "late" },
       { id := "c", type := .filter, key := "owner" },
       { id := "d", type := .plaintext, value := "and", invalid := true
         invalidReason := some "old" }]
    let mark (reason : String) (ids : List String) : Violation :=
      { ruleId := "r", reason, action := .mark, targets := ids.map ({ tokenId := · }) }
    let rule : Rule Token := Rule.ofFunction "r" (.int 0) fun _ => .ok
      [mark "first" ["a"], { mark "gone" ["b"] with action := .delete }, mark "second" ["b", "a"]]
    let r := validateTokens tokens [] [rule] [] true
    (tokens.map (·.id)).Nodup ∧
      r.plan.apply tokens =
        [{ id := "a", type := .filter, key := "status", value := "open", invalid := true
           invalidReason := some "first" },
         { id := "d", type := .plaintext, value := "and" }] ∧
      List.Forall₂ (Settled r.violations)
        (tokens.filter fun t =>
          !(r.violations.any (·.asks .delete t.id)) &&
            !(true && t.isFilter && t.value.isEmpty && !([] : List String).contains t.id))
        (r.plan.apply tokens) := by
  intro tokens mark rule r
  have hids : (tokens.map (·.id)).Nodup := by decide
  have happly : r.plan.apply tokens =
      [{ id := "a", type := .filter, key := "status", value := "open", invalid := true
         invalidReason := some "first" },
       { id := "d", type := .plaintext, value := "and" }] := by
    simp only [r, validateTokens, Validation.run_singleton]
    decide +kernel
  exact ⟨hids, happly, settled_validateTokens tokens hids [] [rule] [] true⟩

end FilterQuery
