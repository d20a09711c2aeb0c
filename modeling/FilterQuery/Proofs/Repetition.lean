import FilterQuery.Proofs.Convergence
import Mathlib.Logic.Function.Iterate

/-!
# Passes that are repeated

With several rules one pass need not be enough: what one rule deletes changes the groups and counts
of all others. But a pass that deletes nothing changes flags only, and presets do not see flags, so
the next pass finds the same again and settles the same flags (`pass_pass_of_keeps`). Any other pass
leaves fewer tokens (`length_pass_lt`). So passes settle after at most as many rounds as there are
tokens: `passes_settle`.
-/

namespace FilterQuery

open Plan (demand? settle)

namespace Validation

variable {fields : List Field} {rules : List (Rule Token)} {editing : List String}

/-- Whether a pass deletes nothing. -/
def Keeps (fields : List Field) (rules : List (Rule Token)) (editing : List String)
    (tokens : List Token) : Prop :=
  (validateTokens tokens fields rules editing false).plan.deleted = []

/-! ## One pass -/

section

variable {tokens : List Token} (hids : (tokens.map (·.id)).Nodup)
include hids

theorem nodup_pass : ((pass fields rules editing tokens).map (·.id)).Nodup := by
  have hid : ∀ ts : List Token, (ts.map (settle (run tokens fields rules editing))).map (·.id) =
      ts.map (·.id) := (unseen_settle _).map_id
  rw [pass_eq hids, hid]
  exact hids.sublist (List.filter_sublist.map _)

/-- A pass that deletes something leaves fewer tokens. -/
theorem length_pass_lt (h : ¬Keeps fields rules editing tokens) :
    (pass fields rules editing tokens).length < tokens.length := by
  obtain ⟨id, hid⟩ := List.exists_mem_of_ne_nil _ h
  obtain ⟨hmem, hdemand⟩ := mem_deleted_iff.mp hid
  obtain ⟨t, ht, rfl⟩ := List.mem_map.mp hmem
  rw [pass_eq hids, List.length_map, survivors, List.length_filter_lt_length_iff_exists]
  refine ⟨t, ht, fun hnone => ?_⟩
  rw [Option.isNone_iff_eq_none] at hnone
  rw [hnone] at hdemand
  cases hdemand

omit hids in
/-- A pass that only marks deletes nothing. -/
theorem keeps_of_marks (h : ∀ v ∈ run tokens fields rules editing, v.action = .mark) :
    Keeps fields rules editing tokens := by
  rw [Keeps, List.eq_nil_iff_forall_not_mem]
  intro id hid
  rw [mem_deleted_iff, Plan.demand?_isSome_iff] at hid
  obtain ⟨-, v, hv, hasks⟩ := hid
  rw [Violation.asks_iff, h v hv] at hasks
  cases hasks.1

/-- A pass that deletes nothing changes flags only. -/
theorem pass_eq_of_keeps (h : Keeps fields rules editing tokens) :
    pass fields rules editing tokens =
      tokens.map (settle (run tokens fields rules editing)) := by
  have hall : survivors (run tokens fields rules editing) tokens = tokens := by
    rw [survivors, List.filter_eq_self]
    intro t ht
    rw [← Option.not_isSome, Bool.not_eq_true', ← Bool.not_eq_true]
    intro hgone
    have hmem : t.id ∈ (validateTokens tokens fields rules editing false).plan.deleted :=
      mem_deleted_iff.mpr ⟨List.mem_map_of_mem ht, hgone⟩
    rw [Keeps] at h
    rw [h] at hmem
    cases hmem
  rw [pass_eq hids, hall]

/-- After a pass of blind rules that deletes nothing, the next one changes nothing. -/
theorem pass_pass_of_keeps (hrules : ∀ r ∈ rules, r.IsBlind)
    (h : Keeps fields rules editing tokens) :
    pass fields rules editing (pass fields rules editing tokens) =
      pass fields rules editing tokens := by
  have hunseen := unseen_settle (run tokens fields rules editing)
  have hafter := pass_eq_of_keeps hids h
  have hagain : run (pass fields rules editing tokens) fields rules editing =
      run tokens fields rules editing := by
    rw [hafter, hunseen.run hrules]
  have hkeeps : Keeps fields rules editing (pass fields rules editing tokens) := by
    rw [Keeps, List.eq_nil_iff_forall_not_mem] at h ⊢
    intro id hid
    apply h id
    rw [mem_deleted_iff, hagain] at hid
    rw [mem_deleted_iff]
    obtain ⟨hmem, hgone⟩ := hid
    rw [hafter, hunseen.map_id] at hmem
    exact ⟨hmem, hgone⟩
  rw [pass_eq_of_keeps (nodup_pass hids) hkeeps, hagain]
  conv_lhs => rw [hafter]
  rw [hafter, List.map_map]
  exact List.map_congr_left fun t _ => settle_settle rfl

end

/-! ## Many passes -/

section

variable (fields : List Field) (editing : List String) {tokens : List Token}
  (hids : (tokens.map (·.id)).Nodup)
include hids

theorem nodup_iterate_pass (rules : List (Rule Token)) (k : Nat) :
    (((pass fields rules editing)^[k] tokens).map (·.id)).Nodup := by
  induction k with
  | zero => exact hids
  | succ k ih =>
    rw [Function.iterate_succ_apply']
    exact nodup_pass ih

/-- Either the tokens have settled after some passes, or each of these has deleted something. -/
theorem settled_or_length_le (hrules : ∀ r ∈ rules, r.IsBlind) (k : Nat) :
    pass fields rules editing ((pass fields rules editing)^[k] tokens) =
        (pass fields rules editing)^[k] tokens ∨
      ((pass fields rules editing)^[k] tokens).length + k ≤ tokens.length := by
  induction k with
  | zero => exact Or.inr (Nat.le_refl _)
  | succ k ih =>
    rw [Function.iterate_succ_apply']
    rcases ih with hsettled | hle
    · exact Or.inl (by rw [hsettled, hsettled])
    · have hidsNow := nodup_iterate_pass fields editing hids rules k
      by_cases hkeeps : Keeps fields rules editing ((pass fields rules editing)^[k] tokens)
      · exact Or.inl (pass_pass_of_keeps hidsNow hrules hkeeps)
      · have hlt := length_pass_lt hidsNow hkeeps
        exact Or.inr (by omega)

end

/-- **Passes of presets settle.** After as many passes as there are tokens, the next one changes
nothing; and whatever the tokens, a pass that deletes nothing is followed by one that changes
nothing. -/
theorem passes_settle (rules : List (Rule Token))
    (hrules : ∀ r ∈ rules, ∃ (host : Host) (p : Preset) (priority : Value),
      p.rule host priority = .ok r)
    (tokens : List Token) (hids : (tokens.map (·.id)).Nodup) (fields : List Field)
    (editing : List String) :
    let pass (ts : List Token) := (validateTokens ts fields rules editing false).plan.apply ts
    pass (pass^[tokens.length] tokens) = pass^[tokens.length] tokens ∧
      ∀ ts : List Token, (ts.map (·.id)).Nodup →
        (validateTokens ts fields rules editing false).plan.deleted = [] →
          pass (pass ts) = pass ts := by
  have hblind : ∀ r ∈ rules, r.IsBlind := by
    intro r hr
    obtain ⟨host, p, priority, hp⟩ := hrules r hr
    exact Preset.isBlind_rule hp
  refine ⟨?_, fun ts hts hkeeps => pass_pass_of_keeps hts hblind hkeeps⟩
  rcases settled_or_length_le fields editing hids hblind tokens.length with hsettled | hle
  · exact hsettled
  · -- every pass has deleted something, so nothing is left
    have hnil : (Validation.pass fields rules editing)^[tokens.length] tokens = [] :=
      List.eq_nil_of_length_eq_zero (by omega)
    show Validation.pass fields rules editing ((Validation.pass fields rules editing)^[_] _) =
      (Validation.pass fields rules editing)^[_] _
    rw [hnil]
    rfl

/-- Where new duplicates are rejected and a limit marks, one pass is not enough: the first one
deletes the new token, and only the second one finds the duplicates among the old ones. -/
theorem passes_settle_late :
    let token (id : String) : Token := { id, type := .filter, key := "tag", value := id }
    let tokens := ["a", "b", "c"].map token
    let unique : Rule Token := Unique.ruleBy .key .reject (.int 1)
    let limit : Rule Token := MaxCount.ruleBy .all 2 .mark "Maximum 2 filters allowed" .null
    let pass (ts : List Token) :=
      (validateTokens ts [] [limit, unique] ["c"] false).plan.apply ts
    let flagged : Token :=
      { token "b" with
        invalid := true, invalidReason := some "duplicate"
        invalidMessage := some "Only one \"tag\" filter is allowed" }
    (∀ r ∈ [limit, unique], ∃ (host : Host) (p : Preset) (priority : Value),
      p.rule host priority = .ok r) ∧
      (tokens.map (·.id)).Nodup ∧
      pass tokens = [token "a", token "b"] ∧ pass^[2] tokens = [token "a", flagged] ∧
      pass (pass^[3] tokens) = pass^[3] tokens ∧
      ∀ ts : List Token, (ts.map (·.id)).Nodup →
        (validateTokens ts [] [limit, unique] ["c"] false).plan.deleted = [] →
          pass (pass ts) = pass ts := by
  intro token tokens unique limit pass flagged
  have hrules : ∀ r ∈ [limit, unique], ∃ (host : Host) (p : Preset) (priority : Value),
      p.rule host priority = .ok r := by
    intro r hr
    simp only [List.mem_cons, List.not_mem_nil, or_false] at hr
    rcases hr with rfl | rfl
    · exact ⟨.standard, .maxCount .all 2 .mark none, .null,
        Preset.rule_maxCount_iff.mpr ⟨rfl, by decide +kernel, rfl⟩⟩
    · exact ⟨.standard, .unique .key .reject, .int 1, rfl⟩
  have hids : (tokens.map (·.id)).Nodup := by decide
  have hsort : sortRules [limit, unique] = [unique, limit] := by
    simp [sortRules, List.mergeSort, List.MergeSort.Internal.splitInTwo, limit, unique,
      Rule.rank, MaxCount.ruleBy, Unique.ruleBy, Value.rank]
  have hfirst : pass tokens = [token "a", token "b"] := by
    simp only [pass, validateTokens, run, hsort]
    decide +kernel
  have hsecond : pass^[2] tokens = [token "a", flagged] := by
    rw [Function.iterate_succ_apply, hfirst]
    simp only [Function.iterate_one, pass, validateTokens, run, hsort]
    decide +kernel
  exact ⟨hrules, hids, hfirst, hsecond, passes_settle [limit, unique] hrules tokens hids [] ["c"]⟩

end Validation

end FilterQuery
