import FilterQuery.Proofs.Plan
import FilterQuery.Validation

/-!
# Switches of fields

After the rules have reported, a pass drops the targets whose field switches the rule off. Ids are
looked up among all tokens for that. Where they are distinct the look-up finds the token itself, so
a rule that is switched off for some tokens asks for the same as one that was never told of them:
`applyOverrides_report` says so for what is resolved, and `applyOverrides_filterMap` for rules that
judge each token by itself.
-/

namespace FilterQuery

variable {τ : Type} [TokenLike τ]

/-- Whether the field of a token switches a rule off. -/
def isSwitchedOff (fields : List Field) (ruleId : String) (t : τ) : Bool :=
  (fieldOfKey fields (TokenLike.key t)).any (·.isRuleDisabled ruleId)

/-- The tokens for which a rule counts. -/
def enforcedOn (fields : List Field) (ruleId : String) (ts : List τ) : List τ :=
  ts.filter fun t => !isSwitchedOff fields ruleId t

/-- The violations of a resolution that may come without a message. -/
def Resolution.report (r : Resolution τ) (ruleId reason : String) (message : Option String) :
    List Violation :=
  (violation? r.delete .delete ruleId reason message).toList ++
    (violation? r.mark .mark ruleId reason message).toList

/-- What is left of a resolution where fields switch the rule off. -/
def Resolution.enforced (fields : List Field) (ruleId : String) (r : Resolution τ) :
    Resolution τ :=
  ⟨enforcedOn fields ruleId r.delete, enforcedOn fields ruleId r.mark⟩

section

variable {fields : List Field} {ruleId : String}
  (hfields : ∀ f ∈ fields, f.isRuleDisabled ruleId = false)
include hfields

theorem isSwitchedOff_eq_false (t : τ) : isSwitchedOff fields ruleId t = false := by
  rw [isSwitchedOff]
  cases hfield : fieldOfKey fields (TokenLike.key t) with
  | none => rfl
  | some f =>
    obtain ⟨key, -, hfind⟩ := Option.bind_eq_some_iff.mp hfield
    exact hfields f (List.mem_of_find?_eq_some hfind)

theorem enforcedOn_eq_self (ts : List τ) : enforcedOn fields ruleId ts = ts := by
  rw [enforcedOn, List.filter_eq_self]
  intro t _
  rw [isSwitchedOff_eq_false hfields]
  rfl

theorem Resolution.enforced_eq_self (r : Resolution τ) : r.enforced fields ruleId = r := by
  rw [enforced, enforcedOn_eq_self hfields, enforcedOn_eq_self hfields]

end

namespace Validation

section

variable {tokens : List τ} (hids : (tokens.map TokenLike.id).Nodup) (fields : List Field)
include hids

theorem fieldOfId_eq {t : τ} (ht : t ∈ tokens) :
    fieldOfId tokens fields (TokenLike.id t) = fieldOfKey fields (TokenLike.key t) := by
  have hfind : tokens.reverse.find? (TokenLike.id · == TokenLike.id t) = some t :=
    find?_reverse_of_unique ht fun u hu hid => List.inj_on_of_nodup_map hids hu ht hid
  rw [fieldOfId, hfind]
  rfl

theorem isExempt_targetOf (ruleId : String) {t : τ} (ht : t ∈ tokens) :
    isExempt tokens fields ruleId (targetOf t) = isSwitchedOff fields ruleId t := by
  rw [isExempt, targetOf, fieldOfId_eq hids fields ht, isSwitchedOff]

theorem filter_targets (ruleId : String) {ts : List τ} (hts : ∀ t ∈ ts, t ∈ tokens) :
    ((ts.map targetOf).filter fun target => !isExempt tokens fields ruleId target) =
      (enforcedOn fields ruleId ts).map targetOf := by
  rw [List.filter_map, enforcedOn]
  congr 1
  refine List.filter_congr fun t ht => ?_
  rw [Function.comp_apply, isExempt_targetOf hids fields ruleId (hts t ht)]

theorem applyOverrides_violation? {ts : List τ} (hts : ∀ t ∈ ts, t ∈ tokens) (action : Action)
    (ruleId reason : String) (message : Option String) :
    applyOverrides tokens fields (violation? ts action ruleId reason message).toList =
      (violation? (enforcedOn fields ruleId ts) action ruleId reason message).toList := by
  cases hempty : ts.isEmpty with
  | true =>
    rw [List.isEmpty_iff] at hempty
    subst hempty
    rfl
  | false =>
    have hfilter := filter_targets hids fields ruleId hts
    simp only [violation?, hempty, Bool.false_eq_true, if_false, Option.toList_some,
      applyOverrides, List.filterMap_cons, List.filterMap_nil, withoutExempt, hfilter]
    cases enforcedOn fields ruleId ts <;> rfl

/-- What is resolved loses just the tokens whose field switches the rule off. -/
theorem applyOverrides_report {r : Resolution τ} (hdelete : ∀ t ∈ r.delete, t ∈ tokens)
    (hmark : ∀ t ∈ r.mark, t ∈ tokens) (ruleId reason : String) (message : Option String) :
    applyOverrides tokens fields (r.report ruleId reason message) =
      (r.enforced fields ruleId).report ruleId reason message := by
  have hsplit : ∀ vs ws : List Violation, applyOverrides tokens fields (vs ++ ws) =
      applyOverrides tokens fields vs ++ applyOverrides tokens fields ws :=
    fun vs ws => List.filterMap_append
  rw [Resolution.report, hsplit, applyOverrides_violation? hids fields hdelete,
    applyOverrides_violation? hids fields hmark]
  rfl

theorem applyOverrides_violations {r : Resolution τ} (hdelete : ∀ t ∈ r.delete, t ∈ tokens)
    (hmark : ∀ t ∈ r.mark, t ∈ tokens) (ruleId reason message : String) :
    applyOverrides tokens fields (r.violations ruleId reason message) =
      (r.enforced fields ruleId).violations ruleId reason message :=
  applyOverrides_report hids fields hdelete hmark ruleId reason (some message)

/-- Of verdicts about single tokens those stay whose field does not switch the rule off. -/
theorem applyOverrides_filterMap {ruleId : String} {verdict? : τ → Option Violation}
    (hverdict : ∀ t v, verdict? t = some v → v.ruleId = ruleId ∧ v.targets = [targetOf t]) :
    applyOverrides tokens fields (tokens.filterMap verdict?) =
      (enforcedOn fields ruleId tokens).filterMap verdict? := by
  rw [applyOverrides, List.filterMap_filterMap, enforcedOn, List.filterMap_filter]
  refine List.filterMap_congr fun t ht => ?_
  cases hv : verdict? t with
  | none => simp
  | some v =>
    obtain ⟨ruleId, reason, message, action, targets⟩ := v
    obtain ⟨rfl, rfl⟩ := hverdict t _ hv
    have hexempt := isExempt_targetOf hids fields ruleId ht
    cases hoff : isSwitchedOff fields ruleId t with
    | true => simp [withoutExempt, hexempt, hoff]
    | false => simp [withoutExempt, hexempt, hoff]

end

/-! ## A pass -/

theorem mem_of_mem_visible {tokens : List τ} {t : τ} (h : t ∈ visible tokens) : t ∈ tokens :=
  List.mem_of_mem_filter h

theorem nodup_visible {tokens : List τ} (h : (tokens.map TokenLike.id).Nodup) :
    ((visible tokens).map TokenLike.id).Nodup :=
  h.sublist (List.filter_sublist.map _)

/-- A pass of one rule. -/
theorem run_singleton (tokens : List τ) (fields : List Field) (r : Rule τ)
    (editing : List String) :
    run tokens fields [r] editing =
      applyOverrides (visible tokens) fields (report (context tokens fields editing) r) := by
  rw [run, sortRules, List.mergeSort_singleton, List.flatMap_singleton]
  rfl

/-- What a pass of one rule finds hangs on its validation function alone. -/
theorem run_congr {r s : Rule τ} (h : r.validate = s.validate) (tokens : List τ)
    (fields : List Field) (editing : List String) :
    run tokens fields [r] editing = run tokens fields [s] editing := by
  rw [run_singleton, run_singleton, report, report, h]

theorem report_of_ok {α : Type} {ctx : Context α} {r : Rule α} {found : List Violation}
    (h : Rule.collect (r.checks ctx) = .ok found) : report ctx r = found := by
  rw [report, Rule.validate, h]

theorem report_of_error {α : Type} {ctx : Context α} {r : Rule α} {e : Fault}
    (h : Rule.collect (r.checks ctx) = .error e) : report ctx r = [] := by
  rw [report, Rule.validate, h]

/-- A rule is skipped just if it fails. -/
theorem skipped_singleton_eq_nil_iff {α : Type} {ctx : Context α} {r : Rule α} :
    skipped ctx [r] = [] ↔ ∃ found, r.validate ctx = .ok found := by
  rw [skipped, sortRules, List.mergeSort_singleton]
  cases h : r.validate ctx <;> simp [h, Except.toBool]

/-! ## The plan of a pass that does not prune -/

theorem isDoomed_of_unpruned (tokens : List τ) (found : List Violation) (editing : List String)
    (id : String) :
    Plan.isDoomed tokens found editing false id = (Plan.demand? .delete found id).isSome := by
  rw [Plan.isDoomed, Plan.isPruned, Bool.false_and, Bool.false_or]

/-- What is deleted is what some violation wants deleted, in document order. -/
theorem deleted_eq (tokens : List τ) (fields : List Field) (rules : List (Rule τ))
    (editing : List String) :
    (validateTokens tokens fields rules editing false).plan.deleted =
      (tokens.filter fun t => (Plan.demand? .delete (run tokens fields rules editing)
        (TokenLike.id t)).isSome).map TokenLike.id := by
  rw [validateTokens, Plan.deleted_build]
  simp only [isDoomed_of_unpruned]

theorem mem_deleted_iff {tokens : List τ} {fields : List Field} {rules : List (Rule τ)}
    {editing : List String} {id : String} :
    id ∈ (validateTokens tokens fields rules editing false).plan.deleted ↔
      id ∈ tokens.map TokenLike.id ∧
        (Plan.demand? .delete (run tokens fields rules editing) id).isSome = true := by
  rw [validateTokens, Plan.mem_deleted_build, ← Plan.isDoomed_iff, isDoomed_of_unpruned]

/-- What is marked is what stays and some violation wants marked, in document order. -/
theorem marked_eq (tokens : List τ) (fields : List Field) (rules : List (Rule τ))
    (editing : List String) :
    (validateTokens tokens fields rules editing false).plan.marked =
      (tokens.filter fun t => !(Plan.demand? .delete (run tokens fields rules editing)
          (TokenLike.id t)).isSome &&
        (Plan.demand? .mark (run tokens fields rules editing) (TokenLike.id t)).isSome).map
          TokenLike.id := by
  rw [validateTokens, Plan.marked_build]
  simp only [isDoomed_of_unpruned]

end Validation

/-! ## What a resolution asks for -/

theorem asks_violation? {ts : List τ} {action asked : Action} {ruleId reason : String}
    {message : Option String} {id : String} :
    (∃ v ∈ (violation? ts action ruleId reason message).toList, v.asks asked id = true) ↔
      action = asked ∧ id ∈ ts.map TokenLike.id := by
  cases ts with
  | nil => simp [violation?]
  | cons t ts =>
    have hids : ((t :: ts).map targetOf).map (·.tokenId) = (t :: ts).map TokenLike.id := by
      rw [List.map_map]
      rfl
    simp only [violation?, List.isEmpty_cons, Bool.false_eq_true, if_false, Option.toList_some,
      List.mem_singleton, exists_eq_left, Violation.asks_iff, Violation.tokenIds, hids]

/-- The tokens that a resolution lists for an action. -/
def Resolution.listed (r : Resolution τ) : Action → List τ
  | .delete => r.delete
  | .mark => r.mark

theorem Resolution.asks_report {r : Resolution τ} {ruleId reason : String}
    {message : Option String} {action : Action} {id : String} :
    (∃ v ∈ r.report ruleId reason message, v.asks action id = true) ↔
      id ∈ (r.listed action).map TokenLike.id := by
  simp only [Resolution.report, List.mem_append, or_and_right, exists_or, asks_violation?]
  cases action <;> simp [listed]

theorem Resolution.asks_iff {r : Resolution τ} {ruleId reason message : String} {action : Action}
    {id : String} :
    (∃ v ∈ r.violations ruleId reason message, v.asks action id = true) ↔
      id ∈ (r.listed action).map TokenLike.id :=
  asks_report

theorem Resolution.asks_delete {r : Resolution τ} {ruleId reason message : String} {id : String} :
    (∃ v ∈ r.violations ruleId reason message, v.asks .delete id = true) ↔
      id ∈ r.delete.map TokenLike.id :=
  asks_iff

theorem Resolution.asks_mark {r : Resolution τ} {ruleId reason message : String} {id : String} :
    (∃ v ∈ r.violations ruleId reason message, v.asks .mark id = true) ↔
      id ∈ r.mark.map TokenLike.id :=
  asks_iff

/-- Where ids are distinct, an action is asked of a token just if the token is listed for it. -/
theorem Resolution.demand?_isSome_iff {tokens : List τ} (hids : (tokens.map TokenLike.id).Nodup)
    {r : Resolution τ} (action : Action) (hlisted : ∀ u ∈ r.listed action, u ∈ tokens)
    (ruleId reason message : String) {t : τ} (ht : t ∈ tokens) :
    (Plan.demand? action (r.violations ruleId reason message) (TokenLike.id t)).isSome = true ↔
      t ∈ r.listed action := by
  rw [Plan.demand?_isSome_iff, asks_iff]
  constructor
  · intro h
    obtain ⟨u, hu, hid⟩ := List.mem_map.mp h
    obtain rfl : u = t := List.inj_on_of_nodup_map hids (hlisted u hu) ht hid
    exact hu
  · exact List.mem_map_of_mem

/-- A resolution has one violation for all tokens that it lists for an action. -/
theorem Resolution.eq_of_mem {r : Resolution τ} {ruleId reason message : String} {v : Violation}
    (h : v ∈ r.violations ruleId reason message) :
    v = { ruleId, reason, message := some message, action := v.action
          targets := (r.listed v.action).map targetOf } := by
  simp only [violations, List.mem_append, Option.mem_toList, violation?] at h
  rcases h with h | h
  · split at h
    · cases h
    · obtain rfl := Option.some.inj h
      rfl
  · split at h
    · cases h
    · obtain rfl := Option.some.inj h
      rfl

theorem Resolution.action_of_mem {r : Resolution τ} {ruleId reason message : String}
    {v : Violation} (h : v ∈ r.violations ruleId reason message) :
    (v.action = .delete ∧ r.delete ≠ []) ∨ (v.action = .mark ∧ r.mark ≠ []) := by
  simp only [violations, List.mem_append, Option.mem_toList, violation?] at h
  rcases h with h | h
  · split at h
    · cases h
    · rename_i hne
      obtain rfl := Option.some.inj h
      exact Or.inl ⟨rfl, fun heq => hne (List.isEmpty_iff.mpr heq)⟩
  · split at h
    · cases h
    · rename_i hne
      obtain rfl := Option.some.inj h
      exact Or.inr ⟨rfl, fun heq => hne (List.isEmpty_iff.mpr heq)⟩

theorem Resolution.action_eq_delete {r : Resolution τ} (hmark : r.mark = [])
    {ruleId reason message : String} {v : Violation} (h : v ∈ r.violations ruleId reason message) :
    v.action = .delete := by
  rcases action_of_mem h with ⟨haction, -⟩ | ⟨-, hne⟩
  · exact haction
  · exact absurd hmark hne

theorem Resolution.action_eq_mark {r : Resolution τ} (hdelete : r.delete = [])
    {ruleId reason message : String} {v : Violation} (h : v ∈ r.violations ruleId reason message) :
    v.action = .mark := by
  rcases action_of_mem h with ⟨-, hne⟩ | ⟨haction, -⟩
  · exact absurd hdelete hne
  · exact haction

theorem Resolution.violations_eq_nil {r : Resolution τ} (hdelete : r.delete = [])
    (hmark : r.mark = []) (ruleId reason message : String) :
    r.violations ruleId reason message = [] := by
  rw [violations, hdelete, hmark]
  rfl

end FilterQuery
