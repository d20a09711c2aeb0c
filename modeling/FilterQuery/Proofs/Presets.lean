import FilterQuery.Proofs.Flags
import FilterQuery.Proofs.Switches

/-!
# What presets find

A preset is a built-in rule with one of its built-in strategies. Built-in strategies never fail, so
what a pass of one preset finds has a closed form: a resolution for each group of duplicates
(`run_unique`), one for the whole excess (`run_maxCount`), or a verdict for each token by itself
(`run_pattern`, `run_enumValue`), always without the tokens whose field switches the rule off.
-/

namespace FilterQuery

open Manifest (StrategyName)

variable {τ : Type} [TokenLike τ]

/-- A built-in rule with a built-in strategy. -/
inductive Preset where
  | unique (c : Constraint) (s : StrategyName)
  | maxCount (scope : MaxCount.Scope) (most : Int) (s : StrategyName) (message : Option String)
  | pattern (key : String) (source : RequirePattern.Source) (s : StrategyName)
      (message : Option String)
  | enumValue (s : StrategyName) (message : Option String)

/-- Builds the rule of a preset. -/
def Preset.rule (host : Host) (p : Preset) (priority : Value) : Except Fault (Rule τ) :=
  match p with
  | .unique c s => Unique.rule host c (.function s.unique) priority
  | .maxCount scope most s message =>
      MaxCount.rule host scope most (.function s.maxCount) priority message
  | .pattern key source s message =>
      RequirePattern.rule host key source (.function s.value) priority message
  | .enumValue s message => RequireEnum.rule host (.function s.value) priority message

/-! ## The rules of presets -/

/-- The rule that tokens be unique, with a built-in strategy. -/
def Unique.ruleBy (c : Constraint) (s : StrategyName) (priority : Value) : Rule τ :=
  ⟨ruleId c, priority, checks c s.unique⟩

/-- The rule that there be at most so many tokens, with a built-in strategy. -/
def MaxCount.ruleBy (scope : Scope) (most : Int) (s : StrategyName) (message : String)
    (priority : Value) : Rule τ :=
  ⟨ruleId scope, priority, checks scope most s.maxCount message⟩

/-- The rule that a pattern occur in the values of a field, with a built-in strategy. -/
def RequirePattern.ruleBy (key : String) (search : String → Bool) (s : StrategyName)
    (message : String) (priority : Value) : Rule τ :=
  ⟨ruleId key, priority, checks key search s.value message⟩

/-- The rule that values of enum fields be options, with a built-in strategy. -/
def RequireEnum.ruleBy (s : StrategyName) (message : Option String) (priority : Value) : Rule τ :=
  ⟨ruleId, priority, checks s.value message⟩

namespace Preset

variable {host : Host} {priority : Value} {r : Rule τ}

theorem rule_unique {c : Constraint} {s : StrategyName}
    (h : (Preset.unique c s).rule host priority = .ok r) : r = Unique.ruleBy c s priority := by
  cases c with
  | other given => cases h
  | key | keyOperator | exact => exact (Except.ok.inj h).symm

/-- A limit makes a rule unless its key or the number allowed cannot be written. -/
theorem rule_maxCount_iff {scope : MaxCount.Scope} {most : Int} {s : StrategyName}
    {message : Option String} :
    (Preset.maxCount scope most s message).rule host priority = .ok r ↔
      scope.toValue.unwritable? host.writingDepth = none ∧
        Decimal.isLong (MaxCount.limit most) = false ∧
        r = MaxCount.ruleBy scope most s (message.getD (MaxCount.defaultMessage scope most))
          priority := by
  cases hkey : scope.toValue.unwritable? host.writingDepth <;>
    cases hlimit : Decimal.isLong (MaxCount.limit most) <;>
    simp [rule, MaxCount.rule, Value.checkWritable, hkey, Value.unwritable?, hlimit,
      StrategyArgument.check, bind, Except.bind, pure, Except.pure, MaxCount.ruleBy, eq_comm]

theorem exists_rule_maxCount_iff {key : String} {most : Int} {s : StrategyName}
    {message : Option String} :
    (∃ r : Rule τ,
      (Preset.maxCount (.ofValue (.str key)) most s message).rule host priority = .ok r) ↔
      MaxCount.limit most < Decimal.leastLong := by
  simp only [rule_maxCount_iff, MaxCount.Scope.toValue_ofValue, Value.unwritable?_str, true_and,
    exists_and_left, exists_eq, and_true, Decimal.isLong_eq_false_iff, Int.natAbs_natCast]

theorem rule_maxCount {scope : MaxCount.Scope} {most : Int} {s : StrategyName}
    {message : Option String}
    (h : (Preset.maxCount scope most s message).rule host priority = .ok r) :
    r = MaxCount.ruleBy scope most s (message.getD (MaxCount.defaultMessage scope most)) priority :=
  (rule_maxCount_iff.mp h).2.2

theorem rule_pattern {key : String} {source : RequirePattern.Source} {s : StrategyName}
    {message : Option String}
    (h : (Preset.pattern key source s message).rule host priority = .ok r) :
    ∃ search, r = RequirePattern.ruleBy key search s
      (message.getD (RequirePattern.defaultMessage key)) priority := by
  cases hread : source.read host (RequirePattern.ruleId key) with
  | error e =>
    simp only [rule, RequirePattern.rule, StrategyArgument.check, hread] at h
    cases h
  | ok search =>
    simp only [rule, RequirePattern.rule, StrategyArgument.check, hread] at h
    exact ⟨search, (Except.ok.inj h).symm⟩

theorem rule_enumValue {s : StrategyName} {message : Option String}
    (h : (Preset.enumValue s message).rule host priority = .ok r) :
    r = RequireEnum.ruleBy s message priority :=
  (Except.ok.inj h).symm

/-- Presets do not see flags. -/
theorem isBlind_rule {p : Preset} (h : p.rule host priority = .ok r) : r.IsBlind := by
  intro f hf ctx
  cases p with
  | unique c s =>
    rw [rule_unique h]
    exact hf.uniqueChecks c s ctx
  | maxCount scope most s message =>
    rw [rule_maxCount h]
    exact hf.maxCountChecks scope most s _ ctx
  | pattern key source s message =>
    obtain ⟨search, rfl⟩ := rule_pattern h
    exact hf.patternChecks key search s _ ctx
  | enumValue s message =>
    rw [rule_enumValue h]
    exact hf.enumChecks s message ctx

end Preset

/-! ## Checks that do not fail -/

theorem Rule.collect_cons (check : Check) (rest : List Check) :
    collect (check :: rest) = do return (← check.outcome) ++ (← collect rest) := rfl

/-- Checks that do not fail report one after the other. -/
theorem Rule.collect_filterMap {α : Type} {xs : List α} {check? : α → Option Check}
    {found : α → List Violation}
    (hsome : ∀ x ∈ xs, ∀ check, check? x = some check → check.outcome = .ok (found x))
    (hnone : ∀ x ∈ xs, check? x = none → found x = []) :
    collect (xs.filterMap check?) = .ok (xs.flatMap found) := by
  induction xs with
  | nil => rfl
  | cons x xs ih =>
    have hrest := ih (fun y hy => hsome y (List.mem_cons_of_mem _ hy))
      (fun y hy => hnone y (List.mem_cons_of_mem _ hy))
    cases hx : check? x with
    | none =>
      rw [List.filterMap_cons_none hx, hrest, List.flatMap_cons,
        hnone x List.mem_cons_self hx, List.nil_append]
    | some check =>
      rw [List.filterMap_cons_some hx, collect_cons, hsome x List.mem_cons_self check hx, hrest]
      rfl

/-- What a row of checks finds does not hang on what the checks asked. -/
theorem Rule.collect_congr {checks checks' : List Check}
    (h : checks.map (·.outcome) = checks'.map (·.outcome)) : collect checks = collect checks' := by
  induction checks generalizing checks' with
  | nil =>
    obtain rfl := List.map_eq_nil_iff.mp h.symm
    rfl
  | cons check rest ih =>
    obtain ⟨check', rest', rfl, hcheck, hrest⟩ := List.map_eq_cons_iff.mp h.symm
    rw [collect_cons, collect_cons, hcheck, ih hrest.symm]

/-- A check that fails makes the whole row fail. -/
theorem Rule.collect_error {checks : List Check} {check : Check} (hmem : check ∈ checks)
    {fault : Fault} (hfault : check.outcome = .error fault) : ∃ e, collect checks = .error e := by
  induction checks with
  | nil => cases hmem
  | cons first rest ih =>
    rw [collect_cons]
    cases hfirst : first.outcome with
    | error e => exact ⟨e, rfl⟩
    | ok found =>
      rcases List.mem_cons.mp hmem with rfl | hmem
      · rw [hfirst] at hfault
        cases hfault
      · obtain ⟨e, he⟩ := ih hmem
        exact ⟨e, by rw [he]; rfl⟩

/-! ## Uniqueness -/

/-- What a built-in strategy makes of a group of duplicates. -/
def Manifest.StrategyName.resolveGroup (s : StrategyName) (ts : List τ) (ctx : Context τ) :
    Resolution τ :=
  match s with
  | .mark => Unique.markLater ts
  | .reject => Unique.keepOld ts ctx
  | .replace => Unique.keepNew ts ctx

theorem unique_eq_ok (s : StrategyName) (g : Unique.Group τ) (ctx : Context τ) :
    s.unique g ctx = .ok (s.resolveGroup g.tokens ctx) := by
  cases s <;> rfl

theorem mem_split_iff {ctx : Context τ} {ts : List τ} {t : τ} :
    (t ∈ (ctx.split ts).1 ↔ t ∈ ts ∧ ctx.isEditing t = true) ∧
      (t ∈ (ctx.split ts).2 ↔ t ∈ ts ∧ ctx.isEditing t = false) := by
  simp [Context.split]

/-- Strategies resolve a group by its own tokens. -/
theorem mem_of_mem_resolveGroup {s : StrategyName} {ts : List τ} {ctx : Context τ} {t : τ} :
    (t ∈ (s.resolveGroup ts ctx).delete → t ∈ ts) ∧
      (t ∈ (s.resolveGroup ts ctx).mark → t ∈ ts) := by
  have hediting : ∀ u, u ∈ (ctx.split ts).1 → u ∈ ts := fun u h => (mem_split_iff.1.mp h).1
  have huntouched : ∀ u, u ∈ (ctx.split ts).2 → u ∈ ts := fun u h => (mem_split_iff.2.mp h).1
  cases s with
  | mark => exact ⟨fun h => absurd h List.not_mem_nil, List.mem_of_mem_drop⟩
  | reject =>
    simp only [StrategyName.resolveGroup, Unique.keepOld]
    split
    · rename_i editing hsplit
      rw [hsplit] at hediting
      exact ⟨fun h => hediting t (List.mem_of_mem_drop h), fun h => absurd h List.not_mem_nil⟩
    · exact ⟨fun h => absurd h List.not_mem_nil, List.mem_of_mem_drop⟩
    · rename_i editing untouched _ _ hsplit
      rw [hsplit] at hediting
      exact ⟨fun h => hediting t h, fun h => absurd h List.not_mem_nil⟩
  | replace =>
    simp only [StrategyName.resolveGroup, Unique.keepNew]
    split
    · exact ⟨fun h => List.dropLast_subset _ h, fun h => absurd h List.not_mem_nil⟩
    · rename_i editing untouched _ hsplit
      rw [hsplit] at hediting huntouched
      refine ⟨fun h => ?_, fun h => absurd h List.not_mem_nil⟩
      rcases List.mem_append.mp h with h | h
      · exact huntouched t h
      · exact hediting t (List.dropLast_subset _ h)

/-- A pass of a uniqueness rule resolves each group of duplicates. -/
theorem Validation.run_unique {tokens : List τ} (hids : (tokens.map TokenLike.id).Nodup)
    (fields : List Field) (editing : List String) (c : Constraint) (s : StrategyName)
    (priority : Value) :
    run tokens fields [Unique.ruleBy c s priority] editing =
      (Unique.conflicts c (visible tokens)).flatMap fun g =>
        ((s.resolveGroup g.tokens (context tokens fields editing)).enforced fields
          (Unique.ruleId c)).violations (Unique.ruleId c) Unique.reason
            (Unique.message c g.key) := by
  have hreport : report (context tokens fields editing) (Unique.ruleBy c s priority) =
        (Unique.conflicts c (visible tokens)).flatMap fun g =>
          (s.resolveGroup g.tokens (context tokens fields editing)).violations (Unique.ruleId c)
            Unique.reason (Unique.message c g.key) := by
    apply report_of_ok
    simp only [Unique.ruleBy, Unique.checks, ← List.filterMap_eq_map]
    apply Rule.collect_filterMap
    · rintro g - check hcheck
      cases hcheck
      simp only [unique_eq_ok]
      rfl
    · rintro g - hnone
      cases hnone
  rw [run_singleton, hreport, applyOverrides, List.filterMap_flatMap]
  refine List.flatMap_congr fun g hg => ?_
  exact applyOverrides_violations (nodup_visible hids) fields
    (fun t ht => Unique.mem_of_mem_conflict hg (mem_of_mem_resolveGroup.1 ht))
    (fun t ht => Unique.mem_of_mem_conflict hg (mem_of_mem_resolveGroup.2 ht)) _ _ _

/-! ## Count limits -/

/-- What a built-in strategy makes of an excess. -/
def Manifest.StrategyName.resolveExcess (s : StrategyName) (ts : List τ) (excess : Nat)
    (ctx : Context τ) : Resolution τ :=
  match s with
  | .mark | .replace => MaxCount.markLast ts excess
  | .reject => MaxCount.dropNew ts excess ctx

theorem maxCount_eq_ok (s : StrategyName) (ts : List τ) (excess : Nat) (ctx : Context τ) :
    s.maxCount ts excess ctx = .ok (s.resolveExcess ts excess ctx) := by
  cases s <;> rfl

theorem mem_of_mem_dropNew {ts : List τ} {excess : Nat} {ctx : Context τ} {t : τ}
    (h : t ∈ (MaxCount.dropNew ts excess ctx).delete) : t ∈ ts := by
  simp only [MaxCount.dropNew] at h
  split at h
  · exact (mem_split_iff.1.mp (List.mem_of_mem_take h)).1
  · rcases List.mem_append.mp h with h | h
    · exact (mem_split_iff.1.mp h).1
    · exact (mem_split_iff.2.mp (List.mem_of_mem_drop h)).1

theorem mem_of_mem_resolveExcess {s : StrategyName} {ts : List τ} {excess : Nat} {ctx : Context τ}
    {t : τ} :
    (t ∈ (s.resolveExcess ts excess ctx).delete → t ∈ ts) ∧
      (t ∈ (s.resolveExcess ts excess ctx).mark → t ∈ ts) := by
  cases s with
  | mark => exact ⟨fun h => absurd h List.not_mem_nil, List.mem_of_mem_drop⟩
  | reject =>
    refine ⟨mem_of_mem_dropNew, fun h => ?_⟩
    simp only [StrategyName.resolveExcess, MaxCount.dropNew] at h
    split at h
    · cases h
    · cases h
  | replace => exact ⟨fun h => absurd h List.not_mem_nil, List.mem_of_mem_drop⟩

/-- The tokens that a limit counts. -/
def MaxCount.counted (scope : Scope) (tokens : List τ) : List τ :=
  (Validation.visible tokens).filter scope.covers

/-- A pass of a count limit resolves the excess, if there is one. -/
theorem Validation.run_maxCount {tokens : List τ} (hids : (tokens.map TokenLike.id).Nodup)
    (fields : List Field) (editing : List String) (scope : MaxCount.Scope) (most : Int)
    (s : StrategyName) (message : String) (priority : Value) :
    run tokens fields [MaxCount.ruleBy scope most s message priority] editing =
      if (MaxCount.counted scope tokens).length ≤ MaxCount.limit most then []
      else
        ((s.resolveExcess (MaxCount.counted scope tokens)
          ((MaxCount.counted scope tokens).length - MaxCount.limit most)
          (context tokens fields editing)).enforced fields (MaxCount.ruleId scope)).violations
            (MaxCount.ruleId scope) MaxCount.reason message := by
  have hcounted : ∀ t ∈ MaxCount.counted scope tokens, t ∈ visible tokens :=
    fun t ht => List.mem_of_mem_filter ht
  rw [run_singleton]
  by_cases hle : (MaxCount.counted scope tokens).length ≤ MaxCount.limit most
  · have hreport : report (context tokens fields editing)
        (MaxCount.ruleBy scope most s message priority) = [] := by
      apply report_of_ok
      exact congrArg Rule.collect (if_pos hle)
    rw [if_pos hle, hreport]
    rfl
  · have hreport : report (context tokens fields editing)
        (MaxCount.ruleBy scope most s message priority) =
          (s.resolveExcess (MaxCount.counted scope tokens)
            ((MaxCount.counted scope tokens).length - MaxCount.limit most)
            (context tokens fields editing)).violations (MaxCount.ruleId scope) MaxCount.reason
              message := by
      apply report_of_ok
      show Rule.collect
        (if (MaxCount.counted scope tokens).length ≤ MaxCount.limit most then [] else _) = _
      rw [if_neg hle, Rule.collect_cons, maxCount_eq_ok]
      exact congrArg Except.ok (List.append_nil _)
    rw [if_neg hle, hreport]
    exact applyOverrides_violations (nodup_visible hids) fields
      (fun t ht => hcounted t (mem_of_mem_resolveExcess.1 ht))
      (fun t ht => hcounted t (mem_of_mem_resolveExcess.2 ht)) _ _ _

/-! ## Value checks -/

/-- What a built-in strategy does about a token with an invalid value. -/
def Manifest.StrategyName.verdict (s : StrategyName) (ctx : Context τ) (t : τ) : Action :=
  match s with
  | .mark | .replace => .mark
  | .reject => if ctx.isEditing t then .delete else .mark

/-- The violation of a token with an invalid value. -/
def ValueCheck.refusal (s : StrategyName) (ctx : Context τ) (ruleId reason message : String)
    (t : τ) : Violation :=
  { ruleId, reason, message := some message, action := s.verdict ctx t, targets := [targetOf t] }

theorem ValueCheck.outcome_refuse (s : StrategyName) (ctx : Context τ) (t : τ)
    (ruleId reason message : String) :
    (refuse s.value ctx t ruleId reason message).outcome =
      .ok [refusal s ctx ruleId reason message t] := by
  cases s <;> rfl

/-- What a pattern rule says about a token. -/
def RequirePattern.verdict? (key : String) (search : String → Bool) (s : StrategyName)
    (message : String) (ctx : Context Token) (t : Token) : Option Violation :=
  if applies key t && !search t.value then
    some (ValueCheck.refusal s ctx (ruleId key) reason message t)
  else none

/-- A pass of a pattern rule judges each token by itself. -/
theorem Validation.run_pattern {tokens : List Token} (hids : (tokens.map (·.id)).Nodup)
    (fields : List Field) (editing : List String) (key : String) (search : String → Bool)
    (s : StrategyName) (message : String) (priority : Value) :
    run tokens fields [RequirePattern.ruleBy key search s message priority] editing =
      (enforcedOn fields (RequirePattern.ruleId key) (visible tokens)).filterMap
        (RequirePattern.verdict? key search s message (context tokens fields editing)) := by
  have hreport : report (context tokens fields editing)
      (RequirePattern.ruleBy key search s message priority) =
        (visible tokens).filterMap
          (RequirePattern.verdict? key search s message (context tokens fields editing)) := by
    rw [List.filterMap_eq_flatMap_toList]
    apply report_of_ok
    show Rule.collect (((visible tokens).filter _).filterMap _) = _
    rw [List.filterMap_filter]
    apply Rule.collect_filterMap
    · intro t _ check hcheck
      split at hcheck
      · rename_i happlies
        simp only [RequirePattern.check, TokenLike.value_token] at hcheck
        split at hcheck
        · cases hcheck
        · rename_i hoccurs
          cases hcheck
          simp [ValueCheck.outcome_refuse, RequirePattern.verdict?, happlies, hoccurs]
      · cases hcheck
    · intro t _ hnone
      split at hnone
      · rename_i happlies
        simp only [RequirePattern.check, TokenLike.value_token] at hnone
        split at hnone
        · rename_i hoccurs
          simp [RequirePattern.verdict?, hoccurs]
        · cases hnone
      · rename_i happlies
        simp [RequirePattern.verdict?, happlies]
  rw [run_singleton, hreport]
  apply applyOverrides_filterMap (nodup_visible hids)
  intro t v hv
  rw [RequirePattern.verdict?] at hv
  split at hv
  · cases hv
    exact ⟨rfl, rfl⟩
  · cases hv

/-- The field that refuses the value of a token, if one does; a resolver of the host may fail. -/
def RequireEnum.judge (ctx : Context τ) (t : τ) : Except Fault (Option Field) :=
  match field? ctx t with
  | none => .ok none
  | some (field, options) => do
      return if ← isEnumMember options (TokenLike.value t) field.resolver then none else some field

/-- What an enum rule says about a token. -/
def RequireEnum.verdict? (s : StrategyName) (message : Option String) (ctx : Context τ) (t : τ) :
    Option Violation :=
  match judge ctx t with
  | .ok (some field) =>
      some (ValueCheck.refusal s ctx ruleId reason (message.getD (defaultMessage field)) t)
  | _ => none

theorem RequireEnum.checks_eq (s : StrategyName) (message : Option String) (ctx : Context τ) :
    checks s.value message ctx = ctx.tokens.filterMap fun t =>
      match judge ctx t with
      | .ok none => none
      | .ok (some field) =>
          some (ValueCheck.refuse s.value ctx t ruleId reason
            (message.getD (defaultMessage field)))
      | .error fault => some { outcome := .error fault } := by
  refine List.filterMap_congr fun t _ => ?_
  rw [judge]
  cases field? ctx t with
  | none => rfl
  | some fo =>
    obtain ⟨field, options⟩ := fo
    simp only [Option.bind_some, check]
    cases isEnumMember options (TokenLike.value t) field.resolver with
    | error fault => rfl
    | ok member => cases member <;> rfl

/-- A pass of an enum rule judges each token by itself, as long as no resolver fails. -/
theorem Validation.run_enumValue {tokens : List τ} (hids : (tokens.map TokenLike.id).Nodup)
    (fields : List Field) (editing : List String) (s : StrategyName) (message : Option String)
    (priority : Value)
    (hok : ∀ t ∈ visible tokens, ∃ refused,
      RequireEnum.judge (context tokens fields editing) t = .ok refused) :
    run tokens fields [RequireEnum.ruleBy s message priority] editing =
      (enforcedOn fields RequireEnum.ruleId (visible tokens)).filterMap
        (RequireEnum.verdict? s message (context tokens fields editing)) := by
  have hreport : report (context tokens fields editing) (RequireEnum.ruleBy s message priority) =
        (visible tokens).filterMap
          (RequireEnum.verdict? s message (context tokens fields editing)) := by
    rw [List.filterMap_eq_flatMap_toList]
    apply report_of_ok
    show Rule.collect (RequireEnum.checks _ _ _) = _
    rw [RequireEnum.checks_eq]
    apply Rule.collect_filterMap
    · intro t ht check hcheck
      obtain ⟨refused, hjudge⟩ := hok t ht
      rw [hjudge] at hcheck
      cases refused with
      | none => cases hcheck
      | some field =>
        cases hcheck
        simp only [RequireEnum.verdict?, hjudge]
        exact ValueCheck.outcome_refuse s _ t _ _ _
    · intro t ht hnone
      obtain ⟨refused, hjudge⟩ := hok t ht
      rw [hjudge] at hnone
      cases refused with
      | none => simp only [RequireEnum.verdict?, hjudge, Option.toList_none]
      | some field => cases hnone
  rw [run_singleton, hreport]
  apply applyOverrides_filterMap (nodup_visible hids)
  intro t v hv
  rw [RequireEnum.verdict?] at hv
  split at hv
  · cases hv
    exact ⟨rfl, rfl⟩
  · cases hv

/-- Where a resolver fails, the whole rule is skipped. -/
theorem Validation.run_enumValue_error {tokens : List τ} (fields : List Field)
    (editing : List String) (s : StrategyName) (message : Option String) (priority : Value) {t : τ}
    (ht : t ∈ visible tokens) {fault : Fault}
    (hfault : RequireEnum.judge (context tokens fields editing) t = .error fault) :
    run tokens fields [RequireEnum.ruleBy s message priority] editing = [] := by
  have hmem : Check.mk (.error fault) none ∈
      RequireEnum.checks s.value message (context tokens fields editing) := by
    rw [RequireEnum.checks_eq]
    exact List.mem_filterMap.mpr ⟨t, ht, by rw [hfault]⟩
  obtain ⟨e, he⟩ := Rule.collect_error hmem rfl
  rw [run_singleton, report_of_error he]
  rfl

end FilterQuery
