import FilterQuery.Manifest.Rule
import FilterQuery.Proofs.Groups
import FilterQuery.Validation

/-!
# What rules cannot see

Rules look at tokens through id, position, type, key, operator and value. A change of tokens that
keeps these is unseen; applying a plan changes flags only, so what it does to the tokens that stay
is unseen (`unseen_settle` in the module on convergence). Presets are blind to such changes: the
checks of each kind come out the same (`Unseen.uniqueChecks` and its siblings), and so does a whole
pass (`Unseen.run`).
-/

namespace FilterQuery

variable {τ : Type} [TokenLike τ]

/-- A change of tokens that keeps everything a rule may look at. -/
structure Unseen (f : τ → τ) : Prop where
  id : ∀ t, TokenLike.id (f t) = TokenLike.id t
  pos : ∀ t, TokenLike.pos (f t) = TokenLike.pos t
  type? : ∀ t, TokenLike.type? (f t) = TokenLike.type? t
  key : ∀ t, TokenLike.key (f t) = TokenLike.key t
  operator : ∀ t, TokenLike.operator (f t) = TokenLike.operator t
  value : ∀ t, TokenLike.value (f t) = TokenLike.value t

/-- The context with changed tokens. -/
def Context.map (f : τ → τ) (ctx : Context τ) : Context τ := { ctx with tokens := ctx.tokens.map f }

/-- The resolution of changed tokens. -/
def Resolution.map (f : τ → τ) (r : Resolution τ) : Resolution τ :=
  ⟨r.delete.map f, r.mark.map f⟩

/-- The group of changed tokens. -/
def Unique.Group.map (f : τ → τ) (g : Unique.Group τ) : Unique.Group τ :=
  { g with tokens := g.tokens.map f }

/-- A test that gives the same answer for changed tokens selects the same ones. -/
theorem filter_map_comm {α : Type} {f : α → α} {p : α → Bool} (hp : ∀ t, p (f t) = p t)
    (ts : List α) : (ts.map f).filter p = (ts.filter p).map f := by
  rw [List.filter_map]
  congr 1
  exact List.filter_congr fun t _ => hp t

/-- A rule whose checks do not depend on what it cannot see. -/
def Rule.IsBlind (r : Rule τ) : Prop :=
  ∀ f : τ → τ, Unseen f → ∀ ctx : Context τ, r.checks (ctx.map f) = r.checks ctx

theorem Unique.markLater_map {α : Type} (f : α → α) (ts : List α) :
    Unique.markLater (ts.map f) = (Unique.markLater ts).map f := by
  simp [Unique.markLater, Resolution.map]

namespace Unseen

variable {f : τ → τ} (hf : Unseen f)
include hf

theorem isPlaintext (t : τ) : TokenLike.isPlaintext (f t) = TokenLike.isPlaintext t := by
  simp only [TokenLike.isPlaintext, hf.type?]

theorem isFreeText (t : τ) : TokenLike.isFreeText (f t) = TokenLike.isFreeText t := by
  simp only [TokenLike.isFreeText, hf.type?]

theorem underConstruction (t : τ) :
    TokenLike.underConstruction (f t) = TokenLike.underConstruction t := by
  simp only [TokenLike.underConstruction, hf.value]

theorem map_id (ts : List τ) : (ts.map f).map TokenLike.id = ts.map TokenLike.id := by
  rw [List.map_map]
  exact List.map_congr_left fun t _ => hf.id t

theorem targetOf (t : τ) : targetOf (f t) = FilterQuery.targetOf t := by
  simp only [FilterQuery.targetOf, hf.id, hf.pos]

theorem isEditing (ctx : Context τ) (t : τ) : (ctx.map f).isEditing (f t) = ctx.isEditing t := by
  simp only [Context.isEditing, Context.map, hf.id]

theorem split (ctx : Context τ) (ts : List τ) :
    (ctx.map f).split (ts.map f) = ((ctx.split ts).1.map f, (ctx.split ts).2.map f) := by
  have hp : ∀ t, ctx.isEditing (f t) = ctx.isEditing t := hf.isEditing ctx
  show (ts.map f).partition ctx.isEditing = _
  simp only [Context.split, List.partition_eq_filter_filter]
  rw [filter_map_comm hp, filter_map_comm fun t => by simp [hp]]

theorem violation? (ts : List τ) (action : Action) (ruleId reason : String)
    (message : Option String) :
    violation? (ts.map f) action ruleId reason message =
      FilterQuery.violation? ts action ruleId reason message := by
  have htargets : (ts.map f).map FilterQuery.targetOf = ts.map FilterQuery.targetOf := by
    rw [List.map_map]
    exact List.map_congr_left fun t _ => hf.targetOf t
  simp only [FilterQuery.violation?, List.isEmpty_map, htargets]

theorem violations (r : Resolution τ) (ruleId reason message : String) :
    (r.map f).violations ruleId reason message = r.violations ruleId reason message := by
  simp only [Resolution.violations, Resolution.map, hf.violation?]

/-! ## Uniqueness -/

theorem signature (c : Constraint) (t : τ) : Unique.signature c (f t) = Unique.signature c t := by
  unfold Unique.signature
  simp only [hf.isFreeText, hf.key, hf.operator, hf.value]

theorem groupOf (c : Constraint) (ts : List τ) (s : String) :
    Unique.groupOf c (ts.map f) s = (Unique.groupOf c ts s).map f := by
  have hp : ∀ t, decide (Unique.signature c (f t) = s) = decide (Unique.signature c t = s) :=
    fun t => by rw [hf.signature]
  have hkey : ((ts.map f).find? fun t => Unique.signature c t = s).map TokenLike.key =
      (ts.find? fun t => Unique.signature c t = s).map TokenLike.key := by
    rw [List.find?_map, Option.map_map]
    have hfind : (fun t => decide (Unique.signature c t = s)) ∘ f =
        fun t => decide (Unique.signature c t = s) := funext hp
    have hmap : TokenLike.key ∘ f = TokenLike.key (τ := τ) := funext hf.key
    rw [hfind, hmap]
  simp only [Unique.groupOf, Unique.Group.map, hkey]
  rw [filter_map_comm hp]

theorem conflicts (c : Constraint) (ts : List τ) :
    Unique.conflicts c (ts.map f) = (Unique.conflicts c ts).map (·.map f) := by
  have hsignatures : (ts.map f).map (Unique.signature c) = ts.map (Unique.signature c) := by
    rw [List.map_map]
    exact List.map_congr_left fun t _ => hf.signature c t
  have hgroups : Unique.groups c (ts.map f) = (Unique.groups c ts).map (·.map f) := by
    rw [Unique.groups_eq, Unique.groups_eq, hsignatures, List.map_map]
    exact List.map_congr_left fun s _ => hf.groupOf c ts s
  rw [Unique.conflicts, Unique.conflicts, hgroups, List.filter_map]
  congr 1
  exact List.filter_congr fun g _ => by simp [Unique.Group.map]

theorem keepOld (ctx : Context τ) (ts : List τ) :
    Unique.keepOld (ts.map f) (ctx.map f) = (Unique.keepOld ts ctx).map f := by
  rw [Unique.keepOld, Unique.keepOld, hf.split]
  -- the cases of the strategy: all tokens are new, none is, or there are both
  rcases ctx.split ts with ⟨_ | ⟨e, es⟩, _ | ⟨u, us⟩⟩
  · rfl
  · exact Unique.markLater_map f ts
  · simp [Resolution.map]
  · rfl

theorem keepNew (ctx : Context τ) (ts : List τ) :
    Unique.keepNew (ts.map f) (ctx.map f) = (Unique.keepNew ts ctx).map f := by
  rw [Unique.keepNew, Unique.keepNew, hf.split]
  rcases ctx.split ts with ⟨_ | ⟨e, es⟩, us⟩
  · simp [Resolution.map]
  · simp only [Resolution.map, List.map_append, List.map_dropLast]
    rfl

/-- A built-in strategy resolves changed tokens as it resolves the tokens. -/
theorem uniqueStrategy (s : Manifest.StrategyName) (ctx : Context τ) (g : Unique.Group τ) :
    s.unique (g.map f) (ctx.map f) = (s.unique g ctx).map (·.map f) := by
  cases s with
  | mark => exact congrArg Except.ok (Unique.markLater_map f g.tokens)
  | reject => exact congrArg Except.ok (hf.keepOld ctx g.tokens)
  | replace => exact congrArg Except.ok (hf.keepNew ctx g.tokens)

theorem uniqueChecks (c : Constraint) (s : Manifest.StrategyName) (ctx : Context τ) :
    Unique.checks c s.unique (ctx.map f) = Unique.checks c s.unique ctx := by
  rw [Unique.checks, Unique.checks]
  show (Unique.conflicts c (ctx.tokens.map f)).map _ = _
  rw [hf.conflicts, List.map_map]
  refine List.map_congr_left fun g _ => ?_
  simp only [Function.comp_apply, hf.uniqueStrategy, Check.mk.injEq]
  refine ⟨?_, ?_⟩
  · cases s.unique g ctx with
    | error e => rfl
    | ok r => exact congrArg Except.ok (hf.violations r _ _ _)
  · simp only [Unique.Group.map, hf.map_id]

/-! ## Count limits -/

theorem covers (scope : MaxCount.Scope) (t : τ) : scope.covers (f t) = scope.covers t := by
  cases scope with
  | all => rfl
  | ofKey key => simp only [MaxCount.Scope.covers, hf.key]

theorem dropNew (ctx : Context τ) (ts : List τ) (excess : Nat) :
    MaxCount.dropNew (ts.map f) excess (ctx.map f) = (MaxCount.dropNew ts excess ctx).map f := by
  simp only [MaxCount.dropNew, hf.split, List.length_map]
  split
  · simp [Resolution.map]
  · simp [Resolution.map]

theorem maxCountStrategy (s : Manifest.StrategyName) (ctx : Context τ) (ts : List τ)
    (excess : Nat) :
    s.maxCount (ts.map f) excess (ctx.map f) = (s.maxCount ts excess ctx).map (·.map f) := by
  have hmark : MaxCount.markLast (ts.map f) excess = (MaxCount.markLast ts excess).map f := by
    simp [MaxCount.markLast, Resolution.map]
  cases s with
  | mark => exact congrArg Except.ok hmark
  | reject => exact congrArg Except.ok (hf.dropNew ctx ts excess)
  | replace => exact congrArg Except.ok hmark

theorem maxCountChecks (scope : MaxCount.Scope) (most : Int) (s : Manifest.StrategyName)
    (message : String) (ctx : Context τ) :
    MaxCount.checks scope most s.maxCount message (ctx.map f) =
      MaxCount.checks scope most s.maxCount message ctx := by
  have hcounted : (ctx.map f).tokens.filter scope.covers =
      (ctx.tokens.filter scope.covers).map f := filter_map_comm (hf.covers scope) ctx.tokens
  simp only [MaxCount.checks, hcounted, List.length_map, hf.maxCountStrategy, hf.map_id]
  split
  · rfl
  · congr 2
    cases s.maxCount (ctx.tokens.filter scope.covers) _ ctx with
    | error e => rfl
    | ok r => exact congrArg Except.ok (hf.violations r _ _ _)

/-! ## Value checks -/

theorem refuse (s : Manifest.StrategyName) (ctx : Context τ) (t : τ)
    (ruleId reason message : String) :
    ValueCheck.refuse s.value (ctx.map f) (f t) ruleId reason message =
      ValueCheck.refuse s.value ctx t ruleId reason message := by
  have hstrategy : s.value (f t) (ctx.map f) = s.value t ctx := by
    cases s with
    | mark => rfl
    | reject => simp only [Manifest.StrategyName.value, ValueCheck.reject, hf.isEditing]
    | replace => rfl
  simp only [ValueCheck.refuse, hstrategy, hf.targetOf, hf.id]

theorem patternChecks (key : String) (search : String → Bool) (s : Manifest.StrategyName)
    (message : String) (ctx : Context τ) :
    RequirePattern.checks key search s.value message (ctx.map f) =
      RequirePattern.checks key search s.value message ctx := by
  have happlies : ∀ t : τ, RequirePattern.applies key (f t) = RequirePattern.applies key t := by
    intro t
    simp only [RequirePattern.applies, hf.key, hf.underConstruction]
  have hchecked : (ctx.map f).tokens.filter (RequirePattern.applies key) =
      (ctx.tokens.filter (RequirePattern.applies key)).map f :=
    filter_map_comm happlies ctx.tokens
  rw [RequirePattern.checks, RequirePattern.checks, hchecked, List.filterMap_map]
  refine List.filterMap_congr fun t _ => ?_
  simp only [Function.comp_apply, RequirePattern.check, hf.value, hf.refuse]

theorem enumChecks (s : Manifest.StrategyName) (message : Option String) (ctx : Context τ) :
    RequireEnum.checks s.value message (ctx.map f) = RequireEnum.checks s.value message ctx := by
  have hfield : ∀ t : τ, RequireEnum.field? (ctx.map f) (f t) = RequireEnum.field? ctx t := by
    intro t
    simp only [RequireEnum.field?, hf.underConstruction, hf.key]
    rfl
  rw [RequireEnum.checks, RequireEnum.checks]
  show (ctx.tokens.map f).filterMap _ = _
  rw [List.filterMap_map]
  refine List.filterMap_congr fun t _ => ?_
  simp only [Function.comp_apply, hfield]
  congr 1
  funext fo
  simp only [RequireEnum.check, hf.value, hf.refuse]

/-! ## A pass -/

theorem visible (ts : List τ) :
    Validation.visible (ts.map f) = (Validation.visible ts).map f :=
  filter_map_comm (fun t => by rw [hf.isPlaintext]) ts

theorem applyOverrides (ts : List τ) (fields : List Field) (violations : List Violation) :
    Validation.applyOverrides (ts.map f) fields violations =
      Validation.applyOverrides ts fields violations := by
  have hfield : ∀ id, Validation.fieldOfId (ts.map f) fields id =
      Validation.fieldOfId ts fields id := by
    intro id
    have hid : (TokenLike.id · == id) ∘ f = (TokenLike.id (τ := τ) · == id) :=
      funext fun t => by simp only [Function.comp_apply, hf.id]
    rw [Validation.fieldOfId, Validation.fieldOfId, ← List.map_reverse, List.find?_map, hid,
      Option.bind_map]
    congr 1
    exact funext fun t => by simp only [Function.comp_apply, hf.key]
  refine List.filterMap_congr fun v _ => ?_
  simp only [Validation.withoutExempt, Validation.isExempt, hfield]

/-- A pass of blind rules finds the same in changed tokens. -/
theorem run {rules : List (Rule τ)} (hrules : ∀ r ∈ rules, r.IsBlind) (ts : List τ)
    (fields : List Field) (editing : List String) :
    Validation.run (ts.map f) fields rules editing = Validation.run ts fields rules editing := by
  have hcontext : Validation.context (ts.map f) fields editing =
      (Validation.context ts fields editing).map f := by
    rw [Validation.context, hf.visible]
    rfl
  have hreport : ∀ r ∈ Validation.sortRules rules,
      Validation.report (Validation.context (ts.map f) fields editing) r =
        Validation.report (Validation.context ts fields editing) r := by
    intro r hr
    have hblind := hrules r (List.mem_mergeSort.mp hr)
    rw [hcontext, Validation.report, Validation.report, Rule.validate, Rule.validate,
      hblind f hf]
  rw [Validation.run, Validation.run]
  simp only [List.flatMap_congr hreport]
  show Validation.applyOverrides (Validation.visible (ts.map f)) fields _ = _
  rw [hf.visible, hf.applyOverrides]
  rfl

end Unseen

end FilterQuery
