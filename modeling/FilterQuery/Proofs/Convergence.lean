import FilterQuery.Pattern.Compile
import FilterQuery.Proofs.Duplicates
import FilterQuery.Proofs.Limits
import FilterQuery.Proofs.Pass

/-!
# One pass is enough

A second pass over the tokens that the first one left, with the same editing set, should have
nothing to add. Flags are unseen, so it is enough to look at the tokens that the first pass spares:
a rule *rests* if, told only of these, it finds just what the first pass marked
(`fixpoint_of_rests`). Marking strategies rest because they spare everything. For the deleting ones
the point is what happens to tokens that were to go but whose field switches the rule off: the
newest token of a group is still the newest among those left, and the tokens kept against a limit
are again the first to go.
-/

namespace FilterQuery

open Manifest (StrategyName)
open Plan (demand? settle)

/-- Flags are all that a plan changes on the tokens it leaves. -/
theorem unseen_settle (violations : List Violation) :
    Unseen (settle violations : Token → Token) := by
  have hflag : ∀ t : Token, ∃ invalid reason message,
      settle violations t = TokenLike.withFlag invalid reason message t := by
    intro t
    rw [settle]
    split
    · exact ⟨_, _, _, rfl⟩
    · split
      · exact ⟨_, _, _, rfl⟩
      · exact ⟨t.invalid, t.invalidReason, t.invalidMessage, rfl⟩
  constructor <;>
  · intro t
    obtain ⟨invalid, reason, message, h⟩ := hflag t
    rw [h]
    rfl

/-- Settling again changes nothing, unless the first mark is another one. -/
theorem settle_settle {found again : List Violation} {t : Token}
    (h : demand? .mark again t.id = demand? .mark found t.id) :
    settle again (settle found t) = settle found t := by
  have hid : (settle found t).id = t.id := (unseen_settle found).id t
  cases hmark : demand? .mark found t.id with
  | some v =>
    have hagain : demand? .mark again (settle found t).id = some v := by rw [hid, h, hmark]
    rw [settle_of_mark hagain, settle_of_mark hmark]
  | none =>
    have hagain : demand? .mark again (settle found t).id = none := by rw [hid, h, hmark]
    rw [settle_of_unmarked hagain, settle_of_unmarked hmark]
    cases hinvalid : t.invalid <;> simp [hinvalid]

namespace Validation

section

variable {τ : Type} [TokenLike τ]

/-- The tokens after a pass that does not prune. -/
def pass (fields : List Field) (rules : List (Rule τ)) (editing : List String) (tokens : List τ) :
    List τ :=
  (validateTokens tokens fields rules editing false).plan.apply tokens

/-- The tokens that no violation deletes. -/
def survivors (found : List Violation) (tokens : List τ) : List τ :=
  tokens.filter fun t => (demand? .delete found (TokenLike.id t)).isNone

theorem pass_eq {tokens : List τ} (hids : (tokens.map TokenLike.id).Nodup) (fields : List Field)
    (rules : List (Rule τ)) (editing : List String) :
    pass fields rules editing tokens =
      (survivors (run tokens fields rules editing) tokens).map
        (settle (run tokens fields rules editing)) := by
  have hspared : Plan.isSpared (τ := τ) (run tokens fields rules editing) editing false =
      fun t => (demand? .delete (run tokens fields rules editing) (TokenLike.id t)).isNone :=
    funext fun t => Bool.and_true _
  rw [pass, validateTokens, Plan.apply_build hids, hspared]
  rfl

/-- Told only of the tokens that its pass spares, the rule finds just what the pass marked. -/
def Rests (r : Rule τ) (tokens : List τ) (fields : List Field) (editing : List String) : Prop :=
  run (survivors (run tokens fields [r] editing) tokens) fields [r] editing =
    (run tokens fields [r] editing).filter (·.action = .mark)

end

theorem demand?_mark_filter (found : List Violation) (id : String) :
    demand? .mark (found.filter (·.action = .mark)) id = demand? .mark found id := by
  rw [demand?, demand?, List.find?_filter]
  congr 1
  funext v
  by_cases h : v.action = .mark <;> simp [Violation.asks, h]

theorem demand?_delete_filter (found : List Violation) (id : String) :
    demand? .delete (found.filter (·.action = .mark)) id = none := by
  rw [Plan.demand?_eq_none_iff]
  intro v hv
  have hmark : v.action = .mark := by simpa using List.of_mem_filter hv
  simp [Violation.asks, hmark]

/-- A blind rule that rests has nothing to add in a second pass. -/
theorem fixpoint_of_rests {r : Rule Token} (hblind : r.IsBlind) {tokens : List Token}
    (hids : (tokens.map (·.id)).Nodup) {fields : List Field} {editing : List String}
    (hrests : Rests r tokens fields editing) :
    (validateTokens (pass fields [r] editing tokens) fields [r] editing false).plan.deleted = [] ∧
      pass fields [r] editing (pass fields [r] editing tokens) =
        pass fields [r] editing tokens := by
  have hafter := pass_eq hids fields [r] editing
  have hunseen := unseen_settle (run tokens fields [r] editing)
  -- what the second pass finds
  have hagain : run (pass fields [r] editing tokens) fields [r] editing =
      (run tokens fields [r] editing).filter (·.action = .mark) := by
    rw [hafter, hunseen.run (by simpa using hblind)]
    exact hrests
  have hidsAfter : ((pass fields [r] editing tokens).map TokenLike.id).Nodup := by
    rw [hafter, hunseen.map_id]
    exact hids.sublist (List.filter_sublist.map _)
  constructor
  · rw [List.eq_nil_iff_forall_not_mem]
    intro id hid
    rw [mem_deleted_iff, hagain, demand?_delete_filter] at hid
    cases hid.2
  · have hall : survivors ((run tokens fields [r] editing).filter (·.action = .mark))
        (pass fields [r] editing tokens) = pass fields [r] editing tokens := by
      rw [survivors, List.filter_eq_self]
      intro t _
      rw [demand?_delete_filter]
      rfl
    rw [pass_eq hidsAfter, hagain, hall]
    conv_lhs => rw [hafter]
    rw [List.map_map]
    refine Eq.trans ?_ hafter.symm
    refine List.map_congr_left fun t _ => ?_
    exact settle_settle (demand?_mark_filter _ t.id)

/-! ## Rules that rest -/

section

variable {τ : Type} [TokenLike τ] {tokens : List τ} {fields : List Field} {editing : List String}

theorem nodup_survivors (hids : (tokens.map TokenLike.id).Nodup) (found : List Violation) :
    ((survivors found tokens).map TokenLike.id).Nodup :=
  hids.sublist (List.filter_sublist.map _)

/-- A rule that only marks rests. -/
theorem rests_of_marks {r : Rule τ} (h : ∀ v ∈ run tokens fields [r] editing, v.action = .mark) :
    Rests r tokens fields editing := by
  have hall : survivors (run tokens fields [r] editing) tokens = tokens := by
    rw [survivors, List.filter_eq_self]
    intro t _
    rw [Option.isNone_iff_eq_none, Plan.demand?_eq_none_iff]
    intro v hv
    simp [Violation.asks, h v hv]
  rw [Rests, hall]
  exact (List.filter_eq_self.mpr (by simpa using h)).symm

/-- A rule that only deletes rests if it finds nothing more. -/
theorem rests_of_deletes {r : Rule τ} (h : ∀ v ∈ run tokens fields [r] editing, v.action = .delete)
    (hagain : run (survivors (run tokens fields [r] editing) tokens) fields [r] editing = []) :
    Rests r tokens fields editing := by
  rw [Rests, hagain, eq_comm, List.filter_eq_nil_iff]
  intro v hv
  simp [h v hv]

/-- Where tokens are judged one by one, only its own verdict asks anything of a token. -/
theorem demand?_filterMap_iff {ts : List τ} (hids : (tokens.map TokenLike.id).Nodup)
    (hts : ∀ t ∈ ts, t ∈ tokens) {verdict? : τ → Option Violation}
    (htargets : ∀ t v, verdict? t = some v → v.targets = [targetOf t]) {t : τ} (ht : t ∈ ts)
    {v : Violation} (hv : verdict? t = some v) (action : Action) :
    (demand? action (ts.filterMap verdict?) (TokenLike.id t)).isSome = true ↔ v.action = action := by
  rw [Plan.demand?_isSome_iff]
  constructor
  · rintro ⟨w, hw, hasks⟩
    obtain ⟨u, hu, hwu⟩ := List.mem_filterMap.mp hw
    rw [Violation.asks_iff, Violation.tokenIds, htargets u w hwu] at hasks
    obtain ⟨haction, hid⟩ := hasks
    have hid : TokenLike.id t = TokenLike.id u := List.mem_singleton.mp hid
    obtain rfl : t = u := List.inj_on_of_nodup_map hids (hts t ht) (hts u hu) hid
    rw [hv] at hwu
    rw [Option.some.inj hwu]
    exact haction
  · intro haction
    refine ⟨v, List.mem_filterMap.mpr ⟨t, ht, hv⟩, ?_⟩
    rw [Violation.asks_iff, Violation.tokenIds, htargets t v hv]
    exact ⟨haction, List.mem_singleton.mpr rfl⟩

/-- A rule that judges each token by itself rests. -/
theorem rests_of_verdicts {r : Rule τ} (hids : (tokens.map TokenLike.id).Nodup)
    (verdict? : τ → Option Violation)
    (htargets : ∀ t v, verdict? t = some v → v.targets = [targetOf t])
    (hrun : ∀ p : τ → Bool, run (tokens.filter p) fields [r] editing =
      (enforcedOn fields r.id (visible (tokens.filter p))).filterMap verdict?) :
    Rests r tokens fields editing := by
  have hfound : run tokens fields [r] editing =
      (enforcedOn fields r.id (visible tokens)).filterMap verdict? := by
    simpa using hrun fun _ => true
  have hcomm : ∀ p : τ → Bool, enforcedOn fields r.id (visible (tokens.filter p)) =
      (enforcedOn fields r.id (visible tokens)).filter p := by
    intro p
    rw [enforcedOn, visible, List.filter_comm _ p, List.filter_comm _ p]
    rfl
  have hmem : ∀ u ∈ enforcedOn fields r.id (visible tokens), u ∈ tokens :=
    fun u hu => mem_of_mem_visible (List.mem_of_mem_filter hu)
  rw [Rests, survivors, hrun, hcomm, List.filterMap_filter, hfound, List.filter_filterMap]
  refine List.filterMap_congr fun t ht => ?_
  cases hv : verdict? t with
  | none => simp
  | some v =>
    have hdelete := demand?_filterMap_iff hids hmem htargets ht hv .delete
    cases haction : v.action with
    | delete =>
      have hgone := hdelete.mpr haction
      rw [Option.isSome_iff_ne_none] at hgone
      simp [hgone, Option.filter_some, haction]
    | mark =>
      have hstays : demand? .delete ((enforcedOn fields r.id (visible tokens)).filterMap verdict?)
          (TokenLike.id t) = none := by
        rw [← Option.not_isSome_iff_eq_none, hdelete, haction]
        simp
      simp [hstays, Option.filter_some, haction]

/-! ## Uniqueness -/

theorem rests_unique_mark (hids : (tokens.map TokenLike.id).Nodup) (c : Constraint)
    (priority : Value) : Rests (Unique.ruleBy c .mark priority) tokens fields editing := by
  apply rests_of_marks
  intro v hv
  rw [run_unique hids] at hv
  obtain ⟨g, -, hv⟩ := List.mem_flatMap.mp hv
  exact Resolution.action_eq_mark rfl hv

/-- Keeping the newest rests: what is left of a group has the newest at its end, and fields keep
the others. -/
theorem rests_unique_replace (hids : (tokens.map TokenLike.id).Nodup) (c : Constraint)
    (priority : Value) : Rests (Unique.ruleBy c .replace priority) tokens fields editing := by
  have hmark : ∀ (ts : List τ) (ctx : Context τ),
      ((StrategyName.replace.resolveGroup ts ctx).enforced fields (Unique.ruleId c)).mark = [] := by
    intro ts ctx
    rw [Resolution.enforced, StrategyName.resolveGroup, Unique.mark_keepNew]
    rfl
  apply rests_of_deletes
  · intro v hv
    rw [run_unique hids] at hv
    obtain ⟨g, -, hv⟩ := List.mem_flatMap.mp hv
    exact Resolution.action_eq_delete (hmark g.tokens _) hv
  have hspared := fun t => newest?_of_spared (t := t) hids fields editing c priority
  generalize run tokens fields [Unique.ruleBy c .replace priority] editing = found at hspared
  have hidsLeft := nodup_survivors hids found
  rw [run_unique hidsLeft, List.flatMap_eq_nil_iff]
  intro g hg
  obtain ⟨s, rfl, hlength⟩ := Unique.mem_conflicts_visible.mp hg
  have htwins : Unique.twins c (survivors found tokens) s =
      (Unique.twins c tokens s).filter _ := Unique.twins_filter c tokens s _
  refine Resolution.violations_eq_nil ?_ (hmark _ _) _ _ _
  rw [List.eq_nil_iff_forall_not_mem]
  intro t ht
  obtain ⟨hgone, hoff⟩ := List.mem_filter.mp ht
  obtain ⟨hleft, hnewest⟩ := (Unique.mem_keepNew_iff (Unique.nodup_twins hidsLeft c s)).mp
    (show t ∈ (Unique.keepNew (Unique.twins c (survivors found tokens) s)
      (context tokens fields editing)).delete from hgone)
  rw [htwins] at hlength hleft hnewest
  obtain ⟨htwin, hstays⟩ := List.mem_filter.mp hleft
  obtain ⟨hvisible, rfl⟩ := Unique.mem_twins_iff.mp htwin
  -- the first pass spared it although its field does not: so it was the newest, and still is
  have hfirst := hspared t hvisible (Nat.lt_of_lt_of_le hlength (List.length_filter_le _ _))
    (by simpa using hoff) (Option.isNone_iff_eq_none.mp hstays)
  exact hnewest (Unique.newest?_filter hfirst hstays)

/-! ## Count limits -/

theorem rests_maxCount_marks (hids : (tokens.map TokenLike.id).Nodup) (scope : MaxCount.Scope)
    (most : Int) {s : StrategyName} (hs : s ≠ .reject) (message : String) (priority : Value) :
    Rests (MaxCount.ruleBy scope most s message priority) tokens fields editing := by
  apply rests_of_marks
  intro v hv
  rw [run_maxCount hids] at hv
  split at hv
  · cases hv
  · cases s with
    | mark | replace => exact Resolution.action_eq_mark rfl hv
    | reject => exact absurd rfl hs

/-- A rejecting limit rests: what fields keep of the front of the queue is its front again, and as
long as the new excess. -/
theorem rests_maxCount_reject (hids : (tokens.map TokenLike.id).Nodup) (scope : MaxCount.Scope)
    (most : Int) (message : String) (priority : Value) :
    Rests (MaxCount.ruleBy scope most .reject message priority) tokens fields editing := by
  have hmark : ∀ (ts : List τ) (excess : Nat) (ctx : Context τ),
      ((MaxCount.dropNew ts excess ctx).enforced fields (MaxCount.ruleId scope)).mark = [] := by
    intro ts excess ctx
    rw [Resolution.enforced, MaxCount.mark_dropNew]
    rfl
  apply rests_of_deletes
  · intro v hv
    rw [run_maxCount_reject hids] at hv
    exact Resolution.action_eq_delete (hmark _ _ _) hv
  have hdelete := fun t => delete_maxCount_iff (t := t) hids fields editing scope most message
    priority
  generalize run tokens fields [MaxCount.ruleBy scope most .reject message priority] editing =
    found at hdelete
  have hfront : MaxCount.front (context tokens fields editing) scope most
      (survivors found tokens) =
        (MaxCount.front (context tokens fields editing) scope most tokens).filter
          fun t => (demand? .delete found (TokenLike.id t)).isNone := by
    apply MaxCount.front_filter (List.Nodup.of_map _ (nodup_visible hids))
    intro t ht hback
    rw [Option.isNone_iff_eq_none, ← Option.not_isSome_iff_eq_none,
      hdelete t (mem_of_mem_visible ht)]
    exact fun hgone => hback hgone.1
  rw [run_maxCount_reject (nodup_survivors hids found)]
  refine Resolution.violations_eq_nil ?_ (hmark _ _ _) _ _ _
  rw [List.eq_nil_iff_forall_not_mem]
  intro t ht
  obtain ⟨hgone, hoff⟩ := List.mem_filter.mp ht
  have hagain : t ∈ MaxCount.front (context tokens fields editing) scope most
      (survivors found tokens) := MaxCount.mem_dropNew_iff.mp hgone
  rw [hfront] at hagain
  obtain ⟨hagain, hstays⟩ := List.mem_filter.mp hagain
  have hsome := (hdelete t (mem_of_mem_visible (MaxCount.mem_of_mem_front hagain))).mpr
    ⟨hagain, by simpa using hoff⟩
  rw [Option.isNone_iff_eq_none] at hstays
  rw [hstays] at hsome
  cases hsome

end

/-! ## Value checks -/

/-- Patterns rest. -/
theorem rests_pattern {tokens : List Token} (hids : (tokens.map (·.id)).Nodup)
    (fields : List Field) (editing : List String) (key : String) (search : String → Bool)
    (s : StrategyName) (message : String) (priority : Value) :
    Rests (RequirePattern.ruleBy key search s message priority) tokens fields editing := by
  apply rests_of_verdicts hids
    (RequirePattern.verdict? key search s message (context tokens fields editing))
  · intro t v hv
    rw [RequirePattern.verdict?] at hv
    split at hv
    · cases hv
      rfl
    · cases hv
  · intro p
    exact run_pattern (hids.sublist (List.filter_sublist.map _)) fields editing key search s
      message priority

/-- Options rest; where a resolver fails the rule finds nothing at all. -/
theorem rests_enumValue {τ : Type} [TokenLike τ] {tokens : List τ}
    (hids : (tokens.map TokenLike.id).Nodup) (fields : List Field) (editing : List String)
    (s : StrategyName) (message : Option String) (priority : Value) :
    Rests (RequireEnum.ruleBy s message priority) tokens fields editing := by
  by_cases hok : ∀ t ∈ visible tokens, ∃ refused,
      RequireEnum.judge (context tokens fields editing) t = .ok refused
  · apply rests_of_verdicts hids
      (RequireEnum.verdict? s message (context tokens fields editing))
    · intro t v hv
      rw [RequireEnum.verdict?] at hv
      split at hv
      · cases hv
        rfl
      · cases hv
    · intro p
      apply run_enumValue (hids.sublist (List.filter_sublist.map _)) fields editing s message
        priority
      intro t ht
      have hvisible := List.mem_filter.mp ht
      exact hok t (List.mem_filter.mpr ⟨List.mem_of_mem_filter hvisible.1, hvisible.2⟩)
  · simp only [not_forall] at hok
    obtain ⟨t, ht, hfault⟩ := hok
    cases hjudge : RequireEnum.judge (context tokens fields editing) t with
    | ok refused => exact absurd ⟨refused, hjudge⟩ hfault
    | error fault =>
      apply rests_of_marks
      intro v hv
      rw [run_enumValue_error fields editing s message priority ht hjudge] at hv
      cases hv

end Validation

/-- Every preset rests, except uniqueness rules that reject. -/
theorem Preset.rests_rule {host : Host} {p : Preset} (hp : ∀ c, p ≠ .unique c .reject)
    {priority : Value} {r : Rule Token} (hr : p.rule host priority = .ok r) {tokens : List Token}
    (hids : (tokens.map (·.id)).Nodup) (fields : List Field) (editing : List String) :
    Validation.Rests r tokens fields editing := by
  cases p with
  | unique c s =>
    rw [rule_unique hr]
    cases s with
    | mark =>
      exact Validation.rests_unique_mark hids c priority
    | reject => exact absurd rfl (hp c)
    | replace => exact Validation.rests_unique_replace hids c priority
  | maxCount scope most s message =>
    rw [rule_maxCount hr]
    by_cases hs : s = .reject
    · rw [hs]
      exact Validation.rests_maxCount_reject hids scope most _ priority
    · exact Validation.rests_maxCount_marks hids scope most hs _ priority
  | pattern key source s message =>
    obtain ⟨search, rfl⟩ := rule_pattern hr
    exact Validation.rests_pattern hids fields editing key search s _ priority
  | enumValue s message =>
    rw [rule_enumValue hr]
    exact Validation.rests_enumValue hids fields editing s message priority

/-- **One pass of a preset is enough.** Over the tokens after a pass, a second pass with the same
editing set deletes nothing and changes nothing. Uniqueness rules that reject are left out. -/
theorem pass_fixpoint (host : Host) (p : Preset) (hp : ∀ c, p ≠ .unique c .reject)
    (priority : Value) (r : Rule Token) (hr : p.rule host priority = .ok r) (tokens : List Token)
    (hids : (tokens.map (·.id)).Nodup) (fields : List Field) (editing : List String) :
    let after := (validateTokens tokens fields [r] editing false).plan.apply tokens
    let again := validateTokens after fields [r] editing false
    again.plan.deleted = [] ∧ again.plan.apply after = after :=
  Validation.fixpoint_of_rests (Preset.isBlind_rule hr) hids
    (Preset.rests_rule hp hr hids fields editing)

/-- Three tokens are too many; one of them is kept by its field, and only loses its flag. -/
theorem pass_fixpoint_switched_off :
    let status : Field := { key := "status", label := "Status", operators := ["is"]
                            validation := [("max-count-total", false)] }
    let tokens : List Token :=
      [{ id := "a", type := .filter, key := "status", value := "open", invalid := true },
       { id := "b", type := .filter, key := "owner", value := "me" },
       { id := "c", type := .freeText, value := "late" }]
    let p : Preset := .maxCount .all 0 .reject (some "Too many")
    let r : Rule Token :=
      ⟨"max-count-total", .int 0, MaxCount.checks .all 0 MaxCount.reject "Too many"⟩
    let after := (validateTokens tokens [status] [r] ["b"] false).plan.apply tokens
    let again := validateTokens after [status] [r] ["b"] false
    (∀ c, p ≠ .unique c .reject) ∧ p.rule .standard (.int 0) = .ok r ∧
      (tokens.map (·.id)).Nodup ∧
      after = [{ id := "a", type := .filter, key := "status", value := "open" }] ∧
      again.plan.deleted = [] ∧ again.plan.apply after = after := by
  intro status tokens p r after again
  have hp : ∀ c, p ≠ .unique c .reject := by simp [p]
  have hr : p.rule .standard (.int 0) = .ok r :=
    Preset.rule_maxCount_iff.mpr ⟨rfl, by decide +kernel, rfl⟩
  have hids : (tokens.map (·.id)).Nodup := by decide
  have hafter : after = [{ id := "a", type := .filter, key := "status", value := "open" }] := by
    simp only [after, validateTokens, Validation.run_singleton]
    decide +kernel
  exact ⟨hp, hr, hids, hafter, pass_fixpoint .standard p hp (.int 0) r hr tokens hids [status] ["b"]⟩

end FilterQuery
