import FilterQuery.Proofs.Ranking
import FilterQuery.Proofs.Switches

/-!
# Rules by themselves

No rule sees what another one reports, so a pass of several rules is a row of passes of one rule
each (`run_eq_flatMap`), in the order of ranks. A rule that fails leaves nothing in that row, and
leaving it out changes nothing (`run_without_failed`). What a single rule reports comes out as it
was reported, but for the targets whose field switches the rule off (`run_of_ok`).
-/

namespace FilterQuery

variable {τ : Type} [TokenLike τ]

/-- Whether a target is one of some tokens, and the field of that token switches a rule off. -/
def isShielded (tokens : List τ) (fields : List Field) (ruleId : String) (target : Target) : Bool :=
  tokens.any fun t => TokenLike.id t == target.tokenId && isSwitchedOff fields ruleId t

/-- A violation without its shielded targets. -/
def Violation.unshielded (tokens : List τ) (fields : List Field) (v : Violation) : Violation :=
  { v with targets := v.targets.filter fun target => !isShielded tokens fields v.ruleId target }

namespace Validation

/-- What a pass owes to rules that know nothing of each other. -/
structure Isolated (tokens : List τ) (fields : List Field) (rules : List (Rule τ))
    (editing : List String) : Prop where
  /-- A pass of all rules is a pass of each of them, in the order of ranks. -/
  in_order : ∃ ordered, Ranked rules ordered ∧
    run tokens fields rules editing = ordered.flatMap fun r => run tokens fields [r] editing
  failed_silent : ∀ r fault, r.validate (context tokens fields editing) = .error fault →
    run tokens fields [r] editing = []
  /-- A rule that fails can be left out. -/
  failed_unmissed : ∀ before r after fault, rules = before ++ r :: after →
    r.validate (context tokens fields editing) = .error fault →
      run tokens fields (before ++ after) editing = run tokens fields rules editing
  /-- Violations come out as they were reported, but for their shielded targets. -/
  reported : ∀ r vs, r.validate (context tokens fields editing) = .ok vs →
    run tokens fields [r] editing =
      (vs.map (·.unshielded (visible tokens) fields)).filter fun v => !v.targets.isEmpty
  targeted : ∀ v ∈ run tokens fields rules editing, v.targets ≠ []
  /-- No visible target has a field that switches the rule off. -/
  unshielded : ∀ v ∈ run tokens fields rules editing, ∀ t ∈ visible tokens,
    isSwitchedOff fields v.ruleId t = true → TokenLike.id t ∉ v.tokenIds

/-! ## A row of passes -/

/-- **A pass of several rules** is a pass of each of them. -/
theorem run_eq_flatMap (tokens : List τ) (fields : List Field) (rules : List (Rule τ))
    (editing : List String) :
    run tokens fields rules editing =
      (sortRules rules).flatMap fun r => run tokens fields [r] editing := by
  have hsingle : (fun r => run tokens fields [r] editing) = fun r =>
      applyOverrides (visible tokens) fields (report (context tokens fields editing) r) :=
    funext fun r => run_singleton tokens fields r editing
  rw [hsingle]
  show applyOverrides (visible tokens) fields ((sortRules rules).flatMap _) = _
  rw [applyOverrides, List.filterMap_flatMap]
  rfl

theorem mem_run_iff {tokens : List τ} {fields : List Field} {rules : List (Rule τ)}
    {editing : List String} {v : Violation} :
    v ∈ run tokens fields rules editing ↔ ∃ r ∈ rules, v ∈ run tokens fields [r] editing := by
  rw [run_eq_flatMap, List.mem_flatMap]
  simp only [sortRules, List.mem_mergeSort]

/-! ## Rules that fail -/

theorem run_of_error {tokens : List τ} {fields : List Field} {editing : List String} {r : Rule τ}
    {fault : Fault} (h : r.validate (context tokens fields editing) = .error fault) :
    run tokens fields [r] editing = [] := by
  rw [run_singleton, report_of_error h]
  rfl

/-- Rules that report nothing can be left out. -/
theorem run_filter {tokens : List τ} {fields : List Field} {editing : List String}
    {rules : List (Rule τ)} {p : Rule τ → Bool}
    (hp : ∀ r ∈ rules, p r = false → run tokens fields [r] editing = []) :
    run tokens fields (rules.filter p) editing = run tokens fields rules editing := by
  rw [run_eq_flatMap, run_eq_flatMap, sortRules_filter]
  have hsorted : ∀ r ∈ sortRules rules, p r = false → run tokens fields [r] editing = [] :=
    fun r hr => hp r (List.mem_mergeSort.mp hr)
  generalize sortRules rules = sorted at hsorted
  induction sorted with
  | nil => rfl
  | cons r rs ih =>
    have hlater := ih fun s hs => hsorted s (List.mem_cons_of_mem _ hs)
    cases hr : p r with
    | true => rw [List.filter_cons_of_pos hr, List.flatMap_cons, List.flatMap_cons, hlater]
    | false =>
      rw [List.filter_cons_of_neg (by simp [hr]), List.flatMap_cons, hlater,
        hsorted r List.mem_cons_self hr, List.nil_append]

theorem run_without_failed {tokens : List τ} {fields : List Field} {editing : List String}
    {before after : List (Rule τ)} {r : Rule τ} {fault : Fault}
    (h : r.validate (context tokens fields editing) = .error fault) :
    run tokens fields (before ++ after) editing =
      run tokens fields (before ++ r :: after) editing := by
  -- both lists have the same rules that do not fail
  have hrest : ∀ rules : List (Rule τ),
      run tokens fields (rules.filter fun s =>
        (s.validate (context tokens fields editing)).toBool) editing =
      run tokens fields rules editing := by
    intro rules
    refine run_filter fun s _ hs => ?_
    cases hvalidate : s.validate (context tokens fields editing) with
    | error e => exact run_of_error hvalidate
    | ok vs =>
      rw [hvalidate] at hs
      cases hs
  rw [← hrest (before ++ after), ← hrest (before ++ r :: after), List.filter_append,
    List.filter_append, List.filter_cons_of_neg (by rw [h]; simp [Except.toBool])]

/-! ## What is left of a report -/

/-- Ids are distinct, so an id stands for one visible token at most. -/
theorem isExempt_visible {tokens : List τ} (hids : (tokens.map TokenLike.id).Nodup)
    (fields : List Field) (ruleId : String) (target : Target) :
    isExempt (visible tokens) fields ruleId target =
      isShielded (visible tokens) fields ruleId target := by
  rw [Bool.eq_iff_iff, isShielded, List.any_eq_true]
  constructor
  · intro h
    rw [isExempt, fieldOfId] at h
    cases hfind : (visible tokens).reverse.find? (TokenLike.id · == target.tokenId) with
    | none =>
      rw [hfind] at h
      cases h
    | some t =>
      have ht : t ∈ visible tokens := List.mem_reverse.mp (List.mem_of_find?_eq_some hfind)
      have hid := List.find?_some hfind
      rw [hfind] at h
      exact ⟨t, ht, by rw [hid]; exact h⟩
  · rintro ⟨t, ht, h⟩
    rw [Bool.and_eq_true, beq_iff_eq] at h
    rw [isExempt, ← h.1, fieldOfId_eq (nodup_visible hids) fields ht]
    exact h.2

theorem withoutExempt_visible {tokens : List τ} (hids : (tokens.map TokenLike.id).Nodup)
    (fields : List Field) (v : Violation) :
    withoutExempt (visible tokens) fields v =
      if (v.unshielded (visible tokens) fields).targets.isEmpty then none
      else some (v.unshielded (visible tokens) fields) := by
  have htargets : (v.targets.filter fun target =>
      !isExempt (visible tokens) fields v.ruleId target) =
        (v.unshielded (visible tokens) fields).targets := by
    simp only [isExempt_visible hids, Violation.unshielded]
  rw [withoutExempt, htargets]
  unfold Violation.unshielded
  cases v.targets.filter fun target => !isShielded (visible tokens) fields v.ruleId target with
  | nil => rfl
  | cons target targets => rfl

/-- What a rule reports comes out without its shielded targets, and a violation that loses all of
them is dropped. -/
theorem run_of_ok {tokens : List τ} (hids : (tokens.map TokenLike.id).Nodup) {fields : List Field}
    {editing : List String} {r : Rule τ} {vs : List Violation}
    (h : r.validate (context tokens fields editing) = .ok vs) :
    run tokens fields [r] editing =
      (vs.map (·.unshielded (visible tokens) fields)).filter fun v => !v.targets.isEmpty := by
  rw [run_singleton, report_of_ok h, applyOverrides, List.filter_map, ← List.filterMap_eq_map,
    List.filterMap_filter]
  refine List.filterMap_congr fun v _ => ?_
  rw [withoutExempt_visible hids]
  cases hempty : (v.unshielded (visible tokens) fields).targets.isEmpty with
  | true => simp [hempty]
  | false => simp [hempty]

/-- No violation is left without targets, and none has a visible target whose field switches the
rule off. -/
theorem targets_of_mem_run {tokens : List τ} (hids : (tokens.map TokenLike.id).Nodup)
    {fields : List Field} {rules : List (Rule τ)} {editing : List String} {v : Violation}
    (hv : v ∈ run tokens fields rules editing) :
    v.targets ≠ [] ∧ ∀ t ∈ visible tokens, isSwitchedOff fields v.ruleId t = true →
      TokenLike.id t ∉ v.tokenIds := by
  obtain ⟨r, -, hv⟩ := mem_run_iff.mp hv
  cases hvalidate : r.validate (context tokens fields editing) with
  | error fault =>
    rw [run_of_error hvalidate] at hv
    cases hv
  | ok vs =>
    rw [run_of_ok hids hvalidate, List.mem_filter] at hv
    obtain ⟨hmem, hsome⟩ := hv
    obtain ⟨reported, -, rfl⟩ := List.mem_map.mp hmem
    refine ⟨by simpa using hsome, ?_⟩
    intro t ht hoff hid
    obtain ⟨target, htarget, heq⟩ := List.mem_map.mp hid
    obtain ⟨-, hkept⟩ := List.mem_filter.mp htarget
    have hoff : isSwitchedOff fields reported.ruleId t = true := hoff
    have hshielded : isShielded (visible tokens) fields reported.ruleId target = true :=
      List.any_eq_true.mpr ⟨t, ht, by simp [heq, hoff]⟩
    rw [hshielded] at hkept
    cases hkept

/-- **Rules are isolated from each other.** A pass reports what each rule reports in a pass of its
own, a rule that fails is not missed, and of the targets of a rule just those are taken away that
are visible and whose field switches the rule off. -/
theorem isolated_run (tokens : List τ) (hids : (tokens.map TokenLike.id).Nodup)
    (fields : List Field) (rules : List (Rule τ)) (editing : List String) :
    Isolated tokens fields rules editing where
  in_order := ⟨sortRules rules, ranked_sortRules rules, run_eq_flatMap tokens fields rules editing⟩
  failed_silent := fun _ _ h => run_of_error h
  failed_unmissed := by
    rintro before r after fault rfl h
    exact run_without_failed h
  reported := fun _ _ h => run_of_ok hids h
  targeted := fun _ hv => (targets_of_mem_run hids hv).1
  unshielded := fun _ hv => (targets_of_mem_run hids hv).2

/-- A rule that fails comes first and a rule without a priority second; of its two targets one is
taken away. -/
theorem isolated_run_switched_off :
    let status : Field := { key := "status", label := "Status", operators := ["is"]
                            validation := [("pair", false)] }
    let tokens : List Token :=
      [{ id := "a", type := .filter, key := "status", value := "open" },
       { id := "b", type := .filter, key := "owner", value := "me" }]
    let report (ruleId : String) (action : Action) (ids : List String) : Violation :=
      { ruleId, reason := "custom", action, targets := ids.map ({ tokenId := · }) }
    let late : Rule Token := Rule.ofFunction "late" (.int (-1)) fun _ =>
      .ok [report "late" .mark ["a"]]
    let broken : Rule Token := Rule.ofFunction "broken" (.int 7) fun _ => .error .wrongType
    let pair : Rule Token := Rule.ofFunction "pair" .null fun _ =>
      .ok [report "pair" .mark ["a"], report "pair" .delete ["a", "b"]]
    (tokens.map TokenLike.id).Nodup ∧
      run tokens [status] [late, broken, pair] [] =
        [report "pair" .delete ["b"], report "late" .mark ["a"]] ∧
      Isolated tokens [status] [late, broken, pair] [] := by
  intro status tokens report late broken pair
  have hids : (tokens.map TokenLike.id).Nodup := by decide
  have hsort : sortRules [late, broken, pair] = [broken, pair, late] := by
    simp [sortRules, List.mergeSort, List.MergeSort.Internal.splitInTwo, late, broken, pair,
      Rule.rank, Rule.ofFunction, Value.rank]
  have hrun : run tokens [status] [late, broken, pair] [] =
      [report "pair" .delete ["b"], report "late" .mark ["a"]] := by
    rw [run_eq_flatMap, hsort]
    simp only [run_singleton]
    decide +kernel
  exact ⟨hids, hrun, isolated_run tokens hids [status] [late, broken, pair] []⟩

/-- Plain text takes no part in a pass, so a rule that names it by id hits it, whatever the field of
its key says. -/
theorem run_hits_hidden :
    let status : Field := { key := "status", label := "Status", operators := ["is"]
                            validation := [("r", false)] }
    let tokens : List Token := [{ id := "p", type := .plaintext, key := "status", value := "open" }]
    let v : Violation :=
      { ruleId := "r", reason := "custom", action := .mark, targets := [{ tokenId := "p" }] }
    let rule : Rule Token := Rule.ofFunction "r" .null fun _ => .ok [v]
    (tokens.map (·.id)).Nodup ∧ run tokens [status] [rule] [] = [v] ∧
      ¬∀ w ∈ run tokens [status] [rule] [], ∀ t ∈ tokens,
        (findField [status] t.key).any (·.isRuleDisabled w.ruleId) = true → t.id ∉ w.tokenIds := by
  intro status tokens v rule
  have hrun : run tokens [status] [rule] [] = [v] := by
    rw [run_singleton]
    decide +kernel
  refine ⟨by decide, hrun, ?_⟩
  intro h
  rw [hrun] at h
  exact h v (by decide) _ (List.mem_singleton.mpr rfl) (by decide) (by decide)

end Validation

end FilterQuery
