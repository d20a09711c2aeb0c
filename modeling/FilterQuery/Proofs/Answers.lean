import FilterQuery.Proofs.Presets
import FilterQuery.Rule.Custom
import FilterQuery.Shape.Data

/-!
# Answers of custom functions

A custom function is asked about each visible token and may answer with nothing, with a message, or
with a message and indices, of which any may be no index at all. Each such answer resolves something
(`Answer.resolved`): it lists for deletion the tokens that its indices hit, or for a mark the token
that it is about. So the rule of such a function never fails, and what a pass of it finds has a
closed form (`run_custom`). A function of one field is asked about fewer tokens, but is shown them
all (`validate_fieldRuleByTurn`). The main statement is `confined_custom`: custom functions hit none
but the tokens they were shown, and of these just the ones that they name.
-/

namespace FilterQuery

open Plan (demand?)
open Validation (context run skipped visible)

variable {τ : Type} [TokenLike τ]

namespace Answer

/-- The answers that a function is expected to give: nothing, a text, or a result with an optional
message and any list in the place of indices, or none. -/
inductive IsProper : Answer → Prop
  | pass : IsProper .pass
  | mark (message : String) : IsProper (.mark message)
  | verdict (message : Option String) (indices : List Value) :
      IsProper (.verdict (.ofOption message) (.list indices))
  | bare (message : Option String) : IsProper (.verdict (.ofOption message) .null)

/-- What an answer gives as indices. -/
def indices : Answer → List Value
  | .verdict _ (.list indices) => indices
  | _ => []

/-- Whether an answer has only a message: it is a text, or a result without indices whose message
is not empty. -/
def isRemark : Answer → Bool
  | .mark _ => true
  | .verdict (.str message) indices => message != "" && (indices == .null || indices == .list [])
  | _ => false

def message? : Answer → Option String
  | .mark message | .verdict (.str message) _ => some message
  | _ => none

/-- What an answer about a token resolves. -/
def resolved {α : Type} (shown : List α) (t : α) (a : Answer) : Resolution α where
  delete := a.indices.filterMap (CustomRule.tokenAt? shown)
  mark := if a.isRemark then [t] else []

end Answer

namespace CustomRule

/-- Whether a function never fails and gives the expected answers only. -/
def IsProper (f : Function) : Prop :=
  ∀ token all index, ∃ a, f token all index = .ok a ∧ a.IsProper

/-- The answer of a function about the token at an index of those it is shown. -/
def Answers (f : Function) (shown : List τ) (i : Nat) (a : Answer) : Prop :=
  ∃ t, shown[i]? = some t ∧ f (.ofToken t) (shown.map .ofToken) i = .ok a

/-- What a pass of a rule owes to the tokens where the rule asks a custom function. -/
structure Confined (f : Function) (tokens : List τ) (fields : List Field) (editing : List String)
    (r : Rule τ) : Prop where
  /-- The rule is not skipped. -/
  heard : skipped (context tokens fields editing) [r] = []
  /-- Deleted is just what stands at an index that some answer gives. -/
  deleted : ∀ id, id ∈ (validateTokens tokens fields [r] editing false).plan.deleted ↔
    ∃ (i : Nat) (t : τ), (visible tokens)[i]? = some t ∧ TokenLike.id t = id ∧
      ∃ j a, Answers f (visible tokens) j a ∧ Value.int i ∈ a.indices
  /-- Marked is just what stays and was answered by a message alone. -/
  marked : ∀ (i : Nat) (t : τ), (visible tokens)[i]? = some t →
    (TokenLike.id t ∈ (validateTokens tokens fields [r] editing false).plan.marked ↔
      TokenLike.id t ∉ (validateTokens tokens fields [r] editing false).plan.deleted ∧
        ∃ a, Answers f (visible tokens) i a ∧ a.isRemark = true)
  /-- No token is marked that was not shown. -/
  shown : ∀ id ∈ (validateTokens tokens fields [r] editing false).plan.marked,
    id ∈ (visible tokens).map TokenLike.id

/-! ## One answer -/

theorem tokenAt?_eq_some_iff {α : Type} {shown : List α} {v : Value} {t : α} :
    tokenAt? shown v = some t ↔ ∃ i : Nat, v = .int i ∧ shown[i]? = some t := by
  constructor
  · intro h
    unfold tokenAt? at h
    split at h
    · rename_i i
      exact ⟨i, rfl, h⟩
    · cases h
  · rintro ⟨i, rfl, h⟩
    exact h

theorem messageOf_ofOption (message : Option String) :
    messageOf (.ofOption message) = .ok message := by
  cases message <;> rfl

theorem mem_delete_resolved {α : Type} {shown : List α} {t u : α} {a : Answer} :
    u ∈ (a.resolved shown t).delete ↔ ∃ i : Nat, Value.int i ∈ a.indices ∧ shown[i]? = some u := by
  rw [Answer.resolved, List.mem_filterMap]
  constructor
  · rintro ⟨v, hv, hhit⟩
    obtain ⟨i, rfl, hi⟩ := tokenAt?_eq_some_iff.mp hhit
    exact ⟨i, hv, hi⟩
  · rintro ⟨i, hi, hu⟩
    exact ⟨.int i, hi, tokenAt?_eq_some_iff.mpr ⟨i, rfl, hu⟩⟩

theorem mem_mark_resolved {α : Type} {shown : List α} {t u : α} {a : Answer} :
    u ∈ (a.resolved shown t).mark ↔ a.isRemark = true ∧ u = t := by
  rw [Answer.resolved]
  cases a.isRemark <;> simp

/-- A result without indices marks its token if its message is not empty. -/
theorem violations_bare (ruleId : String) (shown : List τ) (t : τ) (message : Option String)
    {indices : Value} (h : indices = .null ∨ indices = .list []) :
    violations ruleId shown t (.verdict (.ofOption message) indices) =
      .ok (((Answer.verdict (.ofOption message) indices).resolved shown t).report ruleId
        customReason message) := by
  rcases message with - | s
  · rcases h with rfl | rfl <;> rfl
  by_cases hs : s = ""
  · subst hs
    rcases h with rfl | rfl <;> rfl
  have htruthy : (Value.str s).isTruthy = true := by simp [Value.isTruthy, Value.isFalsy, hs]
  have hremark : (Answer.verdict (.str s) indices).isRemark = true := by
    rcases h with rfl | rfl <;> simp [Answer.isRemark, hs]
  have hresolved : (Answer.verdict (.str s) indices).resolved shown t = { mark := [t] } := by
    rw [Answer.resolved, hremark]
    rcases h with rfl | rfl <;> rfl
  have hindices : indices.isTruthy = false := by rcases h with rfl | rfl <;> rfl
  rw [Value.ofOption, hresolved, violations, hindices, htruthy]
  rfl

/-- A result with indices deletes the tokens that they hit, if there are any. -/
theorem violations_indices (ruleId : String) (shown : List τ) (t : τ) (message : Option String)
    (i : Value) (indices : List Value) :
    violations ruleId shown t (.verdict (.ofOption message) (.list (i :: indices))) =
      .ok (((Answer.verdict (.ofOption message) (.list (i :: indices))).resolved shown t).report
        ruleId customReason message) := by
  have hremark : (Answer.verdict (.ofOption message) (.list (i :: indices))).isRemark = false := by
    cases message <;> simp [Value.ofOption, Answer.isRemark]
  have hresolved : (Answer.verdict (.ofOption message) (.list (i :: indices))).resolved shown t =
      { delete := (i :: indices).filterMap (tokenAt? shown) } := by
    rw [Answer.resolved, hremark]
    rfl
  have htruthy : (Value.list (i :: indices)).isTruthy = true := rfl
  rw [hresolved, violations, htruthy, hits, messageOf_ofOption]
  cases (i :: indices).filterMap (tokenAt? shown) with
  | nil => rfl
  | cons u us => rfl

/-- **An answer as it is expected** resolves something and makes no rule fail. -/
theorem violations_of_isProper (ruleId : String) (shown : List τ) (t : τ) {a : Answer}
    (ha : a.IsProper) :
    violations ruleId shown t a =
      .ok ((a.resolved shown t).report ruleId customReason a.message?) := by
  have hmessage : ∀ message indices,
      (Answer.verdict (.ofOption message) indices).message? = message := by
    intro message indices
    cases message <;> rfl
  cases ha with
  | pass => rfl
  | mark message => rfl
  | verdict message indices =>
    rw [hmessage]
    cases indices with
    | nil => exact violations_bare ruleId shown t message (Or.inr rfl)
    | cons i indices => exact violations_indices ruleId shown t message i indices
  | bare message =>
    rw [hmessage]
    exact violations_bare ruleId shown t message (Or.inl rfl)

/-! ## A pass -/

/-- A proper function is one that gives its answers without fail. -/
theorem IsProper.exists_answers {f : Function} (hf : IsProper f) :
    ∃ answer : SimpleToken → List SimpleToken → Nat → Answer,
      f = (fun token all i => .ok (answer token all i)) ∧
        ∀ token all i, (answer token all i).IsProper := by
  choose answer hanswer using hf
  exact ⟨answer, funext fun token => funext fun all => funext fun i => (hanswer token all i).1,
    fun token all i => (hanswer token all i).2⟩

section

variable {answer : SimpleToken → List SimpleToken → Nat → Answer}
  (hanswer : ∀ token all i, (answer token all i).IsProper)
include hanswer

theorem validate_rule (id : String) (priority : Value) (ctx : Context τ) :
    (rule (fun token all i => .ok (answer token all i)) id priority).validate ctx =
      .ok (ctx.tokens.zipIdx.flatMap fun (t, i) =>
        ((answer (.ofToken t) (ctx.tokens.map .ofToken) i).resolved ctx.tokens t).report id
          customReason (answer (.ofToken t) (ctx.tokens.map .ofToken) i).message?) := by
  show Rule.collect (ctx.tokens.mapIdx _) = _
  rw [List.mapIdx_eq_zipIdx_map, ← List.filterMap_eq_map]
  apply Rule.collect_filterMap
  · rintro ⟨t, i⟩ - check hcheck
    obtain rfl := Option.some.inj hcheck
    exact violations_of_isProper id ctx.tokens t (hanswer _ _ _)
  · rintro ⟨t, i⟩ - hnone
    cases hnone

end

end CustomRule

/-- A pass of a custom rule resolves each answer. -/
theorem Validation.run_custom {tokens : List τ} (hids : (tokens.map TokenLike.id).Nodup)
    (fields : List Field) (editing : List String)
    {answer : SimpleToken → List SimpleToken → Nat → Answer}
    (hanswer : ∀ token all i, (answer token all i).IsProper) (id : String) (priority : Value) :
    run tokens fields [CustomRule.rule (fun token all i => .ok (answer token all i)) id priority]
        editing =
      (visible tokens).zipIdx.flatMap fun (t, i) =>
        (((answer (.ofToken t) ((visible tokens).map .ofToken) i).resolved (visible tokens)
          t).enforced fields id).report id customReason
            (answer (.ofToken t) ((visible tokens).map .ofToken) i).message? := by
  rw [run_singleton, report_of_ok (CustomRule.validate_rule hanswer id priority _), applyOverrides,
    List.filterMap_flatMap]
  refine List.flatMap_congr ?_
  rintro ⟨t, i⟩ hmem
  refine applyOverrides_report (nodup_visible hids) fields ?_ ?_ _ _ _
  · intro u hu
    obtain ⟨j, -, hj⟩ := CustomRule.mem_delete_resolved.mp hu
    exact List.mem_of_getElem? hj
  · intro u hu
    obtain ⟨-, rfl⟩ := CustomRule.mem_mark_resolved.mp hu
    exact List.fst_mem_of_mem_zipIdx hmem

namespace CustomRule

section

variable {tokens : List τ} (hids : (tokens.map TokenLike.id).Nodup) {fields : List Field}
  {f : Function} (hf : IsProper f) {id : String}
  (hfields : ∀ field ∈ fields, field.isRuleDisabled id = false)
include hids hf hfields

/-- Where no field switches the rule off, just that is demanded which some answer resolves. -/
theorem demand?_custom_iff (editing : List String) (priority : Value) {action : Action}
    {tokenId : String} :
    (demand? action (run tokens fields [rule f id priority] editing) tokenId).isSome = true ↔
      ∃ (i : Nat) (t : τ) (a : Answer), (visible tokens)[i]? = some t ∧
        f (.ofToken t) ((visible tokens).map .ofToken) i = .ok a ∧
          tokenId ∈ ((a.resolved (visible tokens) t).listed action).map TokenLike.id := by
  obtain ⟨answer, rfl, hanswer⟩ := hf.exists_answers
  rw [Plan.demand?_isSome_iff, Validation.run_custom hids fields editing hanswer id priority]
  simp only [Resolution.enforced_eq_self hfields, List.mem_flatMap]
  constructor
  · rintro ⟨v, ⟨⟨t, i⟩, hmem, hv⟩, hasks⟩
    exact ⟨i, t, _, List.mem_zipIdx_iff_getElem?.mp hmem, rfl,
      Resolution.asks_report.mp ⟨v, hv, hasks⟩⟩
  · rintro ⟨i, t, a, hi, ha, hlisted⟩
    obtain rfl := Except.ok.inj ha
    obtain ⟨v, hv, hasks⟩ := Resolution.asks_report.mpr hlisted
    exact ⟨v, ⟨(t, i), List.mem_zipIdx_iff_getElem?.mpr hi, hv⟩, hasks⟩

/-- Deletions are demanded of the tokens at the indices that some answer gives. -/
theorem demand?_delete_custom_iff (editing : List String) (priority : Value) {tokenId : String} :
    (demand? .delete (run tokens fields [rule f id priority] editing) tokenId).isSome = true ↔
      ∃ (i : Nat) (t : τ), (visible tokens)[i]? = some t ∧ TokenLike.id t = tokenId ∧
        ∃ j a, Answers f (visible tokens) j a ∧ Value.int i ∈ a.indices := by
  rw [demand?_custom_iff hids hf hfields]
  constructor
  · rintro ⟨j, u, a, hj, ha, hlisted⟩
    obtain ⟨t, ht, rfl⟩ := List.mem_map.mp hlisted
    obtain ⟨i, hi, hshown⟩ := mem_delete_resolved.mp ht
    exact ⟨i, t, hshown, rfl, j, a, ⟨u, hj, ha⟩, hi⟩
  · rintro ⟨i, t, hshown, rfl, j, a, ⟨u, hj, ha⟩, hi⟩
    have ht : t ∈ (a.resolved (visible tokens) u).delete :=
      mem_delete_resolved.mpr ⟨i, hi, hshown⟩
    exact ⟨j, u, a, hj, ha, List.mem_map_of_mem ht⟩

/-- A mark is demanded of the token at an index just if it was answered by a message alone. -/
theorem demand?_mark_custom_iff (editing : List String) (priority : Value) {i : Nat} {t : τ}
    (ht : (visible tokens)[i]? = some t) :
    (demand? .mark (run tokens fields [rule f id priority] editing)
        (TokenLike.id t)).isSome = true ↔
      ∃ a, Answers f (visible tokens) i a ∧ a.isRemark = true := by
  rw [demand?_custom_iff hids hf hfields]
  constructor
  · rintro ⟨j, u, a, hj, ha, hlisted⟩
    obtain ⟨w, hw, hid⟩ := List.mem_map.mp hlisted
    obtain ⟨hremark, rfl⟩ := mem_mark_resolved.mp hw
    -- distinct ids make the token that was asked about this one, at this index
    have hindex : j = i := by
      refine (List.getElem?_inj ?_ (Validation.nodup_visible hids)).mp ?_
      · rw [List.length_map]
        exact (List.getElem?_eq_some_iff.mp hj).1
      · rw [List.getElem?_map, List.getElem?_map, hj, ht, Option.map_some, Option.map_some, hid]
    subst hindex
    exact ⟨a, ⟨w, hj, ha⟩, hremark⟩
  · rintro ⟨a, ⟨u, hi, ha⟩, hremark⟩
    obtain rfl : u = t := Option.some.inj (hi.symm.trans ht)
    have hmark : u ∈ (a.resolved (visible tokens) u).mark := mem_mark_resolved.mpr ⟨hremark, rfl⟩
    exact ⟨i, u, a, hi, ha, List.mem_map_of_mem hmark⟩

theorem confined_rule (editing : List String) (priority : Value) :
    Confined f tokens fields editing (rule f id priority) := by
  have hmem : ∀ (i : Nat) (t : τ), (visible tokens)[i]? = some t →
      TokenLike.id t ∈ tokens.map TokenLike.id := fun i t ht =>
    List.mem_map_of_mem (Validation.mem_of_mem_visible (List.mem_of_getElem? ht))
  constructor
  case heard =>
    obtain ⟨answer, rfl, hanswer⟩ := hf.exists_answers
    exact Validation.skipped_singleton_eq_nil_iff.mpr ⟨_, validate_rule hanswer id priority _⟩
  case deleted =>
    intro tokenId
    rw [Validation.mem_deleted_iff, demand?_delete_custom_iff hids hf hfields]
    refine and_iff_right_of_imp ?_
    rintro ⟨i, t, ht, rfl, -⟩
    exact hmem i t ht
  case marked =>
    intro i t ht
    rw [← demand?_mark_custom_iff hids hf hfields editing priority ht, validateTokens,
      Plan.mem_marked_build]
    exact and_iff_right (hmem i t ht)
  case shown =>
    intro tokenId hmarked
    rw [validateTokens, Plan.mem_marked_build, demand?_custom_iff hids hf hfields] at hmarked
    obtain ⟨-, -, i, t, a, hi, -, hlisted⟩ := hmarked
    obtain ⟨u, hu, rfl⟩ := List.mem_map.mp hlisted
    obtain ⟨-, rfl⟩ := mem_mark_resolved.mp hu
    exact List.mem_map_of_mem (List.mem_of_getElem? hi)

end

/-- What a pass of a rule finds, and whether it is skipped, hangs on its validation function. -/
theorem Confined.congr {f : Function} {tokens : List τ} {fields : List Field}
    {editing : List String} {r s : Rule τ} (h : Confined f tokens fields editing r)
    (hvalidate : r.validate = s.validate) : Confined f tokens fields editing s := by
  have hpass : validateTokens tokens fields [s] editing false =
      validateTokens tokens fields [r] editing false := by
    rw [validateTokens, validateTokens, Validation.run_congr hvalidate]
  constructor
  · have hheard := h.heard
    rw [Validation.skipped_singleton_eq_nil_iff, hvalidate] at hheard
    exact Validation.skipped_singleton_eq_nil_iff.mpr hheard
  · rw [hpass]
    exact h.deleted
  · rw [hpass]
    exact h.marked
  · rw [hpass]
    exact h.shown

/-! ## Rules of one field -/

/-- What is found does not hang on what the host is told about the questions. -/
theorem collect_checks (id : String) (f : Function)
    (question question' : SimpleToken → Nat → Nat → Option Consultation) (ctx : Context τ) :
    Rule.collect (checks id f question ctx) = Rule.collect (checks id f question' ctx) := by
  apply Rule.collect_congr
  simp only [checks, List.mapIdx_eq_zipIdx_map, List.map_map]
  rfl

/-- The rule of a function of one field finds what the rule of a function does that passes the
tokens of other keys. -/
theorem validate_fieldRuleByTurn (key : String) (f : Nat → FieldFunction) (id : Option String)
    (priority : Value) (ctx : Context τ) :
    (fieldRuleByTurn key f id priority).validate ctx =
      (rule (onKey key f) (fieldRuleByTurn key f id priority : Rule τ).id priority).validate ctx :=
  collect_checks (fieldRuleByTurn key f id priority : Rule τ).id (onKey key f) (fieldQuestion key)
    (fun token i count => some (.token token i count)) ctx

/-- **Custom rules hit none but the tokens they were shown.** The rule of a proper function is never
skipped, deletes just what stands at the indices that are given, and marks just what stays and is
answered by a message alone. The rule of a function of one field is the rule of a function that
passes the tokens of other keys, so its indices count over all visible tokens as well; `fieldRule`
is the case of a function that takes no note of its turns. -/
theorem confined_custom (tokens : List τ) (hids : (tokens.map TokenLike.id).Nodup)
    (fields : List Field) (editing : List String) :
    (∀ (f : Function) (id : String) (priority : Value), IsProper f →
      (∀ field ∈ fields, field.isRuleDisabled id = false) →
        Confined f tokens fields editing (rule f id priority)) ∧
    ∀ (key : String) (f : Nat → FieldFunction) (id : Option String) (priority : Value),
      let r : Rule τ := fieldRuleByTurn key f id priority
      let asked : Function := fun token all i =>
        if token.key = .str key then f (turn key all i) token.value all token.operator
        else .ok .pass
      (∀ ctx, r.validate ctx = (rule asked r.id priority).validate ctx) ∧
        ((∀ n value all operator, ∃ a, f n value all operator = .ok a ∧ a.IsProper) →
          (∀ field ∈ fields, field.isRuleDisabled r.id = false) →
            Confined asked tokens fields editing r) := by
  refine ⟨fun f id priority hf hfields => confined_rule hids hf hfields editing priority, ?_⟩
  intro key f id priority r asked
  have hasked : asked = onKey key f := by
    funext token all i
    simp only [asked, onKey, ne_eq, ite_not]
  have hvalidate : r.validate = (rule asked r.id priority).validate := by
    funext ctx
    rw [hasked]
    exact validate_fieldRuleByTurn key f id priority ctx
  refine ⟨congrFun hvalidate, fun hf hfields => ?_⟩
  have hproper : IsProper asked := by
    intro token all i
    by_cases hkey : token.key = .str key
    · simp only [asked, hkey, if_true]
      exact hf _ _ _ _
    · simp only [asked, hkey, if_false]
      exact ⟨.pass, rfl, .pass⟩
  exact (confined_rule hids hproper hfields editing priority).congr hvalidate.symm

/-- Plain text stands between the tokens, so the third token shown is the fourth one. Of the indices
that the first answer gives only that one hits a token; it was to be marked, but is deleted. A
function that is asked about one key names a token of no key. -/
theorem confined_custom_hidden :
    let tokens : List Token :=
      [{ id := "a", type := .filter, key := "tag", value := "x" },
       { id := "p", type := .plaintext, value := "and" },
       { id := "b", type := .freeText, value := "late" },
       { id := "c", type := .filter, key := "tag", value := "y" }]
    let tag : Field := { key := "tag", label := "Tag", operators := ["is"]
                         validation := [("unique-key", false), ("r", true)] }
    let f : Function := fun _ _ i => .ok <| match i with
      | 0 => .ofValue (.table [("delete_target_indices",
          .list [.int (-1), .int 3, .bool true, .str "1", .int 2, .int 2])])
      | 1 => .ofValue (.table [("message", .str "late")])
      | 2 => .mark "gone"
      | _ => .pass
    let h : Nat → FieldFunction := fun n _ _ _ => .ok <| match n with
      | 0 => .pass
      | _ => .verdict (.str "twice") (.list [.int 1])
    let asked : Function := fun token all i =>
      if token.key = .str "tag" then h (turn "tag" all i) token.value all token.operator
      else .ok .pass
    let plan (r : Rule Token) : Plan := (validateTokens tokens [tag] [r] [] false).plan
    (tokens.map TokenLike.id).Nodup ∧ IsProper f ∧
      (∀ n value all operator, ∃ a, h n value all operator = .ok a ∧ a.IsProper) ∧
      (∀ field ∈ [tag], field.isRuleDisabled "r" = false) ∧
      (plan (rule f "r" .null)).deleted = ["c"] ∧ (plan (rule f "r" .null)).marked = ["b"] ∧
      Confined f tokens [tag] [] (rule f "r" .null) ∧
      (plan (fieldRuleByTurn "tag" h (some "r") .null)).deleted = ["b"] ∧
      Confined asked tokens [tag] [] (fieldRuleByTurn "tag" h (some "r") .null) := by
  intro tokens tag f h asked plan
  have hids : (tokens.map TokenLike.id).Nodup := by decide
  have hf : IsProper f := by
    intro token all i
    refine ⟨_, rfl, ?_⟩
    match i with
    | 0 => exact .verdict none _
    | 1 => exact .bare (some "late")
    | 2 => exact .mark "gone"
    | _ + 3 => exact .pass
  have hh : ∀ n value all operator, ∃ a, h n value all operator = .ok a ∧ a.IsProper := by
    intro n value all operator
    refine ⟨_, rfl, ?_⟩
    match n with
    | 0 => exact .pass
    | _ + 1 => exact .verdict (some "twice") [.int 1]
  have hfields : ∀ field ∈ [tag], field.isRuleDisabled "r" = false := by decide
  obtain ⟨hrule, hfield⟩ := confined_custom tokens hids [tag] []
  have hplan : (plan (rule f "r" .null)).deleted = ["c"] ∧
      (plan (rule f "r" .null)).marked = ["b"] := by
    simp only [plan, validateTokens, Validation.run_singleton]
    decide +kernel
  have hplan' : (plan (fieldRuleByTurn "tag" h (some "r") .null)).deleted = ["b"] := by
    simp only [plan, validateTokens, Validation.run_singleton]
    decide +kernel
  exact ⟨hids, hf, hh, hfields, hplan.1, hplan.2, hrule f "r" .null hf hfields, hplan',
    (hfield "tag" h (some "r") .null).2 hh hfields⟩

end CustomRule

end FilterQuery
