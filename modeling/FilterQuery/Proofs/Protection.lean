import FilterQuery.CommandLine
import FilterQuery.Pattern.Compile
import FilterQuery.Proofs.Isolation
import FilterQuery.Proofs.Pieces
import FilterQuery.Proofs.Presets
import FilterQuery.Proofs.Reconciliation

/-!
# What rules protect

Some presets delete a token only while it is being edited. Whatever else they find they mark, and
only among the tokens that rules get to see. Each violation of such a preset by itself keeps to that
(`Violation.Spares`, `Preset.spares_run`), so any number of them in any order does too, and so does
the plan that is built from all of them: `protects_of_presets`. What nobody touches is safe with
these rules, as after an undo, or where a query is checked against itself.
-/

namespace FilterQuery

open Manifest (StrategyName)
open Validation (context run visible)

variable {τ : Type} [TokenLike τ]

/-- A preset that deletes nothing but tokens being edited. -/
def Preset.IsProtective : Preset → Prop
  | .unique _ s | .pattern _ _ s _ | .enumValue s _ => s = .mark ∨ s = .reject
  | .maxCount _ _ s _ => s = .mark

/-- A violation that is about visible tokens and wants nothing deleted but what is being edited. -/
structure Violation.Spares (tokens : List τ) (editing : List String) (v : Violation) : Prop where
  visible : ∀ id ∈ v.tokenIds, id ∈ (visible tokens).map TokenLike.id
  edited : v.action = .delete → ∀ id ∈ v.tokenIds, id ∈ editing

/-- What rules owe to tokens that the user does not touch. -/
structure Protects (rules : List (Rule Token)) : Prop where
  /-- What is deleted was being edited, and it is no plain text. -/
  deleted : ∀ (tokens : List Token) (fields : List Field) (editing : List String),
    (tokens.map (·.id)).Nodup →
      ∀ id ∈ (validateTokens tokens fields rules editing false).plan.deleted,
        id ∈ editing ∧ ∃ t ∈ tokens, t.id = id ∧ t.isPlaintext = false
  marked : ∀ (tokens : List Token) (fields : List Field) (editing : List String),
    (tokens.map (·.id)).Nodup → ∀ t ∈ tokens, t.isPlaintext = true →
      t.id ∉ (validateTokens tokens fields rules editing false).plan.marked
  idle : ∀ (tokens : List Token) (fields : List Field), (tokens.map (·.id)).Nodup →
    (validateTokens tokens fields rules [] false).plan.deleted = []
  /-- An undo or a redo deletes nothing. -/
  history : ∀ (previous tokens : List Token) (fields : List Field), (tokens.map (·.id)).Nodup →
    (validateTokens tokens fields rules (editingIds previous tokens { isHistory := true })
      false).plan.deleted = []
  /-- Neither does a check of a query against itself, whatever ids its two readings get. -/
  unchanged : ∀ (c : CommandLine.ValidateCommand) (m : Manifest) (ids : Nat → String),
    Function.Injective ids → c.previous = some c.query → ∀ tokens editing,
      c.tokens m ids = .ok (tokens, editing) →
        (validateTokens tokens m.fields rules editing false).plan.deleted = []

/-! ## Resolutions -/

/-- Violations of a resolution are about what it resolves. -/
theorem Resolution.spares {tokens : List τ} {editing : List String} {r : Resolution τ}
    (hdelete : ∀ t ∈ r.delete, t ∈ visible tokens ∧ TokenLike.id t ∈ editing)
    (hmark : ∀ t ∈ r.mark, t ∈ visible tokens) {ruleId reason message : String} {v : Violation}
    (hv : v ∈ r.violations ruleId reason message) : v.Spares tokens editing := by
  cases haction : v.action with
  | delete =>
    have hgone : ∀ id ∈ v.tokenIds, id ∈ r.delete.map TokenLike.id := fun id hid =>
      Resolution.asks_delete.mp ⟨v, hv, Violation.asks_iff.mpr ⟨haction, hid⟩⟩
    constructor
    · intro id hid
      obtain ⟨t, ht, rfl⟩ := List.mem_map.mp (hgone id hid)
      exact List.mem_map_of_mem (hdelete t ht).1
    · intro _ id hid
      obtain ⟨t, ht, rfl⟩ := List.mem_map.mp (hgone id hid)
      exact (hdelete t ht).2
  | mark =>
    constructor
    · intro id hid
      obtain ⟨t, ht, rfl⟩ := List.mem_map.mp
        (Resolution.asks_mark.mp ⟨v, hv, Violation.asks_iff.mpr ⟨haction, hid⟩⟩)
      exact List.mem_map_of_mem (hmark t ht)
    · intro hdeletes
      rw [haction] at hdeletes
      cases hdeletes

/-- A resolution that spares untouched tokens does so where fields switch the rule off. -/
theorem Resolution.spares_enforced {tokens : List τ} {editing : List String} {r : Resolution τ}
    (hdelete : ∀ t ∈ r.delete, t ∈ visible tokens ∧ TokenLike.id t ∈ editing)
    (hmark : ∀ t ∈ r.mark, t ∈ visible tokens) {fields : List Field}
    {ruleId reason message : String} {v : Violation}
    (hv : v ∈ (r.enforced fields ruleId).violations ruleId reason message) :
    v.Spares tokens editing :=
  Resolution.spares (fun t ht => hdelete t (List.mem_of_mem_filter ht))
    (fun t ht => hmark t (List.mem_of_mem_filter ht)) hv

theorem Unique.isEditing_of_mem_keepOld {ts : List τ} {ctx : Context τ} {t : τ}
    (h : t ∈ (Unique.keepOld ts ctx).delete) : ctx.isEditing t = true := by
  have hediting : ∀ u, u ∈ (ctx.split ts).1 → ctx.isEditing u = true :=
    fun u hu => (mem_split_iff.1.mp hu).2
  rw [Unique.keepOld] at h
  -- all tokens are new, none is, or there are both
  split at h
  · rename_i editing hsplit
    rw [hsplit] at hediting
    exact hediting t (List.mem_of_mem_drop h)
  · cases h
  · rename_i editing untouched _ _ hsplit
    rw [hsplit] at hediting
    exact hediting t h

/-! ## One preset -/

section

variable {tokens : List τ} {fields : List Field} {editing : List String} {v : Violation}

theorem mem_editing_of_isEditing {t : τ} (h : (context tokens fields editing).isEditing t = true) :
    TokenLike.id t ∈ editing := by
  simpa [Context.isEditing, context] using h

theorem Unique.spares_run (hids : (tokens.map TokenLike.id).Nodup) {c : Constraint}
    {s : StrategyName} (hs : s = .mark ∨ s = .reject) {priority : Value}
    (hv : v ∈ run tokens fields [Unique.ruleBy c s priority] editing) :
    v.Spares tokens editing := by
  rw [Validation.run_unique hids, List.mem_flatMap] at hv
  obtain ⟨g, hg, hv⟩ := hv
  refine Resolution.spares_enforced (fun t ht => ?_)
    (fun t ht => Unique.mem_of_mem_conflict hg (mem_of_mem_resolveGroup.2 ht)) hv
  refine ⟨Unique.mem_of_mem_conflict hg (mem_of_mem_resolveGroup.1 ht), ?_⟩
  rcases hs with rfl | rfl
  · cases ht
  · exact mem_editing_of_isEditing (Unique.isEditing_of_mem_keepOld ht)

theorem MaxCount.spares_run (hids : (tokens.map TokenLike.id).Nodup) {scope : Scope} {most : Int}
    {message : String} {priority : Value}
    (hv : v ∈ run tokens fields [MaxCount.ruleBy scope most .mark message priority] editing) :
    v.Spares tokens editing := by
  rw [Validation.run_maxCount hids] at hv
  split at hv
  · cases hv
  · refine Resolution.spares_enforced (fun t ht => ?_) (fun t ht => ?_) hv
    · cases ht
    · exact List.mem_of_mem_filter (mem_of_mem_resolveExcess.2 ht)

/-- A refused value is at most deleted while it is being edited, with any strategy. -/
theorem ValueCheck.spares_refusal {t : τ} (ht : t ∈ visible tokens) (s : StrategyName)
    (ruleId reason message : String) :
    (refusal s (context tokens fields editing) ruleId reason message t).Spares tokens editing := by
  constructor
  · intro id hid
    obtain rfl := List.mem_singleton.mp hid
    exact List.mem_map_of_mem ht
  · intro hdelete id hid
    obtain rfl := List.mem_singleton.mp hid
    have hverdict : s.verdict (context tokens fields editing) t = .delete := hdelete
    cases s with
    | mark | replace => cases hverdict
    | reject =>
      rw [StrategyName.verdict] at hverdict
      split at hverdict
      · rename_i hediting
        exact mem_editing_of_isEditing hediting
      · cases hverdict

theorem RequirePattern.spares_run {tokens : List Token} (hids : (tokens.map (·.id)).Nodup)
    {key : String} {search : String → Bool} {s : StrategyName} {message : String}
    {priority : Value}
    (hv : v ∈ run tokens fields [RequirePattern.ruleBy key search s message priority] editing) :
    v.Spares tokens editing := by
  rw [Validation.run_pattern hids, List.mem_filterMap] at hv
  obtain ⟨t, ht, hverdict⟩ := hv
  rw [verdict?] at hverdict
  split at hverdict
  · obtain rfl := Option.some.inj hverdict
    exact ValueCheck.spares_refusal (List.mem_of_mem_filter ht) s _ _ _
  · cases hverdict

theorem RequireEnum.spares_run (hids : (tokens.map TokenLike.id).Nodup) {s : StrategyName}
    {message : Option String} {priority : Value}
    (hv : v ∈ run tokens fields [RequireEnum.ruleBy s message priority] editing) :
    v.Spares tokens editing := by
  by_cases hok : ∀ t ∈ visible tokens, ∃ refused,
      judge (context tokens fields editing) t = .ok refused
  · rw [Validation.run_enumValue hids fields editing s message priority hok,
      List.mem_filterMap] at hv
    obtain ⟨t, ht, hverdict⟩ := hv
    rw [verdict?] at hverdict
    split at hverdict
    · obtain rfl := Option.some.inj hverdict
      exact ValueCheck.spares_refusal (List.mem_of_mem_filter ht) s _ _ _
    · cases hverdict
  · -- a resolver of the host fails, and the whole rule is skipped
    push Not at hok
    obtain ⟨t, ht, hfails⟩ := hok
    cases hjudge : judge (context tokens fields editing) t with
    | ok refused => exact absurd hjudge (hfails refused)
    | error fault =>
      rw [Validation.run_enumValue_error fields editing s message priority ht hjudge] at hv
      cases hv

end

/-- **One preset.** Protective presets keep to what is being edited. -/
theorem Preset.spares_run {host : Host} {p : Preset} (hp : p.IsProtective) {priority : Value}
    {r : Rule Token} (hr : p.rule host priority = .ok r) {tokens : List Token}
    (hids : (tokens.map (·.id)).Nodup) {fields : List Field} {editing : List String} {v : Violation}
    (hv : v ∈ run tokens fields [r] editing) : v.Spares tokens editing := by
  cases p with
  | unique c s =>
    rw [rule_unique hr] at hv
    exact Unique.spares_run hids hp hv
  | maxCount scope most s message =>
    obtain rfl : s = .mark := hp
    rw [rule_maxCount hr] at hv
    exact MaxCount.spares_run hids hv
  | pattern key source s message =>
    obtain ⟨search, rfl⟩ := rule_pattern hr
    exact RequirePattern.spares_run hids hv
  | enumValue s message =>
    rw [rule_enumValue hr] at hv
    exact RequireEnum.spares_run hids hv

/-! ## The plan -/

/-- The ids of visible tokens are those of tokens that are no plain text. -/
theorem exists_of_mem_visible {tokens : List Token} {id : String}
    (h : id ∈ (visible tokens).map TokenLike.id) :
    ∃ t ∈ tokens, t.id = id ∧ t.isPlaintext = false := by
  obtain ⟨t, ht, rfl⟩ := List.mem_map.mp h
  obtain ⟨hmem, hshown⟩ := List.mem_filter.mp ht
  exact ⟨t, hmem, rfl, by simpa using hshown⟩

section

variable {tokens : List Token} {fields : List Field} {rules : List (Rule Token)}
  {editing : List String} (hspares : ∀ v ∈ run tokens fields rules editing, v.Spares tokens editing)
include hspares

theorem edited_of_mem_deleted {id : String}
    (h : id ∈ (validateTokens tokens fields rules editing false).plan.deleted) :
    id ∈ editing ∧ ∃ t ∈ tokens, t.id = id ∧ t.isPlaintext = false := by
  obtain ⟨-, hdemand⟩ := Validation.mem_deleted_iff.mp h
  obtain ⟨v, hv, hasks⟩ := Plan.demand?_isSome_iff.mp hdemand
  obtain ⟨haction, hid⟩ := Violation.asks_iff.mp hasks
  exact ⟨(hspares v hv).edited haction id hid,
    exists_of_mem_visible ((hspares v hv).visible id hid)⟩

/-- Ids are distinct, so the mark of a visible token is none of plain text. -/
theorem not_mem_marked (hids : (tokens.map (·.id)).Nodup) {t : Token} (ht : t ∈ tokens)
    (hplain : t.isPlaintext = true) :
    t.id ∉ (validateTokens tokens fields rules editing false).plan.marked := by
  intro h
  obtain ⟨-, -, hdemand⟩ := Plan.mem_marked_build.mp h
  obtain ⟨v, hv, hasks⟩ := Plan.demand?_isSome_iff.mp hdemand
  obtain ⟨-, hid⟩ := Violation.asks_iff.mp hasks
  obtain ⟨u, hu, heq, hshown⟩ := exists_of_mem_visible ((hspares v hv).visible _ hid)
  obtain rfl : u = t := List.inj_on_of_nodup_map hids hu ht heq
  rw [hplain] at hshown
  cases hshown

end

/-! ## A query against itself -/

theorem map_lookOf_placedFrom (ids : Nat → String) (n : Nat) (ts : List Token) :
    (Query.placedFrom ids n ts).map lookOf = ts.map lookOf := by
  refine List.ext_getElem (by simp [Query.placedFrom]) fun i hi hi' => ?_
  simp [Query.placedFrom, Query.placed, lookOf]

namespace CommandLine

section

variable {m : Manifest} {options : Query.LexOptions} {ids : Nat → String} {n n' : Nat}
  {query : String} {read again : Query.Parsed}

/-- What is read a second time differs in ids alone. -/
theorem tokens_of_lex (hread : lex m options ids n query = .ok read)
    (hagain : lex m options ids n' query = .ok again) :
    again.tokens = Query.placedFrom (fun i => ids (n' + i)) 0 read.tokens := by
  have hparse : ∀ {k : Nat} {p : Query.Parsed}, lex m options ids k query = .ok p →
      Query.parse m.fields options (fun i => ids (k + i)) query = .ok p := by
    intro k p h
    rw [lex] at h
    cases hp : Query.parse m.fields options (fun i => ids (k + i)) query with
    | error e =>
      rw [hp] at h
      cases h
    | ok q =>
      rw [hp] at h
      exact congrArg _ (Except.ok.inj h)
  exact Query.tokens_of_parse (hparse hread) (hparse hagain)

theorem map_id_of_lex (hread : lex m options ids n query = .ok read) :
    read.tokens.map (·.id) = (List.range read.tokens.length).map fun i => ids (n + i) := by
  have hplaced := Query.map_id_placedFrom (fun i => ids (n + i)) 0 read.tokens
  rw [← tokens_of_lex hread hread] at hplaced
  simpa using hplaced

theorem nodup_of_lex (hinj : Function.Injective ids)
    (hread : lex m options ids n query = .ok read) : (read.tokens.map (·.id)).Nodup := by
  rw [map_id_of_lex hread]
  refine List.nodup_range.map fun i j heq => ?_
  have hindex := hinj heq
  omega

/-- A supply gives no id twice, so two readings one after the other share no id. -/
theorem disjoint_of_lex (hinj : Function.Injective ids)
    (hread : lex m options ids n query = .ok read)
    (hagain : lex m options ids (n + read.tokens.length) query = .ok again) :
    (again.tokens.map (·.id)).Disjoint (read.tokens.map (·.id)) := by
  rw [map_id_of_lex hread, map_id_of_lex hagain, List.disjoint_left]
  intro id hid hid'
  obtain ⟨i, -, rfl⟩ := List.mem_map.mp hid
  obtain ⟨j, hj, heq⟩ := List.mem_map.mp hid'
  have hlt := List.mem_range.mp hj
  have hindex := hinj heq
  omega

end

/-- Two readings of a query look the same, so nothing counts as edited. -/
theorem ValidateCommand.tokens_unchanged {c : ValidateCommand} {m : Manifest} {ids : Nat → String}
    (hinj : Function.Injective ids) (hsame : c.previous = some c.query) {tokens : List Token}
    {editing : List String} (h : c.tokens m ids = .ok (tokens, editing)) :
    (tokens.map (·.id)).Nodup ∧ editing = [] := by
  rw [ValidateCommand.tokens, hsame] at h
  cases hcurrent : lex m m.query.lexOptions ids 0 c.query with
  | error stop =>
    rw [hcurrent] at h
    cases h
  | ok current =>
    cases hbefore : lex m m.query.lexOptions ids current.tokens.length c.query with
    | error stop =>
      simp only [hcurrent, hbefore, bind, Except.bind] at h
      cases h
    | ok before =>
      simp only [hcurrent, hbefore, bind, Except.bind, pure, Except.pure] at h
      obtain ⟨rfl, rfl⟩ := Prod.mk.inj (Except.ok.inj h)
      have hdisjoint := disjoint_of_lex hinj hcurrent (by rwa [Nat.zero_add])
      have hlooks : before.tokens.map lookOf = current.tokens.map lookOf := by
        rw [tokens_of_lex hcurrent hbefore, map_lookOf_placedFrom]
      refine ⟨nodup_reconcile (nodup_of_lex hinj hbefore) hdisjoint (nodup_of_lex hinj hcurrent),
        editingIds_reconcile_eq_nil (nodup_of_lex hinj hbefore) hdisjoint fun s => ?_⟩
      exact Nat.le_of_eq (by rw [length_alike, length_alike, hlooks])

end CommandLine

/-- **Protective presets never delete what the user did not touch.** -/
theorem protects_of_presets (rules : List (Rule Token))
    (hrules : ∀ r ∈ rules, ∃ (host : Host) (p : Preset) (priority : Value),
      p.IsProtective ∧ p.rule host priority = .ok r) : Protects rules := by
  have hspares : ∀ (tokens : List Token) (fields : List Field) (editing : List String),
      (tokens.map (·.id)).Nodup →
        ∀ v ∈ run tokens fields rules editing, v.Spares tokens editing := by
    intro tokens fields editing hids v hv
    obtain ⟨r, hr, hv⟩ := Validation.mem_run_iff.mp hv
    obtain ⟨host, p, priority, hp, hrule⟩ := hrules r hr
    exact Preset.spares_run hp hrule hids hv
  have hidle : ∀ (tokens : List Token) (fields : List Field), (tokens.map (·.id)).Nodup →
      (validateTokens tokens fields rules [] false).plan.deleted = [] := by
    intro tokens fields hids
    rw [List.eq_nil_iff_forall_not_mem]
    intro id hid
    exact List.not_mem_nil (edited_of_mem_deleted (hspares tokens fields [] hids) hid).1
  constructor
  case deleted =>
    intro tokens fields editing hids id hid
    exact edited_of_mem_deleted (hspares tokens fields editing hids) hid
  case marked =>
    intro tokens fields editing hids t ht hplain
    exact not_mem_marked (hspares tokens fields editing hids) hids ht hplain
  case idle => exact hidle
  case history =>
    intro previous tokens fields hids
    rw [editingIds_history]
    exact hidle tokens fields hids
  case unchanged =>
    intro c m ids hinj hsame tokens editing h
    obtain ⟨hids, rfl⟩ := c.tokens_unchanged hinj hsame h
    exact hidle tokens m.fields hids

/-- Two filters too many, both with a wrong value: the one that is being edited is deleted, the
other one is marked, and the plain text between them is left alone. -/
theorem protects_of_presets_mixed :
    let token (id : String) : Token := { id, type := .filter, key := "tag", value := id }
    let tokens : List Token :=
      [token "a", token "b", { id := "p", type := .plaintext, key := "tag", value := "c" },
       token "c"]
    let limit : Rule Token := MaxCount.ruleBy .all 1 .mark "Maximum 1 filters allowed" .null
    let unique : Rule Token := Unique.ruleBy .key .reject (.int 1)
    let letter : Rule Token :=
      RequirePattern.ruleBy "tag" (Pattern.char 'a').occursIn .reject
        "Invalid format for \"tag\"" .null
    let plan (editing : List String) : Plan :=
      (validateTokens tokens [] [limit, unique, letter] editing false).plan
    (∀ r ∈ [limit, unique, letter], ∃ (host : Host) (p : Preset) (priority : Value),
      p.IsProtective ∧ p.rule host priority = .ok r) ∧
      (plan ["c"]).deleted = ["c"] ∧ (plan ["c"]).marked = ["b"] ∧
      (plan []).deleted = [] ∧ (plan []).marked = ["b", "c"] ∧
      Protects [limit, unique, letter] := by
  intro token tokens limit unique letter plan
  have hrules : ∀ r ∈ [limit, unique, letter], ∃ (host : Host) (p : Preset) (priority : Value),
      p.IsProtective ∧ p.rule host priority = .ok r := by
    intro r hr
    simp only [List.mem_cons, List.not_mem_nil, or_false] at hr
    rcases hr with rfl | rfl | rfl
    · exact ⟨.standard, .maxCount .all 1 .mark none, .null, rfl,
        Preset.rule_maxCount_iff.mpr ⟨rfl, by decide +kernel, rfl⟩⟩
    · exact ⟨.standard, .unique .key .reject, .int 1, Or.inr rfl, rfl⟩
    · exact ⟨.standard, .pattern "tag" (.text "a") .reject none, .null, Or.inr rfl, rfl⟩
  have hsort : Validation.sortRules [limit, unique, letter] = [unique, limit, letter] := by
    simp [Validation.sortRules, List.mergeSort, List.MergeSort.Internal.splitInTwo, limit, unique,
      letter, Rule.rank, MaxCount.ruleBy, Unique.ruleBy, RequirePattern.ruleBy, Value.rank]
  have hdeleted : (plan ["c"]).deleted = ["c"] := by
    simp only [plan, validateTokens, run, hsort]
    decide +kernel
  have hmarked : (plan ["c"]).marked = ["b"] := by
    simp only [plan, validateTokens, run, hsort]
    decide +kernel
  have hspared : (plan []).marked = ["b", "c"] := by
    simp only [plan, validateTokens, run, hsort]
    decide +kernel
  have hprotects := protects_of_presets [limit, unique, letter] hrules
  exact ⟨hrules, hdeleted, hmarked, hprotects.idle tokens [] (by decide), hspared, hprotects⟩

end FilterQuery
