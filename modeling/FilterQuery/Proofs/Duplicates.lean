import FilterQuery.Proofs.Presets

/-!
# What is asked of a group of duplicates

The twins of a token are the tokens with its signature. Whether a pass of a uniqueness rule deletes
or marks a token depends on its twins alone (`demand?_unique_iff`). Keeping the newest of them
deletes all but one, `newest?`: the last twin that is being edited, or else the last one.
-/

namespace FilterQuery

open Manifest (StrategyName)
open Plan (demand?)

variable {τ : Type} [TokenLike τ]

namespace Unique

/-- The visible tokens with one signature. -/
def twins (c : Constraint) (tokens : List τ) (s : String) : List τ :=
  (Validation.visible tokens).filter fun t => signature c t = s

theorem mem_twins_iff {c : Constraint} {tokens : List τ} {s : String} {t : τ} :
    t ∈ twins c tokens s ↔ t ∈ Validation.visible tokens ∧ signature c t = s := by
  simp [twins]

/-- Twins among some of the tokens are the twins among those. -/
theorem twins_filter (c : Constraint) (tokens : List τ) (s : String) (p : τ → Bool) :
    twins c (tokens.filter p) s = (twins c tokens s).filter p := by
  rw [twins, Validation.visible, List.filter_comm _ p, List.filter_comm _ p]
  rfl

theorem nodup_twins {tokens : List τ} (hids : (tokens.map TokenLike.id).Nodup) (c : Constraint)
    (s : String) : (twins c tokens s).Nodup :=
  (List.Nodup.of_map _ (Validation.nodup_visible hids)).filter _

theorem mem_conflicts_visible {c : Constraint} {tokens : List τ} {g : Group τ} :
    g ∈ conflicts c (Validation.visible tokens) ↔
      ∃ s, g = groupOf c (Validation.visible tokens) s ∧ 1 < (twins c tokens s).length :=
  mem_conflicts_iff

/-! ## The newest of a group -/

/-- The last token that is being edited, or else the last one. -/
def newest? (ctx : Context τ) (ts : List τ) : Option τ :=
  ((ts.filter ctx.isEditing).getLast?).or ts.getLast?

theorem exists_newest? (ctx : Context τ) {ts : List τ} (hne : ts ≠ []) :
    ∃ t ∈ ts, newest? ctx ts = some t := by
  unfold newest?
  cases hediting : (ts.filter ctx.isEditing).getLast? with
  | some t => exact ⟨t, List.mem_of_mem_filter (List.mem_of_getLast? hediting), rfl⟩
  | none => exact ⟨ts.getLast hne, List.getLast_mem hne, List.getLast?_eq_some_getLast hne⟩

theorem getLast?_filter_of_pos {α : Type} {ts : List α} {p : α → Bool} {k : α}
    (h : ts.getLast? = some k) (hk : p k = true) : (ts.filter p).getLast? = some k := by
  obtain ⟨front, rfl⟩ := List.getLast?_eq_some_iff.mp h
  rw [List.filter_append, List.filter_cons_of_pos hk, List.filter_nil]
  simp

/-- The newest token stays the newest as long as it stays at all. -/
theorem newest?_filter {ctx : Context τ} {ts : List τ} {p : τ → Bool} {k : τ}
    (h : newest? ctx ts = some k) (hk : p k = true) : newest? ctx (ts.filter p) = some k := by
  rw [newest?, Option.or_eq_some_iff] at h
  rw [newest?, Option.or_eq_some_iff, List.filter_comm _ p]
  rcases h with h | ⟨hnone, h⟩
  · exact Or.inl (getLast?_filter_of_pos h hk)
  · rw [List.getLast?_eq_none_iff] at hnone
    refine Or.inr ⟨?_, getLast?_filter_of_pos h hk⟩
    rw [hnone]
    rfl

theorem mem_dropLast_iff {α : Type} {ts : List α} (hnodup : ts.Nodup) {t : α} :
    t ∈ ts.dropLast ↔ t ∈ ts ∧ ts.getLast? ≠ some t := by
  rcases List.eq_nil_or_concat' ts with rfl | ⟨front, last, rfl⟩
  · simp
  · have hlast : last ∉ front := by
      rw [List.nodup_append] at hnodup
      exact fun h => hnodup.2.2 last h last (by simp) rfl
    simp only [List.dropLast_concat, List.mem_append, List.mem_singleton, List.getLast?_concat,
      Option.some.injEq, ne_eq]
    constructor
    · intro h
      exact ⟨Or.inl h, fun heq => hlast (heq ▸ h)⟩
    · rintro ⟨h | h, hne⟩
      · exact h
      · exact absurd h.symm hne

/-- Keeping the newest deletes all the others. -/
theorem mem_keepNew_iff {ctx : Context τ} {ts : List τ} (hnodup : ts.Nodup) {t : τ} :
    t ∈ (keepNew ts ctx).delete ↔ t ∈ ts ∧ newest? ctx ts ≠ some t := by
  have hediting : (ctx.split ts).1 = ts.filter ctx.isEditing := by
    simp [Context.split, List.partition_eq_filter_filter]
  have huntouched : ∀ u, u ∈ (ctx.split ts).2 ↔ u ∈ ts ∧ ctx.isEditing u = false :=
    fun u => mem_split_iff.2
  rw [newest?, ← hediting, keepNew]
  split
  · rename_i hsplit
    rw [hsplit]
    exact mem_dropLast_iff hnodup
  · rename_i editing untouched hne hsplit
    rw [hsplit] at hediting huntouched ⊢
    have hlast : editing.getLast?.or ts.getLast? = editing.getLast? := by
      cases h : editing.getLast? with
      | none =>
        rw [List.getLast?_eq_none_iff] at h
        exact (hne h).elim
      | some last => rfl
    have hnodupEditing : editing.Nodup := by
      have h : editing = ts.filter ctx.isEditing := hediting
      rw [h]
      exact hnodup.filter _
    -- where tokens are being edited, all untouched ones go
    rw [hlast, List.mem_append, huntouched, mem_dropLast_iff hnodupEditing]
    have hmem : ∀ u, u ∈ editing ↔ u ∈ ts ∧ ctx.isEditing u = true := by
      intro u
      have h : editing = ts.filter ctx.isEditing := hediting
      rw [h, List.mem_filter]
    constructor
    · rintro (⟨ht, hedit⟩ | ⟨ht, hne⟩)
      · refine ⟨ht, fun h => ?_⟩
        have hlastEditing := ((hmem t).mp (List.mem_of_getLast? h)).2
        rw [hedit] at hlastEditing
        cases hlastEditing
      · exact ⟨((hmem t).mp ht).1, hne⟩
    · rintro ⟨ht, hne⟩
      cases hedit : ctx.isEditing t with
      | false => exact Or.inl ⟨ht, rfl⟩
      | true => exact Or.inr ⟨(hmem t).mpr ⟨ht, hedit⟩, hne⟩

theorem mark_keepNew (ts : List τ) (ctx : Context τ) : (keepNew ts ctx).mark = [] := by
  rw [keepNew]
  split <;> rfl

end Unique

/-! ## What a pass asks of a token -/

namespace Unique

theorem key_groupOf (c : Constraint) (tokens : List τ) (s : String) :
    (groupOf c (Validation.visible tokens) s).key =
      ((twins c tokens s).head?.map TokenLike.key).getD .null := by
  rw [twins, List.head?_filter]
  rfl

/-- What twins are told about, with the key of the first of them. -/
def messageFor (c : Constraint) (ts : List τ) : String :=
  message c ((ts.head?.map TokenLike.key).getD .null)

/-- What a strategy has to say about twins, where no field switches the rule off. -/
def findings (c : Constraint) (s : StrategyName) (fields : List Field) (ctx : Context τ)
    (ts : List τ) : List Violation :=
  ((s.resolveGroup ts ctx).enforced fields (ruleId c)).violations (ruleId c) reason
    (messageFor c ts)

/-- The mark of some of the twins. -/
def markOf (c : Constraint) (ts marked : List τ) : Violation where
  ruleId := ruleId c
  reason := reason
  message := some (messageFor c ts)
  action := .mark
  targets := marked.map targetOf

end Unique

namespace Validation

section

variable {tokens : List τ} (hids : (tokens.map TokenLike.id).Nodup) (fields : List Field)
  (editing : List String) (c : Constraint) (s : StrategyName) (priority : Value)
include hids

theorem mem_run_unique_iff {v : Violation} :
    v ∈ run tokens fields [Unique.ruleBy c s priority] editing ↔
      ∃ signature, 1 < (Unique.twins c tokens signature).length ∧
        v ∈ Unique.findings c s fields (context tokens fields editing)
          (Unique.twins c tokens signature) := by
  rw [run_unique hids, List.mem_flatMap]
  constructor
  · rintro ⟨g, hg, hv⟩
    obtain ⟨signature, rfl, hlength⟩ := Unique.mem_conflicts_visible.mp hg
    rw [Unique.key_groupOf] at hv
    exact ⟨signature, hlength, hv⟩
  · rintro ⟨signature, hlength, hv⟩
    refine ⟨_, Unique.mem_conflicts_visible.mpr ⟨signature, rfl, hlength⟩, ?_⟩
    rw [Unique.key_groupOf]
    exact hv

/-- Only what is said about its twins asks anything of a token. -/
theorem mem_findings_of_asks {t : τ} (ht : t ∈ tokens) {v : Violation} {action : Action}
    (hv : v ∈ run tokens fields [Unique.ruleBy c s priority] editing)
    (hasks : v.asks action (TokenLike.id t) = true) :
    1 < (Unique.twins c tokens (Unique.signature c t)).length ∧
      v ∈ Unique.findings c s fields (context tokens fields editing)
        (Unique.twins c tokens (Unique.signature c t)) ∧
      t ∈ (s.resolveGroup (Unique.twins c tokens (Unique.signature c t))
        (context tokens fields editing)).listed action ∧
      isSwitchedOff fields (Unique.ruleId c) t = false := by
  obtain ⟨signature, hlength, hv⟩ := (mem_run_unique_iff hids fields editing c s priority).mp hv
  obtain ⟨u, hu, hid⟩ := List.mem_map.mp (Resolution.asks_iff.mp ⟨v, hv, hasks⟩)
  have henforced : u ∈ enforcedOn fields (Unique.ruleId c)
      ((s.resolveGroup (Unique.twins c tokens signature)
        (context tokens fields editing)).listed action) := by
    cases action <;> exact hu
  obtain ⟨hlisted, hoff⟩ := List.mem_filter.mp henforced
  have htwin : u ∈ Unique.twins c tokens signature := by
    cases action with
    | delete => exact mem_of_mem_resolveGroup.1 hlisted
    | mark => exact mem_of_mem_resolveGroup.2 hlisted
  obtain ⟨hvisible, rfl⟩ := Unique.mem_twins_iff.mp htwin
  obtain rfl : u = t := List.inj_on_of_nodup_map hids (mem_of_mem_visible hvisible) ht hid
  exact ⟨hlength, hv, hlisted, by simpa using hoff⟩

/-- Something is asked of a token just if it has twins, the strategy wants it and its field does not
switch the rule off. -/
theorem demand?_unique_iff {t : τ} (ht : t ∈ tokens) (action : Action) :
    (demand? action (run tokens fields [Unique.ruleBy c s priority] editing)
        (TokenLike.id t)).isSome = true ↔
      1 < (Unique.twins c tokens (Unique.signature c t)).length ∧
        t ∈ (s.resolveGroup (Unique.twins c tokens (Unique.signature c t))
          (context tokens fields editing)).listed action ∧
        isSwitchedOff fields (Unique.ruleId c) t = false := by
  rw [Plan.demand?_isSome_iff]
  constructor
  · rintro ⟨v, hv, hasks⟩
    obtain ⟨hlength, -, hlisted, hoff⟩ :=
      mem_findings_of_asks hids fields editing c s priority ht hv hasks
    exact ⟨hlength, hlisted, hoff⟩
  · rintro ⟨hlength, hlisted, hoff⟩
    have henforced : t ∈ enforcedOn fields (Unique.ruleId c)
        ((s.resolveGroup (Unique.twins c tokens (Unique.signature c t))
          (context tokens fields editing)).listed action) :=
      List.mem_filter.mpr ⟨hlisted, by rw [hoff]; rfl⟩
    obtain ⟨v, hv, hasks⟩ := Resolution.asks_iff.mpr
      (show TokenLike.id t ∈ (((s.resolveGroup (Unique.twins c tokens (Unique.signature c t))
          (context tokens fields editing)).enforced fields (Unique.ruleId c)).listed action).map
            TokenLike.id from by cases action <;> exact List.mem_map_of_mem henforced)
    exact ⟨v, (mem_run_unique_iff hids fields editing c s priority).mpr ⟨_, hlength, hv⟩, hasks⟩

/-- A token that is marked is marked together with its twins. -/
theorem demand?_mark_unique {t : τ} (ht : t ∈ tokens) {v : Violation}
    (hmark : demand? .mark (run tokens fields [Unique.ruleBy c s priority] editing)
      (TokenLike.id t) = some v) :
    v = Unique.markOf c (Unique.twins c tokens (Unique.signature c t))
      (enforcedOn fields (Unique.ruleId c)
        (s.resolveGroup (Unique.twins c tokens (Unique.signature c t))
          (context tokens fields editing)).mark) := by
  have hasks := List.find?_some hmark
  obtain ⟨-, hv, -⟩ := mem_findings_of_asks hids fields editing c s priority ht
    (List.mem_of_find?_eq_some hmark) hasks
  have heq := Resolution.eq_of_mem hv
  rw [(Violation.asks_iff.mp hasks).1] at heq
  exact heq

end

/-- A twin that a replacing pass spares, although its field does not, is the newest. -/
theorem newest?_of_spared {tokens : List τ} (hids : (tokens.map TokenLike.id).Nodup)
    (fields : List Field) (editing : List String) (c : Constraint) (priority : Value) {t : τ}
    (ht : t ∈ visible tokens) (hlength : 1 < (Unique.twins c tokens (Unique.signature c t)).length)
    (hoff : isSwitchedOff fields (Unique.ruleId c) t = false)
    (hspared : demand? .delete (run tokens fields [Unique.ruleBy c .replace priority] editing)
      (TokenLike.id t) = none) :
    Unique.newest? (context tokens fields editing)
      (Unique.twins c tokens (Unique.signature c t)) = some t := by
  by_contra hother
  have htwin : t ∈ Unique.twins c tokens (Unique.signature c t) :=
    Unique.mem_twins_iff.mpr ⟨ht, rfl⟩
  have hdelete := (Unique.mem_keepNew_iff (Unique.nodup_twins hids c _)).mpr ⟨htwin, hother⟩
  refine absurd hspared (Option.isSome_iff_ne_none.mp ?_)
  exact (demand?_unique_iff hids fields editing c .replace priority (mem_of_mem_visible ht)
    .delete).mpr ⟨hlength, hdelete, hoff⟩

end Validation

end FilterQuery
