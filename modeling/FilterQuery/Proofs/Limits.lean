import FilterQuery.Proofs.Presets

/-!
# Who goes under a limit

A rejecting limit has a queue: the tokens being edited, from the first on, and after them the
untouched ones, from the last on. A pass deletes from the front of the queue as many tokens as there
are too many, except those whose field switches the rule off (`delete_maxCount_iff`). Leaving some
tokens out leaves them out of the queue and changes nothing else in it (`queue_filter`).
-/

namespace FilterQuery

open Manifest (StrategyName)
open Plan (demand?)

variable {τ : Type} [TokenLike τ]

namespace MaxCount

/-- Tokens in the order in which a rejecting limit deletes them. -/
def queue (ctx : Context τ) (ts : List τ) : List τ :=
  (ctx.split ts).1 ++ (ctx.split ts).2.reverse

theorem queue_eq (ctx : Context τ) (ts : List τ) :
    queue ctx ts = ts.filter ctx.isEditing ++ (ts.filter fun t => !ctx.isEditing t).reverse := by
  rw [queue, Context.split, List.partition_eq_filter_filter]
  rfl

theorem queue_perm (ctx : Context τ) (ts : List τ) : (queue ctx ts).Perm ts := by
  rw [queue_eq]
  exact ((List.reverse_perm _).append_left _).trans (List.filter_append_perm ctx.isEditing ts)

theorem queue_filter (ctx : Context τ) (ts : List τ) (p : τ → Bool) :
    queue ctx (ts.filter p) = (queue ctx ts).filter p := by
  have hcomm : ∀ q : τ → Bool, (ts.filter p).filter q = (ts.filter q).filter p :=
    fun q => List.filter_comm q p ts
  rw [queue_eq, queue_eq, hcomm, hcomm, List.filter_append, List.filter_reverse]

/-- The strategy takes its tokens from the front of the queue. -/
theorem mem_dropNew_iff {ctx : Context τ} {ts : List τ} {excess : Nat} {t : τ} :
    t ∈ (dropNew ts excess ctx).delete ↔ t ∈ (queue ctx ts).take excess := by
  simp only [queue, dropNew]
  split
  · rename_i hle
    rw [List.take_append_of_le_length hle]
  · rename_i hlt
    rw [List.take_append, List.take_of_length_le (by omega), List.take_reverse, List.mem_append,
      List.mem_append, List.mem_reverse]

/-- If the back of a list stays, the front of what is left is what is left of the front. -/
theorem take_filter_of_back {α : Type} {q : List α} {n : Nat} {p : α → Bool}
    (h : ∀ t ∈ q.drop n, p t = true) :
    (q.filter p).take ((q.filter p).length - (q.length - n)) = (q.take n).filter p := by
  have hsplit : q.filter p = (q.take n).filter p ++ q.drop n := by
    conv_lhs => rw [← List.take_append_drop n q]
    rw [List.filter_append, List.filter_eq_self.mpr h]
  rw [hsplit, List.length_append, List.length_drop, Nat.add_sub_cancel, List.take_left]

theorem mark_dropNew (ctx : Context τ) (ts : List τ) (excess : Nat) :
    (dropNew ts excess ctx).mark = [] := by
  simp only [dropNew]
  split <;> rfl

/-- Where nothing is too many, no strategy does anything. -/
theorem resolveExcess_zero (s : StrategyName) (ts : List τ) (ctx : Context τ) :
    (s.resolveExcess ts 0 ctx).delete = [] ∧ (s.resolveExcess ts 0 ctx).mark = [] := by
  have hmark : (markLast ts 0).mark = [] := by
    rw [markLast]
    exact List.drop_length
  have hdelete : (dropNew ts 0 ctx).delete = [] := by
    rw [dropNew]
    exact congrArg Resolution.delete (if_pos (Nat.zero_le _))
  cases s with
  | mark => exact ⟨rfl, hmark⟩
  | reject => exact ⟨hdelete, mark_dropNew ctx ts 0⟩
  | replace => exact ⟨rfl, hmark⟩

theorem counted_filter (scope : Scope) (tokens : List τ) (p : τ → Bool) :
    counted scope (tokens.filter p) = (counted scope tokens).filter p := by
  rw [counted, Validation.visible, List.filter_comm _ p, List.filter_comm _ p]
  rfl

/-- How many counted tokens are too many. -/
def excess (scope : Scope) (most : Int) (tokens : List τ) : Nat :=
  (counted scope tokens).length - limit most

/-- The front of the queue of the counted tokens: those that are to go. -/
def front (ctx : Context τ) (scope : Scope) (most : Int) (tokens : List τ) : List τ :=
  (queue ctx (counted scope tokens)).take (excess scope most tokens)

theorem mem_of_mem_front {ctx : Context τ} {scope : Scope} {most : Int} {tokens : List τ} {t : τ}
    (h : t ∈ front ctx scope most tokens) : t ∈ Validation.visible tokens :=
  List.mem_of_mem_filter ((queue_perm ctx _).mem_iff.mp (List.mem_of_mem_take h))

/-- As long as all others stay, the front is again what stays of the front. -/
theorem front_filter {ctx : Context τ} {scope : Scope} {most : Int} {tokens : List τ}
    (hnodup : (Validation.visible tokens).Nodup) {p : τ → Bool}
    (hp : ∀ t ∈ Validation.visible tokens, t ∉ front ctx scope most tokens → p t = true) :
    front ctx scope most (tokens.filter p) = (front ctx scope most tokens).filter p := by
  have hperm := queue_perm ctx (counted scope tokens)
  have hback : ∀ t ∈ (queue ctx (counted scope tokens)).drop (excess scope most tokens),
      p t = true := by
    intro t ht
    have hvisible := List.mem_of_mem_filter (hperm.mem_iff.mp (List.mem_of_mem_drop ht))
    have hqueue : (queue ctx (counted scope tokens)).Nodup := hperm.nodup_iff.mpr (hnodup.filter _)
    exact hp t hvisible fun hfront => List.disjoint_take_drop hqueue (Nat.le_refl _) hfront ht
  -- the new excess reaches just to the end of what is left of the front
  have hexcess : excess scope most (tokens.filter p) =
      ((queue ctx (counted scope tokens)).filter p).length -
        ((queue ctx (counted scope tokens)).length - excess scope most tokens) := by
    have hle := List.length_filter_le p (counted scope tokens)
    rw [excess, excess, counted_filter, hperm.length_eq, (hperm.filter p).length_eq]
    omega
  rw [front, hexcess, counted_filter, queue_filter, take_filter_of_back hback, front]

end MaxCount

namespace Validation

open MaxCount (counted front excess limit)

variable {tokens : List τ} (hids : (tokens.map TokenLike.id).Nodup) (fields : List Field)
  (editing : List String) (scope : MaxCount.Scope) (most : Int) (message : String)
  (priority : Value)
include hids

/-- A limit has nothing but its strategy to say, also where nothing is too many. -/
theorem run_maxCount_eq (s : StrategyName) :
    run tokens fields [MaxCount.ruleBy scope most s message priority] editing =
      ((s.resolveExcess (counted scope tokens) (excess scope most tokens)
        (context tokens fields editing)).enforced fields (MaxCount.ruleId scope)).violations
          (MaxCount.ruleId scope) MaxCount.reason message := by
  rw [run_maxCount hids]
  split
  · rename_i hle
    rw [excess, Nat.sub_eq_zero_of_le hle]
    obtain ⟨hdelete, hmark⟩ := MaxCount.resolveExcess_zero s (counted scope tokens)
      (context tokens fields editing)
    refine (Resolution.violations_eq_nil ?_ ?_ _ _ _).symm
    · rw [Resolution.enforced, hdelete]
      rfl
    · rw [Resolution.enforced, hmark]
      rfl
  · rfl

theorem run_maxCount_reject :
    run tokens fields [MaxCount.ruleBy scope most .reject message priority] editing =
      ((MaxCount.dropNew (counted scope tokens) (excess scope most tokens)
        (context tokens fields editing)).enforced fields (MaxCount.ruleId scope)).violations
          (MaxCount.ruleId scope) MaxCount.reason message :=
  run_maxCount_eq hids fields editing scope most message priority .reject

/-- It deletes the tokens of the front whose field does not switch the rule off. -/
theorem delete_maxCount_iff {t : τ} (ht : t ∈ tokens) :
    (demand? .delete (run tokens fields [MaxCount.ruleBy scope most .reject message priority]
        editing) (TokenLike.id t)).isSome = true ↔
      t ∈ front (context tokens fields editing) scope most tokens ∧
        isSwitchedOff fields (MaxCount.ruleId scope) t = false := by
  rw [run_maxCount_reject hids, Resolution.demand?_isSome_iff hids .delete _ _ _ _ ht]
  · show t ∈ enforcedOn fields _ _ ↔ _
    rw [enforcedOn, List.mem_filter, MaxCount.mem_dropNew_iff, Bool.not_eq_true']
    rfl
  · intro u hu
    have hdelete := MaxCount.mem_dropNew_iff.mp (List.mem_of_mem_filter hu)
    exact mem_of_mem_visible (MaxCount.mem_of_mem_front hdelete)

end Validation

end FilterQuery
