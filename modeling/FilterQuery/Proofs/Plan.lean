import FilterQuery.Plan
import Mathlib.Data.List.Nodup

/-!
# Built plans, token by token

A plan is built from two maps over ids and applied through a third one. Seen from one token that is
a single choice, `actionOf`: the first demand for its deletion, or else the first one for a mark, or
else a clearance. Everything here reduces the maps to that choice. The main statement is
`apply_build`: where ids are distinct, applying a built plan keeps the tokens that are spared, in
order, and settles the flag of each.
-/

namespace FilterQuery

/-- Where an element is the only one with its id, the last one of that id is the element. -/
theorem find?_reverse_of_unique {α : Type} {idOf : α → String} {xs : List α} {a : α} (ha : a ∈ xs)
    (hunique : ∀ b ∈ xs, idOf b = idOf a → b = a) :
    xs.reverse.find? (idOf · == idOf a) = some a := by
  cases hfind : xs.reverse.find? (idOf · == idOf a) with
  | none =>
    rw [List.find?_eq_none] at hfind
    exact absurd (beq_self_eq_true (idOf a)) (hfind a (List.mem_reverse.mpr ha))
  | some b =>
    have hmem : b ∈ xs := List.mem_reverse.mp (List.mem_of_find?_eq_some hfind)
    have hid : idOf b = idOf a := by simpa using List.find?_some hfind
    rw [hunique b hmem hid]

/-- Whether a violation asks for an action on an id. -/
def Violation.asks (v : Violation) (action : Action) (id : String) : Bool :=
  v.action = action && v.tokenIds.contains id

theorem Violation.asks_iff {v : Violation} {action : Action} {id : String} :
    v.asks action id = true ↔ v.action = action ∧ id ∈ v.tokenIds := by
  simp [asks]

namespace Plan

variable {τ : Type} [TokenLike τ]

/-! ## Demands -/

/-- The first violation that asks for an action on an id. -/
def demand? (action : Action) (violations : List Violation) (id : String) : Option Violation :=
  violations.find? (·.asks action id)

theorem demand?_isSome_iff {action : Action} {violations : List Violation} {id : String} :
    (demand? action violations id).isSome = true ↔
      ∃ v ∈ violations, v.asks action id = true := by
  simp [demand?, List.find?_isSome]

theorem demand?_eq_none_iff {action : Action} {violations : List Violation} {id : String} :
    demand? action violations id = none ↔ ∀ v ∈ violations, v.asks action id = false := by
  simp [demand?]

theorem lookup_map_const (v : Violation) (ids : List String) (id : String) :
    (ids.map (·, v)).lookup id = if id ∈ ids then some v else none := by
  induction ids with
  | nil => rfl
  | cons first ids ih =>
    rw [List.map_cons, List.lookup_cons, ih]
    by_cases h : id = first
    · simp [h]
    · simp [beq_false_of_ne h, h]

/-- The entry of an id among the demands is its first violation. -/
theorem lookup_demands (action : Action) (violations : List Violation) (id : String) :
    (demands action violations).lookup id = demand? action violations id := by
  induction violations with
  | nil => rfl
  | cons v vs ih =>
    by_cases ha : v.action = action
    · have hsplit : demands action (v :: vs) = v.tokenIds.map (·, v) ++ demands action vs := by
        simp [demands, ha]
      rw [hsplit, List.lookup_append, lookup_map_const, ih]
      -- an entry of `v` comes before all later ones
      by_cases hid : id ∈ v.tokenIds
      · simp [demand?, Violation.asks, ha, hid]
      · simp [demand?, Violation.asks, ha, hid]
    · have hskip : demands action (v :: vs) = demands action vs := by simp [demands, ha]
      rw [hskip, ih]
      simp [demand?, Violation.asks, ha]

theorem lookup_map_snd {α β : Type} (f : α → β) (entries : List (String × α)) (id : String) :
    (entries.map fun (key, a) => (key, f a)).lookup id = (entries.lookup id).map f := by
  induction entries with
  | nil => rfl
  | cons e es ih =>
    rw [List.map_cons, List.lookup_cons, List.lookup_cons, ih]
    cases id == e.1 <;> rfl

/-! ## Pruning -/

/-- Whether an id is pruned: some abandoned filter has it. -/
def isPruned (tokens : List τ) (editing : List String) (pruneEmpty : Bool) (id : String) : Bool :=
  pruneEmpty && tokens.any fun t => TokenLike.id t == id && isAbandoned editing t

theorem lookup_abandoned (tokens : List τ) (editing : List String) (id : String) :
    ((tokens.filter (isAbandoned editing)).map fun t => (TokenLike.id t, emptyReason)).lookup id =
      if tokens.any fun t => TokenLike.id t == id && isAbandoned editing t then some emptyReason
      else none := by
  induction tokens with
  | nil => rfl
  | cons t ts ih =>
    by_cases ha : isAbandoned editing t = true
    · by_cases hid : id = TokenLike.id t
      · simp [ha, hid]
      · simp only [List.filter_cons, ha, if_true, List.map_cons, List.lookup_cons, List.any_cons]
        rw [ih, beq_false_of_ne hid, beq_false_of_ne (Ne.symm hid)]
        rfl
    · simp only [List.filter_cons, ha, List.any_cons, Bool.and_false, Bool.false_or]
      exact ih

/-- Pruning comes first, so it gives the reason. -/
theorem lookup_deletions (tokens : List τ) (violations : List Violation) (editing : List String)
    (pruneEmpty : Bool) (id : String) :
    (deletions tokens violations editing pruneEmpty).lookup id =
      if isPruned tokens editing pruneEmpty id then some emptyReason
      else (demand? .delete violations id).map (·.reason) := by
  rw [deletions, List.lookup_append, lookup_map_snd, lookup_demands]
  cases pruneEmpty with
  | false => simp [isPruned]
  | true =>
    simp only [if_true, lookup_abandoned, isPruned, Bool.true_and]
    split <;> rfl

/-- Whether an id is to be deleted: it is pruned or its deletion is demanded. -/
def isDoomed (tokens : List τ) (violations : List Violation) (editing : List String)
    (pruneEmpty : Bool) (id : String) : Bool :=
  isPruned tokens editing pruneEmpty id || (demand? .delete violations id).isSome

theorem isDoomed_iff {tokens : List τ} {violations : List Violation} {editing : List String}
    {pruneEmpty : Bool} {id : String} :
    isDoomed tokens violations editing pruneEmpty id = true ↔
      isPruned tokens editing pruneEmpty id = true ∨
        (demand? .delete violations id).isSome = true := by
  rw [isDoomed, Bool.or_eq_true]

theorem isSome_lookup_deletions (tokens : List τ) (violations : List Violation)
    (editing : List String) (pruneEmpty : Bool) (id : String) :
    ((deletions tokens violations editing pruneEmpty).lookup id).isSome =
      isDoomed tokens violations editing pruneEmpty id := by
  rw [lookup_deletions, isDoomed]
  cases isPruned tokens editing pruneEmpty id <;> simp

/-! ## The action of a token -/

/-- What a plan has for a token: its deletion, or else its mark or clearance. -/
def actionOf (doomed : List (String × String)) (marks : List (String × Violation)) (t : τ) :
    Option TokenAction :=
  (deletion? doomed t).or (flagging? marks t)

section

variable {doomed : List (String × String)} {marks : List (String × Violation)} {t : τ}
  {a : TokenAction}

theorem isSome_deletion? :
    (deletion? doomed t).isSome = (doomed.lookup (TokenLike.id t)).isSome := by
  rw [deletion?, Option.isSome_map]

theorem tokenId_of_deletion? (h : deletion? doomed t = some a) : a.tokenId = TokenLike.id t := by
  rw [deletion?, Option.map_eq_some_iff] at h
  obtain ⟨_, -, rfl⟩ := h
  rfl

theorem tokenId_of_flagging? (h : flagging? marks t = some a) : a.tokenId = TokenLike.id t := by
  rw [flagging?] at h
  split at h
  · cases h
    rfl
  · split at h
    · cases h
      rfl
    · cases h

theorem type_of_deletion? (h : deletion? doomed t = some a) : a.type = .delete := by
  rw [deletion?, Option.map_eq_some_iff] at h
  obtain ⟨_, -, rfl⟩ := h
  rfl

theorem type_of_flagging? (h : flagging? marks t = some a) : a.type ≠ .delete := by
  rw [flagging?] at h
  split at h
  · cases h
    simp
  · split at h
    · cases h
      simp
    · cases h

theorem tokenId_of_actionOf (h : actionOf doomed marks t = some a) :
    a.tokenId = TokenLike.id t := by
  rw [actionOf, Option.or_eq_some_iff] at h
  rcases h with h | ⟨-, h⟩
  · exact tokenId_of_deletion? h
  · exact tokenId_of_flagging? h

end

/-- A built plan has the actions of its tokens and no others. -/
theorem mem_actions_build {tokens : List τ} {violations : List Violation} {editing : List String}
    {pruneEmpty : Bool} {a : TokenAction} :
    a ∈ (build tokens violations editing pruneEmpty).actions ↔
      ∃ t ∈ tokens, actionOf (deletions tokens violations editing pruneEmpty)
        (demands .mark violations) t = some a := by
  simp only [build, List.mem_append, List.mem_filterMap, List.mem_filter, actionOf,
    Option.or_eq_some_iff, Option.isNone_iff_eq_none]
  constructor
  · rintro (⟨t, ht, h⟩ | ⟨t, ⟨ht, hspared⟩, h⟩)
    · exact ⟨t, ht, Or.inl h⟩
    · exact ⟨t, ht, Or.inr ⟨hspared, h⟩⟩
  · rintro ⟨t, ht, h | ⟨hspared, h⟩⟩
    · exact Or.inl ⟨t, ht, h⟩
    · exact Or.inr ⟨t, ⟨ht, hspared⟩, h⟩

/-! ## The ids of a plan -/

/-- Of actions that are made token by token, those of a type are about the tokens that get one. -/
theorem map_tokenId_filterMap {f : τ → Option TokenAction}
    (hf : ∀ t a, f t = some a → a.tokenId = TokenLike.id t) (type : ActionType) (ts : List τ) :
    ((ts.filterMap f).filter (·.type = type)).map (·.tokenId) =
      (ts.filter fun t => (f t).any (·.type = type)).map TokenLike.id := by
  induction ts with
  | nil => rfl
  | cons t ts ih =>
    cases h : f t with
    | none => simpa [h] using ih
    | some a =>
      by_cases htype : a.type = type
      · simpa [h, htype, hf t a h] using ih
      · simpa [h, htype] using ih

section

variable (tokens : List τ) (violations : List Violation) (editing : List String)
  (pruneEmpty : Bool)

theorem idsOf_build (type : ActionType) :
    (build tokens violations editing pruneEmpty).idsOf type =
      (tokens.filter fun t => (deletion? (deletions tokens violations editing pruneEmpty) t).any
        (·.type = type)).map TokenLike.id ++
      (tokens.filter fun t =>
        (deletion? (deletions tokens violations editing pruneEmpty) t).isNone &&
          (flagging? (demands .mark violations) t).any (·.type = type)).map TokenLike.id := by
  rw [idsOf, build, List.filter_append, List.map_append,
    map_tokenId_filterMap fun _ _ => tokenId_of_deletion?,
    map_tokenId_filterMap fun _ _ => tokenId_of_flagging?, List.filter_filter]
  simp only [Bool.and_comm]

/-- The ids to delete are those of tokens that are doomed, in document order. -/
theorem deleted_build :
    (build tokens violations editing pruneEmpty).deleted =
      (tokens.filter fun t => isDoomed tokens violations editing pruneEmpty (TokenLike.id t)).map
        TokenLike.id := by
  have hdeletion : ∀ t : τ,
      (deletion? (deletions tokens violations editing pruneEmpty) t).any (·.type = .delete) =
        isDoomed tokens violations editing pruneEmpty (TokenLike.id t) := by
    intro t
    rw [← isSome_lookup_deletions, deletion?, Option.any_map]
    cases (deletions tokens violations editing pruneEmpty).lookup (TokenLike.id t) <;> rfl
  have hflagging : ∀ t : τ,
      (flagging? (demands .mark violations) t).any (·.type = .delete) = false := by
    intro t
    rw [Option.any_eq_false]
    intro a ha
    simpa using type_of_flagging? ha
  rw [deleted, idsOf_build]
  simp only [hdeletion, hflagging, Bool.and_false, List.filter_false, List.map_nil, List.append_nil]

/-- The ids to mark are those of tokens that stay and of which a mark is demanded. -/
theorem marked_build :
    (build tokens violations editing pruneEmpty).marked =
      (tokens.filter fun t => !isDoomed tokens violations editing pruneEmpty (TokenLike.id t) &&
        (demand? .mark violations (TokenLike.id t)).isSome).map TokenLike.id := by
  have hdeletion : ∀ t : τ,
      (deletion? (deletions tokens violations editing pruneEmpty) t).any (·.type = .mark) =
        false := by
    intro t
    rw [Option.any_eq_false]
    intro a ha
    simp [type_of_deletion? ha]
  have hspared : ∀ t : τ,
      (deletion? (deletions tokens violations editing pruneEmpty) t).isNone =
        !isDoomed tokens violations editing pruneEmpty (TokenLike.id t) := by
    intro t
    rw [← Option.not_isSome, isSome_deletion?, isSome_lookup_deletions]
  have hflagging : ∀ t : τ, (flagging? (demands .mark violations) t).any (·.type = .mark) =
      (demand? .mark violations (TokenLike.id t)).isSome := by
    intro t
    rw [flagging?, lookup_demands]
    cases demand? .mark violations (TokenLike.id t) with
    | some v => rfl
    | none => cases TokenLike.isInvalid t <;> rfl
  rw [marked, idsOf_build]
  simp only [hdeletion, hspared, hflagging, List.filter_false, List.map_nil, List.nil_append]

end

theorem mem_deleted_build {tokens : List τ} {violations : List Violation} {editing : List String}
    {pruneEmpty : Bool} {id : String} :
    id ∈ (build tokens violations editing pruneEmpty).deleted ↔
      id ∈ tokens.map TokenLike.id ∧
        (isPruned tokens editing pruneEmpty id = true ∨
          (demand? .delete violations id).isSome = true) := by
  rw [deleted_build, ← isDoomed_iff]
  simp only [List.mem_map, List.mem_filter]
  constructor
  · rintro ⟨t, ⟨ht, hdoomed⟩, rfl⟩
    exact ⟨⟨t, ht, rfl⟩, hdoomed⟩
  · rintro ⟨⟨t, ht, rfl⟩, hdoomed⟩
    exact ⟨t, ⟨ht, hdoomed⟩, rfl⟩

theorem mem_marked_build {tokens : List τ} {violations : List Violation} {editing : List String}
    {pruneEmpty : Bool} {id : String} :
    id ∈ (build tokens violations editing pruneEmpty).marked ↔
      id ∈ tokens.map TokenLike.id ∧
        id ∉ (build tokens violations editing pruneEmpty).deleted ∧
          (demand? .mark violations id).isSome = true := by
  rw [mem_deleted_build, ← isDoomed_iff, marked_build]
  simp only [List.mem_map, List.mem_filter, Bool.and_eq_true, Bool.not_eq_true']
  constructor
  · rintro ⟨t, ⟨ht, hspared, hmark⟩, rfl⟩
    refine ⟨⟨t, ht, rfl⟩, fun h => ?_, hmark⟩
    rw [hspared] at h
    cases h.2
  · rintro ⟨⟨t, ht, rfl⟩, hspared, hmark⟩
    exact ⟨t, ⟨ht, eq_false_of_ne_true fun h => hspared ⟨⟨t, ht, rfl⟩, h⟩, hmark⟩, rfl⟩

/-! ## The action for a token -/

theorem actionFor_eq_some {p : Plan} {a : TokenAction} (ha : a ∈ p.actions)
    (hunique : ∀ b ∈ p.actions, b.tokenId = a.tokenId → b = a) :
    p.actionFor a.tokenId = some a :=
  find?_reverse_of_unique ha hunique

theorem actionFor_eq_none {p : Plan} {id : String} (h : ∀ a ∈ p.actions, a.tokenId ≠ id) :
    p.actionFor id = none := by
  rw [actionFor, List.find?_eq_none]
  intro a ha
  simpa using h a (List.mem_reverse.mp ha)

/-- Where ids are distinct, a token finds its own action in a built plan. -/
theorem actionFor_build {tokens : List τ} (hids : (tokens.map TokenLike.id).Nodup)
    (violations : List Violation) (editing : List String) (pruneEmpty : Bool) {t : τ}
    (ht : t ∈ tokens) :
    (build tokens violations editing pruneEmpty).actionFor (TokenLike.id t) =
      actionOf (deletions tokens violations editing pruneEmpty) (demands .mark violations) t := by
  -- an action for this id was made for a token with this id, and that can only be `t`
  have hinj := List.inj_on_of_nodup_map hids
  cases haction : actionOf (deletions tokens violations editing pruneEmpty)
      (demands .mark violations) t with
  | none =>
    apply actionFor_eq_none
    intro a ha heq
    obtain ⟨u, hu, h⟩ := mem_actions_build.mp ha
    have hut : u = t := hinj hu ht (by rw [← tokenId_of_actionOf h, heq])
    rw [hut, haction] at h
    cases h
  | some a =>
    rw [← tokenId_of_actionOf haction]
    apply actionFor_eq_some (mem_actions_build.mpr ⟨t, ht, haction⟩)
    intro b hb heq
    obtain ⟨u, hu, h⟩ := mem_actions_build.mp hb
    have hut : u = t := hinj hu ht (by
      rw [← tokenId_of_actionOf h, heq, tokenId_of_actionOf haction])
    rw [hut, haction] at h
    exact (Option.some.inj h).symm

/-! ## Applying what was built -/

/-- Whether a token stays: nobody demands its deletion and it is not pruned. -/
def isSpared (violations : List Violation) (editing : List String) (pruneEmpty : Bool) (t : τ) :
    Bool :=
  (demand? .delete violations (TokenLike.id t)).isNone && !(pruneEmpty && isAbandoned editing t)

/-- A token with the flag that the violations leave it with. -/
def settle (violations : List Violation) (t : τ) : τ :=
  match demand? .mark violations (TokenLike.id t) with
  | some v => TokenLike.withFlag true (some v.reason) v.message t
  | none => if TokenLike.isInvalid t then TokenLike.withFlag false none none t else t

/-- The id of a token that shares it with no other is pruned just if the token is abandoned. -/
theorem isPruned_of_unique {tokens : List τ} (editing : List String) (pruneEmpty : Bool) {t : τ}
    (ht : t ∈ tokens) (hunique : ∀ u ∈ tokens, TokenLike.id u = TokenLike.id t → u = t) :
    isPruned tokens editing pruneEmpty (TokenLike.id t) =
      (pruneEmpty && isAbandoned editing t) := by
  rw [isPruned]
  congr 1
  rw [Bool.eq_iff_iff, List.any_eq_true]
  constructor
  · rintro ⟨u, hu, h⟩
    rw [Bool.and_eq_true, beq_iff_eq] at h
    rw [← hunique u hu h.1]
    exact h.2
  · intro h
    exact ⟨t, ht, by simp [h]⟩

/-- Where ids are distinct, an id is pruned just if its own token is abandoned. -/
theorem isPruned_eq {tokens : List τ} (hids : (tokens.map TokenLike.id).Nodup)
    (editing : List String) (pruneEmpty : Bool) {t : τ} (ht : t ∈ tokens) :
    isPruned tokens editing pruneEmpty (TokenLike.id t) =
      (pruneEmpty && isAbandoned editing t) :=
  isPruned_of_unique editing pruneEmpty ht fun _ hu hid => List.inj_on_of_nodup_map hids hu ht hid

theorem apply_actionOf {tokens : List τ} (hids : (tokens.map TokenLike.id).Nodup)
    (violations : List Violation) (editing : List String) (pruneEmpty : Bool) {t : τ}
    (ht : t ∈ tokens) :
    TokenAction.apply (actionOf (deletions tokens violations editing pruneEmpty)
        (demands .mark violations) t) t =
      if isSpared violations editing pruneEmpty t then some (settle violations t) else none := by
  have hdoomed := lookup_deletions tokens violations editing pruneEmpty (TokenLike.id t)
  rw [isPruned_eq hids editing pruneEmpty ht] at hdoomed
  rw [actionOf, deletion?, hdoomed, flagging?, lookup_demands]
  -- pruning and deletion come before any flag
  by_cases hpruned : (pruneEmpty && isAbandoned editing t) = true
  · simp [isSpared, hpruned, TokenAction.apply]
  · cases hdelete : demand? .delete violations (TokenLike.id t) with
    | some v => simp [isSpared, hpruned, hdelete, TokenAction.apply]
    | none =>
      have hspared : isSpared violations editing pruneEmpty t = true := by
        rw [isSpared, hdelete, eq_false_of_ne_true hpruned]
        rfl
      rw [if_neg hpruned, if_pos hspared, settle]
      cases demand? .mark violations (TokenLike.id t) with
      | some v => rfl
      | none => cases TokenLike.isInvalid t <;> rfl

/-- **Applying a built plan.** Spared tokens stay in order, each with its flag settled. -/
theorem apply_build {tokens : List τ} (hids : (tokens.map TokenLike.id).Nodup)
    (violations : List Violation) (editing : List String) (pruneEmpty : Bool) :
    (build tokens violations editing pruneEmpty).apply tokens =
      (tokens.filter (isSpared violations editing pruneEmpty)).map (settle violations) := by
  have hstep : ∀ t ∈ tokens,
      TokenAction.apply
          ((build tokens violations editing pruneEmpty).actionFor (TokenLike.id t)) t =
        if isSpared violations editing pruneEmpty t then some (settle violations t) else none := by
    intro t ht
    rw [actionFor_build hids violations editing pruneEmpty ht,
      apply_actionOf hids violations editing pruneEmpty ht]
  rw [apply, List.filterMap_congr hstep, ← List.filterMap_eq_map, List.filterMap_filter]
  rfl

end Plan

end FilterQuery
