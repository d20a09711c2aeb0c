import FilterQuery.Proofs.Reconciliation

/-!
# Instructions are no edits

A host applies a plan to its document and then asks what the user has edited. Whatever the plan
says, an instruction removes a token or changes its flag (`eq_up_to_flag`), so every token that is
left has an id of before and looks as the token of that id did (`exists_of_mem_apply`). The editing
set reads nothing else: `editingIds_apply` says that it is empty then, and that it never holds an id
that is not in the document.
-/

namespace FilterQuery

/-- An instruction changes nothing but the flag of a token that it leaves. -/
theorem eq_up_to_flag {action : Option TokenAction} {t u : Token}
    (h : Plan.TokenAction.apply action t = some u) :
    u = { t with
      invalid := u.invalid
      invalidReason := u.invalidReason
      invalidMessage := u.invalidMessage } := by
  unfold Plan.TokenAction.apply at h
  split at h
  · obtain rfl := Option.some.inj h
    rfl
  · split at h
    · cases h
    · obtain rfl := Option.some.inj h
      rfl
    · obtain rfl := Option.some.inj h
      rfl

/-- What a plan leaves was there before, and looks the same. -/
theorem exists_of_mem_apply {p : Plan} {ts : List Token} {u : Token} (h : u ∈ p.apply ts) :
    ∃ t ∈ ts, t.id = u.id ∧ lookOf t = lookOf u := by
  obtain ⟨t, ht, hu⟩ := List.mem_filterMap.mp h
  refine ⟨t, ht, ?_⟩
  rw [eq_up_to_flag hu]
  exact ⟨rfl, rfl⟩

theorem editingIds_subset {τ : Type} [TokenLike τ] (previous current : List τ)
    (opts : EditOptions) : editingIds previous current opts ⊆ current.map TokenLike.id := by
  intro id hid
  simp only [editingIds] at hid
  split at hid
  · exact List.mem_eraseDups.mp hid
  · exact List.mem_of_mem_filter (List.mem_eraseDups.mp hid)

/-- **Applying a plan is no edit.** Whatever the plan, nothing counts as edited afterwards; and
whatever the tokens, the flags and the focus, only tokens of the document count as edited. -/
theorem editingIds_apply :
    (∀ ts : List Token, (ts.map (·.id)).Nodup → ∀ p : Plan, editingIds ts (p.apply ts) {} = []) ∧
      ∀ (previous current : List Token) (opts : EditOptions),
        editingIds previous current opts ⊆ current.map (·.id) := by
  refine ⟨fun ts hids p => ?_, editingIds_subset⟩
  rw [List.eq_nil_iff_forall_not_mem]
  intro id hid
  obtain ⟨u, hu, htouched, -⟩ := mem_editingIds.mp hid
  obtain ⟨t, ht, hsame, hlook⟩ := exists_of_mem_apply hu
  have hold : u.id ∈ ts.map (·.id) := hsame ▸ List.mem_map_of_mem ht
  rw [isNew_eq_false hold, isModified_eq_false hids ht hsame hlook] at htouched
  cases htouched

/-- A plan that nobody built: an id that no token has, and one that is marked, cleared and marked
again. -/
theorem editingIds_apply_unruly :
    let tokens : List Token :=
      [{ id := "a", type := .filter, key := "status", operator := "is", value := "open" },
       { id := "b", type := .freeText, value := "late", invalid := true },
       { id := "c", type := .plaintext, value := "and" }]
    let p : Plan :=
      ⟨[{ type := .delete, tokenId := "x" }, { type := .mark, tokenId := "a" },
        { type := .clear, tokenId := "a" }, { type := .delete, tokenId := "c" },
        { type := .mark, tokenId := "a", reason := some "again" },
        { type := .clear, tokenId := "b" }]⟩
    (tokens.map (·.id)).Nodup ∧
      (p.apply tokens).map (fun t => (t.id, t.invalid, t.invalidReason)) =
        [("a", true, some "again"), ("b", false, none)] ∧
      editingIds tokens (p.apply tokens) {} = [] ∧
      editingIds tokens (p.apply tokens) { focused := ["b", "c"] } ⊆
        (p.apply tokens).map (·.id) := by
  intro tokens p
  have hids : (tokens.map (·.id)).Nodup := by decide
  obtain ⟨hnone, hsubset⟩ := editingIds_apply
  exact ⟨hids, by decide +kernel, hnone tokens hids p, hsubset tokens (p.apply tokens) _⟩

end FilterQuery
