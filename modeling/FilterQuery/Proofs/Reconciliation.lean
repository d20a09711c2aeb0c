import FilterQuery.Editing
import FilterQuery.Proofs.Plan
import Mathlib.Data.List.Perm.Subperm

/-!
# Reconciled ids

Reconciling reads the current tokens once and takes a twin out of the previous ones for each of
them. Sorted by what tokens look like, the previous tokens are queues, one for each look: a step
takes the front of one queue and leaves all others alone (`reconcile_cons`, `alike_withoutFirst`).
So of each look the j-th current token meets the j-th previous one (`alike_reconcile`). Tokens that
meet nobody are new, and they are the editing set (`reconciled_reconcile`).
-/

namespace FilterQuery

/-- What tokens are compared by: type, key, operator and value. -/
abbrev Look := TokenType × String × String × String

def lookOf (t : Token) : Look := (t.type, t.key, t.operator, t.value)

/-- The tokens of a look, in document order. -/
def alike (s : Look) (ts : List Token) : List Token := ts.filter fun t => lookOf t = s

/-- The token with the id of its twin, if it has one. -/
def Token.withIdOf (twin? : Option Token) (t : Token) : Token :=
  { t with id := (twin?.map (·.id)).getD t.id }

/-- What reconciling makes of the current tokens. -/
structure Reconciled (previous current after : List Token) : Prop where
  /-- The tokens stay in place, and nothing but their ids changes. -/
  eq_up_to_id : List.Forall₂ (fun t r => r = { t with id := r.id }) current after
  nodup_ids : (after.map (·.id)).Nodup
  /-- Of each look, the j-th token takes the id of the j-th previous one, if there is one. -/
  inherits : ∀ (s : Look) (j : Nat), (alike s after)[j]? =
    (alike s current)[j]?.map (Token.withIdOf (alike s previous)[j]?)
  /-- The tokens that count as edited are those that kept their own id. -/
  mem_editing : ∀ id, id ∈ editingIds previous after {} ↔
    ∃ p ∈ current.zip after, p.2.id = p.1.id ∧ p.2.id = id
  /-- Where no look occurs more often than before, nothing counts as edited. -/
  editing_eq_nil : (∀ s, (alike s current).length ≤ (alike s previous).length) →
    editingIds previous after {} = []
  /-- Tokens that look as those before have their ids. -/
  ids_eq : previous.map lookOf = current.map lookOf → after.map (·.id) = previous.map (·.id)

/-! ## A step -/

theorem sameStructure_iff {t u : Token} : sameStructure t u = true ↔ lookOf t = lookOf u := by
  simp [sameStructure, contentDiffers, lookOf, and_assoc]

theorem alike_cons (s : Look) (t : Token) (ts : List Token) :
    alike s (t :: ts) = if lookOf t = s then t :: alike s ts else alike s ts := by
  simp [alike, List.filter_cons]

/-- How often a look occurs. -/
theorem length_alike (s : Look) (ts : List Token) :
    (alike s ts).length = (ts.map lookOf).count s := by
  rw [List.count_eq_countP, List.countP_map, List.countP_eq_length_filter]
  exact congrArg List.length (List.filter_congr fun t _ => (beq_eq_decide _ _).symm)

/-- The tokens without the first one of a look. -/
def withoutFirst (s : Look) (ts : List Token) : List Token := ts.eraseP fun t => lookOf t = s

theorem withoutFirst_cons (s : Look) (t : Token) (ts : List Token) :
    withoutFirst s (t :: ts) = if lookOf t = s then ts else t :: withoutFirst s ts := by
  simp [withoutFirst, List.eraseP_cons]

/-- A twin is the first token of its look. -/
theorem takeTwin_eq (t : Token) (ts : List Token) :
    takeTwin t ts = (alike (lookOf t) ts).head?.map (·, withoutFirst (lookOf t) ts) := by
  induction ts with
  | nil => rfl
  | cons u us ih =>
    rw [takeTwin, ih, alike_cons, withoutFirst_cons]
    by_cases hlook : lookOf u = lookOf t
    · rw [if_pos (sameStructure_iff.mpr hlook), if_pos hlook, if_pos hlook]
      rfl
    · rw [if_neg (mt sameStructure_iff.mp hlook), if_neg hlook, if_neg hlook, Option.map_map]
      rfl

theorem withoutFirst_of_nil {s : Look} {ts : List Token} (h : alike s ts = []) :
    withoutFirst s ts = ts := by
  unfold alike at h
  rw [List.filter_eq_nil_iff] at h
  exact List.eraseP_of_forall_not h

/-- A step gives the id of the first twin and takes the twin away. -/
theorem reconcile_cons (previous : List Token) (t : Token) (ts : List Token) :
    reconcile previous (t :: ts) =
      t.withIdOf (alike (lookOf t) previous).head? ::
        reconcile (withoutFirst (lookOf t) previous) ts := by
  rw [reconcile, takeTwin_eq]
  cases hqueue : alike (lookOf t) previous with
  | nil =>
    rw [withoutFirst_of_nil hqueue]
    rfl
  | cons twin later => rfl

/-- The queue of the look loses its front, and all others stay as they are. -/
theorem alike_withoutFirst (s s' : Look) (ts : List Token) :
    alike s (withoutFirst s' ts) = if s' = s then (alike s ts).tail else alike s ts := by
  induction ts with
  | nil => simp [alike, withoutFirst]
  | cons t ts ih =>
    rw [withoutFirst_cons, alike_cons]
    by_cases hlook : lookOf t = s'
    · subst hlook
      rw [if_pos rfl]
      by_cases hs : lookOf t = s
      · rw [if_pos hs, if_pos hs, List.tail_cons]
      · rw [if_neg hs, if_neg hs]
    · rw [if_neg hlook, alike_cons, ih]
      by_cases hs : s' = s
      · subst hs
        rw [if_neg hlook, if_pos rfl, if_neg hlook, if_pos rfl]
      · rw [if_neg hs, if_neg hs]

/-- Nothing is lost but the front of the queue. -/
theorem perm_withoutFirst (s : Look) (ts : List Token) :
    ts.Perm ((alike s ts).head?.toList ++ withoutFirst s ts) := by
  induction ts with
  | nil => exact .nil
  | cons t ts ih =>
    rw [alike_cons, withoutFirst_cons]
    by_cases hlook : lookOf t = s
    · rw [if_pos hlook, if_pos hlook]
      rfl
    · rw [if_neg hlook, if_neg hlook]
      exact (ih.cons t).trans List.perm_middle.symm

/-! ## A run -/

theorem lookOf_withIdOf (twin? : Option Token) (t : Token) : lookOf (t.withIdOf twin?) = lookOf t :=
  rfl

/-- **Queues.** Of each look, the j-th current token gets the id of the j-th previous one. -/
theorem alike_reconcile (s : Look) (previous current : List Token) (j : Nat) :
    (alike s (reconcile previous current))[j]? =
      (alike s current)[j]?.map (Token.withIdOf (alike s previous)[j]?) := by
  induction current generalizing previous j with
  | nil => rfl
  | cons t ts ih =>
    have hlater := ih (withoutFirst (lookOf t) previous)
    simp only [alike_withoutFirst] at hlater
    rw [reconcile_cons, alike_cons, alike_cons, lookOf_withIdOf]
    by_cases hs : lookOf t = s
    · subst hs
      simp only [if_true] at hlater ⊢
      cases j with
      | zero => simp [List.head?_eq_getElem?]
      | succ j => simpa using hlater j
    · simp only [if_neg hs] at hlater ⊢
      exact hlater j

/-- How a reconciled token comes from the current one in its place. -/
def ComesFrom (previous : List Token) (t r : Token) : Prop :=
  r = t ∨ ∃ twin ∈ previous, lookOf twin = lookOf t ∧ r = { t with id := twin.id }

theorem comesFrom_reconcile (previous current : List Token) :
    List.Forall₂ (ComesFrom previous) current (reconcile previous current) := by
  induction current generalizing previous with
  | nil => exact .nil
  | cons t ts ih =>
    have hperm := perm_withoutFirst (lookOf t) previous
    rw [reconcile_cons]
    constructor
    · cases hqueue : alike (lookOf t) previous with
      | nil => exact Or.inl rfl
      | cons twin later =>
        have htwin : twin ∈ alike (lookOf t) previous := by simp [hqueue]
        obtain ⟨hmem, hlook⟩ := List.mem_filter.mp htwin
        exact Or.inr ⟨twin, hmem, by simpa using hlook, rfl⟩
    · refine (ih _).imp ?_
      rintro u r (rfl | ⟨twin, htwin, h⟩)
      · exact Or.inl rfl
      · exact Or.inr ⟨twin, hperm.mem_iff.mpr (List.mem_append_right _ htwin), h⟩

theorem ComesFrom.eq_up_to_id {previous : List Token} {t r : Token} (h : ComesFrom previous t r) :
    r = { t with id := r.id } := by
  rcases h with rfl | ⟨twin, -, -, rfl⟩
  · rfl
  · rfl

/-- Every reconciled token has its place among the current ones. -/
theorem exists_mem_zip_reconcile {previous current : List Token} {r : Token}
    (hr : r ∈ reconcile previous current) :
    ∃ t, (t, r) ∈ current.zip (reconcile previous current) := by
  have hlength := (comesFrom_reconcile previous current).length_eq
  rw [← List.map_snd_zip (Nat.le_of_eq hlength.symm)] at hr
  obtain ⟨⟨t, r'⟩, hp, rfl⟩ := List.mem_map.mp hr
  exact ⟨t, hp⟩

/-- The ids are those of previous and current tokens, none of them used twice. -/
theorem subperm_reconcile (previous current : List Token) :
    ((reconcile previous current).map (·.id)).Subperm
      (previous.map (·.id) ++ current.map (·.id)) := by
  induction current generalizing previous with
  | nil => exact List.nil_subperm
  | cons t ts ih =>
    have hlater := ih (withoutFirst (lookOf t) previous)
    have hperm := (perm_withoutFirst (lookOf t) previous).map (·.id)
    rw [reconcile_cons, List.map_cons, List.map_cons]
    cases hqueue : alike (lookOf t) previous with
    | nil =>
      rw [withoutFirst_of_nil hqueue] at hlater ⊢
      exact ((List.subperm_cons t.id).mpr hlater).trans List.perm_middle.symm.subperm
    | cons twin later =>
      rw [hqueue] at hperm
      have hunused : (twin.id :: ((withoutFirst (lookOf t) previous).map (·.id) ++
          ts.map (·.id))).Subperm (previous.map (·.id) ++ ts.map (·.id)) :=
        (hperm.symm.append_right _).subperm
      have hmore : (previous.map (·.id) ++ ts.map (·.id)).Subperm
          (previous.map (·.id) ++ t.id :: ts.map (·.id)) :=
        ((List.sublist_cons_self t.id _).append_left _).subperm
      exact (((List.subperm_cons twin.id).mpr hlater).trans hunused).trans hmore

/-! ## The editing set -/

theorem mem_editingIds {previous current : List Token} {id : String} :
    id ∈ editingIds previous current {} ↔
      ∃ t ∈ current, (isNew previous t || isModified previous t) = true ∧ t.id = id := by
  have htouched : ∀ t : Token, EditOptions.isTouched {} previous t =
      (isNew previous t || isModified previous t) := fun _ => Bool.true_and _
  simp only [editingIds, Bool.false_and, Bool.false_eq_true, if_false, List.mem_eraseDups,
    List.mem_filter, List.contains_iff_mem, List.not_mem_nil, Bool.or_eq_true, or_false,
    List.mem_map, htouched, TokenLike.id_token]
  constructor
  · rintro ⟨-, t, ⟨ht, h⟩, rfl⟩
    exact ⟨t, ht, h, rfl⟩
  · rintro ⟨t, ht, h, rfl⟩
    exact ⟨⟨t, ht, rfl⟩, t, ⟨ht, h⟩, rfl⟩

/-- After an undo or a redo nothing counts as edited that has no focus. -/
theorem editingIds_history (previous current : List Token) :
    editingIds previous current { isHistory := true } = [] := by
  simp [editingIds, EditOptions.isTouched]

theorem isNew_eq_false {previous : List Token} {u : Token} (h : u.id ∈ previous.map (·.id)) :
    isNew previous u = false := by
  unfold isNew
  simpa using h

/-- A token is unchanged if it looks as the only token of its id did. -/
theorem isModified_eq_false {previous : List Token} (hids : (previous.map (·.id)).Nodup)
    {t u : Token} (ht : t ∈ previous) (hid : t.id = u.id) (hlook : lookOf t = lookOf u) :
    isModified previous u = false := by
  have hfind : previous.reverse.find? (TokenLike.id · == t.id) = some t :=
    find?_reverse_of_unique ht fun v hv hvt => List.inj_on_of_nodup_map hids hv ht hvt
  have hsame := sameStructure_iff.mpr hlook
  rw [isModified, TokenLike.id_token, ← hid, hfind]
  simpa [sameStructure] using (Bool.and_eq_true_iff.mp hsame).2

/-- A token that has the id of a twin is neither new nor changed. -/
theorem touched_iff {previous : List Token} (hprevious : (previous.map (·.id)).Nodup)
    {t r : Token} (hfresh : t.id ∉ previous.map (·.id)) (h : ComesFrom previous t r) :
    (isNew previous r || isModified previous r) = true ↔ r.id = t.id := by
  rcases h with rfl | ⟨twin, htwin, hlook, rfl⟩
  · have hnew : isNew previous r = true := by simpa [isNew] using hfresh
    simp [hnew]
  · have hid : twin.id ∈ previous.map (·.id) := List.mem_map_of_mem htwin
    rw [isNew_eq_false (u := { t with id := twin.id }) hid,
      isModified_eq_false (u := { t with id := twin.id }) hprevious htwin rfl hlook]
    constructor
    · intro h
      cases h
    · intro heq
      exact absurd (heq ▸ hid) hfresh

/-- Where a look occurs no more often than before, all its tokens have twins. -/
theorem id_mem_of_length_le {s : Look} {previous current : List Token} {r : Token}
    (hr : r ∈ alike s (reconcile previous current))
    (hle : (alike s current).length ≤ (alike s previous).length) :
    r.id ∈ previous.map (·.id) := by
  obtain ⟨j, hj⟩ := List.mem_iff_getElem?.mp hr
  rw [alike_reconcile, Option.map_eq_some_iff] at hj
  obtain ⟨t, ht, rfl⟩ := hj
  obtain ⟨hlt, -⟩ := List.getElem?_eq_some_iff.mp ht
  have hlt := Nat.lt_of_lt_of_le hlt hle
  rw [List.getElem?_eq_getElem hlt]
  show (alike s previous)[j].id ∈ previous.map (·.id)
  exact List.mem_map_of_mem (List.mem_of_mem_filter (List.getElem_mem hlt))

theorem ids_reconcile_of_map_lookOf_eq {previous current : List Token}
    (h : previous.map lookOf = current.map lookOf) :
    (reconcile previous current).map (·.id) = previous.map (·.id) := by
  induction current generalizing previous with
  | nil =>
    rw [List.map_eq_nil_iff.mp h]
    rfl
  | cons t ts ih =>
    obtain ⟨u, us, rfl, hlook, hlooks⟩ := List.map_eq_cons_iff.mp h
    rw [reconcile_cons, alike_cons, withoutFirst_cons, if_pos hlook, if_pos hlook, List.map_cons,
      ih hlooks]
    rfl

section

variable {previous current : List Token} (hprevious : (previous.map (·.id)).Nodup)
  (hdisjoint : (previous.map (·.id)).Disjoint (current.map (·.id)))
include hprevious hdisjoint

theorem nodup_reconcile (hcurrent : (current.map (·.id)).Nodup) :
    ((reconcile previous current).map (·.id)).Nodup := by
  have hall : (previous.map (·.id) ++ current.map (·.id)).Nodup :=
    hprevious.append hcurrent hdisjoint
  obtain ⟨ids, hperm, hsublist⟩ := subperm_reconcile previous current
  exact hperm.nodup_iff.mp (hall.sublist hsublist)

/-- The tokens that count as edited are those that kept their own id. -/
theorem mem_editingIds_reconcile {id : String} :
    id ∈ editingIds previous (reconcile previous current) {} ↔
      ∃ p ∈ current.zip (reconcile previous current), p.2.id = p.1.id ∧ p.2.id = id := by
  have htouched : ∀ t r, (t, r) ∈ current.zip (reconcile previous current) →
      ((isNew previous r || isModified previous r) = true ↔ r.id = t.id) := by
    intro t r hp
    have hfresh : t.id ∉ previous.map (·.id) :=
      fun hmem => hdisjoint hmem (List.mem_map_of_mem (List.of_mem_zip hp).1)
    exact touched_iff hprevious hfresh
      (List.forall₂_zip (comesFrom_reconcile previous current) hp)
  rw [mem_editingIds]
  constructor
  · rintro ⟨r, hr, h, rfl⟩
    obtain ⟨t, hp⟩ := exists_mem_zip_reconcile hr
    exact ⟨(t, r), hp, (htouched t r hp).mp h, rfl⟩
  · rintro ⟨⟨t, r⟩, hp, hkept, rfl⟩
    exact ⟨r, (List.of_mem_zip hp).2, (htouched t r hp).mpr hkept, rfl⟩

/-- Where no look occurs more often than before, nothing counts as edited. -/
theorem editingIds_reconcile_eq_nil
    (hle : ∀ s, (alike s current).length ≤ (alike s previous).length) :
    editingIds previous (reconcile previous current) {} = [] := by
  rw [List.eq_nil_iff_forall_not_mem]
  intro id hid
  obtain ⟨⟨t, r⟩, hp, hkept, -⟩ := (mem_editingIds_reconcile hprevious hdisjoint).mp hid
  obtain ⟨ht, hr⟩ := List.of_mem_zip hp
  have hlook : r ∈ alike (lookOf r) (reconcile previous current) :=
    List.mem_filter.mpr ⟨hr, by simp⟩
  have htwin := id_mem_of_length_le hlook (hle _)
  rw [hkept] at htwin
  exact hdisjoint htwin (List.mem_map_of_mem ht)

end

/-- **Reconciling finds the difference of two readings.** Tokens of two readings are matched look
by look, in document order; those of the second reading that are left over keep their own id, and
just they count as edited. -/
theorem reconciled_reconcile (previous current : List Token)
    (hprevious : (previous.map (·.id)).Nodup) (hcurrent : (current.map (·.id)).Nodup)
    (hdisjoint : (previous.map (·.id)).Disjoint (current.map (·.id))) :
    Reconciled previous current (reconcile previous current) where
  eq_up_to_id := (comesFrom_reconcile previous current).imp fun _ _ h => h.eq_up_to_id
  nodup_ids := nodup_reconcile hprevious hdisjoint hcurrent
  inherits := fun s j => alike_reconcile s previous current j
  mem_editing := fun _ => mem_editingIds_reconcile hprevious hdisjoint
  editing_eq_nil := editingIds_reconcile_eq_nil hprevious hdisjoint
  ids_eq := ids_reconcile_of_map_lookOf_eq

/-- Three tokens look the same where there were two: the first two of them are matched, although
they have moved, and the third one counts as edited, as does the one that is new. -/
theorem reconciled_reconcile_moved :
    let token (id key value : String) : Token :=
      { id, type := .filter, key, operator := "is", value }
    let previous := [token "p0" "status" "open", token "p1" "status" "open",
      token "p2" "owner" "me"]
    let current := [token "c0" "owner" "me", token "c1" "status" "open", token "c2" "status" "late",
      token "c3" "status" "open", token "c4" "status" "open"]
    (previous.map (·.id)).Nodup ∧ (current.map (·.id)).Nodup ∧
      (previous.map (·.id)).Disjoint (current.map (·.id)) ∧
      (reconcile previous current).map (·.id) = ["p2", "p0", "c2", "p1", "c4"] ∧
      editingIds previous (reconcile previous current) {} = ["c2", "c4"] ∧
      Reconciled previous current (reconcile previous current) := by
  intro token previous current
  have hprevious : (previous.map (·.id)).Nodup := by decide
  have hcurrent : (current.map (·.id)).Nodup := by decide
  have hdisjoint : (previous.map (·.id)).Disjoint (current.map (·.id)) :=
    List.disjoint_left.mpr (by decide)
  have hids : (reconcile previous current).map (·.id) = ["p2", "p0", "c2", "p1", "c4"] := by
    decide +kernel
  have hediting : editingIds previous (reconcile previous current) {} = ["c2", "c4"] := by
    decide +kernel
  exact ⟨hprevious, hcurrent, hdisjoint, hids, hediting,
    reconciled_reconcile previous current hprevious hcurrent hdisjoint⟩

end FilterQuery
