import FilterQuery.Proofs.Presets
import FilterQuery.Query.Parse

/-!
# Classes of duplicates

Groups of duplicates are the classes of tokens with one signature (`classes_groups`). A signature
writes the parts that a constraint compares one after the other, with colons between them, and a
part may hold colons itself. Tokens with equal parts are always in one group; tokens with other
parts get into it where a colon inside a part is taken for one between two parts
(`classes_groups_iff`). Where no part but the last holds a colon that cannot happen
(`equates_of_merges`), and so never under a constraint that compares keys alone.
-/

namespace FilterQuery

/-! ## Classes -/

/-- The classes of a relation among some elements. -/
structure Classes {α : Type} (R : α → α → Prop) (xs : List α) (classes : List (List α)) :
    Prop where
  /-- The classes hold each element as often as it occurs. -/
  perm : classes.flatten.Perm xs
  disjoint : classes.Pairwise List.Disjoint
  nonempty : ∀ cl ∈ classes, cl ≠ []
  /-- Members are in the order of the elements. -/
  ordered : ∀ cl ∈ classes, cl.Sublist xs
  /-- Classes are in the order of their first members. -/
  heads : (classes.filterMap List.head?).Sublist xs
  /-- The class of an element holds all that is related to it. -/
  related : ∀ cl ∈ classes, ∀ x ∈ cl, ∀ y ∈ xs, y ∈ cl ↔ R x y

namespace Classes

variable {α : Type} {R S : α → α → Prop} {xs : List α} {classes : List (List α)}

theorem exists_mem (h : Classes R xs classes) {x : α} (hx : x ∈ xs) : ∃ cl ∈ classes, x ∈ cl := by
  have hflat := h.perm.mem_iff.mpr hx
  rw [List.mem_flatten] at hflat
  exact hflat

/-- Related elements are those that share a class. -/
theorem relates_iff (h : Classes R xs classes) {x y : α} (hx : x ∈ xs) (hy : y ∈ xs) :
    R x y ↔ ∃ cl ∈ classes, x ∈ cl ∧ y ∈ cl := by
  constructor
  · intro hxy
    obtain ⟨cl, hcl, hmem⟩ := h.exists_mem hx
    exact ⟨cl, hcl, hmem, (h.related cl hcl x hmem y hy).mpr hxy⟩
  · rintro ⟨cl, hcl, hmem, hmem'⟩
    exact (h.related cl hcl x hmem y hy).mp hmem'

/-- Classes belong to one relation among their elements. -/
theorem congr_iff (h : Classes R xs classes) :
    Classes S xs classes ↔ ∀ x ∈ xs, ∀ y ∈ xs, R x y ↔ S x y := by
  constructor
  · intro hS x hx y hy
    rw [h.relates_iff hx hy, hS.relates_iff hx hy]
  · intro hRS
    refine { h with related := ?_ }
    intro cl hcl x hx y hy
    rw [h.related cl hcl x hx y hy, hRS x ((h.ordered cl hcl).subset hx) y hy]

end Classes

namespace Unique

section

variable {τ : Type} [TokenLike τ]

/-! ## One sweep -/

/-- A token is put into the groups, and nothing else comes or goes. -/
theorem insert_perm (s : String) (t : τ) (gs : List (Group τ)) :
    ((insert s t gs).map (·.tokens)).flatten.Perm ((gs.map (·.tokens)).flatten ++ [t]) := by
  induction gs with
  | nil => exact List.Perm.refl _
  | cons g gs ih =>
    unfold insert
    split
    · show (g.tokens ++ [t] ++ (gs.map (·.tokens)).flatten).Perm
        (g.tokens ++ (gs.map (·.tokens)).flatten ++ [t])
      rw [List.append_assoc, List.append_assoc]
      exact List.perm_append_comm.append_left _
    · show (g.tokens ++ ((insert s t gs).map (·.tokens)).flatten).Perm
        (g.tokens ++ (gs.map (·.tokens)).flatten ++ [t])
      rw [List.append_assoc]
      exact ih.append_left _

/-- A token becomes a first member at the end or not at all. -/
theorem heads_insert (s : String) (t : τ) {gs : List (Group τ)} (h : ∀ g ∈ gs, g.tokens ≠ []) :
    ((insert s t gs).filterMap (·.tokens.head?)).Sublist
      (gs.filterMap (·.tokens.head?) ++ [t]) := by
  induction gs with
  | nil => exact List.Sublist.refl _
  | cons g gs ih =>
    obtain ⟨first, rest, hg⟩ := List.exists_cons_of_ne_nil (h g List.mem_cons_self)
    have hhead : g.tokens.head? = some first := by rw [hg]; rfl
    unfold insert
    split
    · have hgrown : (g.tokens ++ [t]).head? = some first := by rw [hg]; rfl
      simp only [List.filterMap_cons, hhead, hgrown]
      exact (List.sublist_append_left _ _).cons_cons first
    · simp only [List.filterMap_cons, hhead]
      exact (ih fun g hg => h g (List.mem_cons_of_mem _ hg)).cons_cons first

theorem nonempty_of_mem_groups {c : Constraint} {tokens : List τ} {g : Group τ}
    (hg : g ∈ groups c tokens) : g.tokens ≠ [] := by
  obtain ⟨t, ht, rfl⟩ := mem_groups_iff.mp hg
  exact List.ne_nil_of_mem (a := t) (List.mem_filter.mpr ⟨ht, by simp⟩)

/-- The groups are the classes of tokens with one signature. -/
theorem classes_groups (c : Constraint) (tokens : List τ) :
    Classes (fun t u => signature c t = signature c u) tokens
      ((groups c tokens).map (·.tokens)) where
  perm := by
    induction tokens using List.reverseRecOn with
    | nil => exact List.Perm.refl _
    | append_singleton tokens t ih =>
      rw [groups_concat]
      exact (insert_perm _ t _).trans (ih.append_right [t])
  disjoint := by
    rw [groups_eq, List.map_map, List.pairwise_map]
    refine (nodup_eraseDups _).imp ?_
    intro s s' hne t ht ht'
    have hs : signature c t = s := by simpa using (List.mem_filter.mp ht).2
    have hs' : signature c t = s' := by simpa using (List.mem_filter.mp ht').2
    exact hne (hs.symm.trans hs')
  nonempty := by
    intro cl hcl
    obtain ⟨g, hg, rfl⟩ := List.mem_map.mp hcl
    exact nonempty_of_mem_groups hg
  ordered := by
    intro cl hcl
    obtain ⟨g, hg, rfl⟩ := List.mem_map.mp hcl
    obtain ⟨t, -, rfl⟩ := mem_groups_iff.mp hg
    exact List.filter_sublist
  heads := by
    rw [List.filterMap_map]
    induction tokens using List.reverseRecOn with
    | nil => exact List.Sublist.refl _
    | append_singleton tokens t ih =>
      rw [groups_concat]
      exact (heads_insert _ t fun _ hg => nonempty_of_mem_groups hg).trans
        (ih.append_right [t])
  related := by
    intro cl hcl t ht u hu
    obtain ⟨g, hg, rfl⟩ := List.mem_map.mp hcl
    obtain ⟨first, -, rfl⟩ := mem_groups_iff.mp hg
    obtain ⟨-, hs⟩ := List.mem_filter.mp ht
    rw [decide_eq_true_eq] at hs
    show u ∈ List.filter _ tokens ↔ _
    rw [List.mem_filter, decide_eq_true_eq, ← hs]
    exact ⟨fun h => h.2.symm, fun h => ⟨hu, h.symm⟩⟩

end

/-! ## Parts -/

/-- What a constraint compares of a token; of free text that is the value or nothing. -/
def parts (c : Constraint) (t : Token) : List String :=
  match t.type, c with
  | .freeText, .exact => [t.value]
  | .freeText, _ => []
  | _, .key => [t.key]
  | _, .keyOperator => [t.key, t.operator]
  | _, _ => [t.key, t.operator, t.value]

/-- Duplicates: tokens of one type with the same parts. -/
def Equates (c : Constraint) (t u : Token) : Prop := t.type = u.type ∧ parts c t = parts c u

/-- Tokens of one type with parts that read the same with colons between them. -/
def Merges (c : Constraint) (t u : Token) : Prop :=
  t.type = u.type ∧ ":".intercalate (parts c t) = ":".intercalate (parts c u)

theorem Equates.merges {c : Constraint} {t u : Token} (h : Equates c t u) : Merges c t u :=
  ⟨h.1, by rw [h.2]⟩

theorem signature_freeText {t : Token} (h : t.type = .freeText) (c : Constraint) :
    signature c t = "freetext:" ++ ":".intercalate (parts c t) := by
  have hfree : t.isFreeText = true := by simp [Token.isFreeText, h]
  unfold signature parts
  rw [TokenLike.isFreeText_token, hfree, h]
  cases c <;> simp [Value.text]

theorem signature_filter {t : Token} (h : t.type = .filter) (c : Constraint) :
    signature c t = "filter:" ++ ":".intercalate (parts c t) := by
  have hfree : t.isFreeText = false := by simp [Token.isFreeText, h]
  unfold signature parts
  rw [TokenLike.isFreeText_token, hfree, h]
  cases c <;> simp [Value.text, String.append_assoc]

theorem freeText_ne_filter (a b : String) : "freetext:" ++ a ≠ "filter:" ++ b := by
  intro h
  have hchars := congrArg String.toList h
  simp at hchars

/-- Tokens share a signature if their parts read the same. -/
theorem signature_eq_iff {c : Constraint} {t u : Token} (ht : t.isPlaintext = false)
    (hu : u.isPlaintext = false) : signature c t = signature c u ↔ Merges c t u := by
  unfold Merges
  cases htype : t.type <;> cases hutype : u.type
  case plaintext.filter | plaintext.freeText | plaintext.plaintext =>
    simp [Token.isPlaintext, htype] at ht
  case filter.plaintext | freeText.plaintext =>
    simp [Token.isPlaintext, hutype] at hu
  case filter.filter =>
    rw [signature_filter htype, signature_filter hutype, String.append_right_inj]
    simp
  case freeText.freeText =>
    rw [signature_freeText htype, signature_freeText hutype, String.append_right_inj]
    simp
  case filter.freeText =>
    rw [signature_filter htype, signature_freeText hutype]
    simp [(freeText_ne_filter _ _).symm]
  case freeText.filter =>
    rw [signature_freeText htype, signature_filter hutype]
    simp [freeText_ne_filter]

/-! ## Colons -/

/-- The first colon of a text tells what stands before it. -/
theorem eq_of_append_colon {as bs cs ds : List Char} (has : ':' ∉ as) (hcs : ':' ∉ cs)
    (h : as ++ ':' :: bs = cs ++ ':' :: ds) : as = cs ∧ bs = ds := by
  induction as generalizing cs with
  | nil =>
    cases cs with
    | nil => exact ⟨rfl, (List.cons.inj h).2⟩
    | cons c cs =>
      obtain ⟨rfl, -⟩ := List.cons.inj h
      exact absurd List.mem_cons_self hcs
  | cons a as ih =>
    cases cs with
    | nil =>
      obtain ⟨rfl, -⟩ := List.cons.inj h
      exact absurd List.mem_cons_self has
    | cons c cs =>
      obtain ⟨rfl, hrest⟩ := List.cons.inj h
      obtain ⟨rfl, rfl⟩ := ih (fun hmem => has (List.mem_cons_of_mem _ hmem))
        (fun hmem => hcs (List.mem_cons_of_mem _ hmem)) hrest
      exact ⟨rfl, rfl⟩

/-- Parts with colons between them can be told apart if none but the last holds a colon itself. -/
theorem eq_of_intercalate_colon {xs ys : List String} (hlength : xs.length = ys.length)
    (hxs : ∀ x ∈ xs.dropLast, ':' ∉ x.toList) (hys : ∀ y ∈ ys.dropLast, ':' ∉ y.toList)
    (h : ":".intercalate xs = ":".intercalate ys) : xs = ys := by
  induction xs generalizing ys with
  | nil => exact (List.eq_nil_of_length_eq_zero hlength.symm).symm
  | cons x xs ih =>
    obtain ⟨y, ys, rfl⟩ := List.exists_cons_of_length_eq_add_one hlength.symm
    cases xs with
    | nil =>
      obtain rfl := List.eq_nil_of_length_eq_zero (Nat.succ.inj hlength).symm
      simpa using h
    | cons x' xs =>
      obtain ⟨y', ys, rfl⟩ := List.exists_cons_of_length_eq_add_one (Nat.succ.inj hlength).symm
      rw [List.dropLast_cons_cons] at hxs hys
      rw [String.intercalate_cons_cons, String.intercalate_cons_cons] at h
      have hchars := congrArg String.toList h
      simp only [String.toList_append, List.append_assoc] at hchars
      obtain ⟨hfirst, hrest⟩ := eq_of_append_colon (hxs x List.mem_cons_self)
        (hys y List.mem_cons_self) hchars
      rw [String.toList_inj.mp hfirst,
        ih (Nat.succ.inj hlength) (fun z hz => hxs z (List.mem_cons_of_mem _ hz))
          (fun z hz => hys z (List.mem_cons_of_mem _ hz)) (String.toList_inj.mp hrest)]

theorem length_parts {c : Constraint} {t u : Token} (h : t.type = u.type) :
    (parts c t).length = (parts c u).length := by
  unfold parts
  rw [h]
  cases u.type <;> cases c <;> rfl

/-- Tokens whose parts read the same are duplicates, if no part but the last holds a colon. -/
theorem equates_of_merges {c : Constraint} {t u : Token}
    (ht : ∀ part ∈ (parts c t).dropLast, ':' ∉ part.toList)
    (hu : ∀ part ∈ (parts c u).dropLast, ':' ∉ part.toList) (h : Merges c t u) :
    Equates c t u :=
  ⟨h.1, eq_of_intercalate_colon (length_parts h.1) ht hu h.2⟩

/-! ## Groups -/

/-- **Groups are the classes of duplicates, but for colons.** Among filters and free text the groups
are the classes of tokens whose parts read the same: each token is in one group, groups are in the
order of their first members and members in document order. So duplicates are never separated. The
groups are the classes of duplicates just if no two tokens read the same with other parts, and so
wherever no part is followed by another one and holds a colon. -/
theorem classes_groups_iff (c : Constraint) (tokens : List Token)
    (hplain : ∀ t ∈ tokens, t.isPlaintext = false) :
    let classes := (groups c tokens).map (·.tokens)
    Classes (Merges c) tokens classes ∧
      (∀ t ∈ tokens, ∀ u ∈ tokens, Equates c t u → ∃ cl ∈ classes, t ∈ cl ∧ u ∈ cl) ∧
      (Classes (Equates c) tokens classes ↔
        ∀ t ∈ tokens, ∀ u ∈ tokens, Merges c t u → Equates c t u) ∧
      ((∀ t ∈ tokens, ∀ part ∈ (parts c t).dropLast, ':' ∉ part.toList) →
        Classes (Equates c) tokens classes) := by
  intro classes
  have hmerges : Classes (Merges c) tokens classes :=
    (classes_groups c tokens).congr_iff.mpr fun t ht u hu =>
      signature_eq_iff (hplain t ht) (hplain u hu)
  have hiff : Classes (Equates c) tokens classes ↔
      ∀ t ∈ tokens, ∀ u ∈ tokens, Merges c t u → Equates c t u := by
    rw [hmerges.congr_iff]
    constructor
    · intro h t ht u hu
      exact (h t ht u hu).mp
    · intro h t ht u hu
      exact ⟨h t ht u hu, Equates.merges⟩
  refine ⟨hmerges, ?_, hiff, ?_⟩
  · intro t ht u hu hequates
    exact (hmerges.relates_iff ht hu).mp hequates.merges
  · intro hcolon
    exact hiff.mpr fun t ht u hu => equates_of_merges (hcolon t ht) (hcolon u hu)

/-- Colons in values do no harm: the third filter is a duplicate of the first one only. -/
theorem classes_groups_iff_values :
    let filter (id value : String) : Token :=
      { id, type := .filter, key := "at", operator := "is", value }
    let tokens := [filter "a" "9:30", filter "b" "9", filter "c" "9:30",
      { id := "d", type := .freeText, value := "at:is:9" }]
    let classes := (groups .exact tokens).map (·.tokens)
    (∀ t ∈ tokens, t.isPlaintext = false) ∧
      classes.map (·.map (·.id)) = [["a", "c"], ["b"], ["d"]] ∧
      Classes (Merges .exact) tokens classes ∧
      (∀ t ∈ tokens, ∀ u ∈ tokens, Equates .exact t u → ∃ cl ∈ classes, t ∈ cl ∧ u ∈ cl) ∧
      Classes (Equates .exact) tokens classes := by
  intro filter tokens classes
  have hplain : ∀ t ∈ tokens, t.isPlaintext = false := by decide
  obtain ⟨hmerges, htogether, -, hcolon⟩ := classes_groups_iff .exact tokens hplain
  exact ⟨hplain, by decide +kernel, hmerges, htogether, hcolon (by decide)⟩

/-- A colon inside a key is taken for one between two parts: filters that agree neither in their
keys nor in their values are one group, and the second one is marked as a duplicate. -/
theorem groups_merged :
    let field (key : String) : Field := { key, label := key, operators := ["is"] }
    let fields := [field "repo", field "repo:is"]
    let ids (n : Nat) : String := String.ofList (List.replicate n 'g')
    let token (n : Nat) (key value : String) : Token :=
      { id := ids n, type := .filter, key, operator := "is", value, rawValue := value
        pos := .int n }
    let tokens := [token 0 "repo" "is:private", token 1 "repo:is" "private"]
    let r : Rule Token := ruleBy .exact .mark .null
    Query.parse fields { delimiter := "=" } ids "repo=is:private repo:is=private" =
        .ok ⟨tokens, none⟩ ∧
      (groups .exact tokens).map (·.tokens) = [tokens] ∧
      (validateTokens tokens fields [r] [] false).plan.marked = [ids 1] ∧
      ¬Equates .exact (token 0 "repo" "is:private") (token 1 "repo:is" "private") ∧
      ¬Classes (Equates .exact) tokens ((groups .exact tokens).map (·.tokens)) := by
  intro field fields ids token tokens r
  have hgroups : (groups .exact tokens).map (·.tokens) = [tokens] := by decide +kernel
  have hapart : ¬Equates .exact (token 0 "repo" "is:private") (token 1 "repo:is" "private") := by
    rintro ⟨-, hparts⟩
    revert hparts
    decide
  refine ⟨by decide +kernel, hgroups, ?_, hapart, ?_⟩
  · simp only [validateTokens, Validation.run_singleton]
    decide +kernel
  · intro hclasses
    rw [hgroups] at hclasses
    exact hapart ((hclasses.related tokens (by simp) _ (by simp [tokens]) _ (by simp [tokens])).mp
      (by simp [tokens]))

end Unique

end FilterQuery
