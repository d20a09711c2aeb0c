import Mathlib.Data.List.Find
import FilterQuery.Proofs.Options

/-!
# Values behind labels

A look-up takes the first option that the text names, be it by value or by label. So the value of an
option may be the label of another one that stands before it, and then it stands for the value of
that one: it is *hidden*. If all values are different, labels are the only thing that a value can
meet on its way to its own option (`find?_isNamed_value`). Hence it stands for itself just if it is
not hidden, and a second look-up changes nothing just where the first one does not lead to a hidden
value (`resolves_unless_hidden`). In `resolveEnum_hidden` both go wrong.
-/

namespace FilterQuery

/-- Whether a text is the label of an option, as far as a comparison tells. -/
def EnumValue.isLabelled (fold : String → String) (text : String) (v : EnumValue) : Bool :=
  fold text == fold v.label

/-- An option before this one has its value for a label. -/
def EnumValue.IsHidden (fold : String → String) (options : List EnumValue) (o : EnumValue) : Prop :=
  ∃ front back, options = front ++ o :: back ∧ ∃ u ∈ front, u.isLabelled fold o.value = true

section

variable {r : Option Resolver} {fold : String → String} {options front back : List EnumValue}
  {o : EnumValue} (hdistinct : (options.map fun o => fold o.value).Nodup)
  (hoptions : options = front ++ o :: back)
include hdistinct hoptions

/-- No option before this one has its value, not even as far as the comparison tells. -/
theorem EnumValue.fold_value_ne {u : EnumValue} (hu : u ∈ front) : fold u.value ≠ fold o.value := by
  rw [hoptions, List.map_append, List.nodup_append] at hdistinct
  exact hdistinct.2.2 _ (List.mem_map_of_mem hu) _ List.mem_cons_self

theorem EnumValue.find?_isNamed_value :
    options.find? (·.isNamed fold o.value) =
      (front.find? (·.isLabelled fold o.value)).or (some o) := by
  have hfront : front.find? (·.isNamed fold o.value) =
      front.find? (·.isLabelled fold o.value) := by
    refine List.find?_congr fun u hu => ?_
    have hvalue : (fold o.value == fold u.value) = false :=
      beq_false_of_ne (fold_value_ne hdistinct hoptions hu).symm
    unfold isNamed isLabelled
    rw [hvalue, Bool.false_or]
  rw [hoptions, List.find?_append, hfront, List.find?_cons_of_pos (o.isNamed_value fold)]

/-- A value stands for itself just if no label before it is the same. -/
theorem resolveEnum_value_iff (hfold : Resolver.fold? r = some fold) (hvalue : o.value ≠ "") :
    resolveEnum options (.str o.value) r = .ok (.str o.value) ↔
      ∀ u ∈ front, ¬u.isLabelled fold o.value = true := by
  rw [resolveEnum_eq hfold hvalue, EnumValue.find?_isNamed_value hdistinct hoptions]
  cases hfind : front.find? (·.isLabelled fold o.value) with
  | none =>
    show Except.ok (Value.str o.value) = _ ↔ _
    exact iff_of_true rfl (List.find?_eq_none.mp hfind)
  | some u =>
    have hu : u ∈ front := List.mem_of_find?_eq_some hfind
    show Except.ok (Value.str u.value) = _ ↔ _
    refine iff_of_false (fun h => ?_) fun h => h u hu (List.find?_some hfind)
    have hsame : u.value = o.value := Value.str.inj (Except.ok.inj h)
    exact EnumValue.fold_value_ne hdistinct hoptions hu (congrArg fold hsame)

end

/-- **What a value stands for.** Let the options of a field have values of which none is empty and
which a built-in resolver can tell apart, and any labels. The value of an option stands for itself,
unless it is hidden by a label before it. Every text stands for some text, and that one for itself,
unless it is a hidden value. -/
theorem resolves_unless_hidden {r : Option Resolver} {fold : String → String}
    (hfold : Resolver.fold? r = some fold) {options : List EnumValue}
    (hne : ∀ o ∈ options, o.value ≠ "") (hdistinct : (options.map fun o => fold o.value).Nodup) :
    (∀ o ∈ options, resolveEnum options (.str o.value) r = .ok (.str o.value) ↔
        ¬o.IsHidden fold options) ∧
      ∀ text, ∃ found, resolveEnum options (.str text) r = .ok (.str found) ∧
        (resolveEnum options (.str found) r = .ok (.str found) ↔
          ∀ o ∈ options, o.value = found → ¬o.IsHidden fold options) := by
  have hvalue : ∀ o ∈ options, resolveEnum options (.str o.value) r = .ok (.str o.value) ↔
      ¬o.IsHidden fold options := by
    intro o ho
    constructor
    · rintro hself ⟨front, back, hoptions, u, hu, hlabel⟩
      exact (resolveEnum_value_iff hdistinct hoptions hfold (hne o ho)).mp hself u hu hlabel
    · intro hhidden
      obtain ⟨front, back, hoptions⟩ := List.append_of_mem ho
      refine (resolveEnum_value_iff hdistinct hoptions hfold (hne o ho)).mpr fun u hu hlabel => ?_
      exact hhidden ⟨front, back, hoptions, u, hu, hlabel⟩
  refine ⟨hvalue, fun text => ?_⟩
  by_cases hempty : text = ""
  · -- the empty text is not looked up, and it is no value
    refine ⟨"", by rw [hempty]; rfl, iff_of_true rfl fun o ho hfound => absurd hfound (hne o ho)⟩
  refine ⟨_, resolveEnum_eq hfold hempty options, ?_⟩
  cases hfind : options.find? (·.isNamed fold text) with
  | none =>
    show resolveEnum options (.str text) r = .ok (.str text) ↔ ∀ o ∈ options, o.value = text → _
    refine iff_of_true ?_ ?_
    · rw [resolveEnum_eq hfold hempty, hfind]
      rfl
    · -- a value names its own option
      rintro o ho rfl
      exact absurd (o.isNamed_value fold) (List.find?_eq_none.mp hfind o ho)
  | some o =>
    have ho : o ∈ options := List.mem_of_find?_eq_some hfind
    show resolveEnum options (.str o.value) r = .ok (.str o.value) ↔ _
    rw [hvalue o ho]
    constructor
    · intro hhidden u hu hfound
      have hsame : u = o := List.inj_on_of_nodup_map hdistinct hu ho (congrArg fold hfound)
      rwa [hsame]
    · exact fun h => h o ho rfl

/-- A label that differs from a later value in case only hides it where case is ignored. -/
theorem resolves_unless_hidden_case :
    let b : EnumValue := .labelled { value := "b", label := "A" }
    let options : List EnumValue := [.labelled { value := "x", label := "B" }, b, .bare "c"]
    (∀ o ∈ options, o.value ≠ "") ∧ (options.map fun o => Text.lower o.value).Nodup ∧
      (options.map fun o => o.value).Nodup ∧
      resolveEnum options (.str "b") none ≠ .ok (.str "b") ∧
      resolveEnum options (.str "b") (some .exact) = .ok (.str "b") := by
  intro b options
  have hne : ∀ o ∈ options, o.value ≠ "" := by decide
  have hlower : (options.map fun o => Text.lower o.value).Nodup := by decide +kernel
  have hexact : (options.map fun o => o.value).Nodup := by decide
  have hmem : b ∈ options := by simp [options]
  refine ⟨hne, hlower, hexact, fun hself => ?_, ?_⟩
  · have hhidden : b.IsHidden Text.lower options :=
      ⟨[.labelled { value := "x", label := "B" }], [.bare "c"], rfl, _, List.mem_singleton.mpr rfl,
        by decide +kernel⟩
    exact ((resolves_unless_hidden (r := none) rfl hne hlower).1 b hmem).mp hself hhidden
  · refine ((resolves_unless_hidden (r := some .exact) rfl hne hexact).1 b hmem).mpr ?_
    rintro ⟨front, back, hoptions, u, hu, hlabel⟩
    have hnone : ∀ u ∈ options, ¬u.isLabelled id b.value = true := by decide
    exact hnone u (hoptions ▸ List.mem_append_left _ hu) hlabel

/-- With different values, a value need not stand for itself, and a second look-up may change what
the first one gave. -/
theorem resolveEnum_hidden :
    let options : List EnumValue :=
      [.labelled { value := "a", label := "b" }, .labelled { value := "b", label := "c" }]
    (∀ o ∈ options, o.value ≠ "") ∧ (options.map fun o => Text.lower o.value).Nodup ∧
      (options.map fun o => o.value).Nodup ∧
      ∀ r ∈ [none, some Resolver.caseInsensitive, some Resolver.exact],
        resolveEnum options (.str "c") r = .ok (.str "b") ∧
          resolveEnum options (.str "b") r = .ok (.str "a") := by
  intro options
  refine ⟨by decide, by decide +kernel, by decide, ?_⟩
  simp only [List.forall_mem_cons, List.not_mem_nil, false_implies, implies_true, and_true]
  decide +kernel

end FilterQuery
