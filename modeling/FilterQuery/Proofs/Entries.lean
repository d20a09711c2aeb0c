import Mathlib.Data.List.Forall2
import FilterQuery.Value

/-!
# What entries give

Tables are read entry by entry. `Given` is what an entry gives to whoever looks for it by its key:
what its value stands for, or a default if there is no such entry. A row of readings gives one
result for each item, or fails as the first of them does that fails (`mapM_eq_ok_iff`,
`exists_first_error`).
-/

namespace FilterQuery

/-! ## Entries -/

section

variable {α : Type}

/-- A value that is written in one way. -/
def Is (write : α → Value) (v : Value) (a : α) : Prop := v = write a

/-- One of some texts. -/
def OneOf (names : List String) (v : Value) (name : String) : Prop := name ∈ names ∧ v = .str name

/-- The name of something that has names. -/
def NamedBy (ofName? : String → Option α) (v : Value) (a : α) : Prop :=
  ∃ name, v = .str name ∧ ofName? name = some a

/-- A value that stands for something, or null for nothing. -/
inductive OrNull (Stands : Value → α → Prop) : Value → Option α → Prop
  | null : OrNull Stands .null none
  | value {v : Value} {a : α} (h : Stands v a) : OrNull Stands v (some a)

/-- What an entry gives: what its value stands for, and `absent` if it is not there. -/
def Given (absent : α) (Stands : Value → α → Prop) : Option Value → α → Prop
  | none, a => a = absent
  | some v, a => Stands v a

variable {absent : α} {Stands : Value → α → Prop} {v : Value} {entry : Option Value}

@[simp] theorem is_iff {write : α → Value} {a : α} : Is write v a ↔ v = write a := Iff.rfl

@[simp] theorem given_none {a : α} : Given absent Stands none a ↔ a = absent := Iff.rfl

@[simp] theorem given_some {a : α} : Given absent Stands (some v) a ↔ Stands v a := Iff.rfl

theorem exists_orNull_iff : (∃ a, OrNull Stands v a) ↔ v = .null ∨ ∃ a, Stands v a := by
  constructor
  · rintro ⟨a, h⟩
    cases h with
    | null => exact Or.inl rfl
    | value h => exact Or.inr ⟨_, h⟩
  · rintro (rfl | ⟨a, h⟩)
    · exact ⟨none, .null⟩
    · exact ⟨some a, .value h⟩

/-- An entry gives something unless its value stands for nothing. -/
theorem exists_given_iff : (∃ a, Given absent Stands entry a) ↔ ∀ v ∈ entry, ∃ a, Stands v a := by
  cases entry <;> simp

theorem exists_given_orNull_iff (absent : Option α) {write : α → Value} :
    (∃ a, Given absent (OrNull (Is write)) entry a) ↔
      ∀ v ∈ entry, v = .null ∨ ∃ a, v = write a := by
  rw [exists_given_iff]
  simp only [exists_orNull_iff, is_iff]

theorem orNull_null_iff (hnull : ∀ a, ¬Stands .null a) {a : Option α} :
    OrNull Stands .null a ↔ a = none := by
  constructor
  · intro h
    cases h with
    | null => rfl
    | value h => exact absurd h (hnull _)
  · rintro rfl
    exact .null

theorem orNull_iff_of_ne (hv : v ≠ .null) {a : Option α} :
    OrNull Stands v a ↔ ∃ b, Stands v b ∧ some b = a := by
  constructor
  · intro h
    cases h with
    | null => exact absurd rfl hv
    | value h => exact ⟨_, h, rfl⟩
  · rintro ⟨b, hb, rfl⟩
    exact .value hb

theorem orNull_some_iff {a : α} : OrNull Stands v (some a) ↔ Stands v a := by
  constructor
  · intro h
    cases h with
    | value h => exact h
  · exact .value

theorem Given.mem {names : List String} {default name : String} (hdefault : default ∈ names)
    (h : Given default (OneOf names) entry name) : name ∈ names := by
  cases entry with
  | none => exact h ▸ hdefault
  | some v => exact h.1

/-- One of some texts, in a place where there may be null or any other text. -/
theorem given_oneOf_iff {names : List String} {default name : String} (h : default ∈ names) :
    Given default (OneOf names) entry name ↔
      name ∈ names ∧ Given (some default) (OrNull (Is .str)) entry (some name) := by
  cases entry with
  | none =>
    rw [given_none, given_none, Option.some.injEq]
    exact ⟨fun hname => ⟨hname ▸ h, hname⟩, And.right⟩
  | some v =>
    rw [given_some, given_some, orNull_some_iff]
    exact Iff.rfl

end

namespace Entries

end Entries

/-! ## Up to the first fault -/

section

variable {ε α β : Type} {f : α → Except ε β} {xs : List α}

theorem mapM_eq_ok_iff {ys : List β} :
    xs.mapM f = .ok ys ↔ List.Forall₂ (fun x y => f x = .ok y) xs ys := by
  induction xs generalizing ys with
  | nil =>
    rw [List.mapM_nil, List.forall₂_nil_left_iff]
    exact Except.ok.injEq [] ys ▸ eq_comm
  | cons x xs ih =>
    rw [List.mapM_cons, List.forall₂_cons_left_iff]
    cases hx : f x with
    | error e =>
      refine iff_of_false (fun h => by cases h) ?_
      rintro ⟨y, -, h, -, -⟩
      cases h
    | ok y =>
      cases hxs : xs.mapM f with
      | error e =>
        refine iff_of_false (fun h => by cases h) ?_
        rintro ⟨-, rest, -, hrest, -⟩
        rw [← ih, hxs] at hrest
        cases hrest
      | ok rest =>
        constructor
        · intro h
          obtain rfl := Except.ok.inj h
          exact ⟨y, rest, rfl, ih.mp hxs, rfl⟩
        · rintro ⟨u, us, hu, hus, rfl⟩
          rw [← ih, hxs] at hus
          obtain rfl := Except.ok.inj hu
          obtain rfl := Except.ok.inj hus
          rfl

/-- A row of readings fails as the first of them does that fails. -/
theorem exists_first_error {e : ε} (h : xs.mapM f = .error e) :
    ∃ i, ∃ hi : i < xs.length, (∀ j, ∀ hj : j < i, ∃ y, f xs[j] = .ok y) ∧ f xs[i] = .error e := by
  induction xs with
  | nil => cases h
  | cons x xs ih =>
    rw [List.mapM_cons] at h
    cases hx : f x with
    | error e' =>
      rw [hx] at h
      cases h
      exact ⟨0, by simp, by simp, hx⟩
    | ok y =>
      rw [hx] at h
      cases hxs : xs.mapM f with
      | error e' =>
        have he : e' = e := by
          rw [hxs] at h
          exact Except.error.inj h
        obtain ⟨i, hi, hfirst, herror⟩ := ih (he ▸ hxs)
        refine ⟨i + 1, by simpa using hi, fun j hj => ?_, herror⟩
        cases j with
        | zero => exact ⟨y, hx⟩
        | succ j => exact hfirst j (by omega)
      | ok rest =>
        rw [hxs] at h
        cases h

end

end FilterQuery
