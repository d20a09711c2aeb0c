import FilterQuery.Proofs.Entries
import FilterQuery.Shape.Models

/-!
# What describes a field

Plain data becomes a field reading by reading, and all readings run whatever the others find.
`Describes` says what the entries of a table have to be to describe a field: which must be there,
which default the others have, and what their values stand for. The check of a table finds the field
that the table describes, and finds fault with just those tables that describe none
(`Field.check_eq_valid_iff`).
-/

namespace FilterQuery

/-! ## What values stand for -/

/-- The truth value that a value stands for: itself, zero and one, or a word. -/
inductive Truth : Value → Bool → Prop
  | bool (b : Bool) : Truth (.bool b) b
  | int (b : Bool) : Truth (.int b.toInt) b
  | float {x : Decimal.Double} (b : Bool) (h : x.toInt? = some b.toInt) : Truth (.float x) b
  | word {s : String} (b : Bool)
      (h : String.ofList (s.toList.map Char.toLower) ∈
        if b then Shape.trueWords else Shape.falseWords) : Truth (.str s) b

/-- A list of values each of which stands for something. -/
inductive ListOf {α : Type} (Stands : Value → α → Prop) : Value → List α → Prop
  | list {items : List Value} {as : List α} (h : List.Forall₂ Stands items as) :
      ListOf Stands (.list items) as

/-- A table of values each of which stands for something under its key. -/
inductive TableOf {α : Type} (Stands : Value → α → Prop) : Value → List (String × α) → Prop
  | table {entries : Entries} {es : List (String × α)}
      (h : List.Forall₂ (fun x y => x.1 = y.1 ∧ Stands x.2 y.2) entries es) :
      TableOf Stands (.table entries) es

/-- An enum value by itself, or with a label and perhaps an icon. -/
inductive EnumValue.Stands : Value → EnumValue → Prop
  | bare (s : String) : Stands (.str s) (.bare s)
  | labelled {t : Entries} {option : EnumOption}
      (value : t.lookup "value" = some (.str option.value))
      (label : t.lookup "label" = some (.str option.label))
      (icon : Given none (OrNull (Is .str)) (t.lookup "icon") option.icon) :
      Stands (.table t) (.labelled option)

/-- A label for all uses, or one for each. -/
inductive OperatorLabel.Stands : Value → OperatorLabel → Prop
  | text (s : String) : Stands (.str s) (.text s)
  | pair {t : Entries} {display select : String}
      (hdisplay : t.lookup "display" = some (.str display))
      (hselect : t.lookup "select" = some (.str select)) : Stands (.table t) (.pair display select)

/-- A table that describes a field, but for the functions of the field. -/
@[mk_iff]
structure Describes (t : Entries) (f : Field) : Prop where
  key : t.lookup "key" = some (.str f.key)
  key_ne : f.key ≠ ""
  label : t.lookup "label" = some (.str f.label)
  type : Given .string (NamedBy FieldType.ofName?) (t.lookup "type") f.type
  operators : t.lookup "operators" = some (.list (f.operators.map .str))
  operators_named : "" ∉ f.operators
  enumValues : Given none (OrNull (ListOf EnumValue.Stands)) (t.lookup "enum_values") f.enumValues
  validation : Given [] (TableOf Truth) (t.lookup "validation") f.validation
  operatorLabels :
    Given [] (TableOf OperatorLabel.Stands) (t.lookup "operator_labels") f.operatorLabels
  category : Given none (OrNull (Is .str)) (t.lookup "category") f.category
  allowSpaces : Given false Truth (t.lookup "allow_spaces") f.allowSpaces
  immutable : Given false Truth (t.lookup "immutable") f.immutable

namespace Shape

/-! ## Readings together -/

section

variable {α β : Type}

namespace Checked

theorem seq_eq_valid_iff {c : Checked (α → β)} {d : Checked α} {b : β} :
    c <*> d = .valid b ↔ ∃ f a, c = .valid f ∧ d = .valid a ∧ f a = b := by
  cases c <;> cases d <;> simp [Seq.seq, ap]

theorem map_eq_valid_iff {f : α → β} {c : Checked α} {b : β} :
    f <$> c = .valid b ↔ ∃ a, c = .valid a ∧ f a = b := by
  show ap (.valid f) c = .valid b ↔ _
  cases c <;> simp [ap]

@[simp] theorem inside_eq_valid_iff {step : PathStep} {c : Checked α} {a : α} :
    c.inside step = .valid a ↔ c = .valid a := by
  cases c <;> simp [inside]

theorem all_eq_valid_iff {cs : List (Checked α)} {as : List α} :
    all cs = .valid as ↔ List.Forall₂ (fun c a => c = .valid a) cs as := by
  induction cs generalizing as with
  | nil =>
    rw [List.forall₂_nil_left_iff, all, Checked.valid.injEq]
    exact eq_comm
  | cons c cs ih =>
    rw [all, seq_eq_valid_iff, List.forall₂_cons_left_iff]
    simp only [map_eq_valid_iff]
    constructor
    · rintro ⟨-, rest, ⟨a, ha, rfl⟩, hrest, rfl⟩
      exact ⟨a, rest, ha, ih.mp hrest, rfl⟩
    · rintro ⟨a, rest, ha, hrest, rfl⟩
      exact ⟨_, rest, ⟨a, ha, rfl⟩, ih.mpr hrest, rfl⟩

end Checked

/-! ## Single readings -/

variable {v : Value}

theorem string_eq_valid_iff {s : String} : string v = .valid s ↔ Is .str v s := by
  cases v <;> simp [string, Checked.problem]

theorem nonEmptyString_eq_valid_iff {s : String} :
    nonEmptyString v = .valid s ↔ Is .str v s ∧ s ≠ "" := by
  cases v with
  | str text =>
    by_cases h : text = ""
    · subst h
      simp only [nonEmptyString, Checked.problem, is_iff, Value.str.injEq]
      refine iff_of_false (by simp) ?_
      rintro ⟨rfl, h⟩
      exact h rfl
    · simp only [nonEmptyString, String.isEmpty_iff, h, if_false, Checked.valid.injEq, is_iff,
        Value.str.injEq]
      constructor
      · rintro rfl
        exact ⟨rfl, h⟩
      · exact And.left
  | _ => simp [nonEmptyString, Checked.problem]

theorem stringOrNull_eq_valid_iff {s : Option String} :
    stringOrNull v = .valid s ↔ OrNull (Is .str) v s := by
  cases v with
  | null =>
    rw [orNull_null_iff (by simp), stringOrNull, Checked.valid.injEq]
    exact eq_comm
  | _ => simp [stringOrNull, Checked.problem, orNull_iff_of_ne]

theorem named_eq_valid_iff {ofName? : String → Option α} {a : α} :
    named ofName? v = .valid a ↔ NamedBy ofName? v a := by
  unfold NamedBy
  cases v with
  | str name => cases h : ofName? name <;> simp [named, Checked.problem, h]
  | _ => simp [named, Checked.problem]

theorem boolOfInt_eq_valid_iff {n : Int} {b : Bool} : boolOfInt n = .valid b ↔ n = b.toInt := by
  unfold boolOfInt
  split
  · cases b <;> simp_all
  · split <;> cases b <;> simp_all [Checked.problem]

theorem intBound_toInt (b : Bool) : -intBound < b.toInt ∧ b.toInt < intBound := by
  cases b <;> decide

theorem not_mem_falseWords {word : String} (h : word ∈ trueWords) : word ∉ falseWords := by
  simp only [trueWords, List.mem_cons, List.not_mem_nil, or_false] at h
  rcases h with rfl | rfl | rfl | rfl | rfl | rfl <;> decide

theorem bool_eq_valid_iff {b : Bool} : bool v = .valid b ↔ Truth v b := by
  constructor
  · intro h
    cases v with
    | bool c =>
      obtain rfl := Checked.valid.inj h
      exact .bool c
    | int n =>
      rw [bool] at h
      split at h
      · rw [boolOfInt_eq_valid_iff.mp h]
        exact .int b
      · cases h
    | float x =>
      rw [bool] at h
      split at h
      · rename_i n hn
        split at h
        · exact .float b (by rw [hn, boolOfInt_eq_valid_iff.mp h])
        · cases h
      · cases h
    | str s =>
      rw [bool] at h
      simp only [List.contains_iff_mem] at h
      split at h
      · cases h
        exact .word false (by simpa)
      · split at h
        · cases h
          exact .word true (by simpa)
        · cases h
    | _ => cases h
  · intro h
    cases h with
    | bool => rfl
    | int =>
      obtain ⟨hlow, hhigh⟩ := intBound_toInt b
      rw [bool, if_pos ⟨Int.le_of_lt hlow, hhigh⟩, boolOfInt_eq_valid_iff]
    | float _ h =>
      rw [bool, h]
      simp only [intBound_toInt, and_self, if_true]
      exact boolOfInt_eq_valid_iff.mpr rfl
    | word _ h =>
      rw [bool]
      simp only [List.contains_iff_mem]
      cases b with
      | false => rw [if_pos (by simpa using h)]
      | true =>
        rw [if_neg (not_mem_falseWords (by simpa using h)), if_pos (by simpa using h)]

section

variable {read : Reader α} {Stands : Value → α → Prop}
  (hread : ∀ v a, read v = .valid a ↔ Stands v a)
include hread

theorem list_eq_valid_iff {as : List α} : list read v = .valid as ↔ ListOf Stands v as := by
  cases v with
  | list items =>
    have hitems : list read (.list items) = .valid as ↔ List.Forall₂ Stands items as := by
      rw [list, Checked.all_eq_valid_iff, List.forall₂_iff_get, List.forall₂_iff_get]
      simp [hread]
    rw [hitems]
    constructor
    · exact .list
    · intro h
      cases h with
      | list h => exact h
  | _ =>
    refine iff_of_false (by simp [list, Checked.problem]) fun h => ?_
    cases h

omit hread in
theorem listOf_is_iff {write : α → Value} {as : List α} :
    ListOf (Is write) v as ↔ v = .list (as.map write) := by
  constructor
  · intro h
    cases h with
    | list h =>
      induction h with
      | nil => rfl
      | cons hx _ ih => rw [List.map_cons, hx, Value.list.inj ih]
  · rintro rfl
    refine .list ?_
    rw [List.forall₂_map_left_iff, List.forall₂_same]
    exact fun _ _ => rfl

theorem table_eq_valid_iff {es : List (String × α)} :
    table read v = .valid es ↔ TableOf Stands v es := by
  cases v with
  | table entries =>
    have hentries : table read (.table entries) = .valid es ↔
        List.Forall₂ (fun x y => x.1 = y.1 ∧ Stands x.2 y.2) entries es := by
      rw [table, Checked.all_eq_valid_iff, List.forall₂_map_left_iff]
      have hentry (x : String × Value) (y : String × α) :
          ((x.1, ·) <$> read x.2).inside (.key x.1) = .valid y ↔ x.1 = y.1 ∧ Stands x.2 y.2 := by
        rw [Checked.inside_eq_valid_iff, Checked.map_eq_valid_iff]
        constructor
        · rintro ⟨a, ha, rfl⟩
          exact ⟨rfl, (hread _ _).mp ha⟩
        · rintro ⟨hkey, ha⟩
          exact ⟨y.2, (hread _ _).mpr ha, Prod.ext hkey rfl⟩
      simp only [hentry]
    rw [hentries]
    constructor
    · exact .table
    · intro h
      cases h with
      | table h => exact h
  | _ =>
    refine iff_of_false (by simp [table, Checked.problem]) fun h => ?_
    cases h

theorem optional_eq_valid_iff {t : Entries} {name : String} {absent a : α} :
    optional t name absent read = .valid a ↔ Given absent Stands (t.lookup name) a := by
  unfold optional
  cases t.lookup name with
  | none =>
    rw [given_none, Checked.valid.injEq]
    exact eq_comm
  | some v => simp [hread]

omit hread in
theorem required_eq_valid_iff {t : Entries} {name : String} {a : α} :
    required t name read = .valid a ↔ ∃ v, t.lookup name = some v ∧ read v = .valid a := by
  unfold required
  cases t.lookup name <;> simp [Checked.problem]

end

theorem stringOr_eq_valid_iff {title : String} {ofString : String → α}
    {read : Entries → Checked α} {a : α} :
    stringOr title ofString read v = .valid a ↔
      (∃ s, v = .str s ∧ ofString s = a) ∨ ∃ t, v = .table t ∧ read t = .valid a := by
  cases v with
  | str s => simp [stringOr]
  | table t => cases h : read t <;> simp [stringOr, model, h]
  | _ => simp [stringOr, model, Checked.problem]

end

end Shape

open Shape

/-! ## The readings of a field -/

section

variable {t : Entries} {v : Value}

theorem EnumOption.check_eq_valid_iff {option : EnumOption} :
    EnumOption.check t = .valid option ↔
      t.lookup "value" = some (.str option.value) ∧ t.lookup "label" = some (.str option.label) ∧
        Given none (OrNull (Is .str)) (t.lookup "icon") option.icon := by
  simp only [EnumOption.check, Checked.seq_eq_valid_iff, Checked.map_eq_valid_iff,
    required_eq_valid_iff, string_eq_valid_iff, is_iff,
    optional_eq_valid_iff fun _ _ => stringOrNull_eq_valid_iff]
  constructor
  · rintro ⟨-, icon, ⟨-, label, ⟨value, ⟨_, hvalue, rfl⟩, rfl⟩, ⟨_, hlabel, rfl⟩, rfl⟩, hicon, rfl⟩
    exact ⟨hvalue, hlabel, hicon⟩
  · rintro ⟨hvalue, hlabel, hicon⟩
    exact ⟨_, _, ⟨_, _, ⟨_, ⟨_, hvalue, rfl⟩, rfl⟩, ⟨_, hlabel, rfl⟩, rfl⟩, hicon, rfl⟩

theorem EnumValue.check_eq_valid_iff {value : EnumValue} :
    EnumValue.check v = .valid value ↔ EnumValue.Stands v value := by
  rw [EnumValue.check, stringOr_eq_valid_iff]
  simp only [Checked.map_eq_valid_iff, EnumOption.check_eq_valid_iff]
  constructor
  · rintro (⟨s, rfl, rfl⟩ | ⟨t, rfl, option, ⟨hvalue, hlabel, hicon⟩, rfl⟩)
    · exact .bare s
    · exact .labelled hvalue hlabel hicon
  · intro h
    cases h with
    | bare s => exact Or.inl ⟨s, rfl, rfl⟩
    | labelled hvalue hlabel hicon => exact Or.inr ⟨_, rfl, _, ⟨hvalue, hlabel, hicon⟩, rfl⟩

theorem EnumValue.checkList_eq_valid_iff {values : Option (List EnumValue)} :
    EnumValue.checkList v = .valid values ↔ OrNull (ListOf EnumValue.Stands) v values := by
  by_cases hv : v = .null
  · subst hv
    have hnull (values : List EnumValue) : ¬ListOf EnumValue.Stands .null values := by
      intro h
      cases h
    rw [orNull_null_iff hnull, EnumValue.checkList, Checked.valid.injEq]
    exact eq_comm
  · rw [orNull_iff_of_ne hv]
    have hlist : EnumValue.checkList v = some <$> list EnumValue.check v := by
      cases v with
      | null => exact absurd rfl hv
      | _ => rfl
    rw [hlist, Checked.map_eq_valid_iff]
    simp only [list_eq_valid_iff fun _ _ => EnumValue.check_eq_valid_iff]

theorem OperatorLabel.check_eq_valid_iff {label : OperatorLabel} :
    stringOr "OperatorLabel" .text OperatorLabel.check v = .valid label ↔
      OperatorLabel.Stands v label := by
  rw [stringOr_eq_valid_iff]
  simp only [OperatorLabel.check, Checked.seq_eq_valid_iff, Checked.map_eq_valid_iff,
    required_eq_valid_iff, string_eq_valid_iff, is_iff]
  constructor
  · rintro (⟨s, rfl, rfl⟩ | ⟨t, rfl, -, select, ⟨display, ⟨_, hdisplay, rfl⟩, rfl⟩,
      ⟨_, hselect, rfl⟩, rfl⟩)
    · exact .text s
    · exact .pair hdisplay hselect
  · intro h
    cases h with
    | text s => exact Or.inl ⟨s, rfl, rfl⟩
    | pair hdisplay hselect =>
      exact Or.inr ⟨_, rfl, _, _, ⟨_, ⟨_, hdisplay, rfl⟩, rfl⟩, ⟨_, hselect, rfl⟩, rfl⟩

theorem Field.checkOperators_eq_valid_iff
    {operators : { operators : List String // operators ≠ [] }} :
    Field.checkOperators v = .valid operators ↔
      v = .list (operators.val.map .str) ∧ "" ∉ operators.val := by
  have hlist {names : List String} : list string v = .valid names ↔ v = .list (names.map .str) := by
    rw [list_eq_valid_iff fun _ _ => string_eq_valid_iff, listOf_is_iff]
  have hnamed {names : List String} : names.any (·.isEmpty) = true ↔ "" ∈ names := by
    simp [List.any_eq_true, String.isEmpty_iff]
  obtain ⟨operators, hne⟩ := operators
  constructor
  · intro h
    unfold Field.checkOperators at h
    cases hnames : list string v with
    | invalid ps =>
      rw [hnames] at h
      cases h
    | valid names =>
      rw [hnames] at h
      cases names with
      | nil => cases h
      | cons o os =>
        simp only [hnamed] at h
        split at h
        · cases h
        · rename_i hmem
          cases h
          exact ⟨hlist.mp hnames, hmem⟩
  · rintro ⟨hv, hmem⟩
    rw [Field.checkOperators, hlist.mpr hv]
    cases operators with
    | nil => exact absurd rfl hne
    | cons o os =>
      simp only [hnamed]
      rw [if_neg hmem]

/-- No function is an entry that is not there, or null. -/
theorem noFunction_eq_valid_iff {name : String} {u : Unit} :
    optional t name () noFunction = .valid u ↔ ∀ v ∈ t.lookup name, v = .null := by
  have hnull (v : Value) (u : Unit) : noFunction v = .valid u ↔ v = .null := by
    cases v <;> simp [noFunction, Checked.problem]
  rw [optional_eq_valid_iff hnull]
  cases t.lookup name <;> simp

end

/-! ## The field of a table -/

/-- The check of a table finds just the field that the table describes, with the functions given. -/
theorem Field.check_eq_valid_iff {functions : FieldFunctions} {t : Entries} {f : Field} :
    Field.check functions t = .valid f ↔
      Describes t f ∧ (∀ v ∈ t.lookup "value_resolver", v = .null) ∧
        (∀ v ∈ t.lookup "validate_value", v = .null) ∧
        f.resolver = functions.resolver ∧ f.validateValue = functions.validateValue := by
  constructor
  · intro h
    simp only [Field.check, Checked.seq_eq_valid_iff, Checked.map_eq_valid_iff,
      noFunction_eq_valid_iff, required_eq_valid_iff, nonEmptyString_eq_valid_iff,
      string_eq_valid_iff, is_iff, Field.checkOperators_eq_valid_iff,
      optional_eq_valid_iff fun _ _ => named_eq_valid_iff,
      optional_eq_valid_iff fun _ _ => EnumValue.checkList_eq_valid_iff,
      optional_eq_valid_iff fun _ _ => table_eq_valid_iff fun _ _ => bool_eq_valid_iff,
      optional_eq_valid_iff fun _ _ =>
        table_eq_valid_iff fun _ _ => OperatorLabel.check_eq_valid_iff,
      optional_eq_valid_iff fun _ _ => stringOrNull_eq_valid_iff,
      optional_eq_valid_iff fun _ _ => bool_eq_valid_iff] at h
    -- the readings, from the last one to the first
    obtain ⟨_, immutable, ⟨_, allowSpaces, ⟨_, category, ⟨_, labels, ⟨_, validation, ⟨_, _, ⟨_, _,
      ⟨_, enumValues, ⟨_, operators, ⟨_, type, ⟨_, label, ⟨key, ⟨_, hkey, rfl, hne⟩, rfl⟩,
      ⟨_, hlabel, rfl⟩, rfl⟩, htype, rfl⟩, ⟨_, hoperators, rfl, hnamed⟩, rfl⟩, henum, rfl⟩,
      hresolver, rfl⟩, hvalidate, rfl⟩, hvalidation, rfl⟩, hlabels, rfl⟩, hcategory, rfl⟩,
      hallow, rfl⟩, himmutable, rfl⟩ := h
    exact ⟨⟨hkey, hne, hlabel, htype, hoperators, hnamed, henum, hvalidation, hlabels, hcategory,
      hallow, himmutable⟩, hresolver, hvalidate, rfl, rfl⟩
  · rintro ⟨h, hresolver, hvalidate, hfunction, hpredicate⟩
    have hkey := required_eq_valid_iff.mpr
      ⟨_, h.key, nonEmptyString_eq_valid_iff.mpr ⟨rfl, h.key_ne⟩⟩
    have hlabel := required_eq_valid_iff.mpr ⟨_, h.label, string_eq_valid_iff.mpr rfl⟩
    have htype := (optional_eq_valid_iff fun _ _ => named_eq_valid_iff).mpr h.type
    have hoperators : required t "operators" Field.checkOperators =
        .valid ⟨f.operators, f.operators_ne_nil⟩ :=
      required_eq_valid_iff.mpr
        ⟨_, h.operators, Field.checkOperators_eq_valid_iff.mpr ⟨rfl, h.operators_named⟩⟩
    have henum :=
      (optional_eq_valid_iff fun _ _ => EnumValue.checkList_eq_valid_iff).mpr h.enumValues
    have hnoResolver := (noFunction_eq_valid_iff (u := ())).mpr hresolver
    have hnoPredicate := (noFunction_eq_valid_iff (u := ())).mpr hvalidate
    have hvalidation := (optional_eq_valid_iff fun _ _ =>
      table_eq_valid_iff fun _ _ => bool_eq_valid_iff).mpr h.validation
    have hlabels := (optional_eq_valid_iff fun _ _ =>
      table_eq_valid_iff fun _ _ => OperatorLabel.check_eq_valid_iff).mpr h.operatorLabels
    have hcategory := (optional_eq_valid_iff fun _ _ => stringOrNull_eq_valid_iff).mpr h.category
    have hallow := (optional_eq_valid_iff fun _ _ => bool_eq_valid_iff).mpr h.allowSpaces
    have himmutable := (optional_eq_valid_iff fun _ _ => bool_eq_valid_iff).mpr h.immutable
    rw [Field.check, hkey, hlabel, htype, hoperators, henum, hnoResolver, hnoPredicate,
      hvalidation, hlabels, hcategory, hallow, himmutable, ← hfunction, ← hpredicate]
    rfl

end FilterQuery
