import FilterQuery.Proofs.Entries
import FilterQuery.Proofs.Presets

/-!
# What a declaration must say

A declared rule has a kind and options. `Admissible` is the schema of declarations: which options
each kind has, and what they may say; whether a pattern can be read is up to the host. `Declares` is
the rule that an admissible declaration stands for (`admissible_iff`). Building a rule is a row of
readings: each finds just what its option gives (`optionOr_eq_ok_iff`, `requiredOption_eq_ok_iff`,
`strategyOf_eq_ok_iff`), and one that fails quotes the option if it quotes anything (`Quotes`). What
is quoted has to be written; `Tells` is what becomes of an error that quotes what cannot be.
-/

namespace FilterQuery.Manifest

variable {τ : Type} [TokenLike τ] {host : Host}

/-! ## The schema of declarations -/

/-- What makes tokens duplicates, by name. -/
def constraintNames : List String := ["key", "key-operator", "exact"]

/-- What the options of a kind may say that other kinds do not have. -/
def RuleKind.OwnSchema (host : Host) : RuleKind → Entries → Prop
  | .unique, options => ∀ v ∈ options.lookup "constraint", ∃ c ∈ constraintNames, v = .str c
  | .maxCount, options =>
      (∃ most, options.lookup "max" = some (.int most)) ∧
        ∀ v ∈ options.lookup "field", v = .null ∨ ∃ key, v = .str key
  | .pattern, options =>
      (∃ key, options.lookup "field" = some (.str key)) ∧
        ∃ written search, options.lookup "pattern" = some (.str written) ∧
          host.compile written = .ok search
  | .enum, _ => True

/-- What the options of a kind may say. -/
structure RuleKind.Schema (host : Host) (kind : RuleKind) (options : Entries) : Prop where
  strategy : ∀ v ∈ options.lookup "strategy", ∃ name ∈ kind.strategyNames, v = .str name
  priority : ∀ v ∈ options.lookup "priority", v = .null ∨ ∃ n, v = .int n
  message : ∀ v ∈ options.lookup "message", v = .null ∨ ∃ text, v = .str text
  own : kind.OwnSchema host options

/-- Declarations of the schema. -/
def Admissible (host : Host) (d : RuleDeclaration) : Prop :=
  ∃ kind : RuleKind, d.kind = .str kind.name ∧ kind.Schema host d.options

/-- A limit with more digits than are written. -/
structure Overlong (kind : RuleKind) (options : Entries) : Prop where
  count_kind : kind = .maxCount
  max : ∃ most, options.lookup "max" = some (.int most) ∧
    Decimal.leastLong ≤ MaxCount.limit most

/-- Declarations that a rule can be built from: those of the schema, unless the message about a
limit cannot be written. -/
def Buildable (host : Host) (d : RuleDeclaration) : Prop :=
  ∃ kind : RuleKind, d.kind = .str kind.name ∧ kind.Schema host d.options ∧
    ¬Overlong kind d.options

/-! ## The rule of a declaration -/

/-- What the options say that all kinds have. -/
structure Shares (kind : RuleKind) (options : Entries) (strategy : StrategyName)
    (priority : Option Int) (message : Option String) : Prop where
  strategy : ∃ name, Given "mark" (OneOf kind.strategyNames) (options.lookup "strategy") name ∧
    StrategyName.ofName? name = some strategy
  priority : Given none (OrNull (Is .int)) (options.lookup "priority") priority
  message : Given none (OrNull (Is .str)) (options.lookup "message") message

/-- The rule that options of a kind stand for. -/
inductive Declares (host : Host) (options : Entries) : RuleKind → Rule τ → Prop
  | unique {s : StrategyName} {priority : Option Int} {message : Option String} {c : String}
      (shares : Shares .unique options s priority message)
      (constraint : Given "key" (OneOf constraintNames) (options.lookup "constraint") c) :
      Declares host options .unique
        { id := "unique-" ++ c, priority := intOrNull priority
          checks := Unique.checks (.ofValue (.str c)) s.unique }
  | maxCount {s : StrategyName} {priority : Option Int} {message key : Option String} {most : Int}
      (shares : Shares .maxCount options s priority message)
      (max : options.lookup "max" = some (.int most))
      (field : Given (some "*") (OrNull (Is .str)) (options.lookup "field") key) :
      Declares host options .maxCount
        { id := if key = some "*" then "max-count-total" else "max-count-" ++ (textOrNull key).text
          priority := intOrNull priority
          checks := MaxCount.checks (.ofValue (textOrNull key)) most s.maxCount
            (message.getD (MaxCount.defaultMessage (.ofValue (textOrNull key)) most)) }
  | pattern {s : StrategyName} {priority : Option Int} {message : Option String}
      {key written : String} {search : String → Bool}
      (shares : Shares .pattern options s priority message)
      (field : options.lookup "field" = some (.str key))
      (hwritten : options.lookup "pattern" = some (.str written))
      (hsearch : host.compile written = .ok search) :
      Declares host options .pattern
        { id := "pattern-" ++ key, priority := intOrNull priority
          checks := RequirePattern.checks key search s.value
            (message.getD (RequirePattern.defaultMessage key)) }
  | enum {s : StrategyName} {priority : Option Int} {message : Option String}
      (shares : Shares .enum options s priority message) :
      Declares host options .enum
        { id := "enum-value", priority := intOrNull priority
          checks := RequireEnum.checks s.value message }

/-- The rule of a declaration. -/
def Yields (host : Host) (d : RuleDeclaration) (r : Rule τ) : Prop :=
  ∃ kind : RuleKind, d.kind = .str kind.name ∧ Declares host d.options kind r

section

variable {kind : RuleKind} {options : Entries}

theorem exists_strategy {name : String} (h : name ∈ kind.strategyNames) :
    ∃ strategy, StrategyName.ofName? name = some strategy := by
  cases kind <;>
    simp only [RuleKind.strategyNames, List.mem_cons, List.not_mem_nil, or_false] at h
  case unique => rcases h with rfl | rfl | rfl <;> exact ⟨_, rfl⟩
  all_goals rcases h with rfl | rfl <;> exact ⟨_, rfl⟩

theorem mark_mem_strategyNames (kind : RuleKind) : "mark" ∈ kind.strategyNames := by
  cases kind <;> decide

theorem exists_shares_iff :
    (∃ s priority message, Shares kind options s priority message) ↔
      (∀ v ∈ options.lookup "strategy", ∃ name ∈ kind.strategyNames, v = .str name) ∧
      (∀ v ∈ options.lookup "priority", v = .null ∨ ∃ n, v = .int n) ∧
      ∀ v ∈ options.lookup "message", v = .null ∨ ∃ text, v = .str text := by
  have hstrategy :
      (∃ name, Given "mark" (OneOf kind.strategyNames) (options.lookup "strategy") name) ↔
        ∀ v ∈ options.lookup "strategy", ∃ name ∈ kind.strategyNames, v = .str name :=
    exists_given_iff
  rw [← hstrategy, ← exists_given_orNull_iff none, ← exists_given_orNull_iff none]
  constructor
  · rintro ⟨s, priority, message, ⟨name, hname, -⟩, hpriority, hmessage⟩
    exact ⟨⟨name, hname⟩, ⟨priority, hpriority⟩, message, hmessage⟩
  · rintro ⟨⟨name, hname⟩, ⟨priority, hpriority⟩, message, hmessage⟩
    obtain ⟨s, hs⟩ := exists_strategy (hname.mem (mark_mem_strategyNames kind))
    exact ⟨s, priority, message, ⟨name, hname, hs⟩, hpriority, hmessage⟩

theorem Declares.shares {r : Rule τ} (h : Declares host options kind r) :
    ∃ s priority message, Shares kind options s priority message := by
  cases h with
  | unique shares | maxCount shares | pattern shares | enum shares => exact ⟨_, _, _, shares⟩

theorem Declares.own {r : Rule τ} (h : Declares host options kind r) :
    kind.OwnSchema host options := by
  cases h with
  | unique _ constraint => exact exists_given_iff.mp ⟨_, constraint⟩
  | maxCount _ max field => exact ⟨⟨_, max⟩, (exists_given_orNull_iff _).mp ⟨_, field⟩⟩
  | pattern _ field hwritten hsearch => exact ⟨⟨_, field⟩, _, _, hwritten, hsearch⟩
  | enum _ => exact True.intro

/-- Options stand for a rule just if they are of the schema. -/
theorem schema_iff_exists_declares :
    kind.Schema host options ↔ ∃ r : Rule τ, Declares host options kind r := by
  constructor
  · rintro ⟨hstrategy, hpriority, hmessage, hown⟩
    obtain ⟨s, priority, message, shares⟩ :=
      exists_shares_iff.mpr ⟨hstrategy, hpriority, hmessage⟩
    cases kind with
    | unique =>
      obtain ⟨c, hc⟩ : ∃ c, Given "key" (OneOf constraintNames) (options.lookup "constraint") c :=
        exists_given_iff.mpr hown
      exact ⟨_, .unique shares hc⟩
    | maxCount =>
      obtain ⟨⟨most, max⟩, hfield⟩ := hown
      obtain ⟨key, field⟩ := (exists_given_orNull_iff (some "*")).mpr hfield
      exact ⟨_, .maxCount shares max field⟩
    | pattern =>
      obtain ⟨⟨key, field⟩, written, search, hwritten, hsearch⟩ := hown
      exact ⟨_, .pattern shares field hwritten hsearch⟩
    | enum => exact ⟨_, .enum shares⟩
  · rintro ⟨r, hr⟩
    obtain ⟨hstrategy, hpriority, hmessage⟩ := exists_shares_iff.mp hr.shares
    exact ⟨hstrategy, hpriority, hmessage, hr.own⟩

theorem admissible_iff {d : RuleDeclaration} :
    Admissible host d ↔ ∃ r : Rule τ, Yields host d r := by
  constructor
  · rintro ⟨kind, hkind, hschema⟩
    obtain ⟨r, hr⟩ := (schema_iff_exists_declares (τ := τ)).mp hschema
    exact ⟨r, kind, hkind, hr⟩
  · rintro ⟨r, kind, hkind, hr⟩
    exact ⟨kind, hkind, schema_iff_exists_declares.mpr ⟨r, hr⟩⟩

theorem Buildable.admissible {d : RuleDeclaration} (h : Buildable host d) : Admissible host d := by
  obtain ⟨kind, hkind, hschema, -⟩ := h
  exact ⟨kind, hkind, hschema⟩

end

/-! ## Reading options -/

section

variable {options : Entries} {key : String}

theorem intOption_eq_ok_iff {kind : RuleKind} {v : Value} {n : Int} :
    intOption kind key v = .ok n ↔ Is .int v n := by
  cases v <;> simp [intOption]

theorem stringOption_eq_ok_iff {kind : RuleKind} {v : Value} {s : String} :
    stringOption kind key v = .ok s ↔ Is .str v s := by
  cases v <;> simp [stringOption]

section

variable {α : Type} {absent : Option α} {read : Value → Except ConfigCause α}
  {Stands : Value → α → Prop}

/-- Reading an option finds just what it gives. -/
theorem optionOr_eq_ok_iff (hread : ∀ v a, read v = .ok a ↔ Stands v a)
    (hnull : ∀ a, ¬Stands .null a) {a : Option α} :
    optionOr options key absent read = .ok a ↔
      Given absent (OrNull Stands) (options.lookup key) a := by
  unfold optionOr
  cases h : options.lookup key with
  | none =>
    rw [given_none, Except.ok.injEq]
    exact eq_comm
  | some v =>
    rw [given_some]
    by_cases hv : v = .null
    · subst hv
      rw [orNull_null_iff hnull, Except.ok.injEq]
      exact eq_comm
    · have hsome : some <$> read v = .ok a ↔ ∃ b, Stands v b ∧ some b = a := by
        cases hb : read v with
        | error cause => simp [Functor.map, Except.map, ← hread, hb]
        | ok b => simp [Functor.map, Except.map, ← hread, hb]
      rw [orNull_iff_of_ne hv, ← hsome]
      cases v with
      | null => exact absurd rfl hv
      | _ => rfl

theorem requiredOption_eq_ok_iff {kind : RuleKind} {a : α} :
    requiredOption kind options key read = .ok a ↔
      ∃ v, options.lookup key = some v ∧ read v = .ok a := by
  unfold requiredOption
  cases options.lookup key <;> simp

end

theorem intOr_eq_ok_iff {kind : RuleKind} {absent n : Option Int} :
    optionOr options key absent (intOption kind key) = .ok n ↔
      Given absent (OrNull (Is .int)) (options.lookup key) n :=
  optionOr_eq_ok_iff (fun _ _ => intOption_eq_ok_iff) (by simp)

theorem stringOr_eq_ok_iff {kind : RuleKind} {absent s : Option String} :
    optionOr options key absent (stringOption kind key) = .ok s ↔
      Given absent (OrNull (Is .str)) (options.lookup key) s :=
  optionOr_eq_ok_iff (fun _ _ => stringOption_eq_ok_iff) (by simp)

theorem requiredInt_eq_ok_iff {kind : RuleKind} {n : Int} :
    requiredOption kind options key (intOption kind key) = .ok n ↔
      options.lookup key = some (.int n) := by
  simp [requiredOption_eq_ok_iff, intOption_eq_ok_iff]

theorem requiredString_eq_ok_iff {kind : RuleKind} {s : String} :
    requiredOption kind options key (stringOption kind key) = .ok s ↔
      options.lookup key = some (.str s) := by
  simp [requiredOption_eq_ok_iff, stringOption_eq_ok_iff]

/-- The strategy is the one that the option names. -/
theorem strategyOf_eq_ok_iff {kind : RuleKind} {s : StrategyName} :
    strategyOf kind options = .ok s ↔
      ∃ name, Given "mark" (OneOf kind.strategyNames) (options.lookup "strategy") name ∧
        StrategyName.ofName? name = some s := by
  have hgiven (name : String) :
      Given "mark" (OneOf kind.strategyNames) (options.lookup "strategy") name ↔
        name ∈ kind.strategyNames ∧ optionOr options "strategy" (some "mark")
          (stringOption kind "strategy") = .ok (some name) := by
    rw [given_oneOf_iff (mark_mem_strategyNames kind), stringOr_eq_ok_iff]
  simp only [hgiven]
  unfold strategyOf
  cases hread : optionOr options "strategy" (some "mark") (stringOption kind "strategy") with
  | error cause => simp [bind, Except.bind]
  | ok given =>
    cases given with
    | none => simp [bind, Except.bind]
    | some name =>
      by_cases hname : name ∈ kind.strategyNames
      · obtain ⟨s', hs'⟩ := exists_strategy hname
        simp [bind, Except.bind, hs', hname]
      · cases hs' : StrategyName.ofName? name <;> simp [bind, Except.bind, hs', hname]

end

/-! ## What messages quote -/

/-- What an error of the configuration becomes when it is told: it stays as it is, unless the value
that its message quotes cannot be written. -/
inductive Tells (host : Host) (e : ConfigError) : Fault → Prop
  | whole (hwritable : ∀ v ∈ e.cause.given?, v.unwritable? host.writingDepth = none) :
      Tells host e (.config e)
  | unwritten {v : Value} {why : Unwritable} (hgiven : e.cause.given? = some v)
      (hwhy : v.unwritable? host.writingDepth = some why) : Tells host e (.unwritten why)

theorem tells_fault (host : Host) (e : ConfigError) :
    Tells host e (e.cause.fault host.writingDepth e.location) := by
  unfold ConfigCause.fault Fault.quoting
  split
  · rename_i hnone
    refine .whole fun v hv => ?_
    rwa [hv, Option.bind_some] at hnone
  · rename_i why hwhy
    obtain ⟨v, hgiven, hwhy⟩ := Option.bind_eq_some_iff.mp hwhy
    exact .unwritten hgiven hwhy

/-- What a message about options quotes is an option, unless it can be written in any case. -/
def Quotes (options : Entries) (cause : ConfigCause) : Prop :=
  ∀ v ∈ cause.given?, (∃ key, options.lookup key = some v) ∨ ∀ depth, v.unwritable? depth = none

section

variable {kind : RuleKind} {options : Entries} {key : String} {cause : ConfigCause}

theorem Quotes.of_option {v : Value} (hv : options.lookup key = some v)
    (hgiven : cause.given? = some v) : Quotes options cause := by
  intro v' hv'
  obtain rfl : v = v' := Option.some.inj (hgiven.symm.trans hv')
  exact Or.inl ⟨key, hv⟩

theorem Quotes.of_writable {v : Value} (hv : ∀ depth, v.unwritable? depth = none)
    (hgiven : cause.given? = some v) : Quotes options cause := by
  intro v' hv'
  obtain rfl : v = v' := Option.some.inj (hgiven.symm.trans hv')
  exact Or.inr hv

theorem Quotes.of_none (hgiven : cause.given? = none) : Quotes options cause := by
  intro v hv
  cases hgiven.symm.trans hv

theorem intOption_quotes (v : Value) (cause : ConfigCause)
    (h : intOption kind key v = .error cause) : cause.given? = some v := by
  cases v <;> cases h <;> rfl

theorem stringOption_quotes (v : Value) (cause : ConfigCause)
    (h : stringOption kind key v = .error cause) : cause.given? = some v := by
  cases v <;> cases h <;> rfl

section

variable {α : Type} {absent : Option α} {read : Value → Except ConfigCause α}
  (hread : ∀ v cause, read v = .error cause → cause.given? = some v)
include hread

theorem optionOr_quotes (h : optionOr options key absent read = .error cause) :
    Quotes options cause := by
  unfold optionOr at h
  cases hv : options.lookup key with
  | none =>
    rw [hv] at h
    cases h
  | some v =>
    rw [hv] at h
    have hcause (h : some <$> read v = .error cause) : read v = .error cause := by
      cases hr : read v with
      | ok a => rw [hr] at h; cases h
      | error cause' => rw [hr] at h; cases h; rfl
    cases v with
    | null => cases h
    | _ => exact .of_option hv (hread _ _ (hcause h))

theorem requiredOption_quotes (h : requiredOption kind options key read = .error cause) :
    Quotes options cause := by
  unfold requiredOption at h
  cases hv : options.lookup key with
  | none =>
    rw [hv] at h
    cases h
    exact .of_none rfl
  | some v =>
    rw [hv] at h
    exact .of_option hv (hread _ _ h)

end

theorem strategyOf_quotes (h : strategyOf kind options = .error cause) : Quotes options cause := by
  unfold strategyOf at h
  cases hread : optionOr options "strategy" (some "mark") (stringOption kind "strategy") with
  | error cause' =>
    rw [hread] at h
    cases h
    exact optionOr_quotes stringOption_quotes hread
  | ok given =>
    rw [hread] at h
    have hunknown {v : Value} (hv : ∀ depth, v.unwritable? depth = none)
        (h : Except.error (ConfigCause.unknownStrategy kind.name v kind.strategyNames) =
          (.error cause : Except ConfigCause StrategyName)) : Quotes options cause := by
      cases h
      exact .of_writable hv rfl
    cases given with
    | none => exact hunknown (fun _ => rfl) h
    | some name =>
      simp only [bind, Except.bind] at h
      split at h
      · split at h
        · cases h
        · exact hunknown (fun _ => rfl) h
      · exact hunknown (fun _ => rfl) h

end

end FilterQuery.Manifest
