import FilterQuery.Pattern.Compile
import FilterQuery.Proofs.Schema

/-!
# What is built of declarations

Building a rule comes to one of four things (`outcome_ruleOf`): the rule that the options declare, a
fault of the options, a failure of the host to read a pattern, or a limit that cannot be written. So
built is just what is buildable, and of several declarations the first one that is not gets the
blame (`builds_or_blames`).

Not every fault has a place (`buildRules_stray`). Reading a pattern may fail for something else than
its form, a limit may be too long for the message about it, and an option that is wrong may have a
value that cannot be quoted.
-/

namespace FilterQuery.Manifest

variable {τ : Type} [TokenLike τ] {host : Host}

/-! ## Building one rule -/

/-- Options that would be of the schema but for a pattern whose reading fails for something else
than its form. -/
structure Strays (host : Host) (kind : RuleKind) (options : Entries) (fault : Fault) : Prop where
  pattern_kind : kind = .pattern
  shares : ∃ s priority message, Shares kind options s priority message
  field : ∃ key, options.lookup "field" = some (.str key)
  pattern : ∃ written, options.lookup "pattern" = some (.str written) ∧
    host.compile written = .error (.other fault)
  unplaced : ∀ e, fault ≠ .rule e

/-- What building a rule comes to: the rule, a fault of the options that is placed, a fault of the
host, or a limit that cannot be written. -/
inductive Outcome (host : Host) (refuse : ConfigCause → Fault) (kind : RuleKind)
    (options : Entries) : Except Fault (Rule τ) → Prop
  | built {r : Rule τ} (h : Declares host options kind r) (hfits : ¬Overlong kind options) :
      Outcome host refuse kind options (.ok r)
  | placed (cause : ConfigCause) (hquotes : Quotes options cause)
      (hnone : ∀ r : Rule τ, ¬Declares host options kind r)
      (hplaced : ∀ fault, ¬Strays host kind options fault) :
      Outcome host refuse kind options (.error (refuse cause))
  | stray {fault : Fault} (h : Strays host kind options fault) :
      Outcome host refuse kind options (.error fault)
  | limit {r : Rule τ} (h : Declares host options kind r) (hlong : Overlong kind options) :
      Outcome host refuse kind options (.error (.unwritten .longInteger))

section

variable {refuse : ConfigCause → Fault} {kind : RuleKind} {options : Entries} {s : StrategyName}
  {priority : Option Int} {message : Option String}

/-- Without what all kinds share there is neither a rule nor a pattern to blame. -/
theorem Outcome.of_not_shares {cause : ConfigCause} (hquotes : Quotes options cause)
    (h : ∀ s priority message, ¬Shares kind options s priority message) :
    Outcome (τ := τ) host refuse kind options (.error (refuse cause)) := by
  refine .placed cause hquotes (fun r hr => ?_) fun fault hfault => ?_
  · obtain ⟨s, priority, message, shares⟩ := hr.shares
    exact h s priority message shares
  · obtain ⟨s, priority, message, shares⟩ := hfault.shares
    exact h s priority message shares

/-- Only a pattern can stray. -/
theorem Outcome.of_not_declares {cause : ConfigCause} (hquotes : Quotes options cause)
    (hkind : kind ≠ .pattern) (h : ∀ r : Rule τ, ¬Declares host options kind r) :
    Outcome (τ := τ) host refuse kind options (.error (refuse cause)) :=
  .placed cause hquotes h fun _ hfault => hkind hfault.pattern_kind

section

variable {written : String} {failure : PatternFailure}
  (hwritten : options.lookup "pattern" = some (.str written))
  (hcompile : host.compile written = .error failure)
include hwritten hcompile

/-- A pattern that is not read stands for no rule. -/
theorem not_declares_of_failure (r : Rule τ) : ¬Declares host options .pattern r := by
  intro hr
  cases hr with
  | pattern _ _ hother hok =>
    cases hwritten.symm.trans hother
    cases hcompile.symm.trans hok

theorem Strays.failure_eq {fault : Fault} (h : Strays host .pattern options fault) :
    failure = .other fault := by
  obtain ⟨other, hother, herror⟩ := h.pattern
  cases hwritten.symm.trans hother
  exact Except.error.inj (hcompile.symm.trans herror)

end

theorem Strays.not_declares {fault : Fault} (h : Strays host kind options fault) (r : Rule τ) :
    ¬Declares host options kind r := by
  obtain ⟨rfl, -, -, ⟨written, hwritten, herror⟩, -⟩ := h
  exact not_declares_of_failure hwritten herror r

theorem unwritable?_textOrNull (text : Option String) (depth : Nat) :
    (textOrNull text).unwritable? depth = none := by
  cases text <;> rfl

theorem rule_unique_known {c : String} (hc : c ∈ constraintNames) (strategy : Unique.Strategy τ)
    (priority : Value) :
    Unique.rule host (.ofValue (.str c)) (.function strategy) priority =
      .ok
        { id := "unique-" ++ c, priority
          checks := Unique.checks (.ofValue (.str c)) strategy } := by
  simp only [constraintNames, List.mem_cons, List.not_mem_nil, or_false] at hc
  rcases hc with rfl | rfl | rfl <;> rfl

theorem rule_unique_unknown {text : Option String} (h : ∀ c ∈ constraintNames, text ≠ some c)
    (strategy : Unique.Strategy τ) (priority : Value) :
    Unique.rule host (.ofValue (textOrNull text)) (.function strategy) priority =
      .error (.rule ⟨Unique.ruleId (.other (textOrNull text)),
        .unknownConstraint (textOrNull text)⟩) := by
  have hother : Constraint.ofValue (textOrNull text) = .other (textOrNull text) := by
    simp only [constraintNames, List.forall_mem_cons] at h
    obtain ⟨hkey, hoperator, hexact, -⟩ := h
    cases text <;> simp_all [textOrNull, Constraint.ofValue]
  rw [hother]
  show Except.error (Fault.quoting host.writingDepth (some (textOrNull text)) _) = _
  rw [Fault.quoting, Option.bind_some, unwritable?_textOrNull]

theorem ruleId_ofValue (key : Option String) :
    MaxCount.ruleId (.ofValue (textOrNull key)) =
      if key = some "*" then "max-count-total" else "max-count-" ++ (textOrNull key).text := by
  cases key with
  | none => rfl
  | some key =>
    by_cases hkey : key = "*"
    · subst hkey
      rfl
    · have hscope : MaxCount.Scope.ofValue (.str key) = .ofKey (.str key) := by
        unfold MaxCount.Scope.ofValue
        split
        · rename_i h
          exact absurd (Value.str.inj h) hkey
        · rfl
      rw [if_neg (by simpa using hkey), textOrNull, hscope]
      rfl

theorem rule_maxCount (key : Option String) (most : Int) (strategy : MaxCount.Strategy τ)
    (priority : Value) (message : Option String) :
    MaxCount.rule host (.ofValue (textOrNull key)) most (.function strategy) priority message =
      if Decimal.leastLong ≤ MaxCount.limit most then .error (.unwritten .longInteger)
      else .ok
        { id := if key = some "*" then "max-count-total" else "max-count-" ++ (textOrNull key).text
          priority
          checks := MaxCount.checks (.ofValue (textOrNull key)) most strategy
            (message.getD (MaxCount.defaultMessage (.ofValue (textOrNull key)) most)) } := by
  rw [← ruleId_ofValue]
  by_cases hlong : Decimal.leastLong ≤ MaxCount.limit most <;>
    simp [MaxCount.rule, Value.checkWritable, unwritable?_textOrNull, Value.unwritable?,
      StrategyArgument.check, Decimal.isLong, hlong, bind, Except.bind, pure, Except.pure]

theorem rule_pattern_text (key written : String) (strategy : ValueCheck.Strategy τ)
    (priority : Value) (message : Option String) :
    RequirePattern.rule host key (.text written) (.function strategy) priority message =
      match host.compile written with
      | .ok search => .ok
          { id := "pattern-" ++ key, priority
            checks := RequirePattern.checks key search strategy
              (message.getD (RequirePattern.defaultMessage key)) }
      | .error (.invalid reason) =>
          .error (.rule ⟨"pattern-" ++ key, .invalidPattern written reason⟩)
      | .error (.other fault) => .error fault := by
  cases hcompile : host.compile written with
  | ok search =>
    simp only [RequirePattern.rule, RequirePattern.Source.read, hcompile]
    rfl
  | error failure =>
    simp only [RequirePattern.rule, RequirePattern.Source.read, hcompile]
    cases failure <;> rfl

theorem refused_of_ne {fault : Fault} (h : ∀ e, fault ≠ .rule e) :
    refused refuse fault = fault := by
  unfold refused
  split
  · exact absurd rfl (h _)
  · rfl

/-- What all kinds share is read as the options give it. -/
theorem Shares.reads (shares : Shares kind options s priority message) :
    strategyOf kind options = .ok s ∧
      optionOr options "priority" none (intOption kind "priority") = .ok priority ∧
      optionOr options "message" none (stringOption kind "message") = .ok message :=
  ⟨strategyOf_eq_ok_iff.mpr shares.strategy, intOr_eq_ok_iff.mpr shares.priority,
    stringOr_eq_ok_iff.mpr shares.message⟩

theorem outcome_of_unique (shares : Shares .unique options s priority message) :
    Outcome (τ := τ) host refuse .unique options (ruleOf host refuse .unique options) := by
  obtain ⟨hstrategy, hpriority, hmessage⟩ := shares.reads
  unfold ruleOf
  rw [hstrategy, hpriority, hmessage]
  have hkey : "key" ∈ constraintNames := by decide
  cases hread : optionOr options "constraint" (some "key") (stringOption .unique "constraint") with
  | error cause =>
    refine .of_not_declares (optionOr_quotes stringOption_quotes hread) (by simp) fun r hr => ?_
    cases hr with
    | unique _ constraint =>
      obtain ⟨-, hgiven⟩ := (given_oneOf_iff hkey).mp constraint
      cases hread.symm.trans (stringOr_eq_ok_iff.mpr hgiven)
  | ok constraint =>
    show Outcome _ _ _ _ ((Unique.rule host (.ofValue (textOrNull constraint))
      (.function s.unique) (intOrNull priority)).mapError (refused refuse))
    by_cases hknown : ∃ c ∈ constraintNames, constraint = some c
    · obtain ⟨c, hc, rfl⟩ := hknown
      rw [textOrNull, rule_unique_known hc]
      have hgiven := stringOr_eq_ok_iff.mp hread
      refine .built (.unique shares ((given_oneOf_iff hkey).mpr ⟨hc, hgiven⟩)) fun hlong => ?_
      cases hlong.count_kind
    · rw [rule_unique_unknown fun c hc h => hknown ⟨c, hc, h⟩]
      refine .of_not_declares (.of_none rfl) (by simp) fun r hr => ?_
      cases hr with
      | unique _ constraint =>
        obtain ⟨hc, hgiven⟩ := (given_oneOf_iff hkey).mp constraint
        have h := hread.symm.trans (stringOr_eq_ok_iff.mpr hgiven)
        exact hknown ⟨_, hc, Except.ok.inj h⟩

theorem outcome_of_maxCount (shares : Shares .maxCount options s priority message) :
    Outcome (τ := τ) host refuse .maxCount options (ruleOf host refuse .maxCount options) := by
  obtain ⟨hstrategy, hpriority, hmessage⟩ := shares.reads
  unfold ruleOf
  rw [hstrategy, hpriority, hmessage]
  cases hfield : optionOr options "field" (some "*") (stringOption .maxCount "field") with
  | error cause =>
    refine .of_not_declares (optionOr_quotes stringOption_quotes hfield) (by simp) fun r hr => ?_
    cases hr with
    | maxCount _ _ field => cases hfield.symm.trans (stringOr_eq_ok_iff.mpr field)
  | ok key =>
    cases hmax : requiredOption .maxCount options "max" (intOption .maxCount "max") with
    | error cause =>
      refine .of_not_declares (requiredOption_quotes intOption_quotes hmax) (by simp)
        fun r hr => ?_
      cases hr with
      | maxCount _ max _ => cases hmax.symm.trans (requiredInt_eq_ok_iff.mpr max)
    | ok most =>
      show Outcome _ _ _ _ ((MaxCount.rule host (.ofValue (textOrNull key)) most
        (.function s.maxCount) (intOrNull priority) message).mapError (refused refuse))
      have hmost := requiredInt_eq_ok_iff.mp hmax
      have hkey := stringOr_eq_ok_iff.mp hfield
      rw [rule_maxCount]
      by_cases hlong : Decimal.leastLong ≤ MaxCount.limit most
      · rw [if_pos hlong]
        exact .limit (.maxCount shares hmost hkey) ⟨rfl, most, hmost, hlong⟩
      · rw [if_neg hlong]
        refine .built (.maxCount shares hmost hkey) fun ⟨_, most', hmost', hlong'⟩ => ?_
        cases hmost.symm.trans hmost'
        exact hlong hlong'

theorem outcome_of_pattern (shares : Shares .pattern options s priority message) :
    Outcome (τ := τ) host refuse .pattern options (ruleOf host refuse .pattern options) := by
  obtain ⟨hstrategy, hpriority, hmessage⟩ := shares.reads
  unfold ruleOf
  rw [hstrategy, hpriority, hmessage]
  cases hfield : requiredOption .pattern options "field" (stringOption .pattern "field") with
  | error cause =>
    refine .placed cause (requiredOption_quotes stringOption_quotes hfield) (fun r hr => ?_)
      fun fault hfault => ?_
    · cases hr with
      | pattern _ field _ _ => cases hfield.symm.trans (requiredString_eq_ok_iff.mpr field)
    · obtain ⟨key, hkey⟩ := hfault.field
      cases hfield.symm.trans (requiredString_eq_ok_iff.mpr hkey)
  | ok key =>
    cases hread : requiredOption .pattern options "pattern" (stringOption .pattern "pattern") with
    | error cause =>
      refine .placed cause (requiredOption_quotes stringOption_quotes hread) (fun r hr => ?_)
        fun fault hfault => ?_
      · cases hr with
        | pattern _ _ hwritten _ => cases hread.symm.trans (requiredString_eq_ok_iff.mpr hwritten)
      · obtain ⟨written, hwritten, -⟩ := hfault.pattern
        cases hread.symm.trans (requiredString_eq_ok_iff.mpr hwritten)
    | ok written =>
      have hkey := requiredString_eq_ok_iff.mp hfield
      have hwritten := requiredString_eq_ok_iff.mp hread
      show Outcome _ _ _ _ ((RequirePattern.rule host key (.text written) (.function s.value)
        (intOrNull priority) message).mapError (refused refuse))
      rw [rule_pattern_text]
      cases hcompile : host.compile written with
      | ok search =>
        refine .built (.pattern shares hkey hwritten hcompile) fun hlong => ?_
        cases hlong.count_kind
      | error failure =>
        have hnone := not_declares_of_failure (τ := τ) hwritten hcompile
        cases failure with
        | invalid reason =>
          refine .placed (.rule ⟨"pattern-" ++ key, .invalidPattern written reason⟩) (.of_none rfl)
            hnone fun fault hfault => ?_
          cases hfault.failure_eq hwritten hcompile
        | other fault =>
          show Outcome _ _ _ _ (.error (refused refuse fault))
          by_cases hrule : ∃ e, fault = .rule e
          · obtain ⟨e, rfl⟩ := hrule
            refine .placed (.rule e) (.of_none rfl) hnone fun fault hfault => ?_
            cases hfault.failure_eq hwritten hcompile
            exact hfault.unplaced e rfl
          · have hunplaced (e : RuleError) : fault ≠ .rule e := fun h => hrule ⟨e, h⟩
            rw [refused_of_ne hunplaced]
            exact .stray ⟨rfl, ⟨s, priority, message, shares⟩, ⟨key, hkey⟩,
              ⟨written, hwritten, hcompile⟩, hunplaced⟩

/-- Building a rule comes to one of the four. -/
theorem outcome_ruleOf (host : Host) (refuse : ConfigCause → Fault) (kind : RuleKind)
    (options : Entries) :
    Outcome (τ := τ) host refuse kind options (ruleOf host refuse kind options) := by
  cases hstrategy : strategyOf kind options with
  | error cause =>
    unfold ruleOf
    rw [hstrategy]
    refine .of_not_shares (strategyOf_quotes hstrategy) fun s priority message h => ?_
    cases hstrategy.symm.trans h.reads.1
  | ok s =>
    cases hpriority : optionOr options "priority" none (intOption kind "priority") with
    | error cause =>
      unfold ruleOf
      rw [hstrategy, hpriority]
      refine .of_not_shares (optionOr_quotes intOption_quotes hpriority)
        fun s priority message h => ?_
      cases hpriority.symm.trans h.reads.2.1
    | ok priority =>
      cases hmessage : optionOr options "message" none (stringOption kind "message") with
      | error cause =>
        unfold ruleOf
        rw [hstrategy, hpriority, hmessage]
        refine .of_not_shares (optionOr_quotes stringOption_quotes hmessage)
          fun s priority message h => ?_
        cases hmessage.symm.trans h.reads.2.2
      | ok message =>
        have shares : Shares kind options s priority message :=
          ⟨strategyOf_eq_ok_iff.mp hstrategy, intOr_eq_ok_iff.mp hpriority,
            stringOr_eq_ok_iff.mp hmessage⟩
        cases kind with
        | unique => exact outcome_of_unique shares
        | maxCount => exact outcome_of_maxCount shares
        | pattern => exact outcome_of_pattern shares
        | enum =>
          unfold ruleOf
          rw [hstrategy, hpriority, hmessage]
          refine .built (.enum shares) fun hlong => ?_
          cases hlong.count_kind

end

theorem ofName?_eq_some_iff {name : String} {kind : RuleKind} :
    RuleKind.ofName? name = some kind ↔ name = kind.name := by
  unfold RuleKind.ofName?
  split <;> cases kind <;> simp_all [RuleKind.name]

/-! ## Rows of declarations -/

/-- The fault of a declaration that no rule is built from. What is wrong with its options is placed
at its table. -/
inductive Blames (host : Host) (file : Option String) (d : RuleDeclaration) : Fault → Prop
  | placed {cause : ConfigCause} {fault : Fault} (hno : ¬Admissible host d)
      (hplaced : ∀ kind fault, d.kind = .str (RuleKind.name kind) →
        ¬Strays host kind d.options fault)
      (hquotes : Quotes d.options cause)
      (htells : Tells host ⟨cause, ⟨file, some d.table⟩⟩ fault) : Blames host file d fault
  | stray {kind : RuleKind} {fault : Fault} (hkind : d.kind = .str kind.name)
      (h : Strays host kind d.options fault) : Blames host file d fault
  | limit {kind : RuleKind} (hkind : d.kind = .str kind.name)
      (hschema : kind.Schema host d.options) (hlong : Overlong kind d.options) :
      Blames host file d (.unwritten .longInteger)

theorem name_injective : Function.Injective RuleKind.name := by
  intro kind kind' h
  exact Option.some.inj ((ofName?_eq_some_iff.mpr rfl).symm.trans (ofName?_eq_some_iff.mpr h))

theorem buildRule_eq_ruleOf {file : Option String} {d : RuleDeclaration} {kind : RuleKind}
    (hkind : d.kind = .str kind.name) :
    buildRule (τ := τ) host file d =
      ruleOf host (ConfigCause.fault host.writingDepth ⟨file, some d.table⟩) kind d.options := by
  simp only [buildRule, hkind, ofName?_eq_some_iff.mpr rfl]

/-- A limit that cannot be written stops an admissible declaration. -/
theorem buildRule_of_overlong {file : Option String} {d : RuleDeclaration} {kind : RuleKind}
    (hkind : d.kind = .str kind.name) (hschema : kind.Schema host d.options)
    (hlong : Overlong kind d.options) :
    buildRule (τ := τ) host file d = .error (.unwritten .longInteger) := by
  obtain ⟨r, hr⟩ := (schema_iff_exists_declares (τ := τ)).mp hschema
  rw [buildRule_eq_ruleOf hkind]
  have hout := outcome_ruleOf (τ := τ) host
    (ConfigCause.fault host.writingDepth ⟨file, some d.table⟩) kind d.options
  generalize ruleOf (τ := τ) host _ kind d.options = result at hout
  cases hout with
  | built _ hfits => exact absurd hlong hfits
  | placed _ _ hnone _ => exact absurd hr (hnone r)
  | stray h => exact absurd hr (h.not_declares r)
  | limit => rfl

/-- One declaration becomes its rule, or it is not buildable and gets the blame. -/
theorem buildRule_cases (host : Host) (file : Option String) {d : RuleDeclaration}
    (hkind : ∃ name, d.kind = .str name) :
    (∃ r : Rule τ, Buildable host d ∧ Yields host d r ∧ buildRule host file d = .ok r) ∨
      ¬Buildable host d ∧ ∃ fault, Blames host file d fault ∧
        buildRule (τ := τ) host file d = .error fault := by
  obtain ⟨name, hname⟩ := hkind
  cases hof : RuleKind.ofName? name with
  | none =>
    have hunknown (kind : RuleKind) : d.kind ≠ .str kind.name := by
      intro h
      rw [hname, Value.str.injEq, ← ofName?_eq_some_iff, hof] at h
      cases h
    have hno : ¬Admissible host d := fun ⟨kind, hkind, _⟩ => hunknown kind hkind
    have hquotes : Quotes d.options (.unknownKind d.kind RuleKind.names) :=
      .of_writable (fun depth => hname ▸ Value.unwritable?_str depth name) rfl
    refine Or.inr ⟨fun h => hno h.admissible, _,
      .placed hno (fun kind _ h => absurd h (hunknown kind)) hquotes (tells_fault host _), ?_⟩
    simp only [buildRule, hname, hof]
  | some kind =>
    have hd : d.kind = .str kind.name := by rw [hname, ofName?_eq_some_iff.mp hof]
    have hsame {kind' : RuleKind} (h : d.kind = .str kind'.name) : kind' = kind :=
      name_injective (Value.str.inj (h.symm.trans hd))
    have hnot (hnone : ∀ r : Rule τ, ¬Declares host d.options kind r) : ¬Admissible host d := by
      rw [admissible_iff (τ := τ)]
      rintro ⟨r, kind', hkind', hr⟩
      exact hnone r (hsame hkind' ▸ hr)
    have hout := outcome_ruleOf (τ := τ) host
      (ConfigCause.fault host.writingDepth ⟨file, some d.table⟩) kind d.options
    rw [buildRule_eq_ruleOf hd]
    generalize ruleOf (τ := τ) host _ kind d.options = result at hout
    cases hout with
    | @built r h hfits =>
      exact Or.inl ⟨r, ⟨kind, hd, schema_iff_exists_declares.mpr ⟨r, h⟩, hfits⟩, ⟨kind, hd, h⟩, rfl⟩
    | placed cause hquotes hnone hplaced =>
      exact Or.inr ⟨fun h => hnot hnone h.admissible, _,
        .placed (hnot hnone) (fun kind' fault h => hsame h ▸ hplaced fault) hquotes
          (tells_fault host _), rfl⟩
    | stray h =>
      exact Or.inr ⟨fun hb => hnot h.not_declares hb.admissible, _, .stray hd h, rfl⟩
    | @limit r h hlong =>
      refine Or.inr ⟨?_, _, .limit hd (schema_iff_exists_declares.mpr ⟨r, h⟩) hlong, rfl⟩
      rintro ⟨kind', hkind', -, hfits⟩
      exact hfits (hsame hkind' ▸ hlong)

theorem buildRules_eq_mapM (host : Host) (file : Option String) (ds : List RuleDeclaration) :
    buildRules (τ := τ) host file ds = ds.mapM (buildRule host file) := by
  induction ds with
  | nil => rfl
  | cons d ds ih => rw [buildRules, ih, List.mapM_cons]

section

variable {file : Option String} {d : RuleDeclaration} (hkind : ∃ name, d.kind = .str name)
include hkind

theorem yields_of_buildRule {r : Rule τ} (h : buildRule host file d = .ok r) :
    Buildable host d ∧ Yields host d r := by
  rcases buildRule_cases (τ := τ) host file hkind with
    ⟨r', hbuildable, hr', hok⟩ | ⟨-, fault, -, herror⟩
  · cases hok.symm.trans h
    exact ⟨hbuildable, hr'⟩
  · cases herror.symm.trans h

theorem blames_of_buildRule {fault : Fault} (h : buildRule (τ := τ) host file d = .error fault) :
    ¬Buildable host d ∧ Blames host file d fault := by
  rcases buildRule_cases (τ := τ) host file hkind with
    ⟨r, -, -, hok⟩ | ⟨hno, fault', hblames, herror⟩
  · cases hok.symm.trans h
  · cases herror.symm.trans h
    exact ⟨hno, hblames⟩

end

/-- **Built just if buildable**: declarations whose kinds are text are built just if all of them are
admissible and none has a limit that cannot be written. Built, the rules are those of the
declarations, one for each and in order. Otherwise there are none, and the fault is that of the
first declaration which is not buildable. What is wrong with its options is placed at the file and
at its table, whatever it is. Three faults have no place: an option that is wrong and cannot be
quoted, a pattern whose reading fails for something else than its form, and the limit that cannot be
written. -/
theorem builds_or_blames (host : Host) (file : Option String) {ds : List RuleDeclaration}
    (hkinds : ∀ d ∈ ds, ∃ name, d.kind = .str name) :
    ((∃ rules : List (Rule τ), buildRules host file ds = .ok rules) ↔
        ∀ d ∈ ds, Buildable host d) ∧
      (∀ rules : List (Rule τ), buildRules host file ds = .ok rules →
        List.Forall₂ (Yields host) ds rules) ∧
      ∀ fault, buildRules (τ := τ) host file ds = .error fault →
        ∃ i, ∃ hi : i < ds.length, (∀ j, ∀ hj : j < i, Buildable host ds[j]) ∧
          ¬Buildable host ds[i] ∧ Blames host file ds[i] fault := by
  have hbuilt (rules : List (Rule τ)) (h : buildRules host file ds = .ok rules) :
      List.Forall₂ (fun d r => Buildable host d ∧ Yields host d r) ds rules := by
    rw [buildRules_eq_mapM, mapM_eq_ok_iff] at h
    have hall := (List.forall₂_and_left ds rules).mpr ⟨hkinds, h⟩
    exact hall.imp fun d r h => yields_of_buildRule h.1 h.2
  have hblamed (fault : Fault) (h : buildRules (τ := τ) host file ds = .error fault) :
      ∃ i, ∃ hi : i < ds.length, (∀ j, ∀ hj : j < i, Buildable host ds[j]) ∧
        ¬Buildable host ds[i] ∧ Blames host file ds[i] fault := by
    rw [buildRules_eq_mapM] at h
    obtain ⟨i, hi, hfirst, herror⟩ := exists_first_error h
    obtain ⟨hno, hblames⟩ := blames_of_buildRule (hkinds _ (List.getElem_mem hi)) herror
    refine ⟨i, hi, fun j hj => ?_, hno, hblames⟩
    obtain ⟨r, hr⟩ := hfirst j hj
    exact (yields_of_buildRule (hkinds _ (List.getElem_mem _)) hr).1
  refine ⟨⟨?_, fun hall => ?_⟩, fun rules h => (hbuilt rules h).imp fun _ _ => And.right, hblamed⟩
  · rintro ⟨rules, hrules⟩
    exact ((List.forall₂_and_left ds rules).mp (hbuilt rules hrules)).1
  · cases h : buildRules (τ := τ) host file ds with
    | ok rules => exact ⟨rules, rfl⟩
    | error fault =>
      obtain ⟨i, hi, -, hno, -⟩ := hblamed fault h
      exact absurd (hall _ (List.getElem_mem hi)) hno

/-- The second of three declarations has a truth value for a limit. The third one is of no kind, but
nobody gets that far. -/
theorem builds_or_blames_limit :
    let ds : List RuleDeclaration :=
      [⟨.str "unique", [("constraint", .str "exact"), ("priority", .null)], "rules[0]"⟩,
        ⟨.str "max_count", [("max", .bool true)], "rules[1]"⟩, ⟨.str "most", [], "rules[2]"⟩]
    let fault : Fault := .config
      ⟨.wrongOption "max_count" "max" .int (.bool true), ⟨some "search.toml", some "rules[1]"⟩⟩
    (∀ d ∈ ds, ∃ name, d.kind = .str name) ∧
      buildRules (τ := Token) .standard (some "search.toml") ds = .error fault ∧
        ∃ i, ∃ hi : i < ds.length, (∀ j, ∀ hj : j < i, Buildable .standard ds[j]) ∧
          ¬Buildable .standard ds[i] ∧ Blames .standard (some "search.toml") ds[i] fault := by
  intro ds fault
  have hkinds : ∀ d ∈ ds, ∃ name, d.kind = .str name := by simp [ds]
  have hbuild : buildRules (τ := Token) .standard (some "search.toml") ds = .error fault := rfl
  exact ⟨hkinds, hbuild, (builds_or_blames .standard (some "search.toml") hkinds).2.2 fault hbuild⟩

/-- A count limit needs nothing but the number allowed. -/
theorem schema_max (host : Host) (most : Int) :
    RuleKind.maxCount.Schema host [("max", .int most)] :=
  ⟨by simp [List.lookup_cons], by simp [List.lookup_cons], by simp [List.lookup_cons], ⟨_, rfl⟩,
    by simp [List.lookup_cons]⟩

/-- A pattern whose repetition goes beyond what is counted: the declaration is not admissible, but
the fault has neither a file nor a table. And a limit that is admissible, but not built. -/
theorem buildRules_stray :
    let pattern : RuleDeclaration :=
      ⟨.str "pattern", [("field", .str "k"), ("pattern", .str "a\x7b4294967295\x7d")], "rules[0]"⟩
    let limit : RuleDeclaration :=
      ⟨.str "max_count", [("max", .int Decimal.leastLong)], "rules[0]"⟩
    (¬Admissible .standard pattern ∧
      buildRules (τ := Token) .standard (some "search.toml") [pattern] = .error .overflow ∧
      ∀ e, buildRules (τ := Token) .standard (some "search.toml") [pattern] ≠ .error (.config e)) ∧
    Admissible .standard limit ∧
      buildRules (τ := Token) .standard (some "search.toml") [limit] =
        .error (.unwritten .longInteger) := by
  intro pattern limit
  have hno : ¬Admissible .standard pattern := by
    rintro ⟨kind, hkind, hschema⟩
    obtain rfl : RuleKind.pattern = kind := name_injective (Value.str.inj hkind)
    obtain ⟨-, written, search, hwritten, hsearch⟩ := hschema.own
    cases hwritten
    cases hsearch
  have hpattern : buildRules (τ := Token) .standard (some "search.toml") [pattern] =
      .error .overflow := by
    have hbuild : buildRule (τ := Token) .standard (some "search.toml") pattern =
        .error .overflow := rfl
    rw [buildRules, hbuild]
    rfl
  have hkind : limit.kind = .str RuleKind.maxCount.name := rfl
  have hschema : RuleKind.maxCount.Schema .standard limit.options := schema_max .standard _
  have hlong : Overlong .maxCount limit.options :=
    ⟨rfl, _, rfl, Nat.le_of_eq (Int.toNat_natCast _).symm⟩
  have hlimit : buildRules (τ := Token) .standard (some "search.toml") [limit] =
      .error (.unwritten .longInteger) := by
    rw [buildRules, buildRule_of_overlong hkind hschema hlong]
    rfl
  refine ⟨⟨hno, hpattern, fun e h => ?_⟩, ⟨_, hkind, hschema⟩, hlimit⟩
  cases hpattern.symm.trans h

end FilterQuery.Manifest
