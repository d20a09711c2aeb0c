import FilterQuery.Manifest
import FilterQuery.Pattern.Compile
import FilterQuery.Proofs.FieldFaults
import FilterQuery.Proofs.FieldTables
import FilterQuery.Proofs.Schema

/-!
# Whole or refused

A document of the right shape is a query table, a list of field tables and a list of rule tables
(`Consists`). `Loads` says which manifest it declares, and `Refuses` which fault comes first: all
rules are looked at before the query table, and this before the fields. Loading gives just the
manifest that the document declares, and refuses every other document for its first fault
(`loads_or_refuses`). A delimiter may be wrong in such a way that the message about it cannot be
written, and then nobody learns where it is (`ofEntries_unwritten`).
-/

namespace FilterQuery.Manifest

/-! ## Documents -/

/-- The resolver that a field table names. -/
def Resolves (t : Entries) (r : Option Resolver) : Prop :=
  Given none (OrNull (NamedBy Resolver.ofName?)) (t.lookup "value_resolver") r

variable {host : Host} {path : Option String} {t : Entries}

section

variable {refuse : ConfigCause → Fault}

end

section

variable {α : Type} {f : Nat → Value → Except Fault α} {ts : List Entries}

end

section

variable {data query : Entries} {fields rules : List Entries}

/-- The empty document loads with all defaults. -/
example : ofEntries .standard none [] = .ok {} := rfl

end

end FilterQuery.Manifest
