import FilterQuery.Host
import FilterQuery.Pattern.Match
import FilterQuery.Pattern.Parser

/-!
# Patterns for a host

The small language of patterns as a reader of patterns that a host can offer, and a host that offers
it.
-/

namespace FilterQuery

/-- Why a host does not read a pattern. What goes beyond the limits of what is read is no matter of
the pattern's form. -/
def PatternError.failure (pattern : String) (e : PatternError) : PatternFailure :=
  match e.fault with
  | .hugeLimit => .other .overflow
  | .longLimit digits => .other (.longInteger digits)
  | .tooDeep => .other .nesting
  | _ => .invalid (e.message pattern)

/-- Reads a written pattern, where so many groups may stand inside one another. -/
def Pattern.compile (depth : Nat) (pattern : String) : Except PatternFailure (String → Bool) :=
  match Pattern.parse depth pattern with
  | .ok p => .ok p.occursIn
  | .error e => .error (e.failure pattern)

/-- A host with limits of its own choice. -/
def Host.standard : Host where
  compile := Pattern.compile 500
  readingDepth := 1000
  writingDepth := 1000

end FilterQuery
