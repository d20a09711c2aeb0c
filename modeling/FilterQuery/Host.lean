import FilterQuery.Fault

/-!
# The host

What the library finds where it runs and does not settle itself: a reader of patterns, and how deep
data may be nested. Both depend on the host and on how deep it is in its own work when it calls, so
nothing is said about them here.
-/

namespace FilterQuery

/-- Why a written pattern is not read. -/
inductive PatternFailure where
  /-- It is no pattern, for this reason. -/
  | invalid (reason : String)
  /-- Reading it failed for something else. -/
  | other (fault : Fault)
deriving DecidableEq

/-- The failure where the pattern belongs to no rule. -/
def PatternFailure.fault : PatternFailure → Fault
  | .invalid reason => .pattern reason
  | .other fault => fault

structure Host where
  /-- Reads a written pattern; what has been read can be searched for in a text. -/
  compile : String → Except PatternFailure (String → Bool)
  /-- How deep lists and tables may stand inside one another in a document that is read; each of
  them costs some of it. -/
  readingDepth : Nat
  /-- How many lists and tables may stand inside one another in a value that is written. -/
  writingDepth : Nat

end FilterQuery
