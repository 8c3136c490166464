import LintBridge.Json.Value
import LintBridge.Notice

/-!
What a correction of a file has come to.
-/

set_option autoImplicit false
set_option relaxedAutoImplicit false

namespace LintBridge

inductive Trigger
  /-- The user asked for it. -/
  | command
  /-- The file was saved. -/
  | save
  deriving DecidableEq, Repr

inductive FixOutcome
  | noOffenses
  | allCorrected
  | partlyCorrected
  deriving DecidableEq, Repr

/-- The number of offenses, and how many of them are corrected. -/
structure FixSummary where
  offenseCount : UInt64
  corrected : UInt64
  deriving DecidableEq, Repr

/-- A number of things, with the noun in the plural unless there is one. -/
def counted (n : Nat) (noun : String) : String :=
  toString n ++ " " ++ noun ++ if n = 1 then "" else "s"

namespace FixSummary

def outcome (s : FixSummary) : FixOutcome :=
  if s.offenseCount = 0 then .noOffenses
  else if s.offenseCount ≤ s.corrected then .allCorrected
  else .partlyCorrected

def message (s : FixSummary) : String :=
  match s.outcome with
  | .noOffenses => "Linter-Rubocop: No fixes were made"
  | _ =>
    "Linter-Rubocop: Fixed " ++ counted s.corrected.toNat "offense" ++ " of " ++
      toString s.offenseCount.toNat

/-- What the user is told. A save that has found offenses says nothing. -/
def notices (s : FixSummary) (trigger : Trigger) : List Notice :=
  match s.outcome, trigger with
  | .noOffenses, _ => [.plain .info s.message]
  | _, .save => []
  | .allCorrected, .command => [.plain .success s.message]
  | .partlyCorrected, .command => [.plain .info s.message]

def toJson (s : FixSummary) : Json.Value :=
  .ofMembers
    [("offenseCount", .number (.integer s.offenseCount.toNat)),
     ("corrected", .number (.integer s.corrected.toNat))]

end FixSummary
end LintBridge
