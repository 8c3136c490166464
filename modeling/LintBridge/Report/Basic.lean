import LintBridge.Text.Blank

/-!
The report that RuboCop prints about the files it has looked at.
-/

set_option autoImplicit false
set_option relaxedAutoImplicit false

namespace LintBridge

/-- A place in a file as a report gives it: line and column, counted from one, and a length in columns. -/
structure Spot where
  line : UInt32
  column : UInt32
  length : UInt32
  deriving DecidableEq, Repr

structure Offense where
  message : String
  spot : Option Spot
  severity : Option String
  cop : String
  corrected : Bool
  deriving DecidableEq, Repr

/-- What a report says about a file. -/
structure FileReport where
  path : Option String
  offenses : List Offense
  deriving DecidableEq, Repr

structure Report where
  /-- The version of the tool, as it is written. -/
  toolVersion : Option String
  files : List FileReport
  /-- The number of offenses that the tool itself counted. -/
  offenseCount : UInt64
  deriving DecidableEq, Repr

def Spot.empty : Spot := ⟨0, 0, 0⟩

def Offense.empty : Offense := ⟨"", none, none, "", false⟩

def FileReport.empty : FileReport := ⟨none, []⟩

def Report.empty : Report := ⟨none, [], 0⟩

namespace Report

def version? (r : Report) : Option String := r.toolVersion.filter Text.hasInk

/-- The offenses of the first file; a run looks at one file only. -/
def offenses (r : Report) : List Offense :=
  match r.files with
  | [] => []
  | f :: _ => f.offenses

/-- The number of offenses in the first file that the tool has corrected. -/
def correctedCount (r : Report) : Nat := r.offenses.countP fun o => o.corrected

end Report
end LintBridge
