import LintBridge.Diagnostic.Basic
import LintBridge.Offense.Annotation
import LintBridge.Report.Basic
import LintBridge.Version

/-!
The diagnostic for an offense.
-/

set_option autoImplicit false
set_option relaxedAutoImplicit false

namespace LintBridge

/-- How a version of RuboCop words its messages. -/
inductive MessageStyle
  /-- The message begins with the cop's name. -/
  | embedded
  /-- The message comes without the cop's name. -/
  | separate
  deriving DecidableEq, Repr

/-- The first release that writes the cop's name into its messages. -/
def embeddedFrom : Nat × Nat × Nat := (0, 52, 0)

def embeddedUntil : Nat × Nat × Nat := (0, 68, 0)

/-- The style of a version. One that cannot be read is taken for a recent one. -/
def MessageStyle.ofVersion (s : String) : MessageStyle :=
  match Version.parse? s with
  | some v => if !v.isBefore embeddedFrom && v.isBefore embeddedUntil then .embedded else .separate
  | none => .separate

/-- One less, but not below zero. -/
def lowered (n : UInt32) : UInt32 := if n = 0 then 0 else n - 1

/-- The sum, but not above the largest number. -/
def cappedSum (a b : UInt32) : UInt32 := if a.toNat + b.toNat < 4294967296 then a + b else 4294967295

def Spot.range (s : Spot) : Range :=
  let line := lowered s.line
  let column := lowered s.column
  ⟨⟨line, column⟩, ⟨line, cappedSum column s.length⟩⟩

namespace Offense

def range (o : Offense) : Range := o.spot.elim .topOfFile Spot.range

/-- The diagnostic for an offense in `file`. A message without the cop's name gets it in front. -/
def toDiagnostic (style : MessageStyle) (file : Path) (o : Offense) : Diagnostic :=
  let s := Annotation.split o.cop.toList o.message.toList
  let text := String.ofList s.excerpt
  { cop := if o.cop.isEmpty then none else some o.cop
    url := s.link.map String.ofList
    excerpt := if style = .separate ∧ o.cop.isEmpty = false then o.cop ++ ": " ++ text else text
    severity := .ofReport o.severity
    file := file
    range := o.range }

end Offense

/-- The diagnostics for the offenses that a version of the tool has found, in their order. -/
def diagnosticsOf (version : String) (file : Path) (offenses : List Offense) : List Diagnostic :=
  let style := MessageStyle.ofVersion version
  offenses.map fun o => o.toDiagnostic style file

end LintBridge
