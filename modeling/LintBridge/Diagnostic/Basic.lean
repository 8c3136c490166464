import LintBridge.Path

/-!
Diagnostics: what an editor or a terminal shows about a place of a file.
-/

set_option autoImplicit false
set_option relaxedAutoImplicit false

namespace LintBridge

inductive Severity
  | error
  | warning
  | info
  deriving DecidableEq, Repr

namespace Severity

def default : Severity := .error

/-- The severity for a name in a report. Names that are not known are errors, and so is no name. -/
def ofReport : Option String → Severity
  | some "refactor" => .info
  | some "convention" => .info
  | some "warning" => .warning
  | _ => .error

def rank : Severity → Nat
  | .error => 0
  | .warning => 1
  | .info => 2

def name : Severity → String
  | .error => "error"
  | .warning => "warning"
  | .info => "info"

def named : List (String × Severity) := [("error", .error), ("warning", .warning), ("info", .info)]

/-- Severities in their order; equal ones keep their places. -/
def sort (all : List Severity) : List Severity := all.mergeSort fun a b => a.rank ≤ b.rank

end Severity

/-- A place in a text: line and column, counted from zero. -/
structure Position where
  line : UInt32
  column : UInt32
  deriving DecidableEq, Repr

/-- Whether the first place does not come after the second. -/
def Position.upTo (a b : Position) : Bool :=
  a.line < b.line || (a.line == b.line && a.column ≤ b.column)

structure Range where
  start : Position
  stop : Position
  deriving DecidableEq, Repr

def Range.topOfFile : Range := ⟨⟨0, 0⟩, ⟨0, 1⟩⟩

/-- Whether a place lies in a range; both ends do. -/
def Range.contains (r : Range) (p : Position) : Bool := r.start.upTo p && p.upTo r.stop

structure Diagnostic where
  /-- The cop that found it; there is none for what the linter itself has to say. -/
  cop : Option String
  /-- A link to the rule. -/
  url : Option String
  /-- The message. -/
  excerpt : String
  severity : Severity
  file : Path
  range : Range
  deriving DecidableEq, Repr

def secureScheme : List Char := "https://".toList

/-- The part of a link to the style guide that names a rule: what comes after its last `#`. -/
def ruleAnchor? (url : String) : Option String :=
  let cs := url.toList
  if secureScheme.isPrefixOf cs && cs.contains '#' then
    match (cs.reverse.takeWhile (· != '#')).reverse with
    | [] => none
    | anchor => some (String.ofList anchor)
  else none

namespace Diagnostic

/-- An error at the top of a file, for what keeps the file from being linted. -/
def topOfFile (file : Path) (message : String) : Diagnostic where
  cop := none
  url := none
  excerpt := message
  severity := .error
  file := file
  range := .topOfFile

def anchor? (d : Diagnostic) : Option String := d.url.bind ruleAnchor?

end Diagnostic
end LintBridge
