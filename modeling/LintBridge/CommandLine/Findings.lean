import LintBridge.CommandLine.Arguments
import LintBridge.Correction.Summary
import LintBridge.Diagnostic.Json
import LintBridge.Json.Writer

/-!
Printing what a lint has found, and what that means for the exit code.
-/

set_option autoImplicit false
set_option relaxedAutoImplicit false

namespace LintBridge.CommandLine

/-- A diagnostic, with the rule's text if it is known. -/
structure Finding where
  diagnostic : Diagnostic
  description : Option String
  deriving DecidableEq, Repr

/-- A line without the carriage return that belongs to its break. -/
def withoutReturn (line : List Char) : List Char :=
  if line.getLast? = some '\r' then line.dropLast else line

/-- The lines of a text. A final line feed opens no further line, and a carriage return before a line feed
belongs to the break. -/
def linesOf (s : String) : List String :=
  let parts := Text.lineRuns s.toList
  let last := String.ofList (parts.getLast?.getD [])
  (parts.dropLast.map fun l => String.ofList (withoutReturn l)) ++ if last.isEmpty then [] else [last]

def positionText (p : Position) : String :=
  toString (p.line + 1).toNat ++ ":" ++ toString (p.column + 1).toNat

def findingText (file : Path) (f : Finding) : String :=
  file.text ++ ":" ++ positionText f.diagnostic.range.start ++ ": " ++ f.diagnostic.severity.name ++
    ": " ++ f.diagnostic.excerpt ++ "\n" ++
    (f.diagnostic.url.elim "" fun u => "  " ++ u ++ "\n") ++
    (f.description.elim "" fun d => String.join ((linesOf d).map fun l => "    " ++ l ++ "\n"))

def renderText (file : Path) (findings : List Finding) : String :=
  String.join (findings.map (findingText file)) ++ "\nChecked " ++ file.text ++ ", found " ++
    counted findings.length "offense" ++ "\n"

def Finding.toJson (f : Finding) : Json.Value :=
  .ofMembers
    (f.diagnostic.jsonMembers ++
      match f.description with
      | some d => [("description", .text d)]
      | none => [])

def renderJson (file : Path) (findings : List Finding) : String :=
  (Json.Value.ofMembers
    [("path", .text file.text), ("diagnostics", .array (findings.map Finding.toJson))]).pretty

def render (format : Format) (file : Path) (findings : List Finding) : String :=
  match format with
  | .text => renderText file findings
  | .json => renderJson file findings ++ "\n"

/-- The exit code where nothing can be said about the file. -/
def failureCode : Nat := 2

/-- The exit code after a lint: one, if there are errors. -/
def lintCode (found : Option (List Diagnostic)) : Nat :=
  match found with
  | none => failureCode
  | some ds => if ds.any fun d => d.severity == .error then 1 else 0

/-- The exit code after a correction: one, if offenses remain. -/
def fixCode (summary : Option FixSummary) : Nat :=
  match summary with
  | none => failureCode
  | some s => if s.outcome = .partlyCorrected then 1 else 0

def noticeLines (n : Notice) : List String :=
  (n.kind.name ++ ": " ++ n.message) ::
    (n.description.elim [] fun d => (linesOf d).map fun l => "  " ++ l)

end LintBridge.CommandLine
