import LintBridge.Diagnostic.Basic
import LintBridge.Json.Record

/-!
Diagnostics in JSON, written and read.

A range is the list of its two ends, each a list of line and column. A diagnostic without a cop has no key
for it; one without a link has null there.
-/

set_option autoImplicit false
set_option relaxedAutoImplicit false

namespace LintBridge

open Json (Field Record Shape Value)

namespace Position

def toJson (p : Position) : Value :=
  .array [.number (.integer p.line.toNat), .number (.integer p.column.toNat)]

def shape : Shape Position := (Shape.pair .word32).map fun p => ⟨p.1, p.2⟩

end Position

namespace Range

def toJson (r : Range) : Value := .array [r.start.toJson, r.stop.toJson]

def shape : Shape Range := (Shape.pair Position.shape).map fun r => ⟨r.1, r.2⟩

end Range

/-- The fields of a place in a file, as far as they are there. -/
structure LocationFields where
  file : Option Path
  range : Option Range

def locationRecord : Record LocationFields (Path × Range) where
  name := "struct Location"
  fields :=
    [.of "file" ((Shape.textNamed "path string").map Path.mk) fun v s => { s with file := some v },
     .of "position" Range.shape fun v s => { s with range := some v }]
  start := ⟨none, none⟩
  finish s := do
    let file ← Record.required "file" s.file
    let range ← Record.required "position" s.range
    pure (file, range)

/-- The fields of a diagnostic, as far as they are there. -/
structure DiagnosticFields where
  cop : Option String
  url : Option String
  excerpt : Option String
  severity : Option Severity
  location : Option (Path × Range)

namespace Diagnostic

def record : Record DiagnosticFields Diagnostic where
  name := "struct Diagnostic"
  fields :=
    [.of "cop_name" (.optional .text) fun v s => { s with cop := v },
     .of "url" (.optional .text) fun v s => { s with url := v },
     .of "excerpt" .text fun v s => { s with excerpt := some v },
     .of "severity" (.oneOf Severity.named) fun v s => { s with severity := some v },
     .of "location" locationRecord.shape fun v s => { s with location := some v }]
  start := ⟨none, none, none, none, none⟩
  finish s := do
    let excerpt ← Record.required "excerpt" s.excerpt
    let severity ← Record.required "severity" s.severity
    let location ← Record.required "location" s.location
    pure ⟨s.cop, s.url, excerpt, severity, location.1, location.2⟩

def shape : Shape Diagnostic := record.shape

/-- The members of a diagnostic, to which others may be added. -/
def jsonMembers (d : Diagnostic) : List (String × Value) :=
  (match d.cop with
    | some cop => [("cop_name", .text cop)]
    | none => []) ++
  [("url", d.url.elim .null .text),
   ("excerpt", .text d.excerpt),
   ("severity", .text d.severity.name),
   ("location", .ofMembers [("file", .text d.file.text), ("position", d.range.toJson)])]

def toJson (d : Diagnostic) : Value := .ofMembers d.jsonMembers

end Diagnostic
end LintBridge
