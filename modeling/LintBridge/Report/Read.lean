import LintBridge.Json.Record
import LintBridge.Problem
import LintBridge.Report.Basic

/-!
Reading a report from what the tool has printed.

Everything in a report may be left out and has a default. What is not a JSON object at all is not a report
but the tool's own complaint, and is passed on in its words.
-/

set_option autoImplicit false
set_option relaxedAutoImplicit false

namespace LintBridge

open Json (Field Record Shape Value)

def Spot.record : Record Spot Spot where
  name := "struct OffenseLocation"
  fields :=
    [.filling "line" .word32 fun v s => { s with line := v },
     .filling "column" .word32 fun v s => { s with column := v },
     .filling "length" .word32 fun v s => { s with length := v }]
  start := Spot.empty
  finish := .ok

def Offense.record : Record Offense Offense where
  name := "struct Offense"
  fields :=
    [.filling "message" .text fun v o => { o with message := v },
     .filling "location" (.optional Spot.record.shape) fun v o => { o with spot := v },
     .filling "severity" (.optional .text) fun v o => { o with severity := v },
     .filling "cop_name" .text fun v o => { o with cop := v },
     .filling "corrected" .bool fun v o => { o with corrected := v }]
  start := Offense.empty
  finish := .ok

def FileReport.record : Record FileReport FileReport where
  name := "struct FileReport"
  fields :=
    [.filling "path" (.optional .text) fun v f => { f with path := v },
     .filling "offenses" (.list Offense.record.shape) fun v f => { f with offenses := v }]
  start := FileReport.empty
  finish := .ok

def metadataRecord : Record (Option String) (Option String) where
  name := "struct Metadata"
  fields := [.filling "rubocop_version" (.optional .text) fun v _ => v]
  start := none
  finish := .ok

/-- The part of a report about the whole run: the number of offenses. -/
def summaryRecord : Record UInt64 UInt64 where
  name := "struct Summary"
  fields := [.filling "offense_count" .word64 fun v _ => v]
  start := 0
  finish := .ok

namespace Report

def record : Record Report Report where
  name := "struct RubocopOutput"
  fields :=
    [.filling "metadata" metadataRecord.shape fun v r => { r with toolVersion := v },
     .filling "files" (.list FileReport.record.shape) fun v r => { r with files := v },
     .filling "summary" summaryRecord.shape fun v r => { r with offenseCount := v }]
  start := Report.empty
  finish := .ok

/-- The tool's own words: what it wrote to its error output, or else to its output. -/
def complaint (output errors : String) : String := if errors.isEmpty then output else errors

def read (output errors : String) : Except Problem Report :=
  match Value.parse output with
  | .ok (.object members) =>
    match record.ofValue (.object members) with
    | .ok r => .ok r
    | .error m => .error (.parse m.message)
  | _ => .error (.parse (complaint output errors))

end Report
end LintBridge
