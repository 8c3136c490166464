import LintBridge.Correction.Summary
import LintBridge.Linter.Analysis

/-!
Correcting one file in its place, in steps.

A correction looks at the stored file only, so a buffer with edits is refused. It has no key: nothing
replaces it.
-/

set_option autoImplicit false
set_option relaxedAutoImplicit false

namespace LintBridge

/-- How far a correction has come. -/
inductive Correction
  | asking (plan : Plan) (trigger : Trigger) (inquiry : Bundler.Inquiry)
  | running (trigger : Trigger)
  | finished (summary : Option FixSummary)

def Buffer.refusal? (b : Buffer) : Option Notice :=
  if b.modified then some (.plain .error "Linter-Rubocop: Please save before fix file")
  else if b.text.isEmpty then some (.plain .error "Linter-Rubocop: Nothing to fix in an empty file")
  else none

def Report.summary (r : Report) : FixSummary := ⟨r.offenseCount, UInt64.ofNat r.correctedCount⟩

namespace Correction

def arguments (file : Path) : List String := ["--auto-correct", file.text]

/-- A correction that ends without a summary. -/
def gaveUp (notices : List Notice) (l : Linter) : Progress Correction :=
  ⟨l, .finished none, notices.map .notify⟩

def ofResult (trigger : Trigger) : RunResult → Option FixSummary × List Notice
  | .ok none => (none, [])
  | .error p => (none, [.unexpected p])
  | .ok (some o) =>
    match Report.read o.stdout o.stderr with
    | .error p => (none, [.failure "Rubocop: Parse error" p.message])
    | .ok r => (some r.summary, r.summary.notices trigger)

def conclude (trigger : Trigger) (e : Ending) (l : Linter) : Progress Correction :=
  let (summary, notices) := ofResult trigger e.result
  ⟨l, .finished summary, (e.notices ++ notices).map .notify⟩

def launch (s : Surroundings) (p : Plan) (trigger : Trigger) (useBundler : Bool) (l : Linter) :
    Progress Correction :=
  match p.request useBundler none with
  | .error e => gaveUp [.unexpected e] l
  | .ok request =>
    match s.startFault request with
    | some e => conclude trigger (.failed (.spawn request.program e.message)) l
    | none => ⟨l, .running trigger, [.start .polled request]⟩

/-- Goes on with an inquiry, or past it. -/
def afterAsking (s : Surroundings) (p : Plan) (trigger : Trigger) (i : Bundler.Inquiry)
    (probe : Option Request) (l : Linter) : Progress Correction :=
  match i with
  | .answered bundled => launch s p trigger bundled l
  | i => ⟨l, .asking p trigger i, probe.toList.map (.start .probed)⟩

def start (s : Surroundings) (b : Buffer) (trigger : Trigger) (l : Linter) : Progress Correction :=
  match b.path with
  | none => gaveUp [] l
  | some file =>
    match b.refusal? with
    | some notice => gaveUp [notice] l
    | none =>
      match l.plan? s.files file (arguments file) none with
      | none => gaveUp [] l
      | some p =>
        if p.config.useBundler then launch s p trigger true l
        else if p.config.detectBundler then
          let (i, bundles, probe) := l.bundles.ask s p.cwd
          afterAsking s p trigger i probe { l with bundles := bundles }
        else launch s p trigger false l

/-- The next step, when what the correction waits for has come. Nothing happens at any other signal. -/
def step (s : Surroundings) (signal : Signal) (c : Correction) (l : Linter) : Progress Correction :=
  match c, signal with
  | .asking p trigger (.probing n), .probeEnded ok =>
    launch s p trigger ok { l with bundles := l.bundles.probed n ok }
  | .asking p trigger (.waiting n), .answerKnown =>
    match l.bundles.awaited? n with
    | some bundled => launch s p trigger bundled l
    | none => ⟨l, c, []⟩
  | .running trigger, .programEnded e =>
    if e = .stopped then ⟨l, c, []⟩ else conclude trigger e l
  | _, _ => ⟨l, c, []⟩

def summary? : Correction → Option (Option FixSummary)
  | .finished summary => some summary
  | _ => none

end Correction
end LintBridge
