import LintBridge.Linter.Basic
import LintBridge.Offense.Diagnostic
import LintBridge.Report.Read

/-!
Linting one buffer, in steps.

An analysis may have to wait twice: until it is known whether the directory's bundle has RuboCop, and for
RuboCop itself. Between its steps, other calls take theirs, and the configuration may change; what has been
planned stays.
-/

set_option autoImplicit false
set_option relaxedAutoImplicit false

namespace LintBridge

inductive Signal
  /-- The probe that the call has started is over. -/
  | probeEnded (succeeded : Bool)
  /-- Another call's probe is over. -/
  | answerKnown
  /-- The call's program has come to its end. -/
  | programEnded (ending : Ending)
  /-- The file or the document that the call asks for can be had. -/
  | arrived
  deriving DecidableEq, Repr

/-- The outcome of one step of a call. -/
structure Progress (α : Type) where
  linter : Linter
  state : α
  effects : List Effect

/-- How far an analysis has come. -/
inductive Analysis
  | asking (plan : Plan) (inquiry : Bundler.Inquiry)
  | running (file : Path) (ticket : Ticket)
  /-- No diagnostics at all mean that what has been shown before stays. -/
  | finished (found : Option (List Diagnostic))

def Output.diagnostics (o : Output) (file : Path) : Except Problem (List Diagnostic) := do
  let report ← Report.read o.stdout o.stderr
  match report.version? with
  | none => .error .missingVersion
  | some version => .ok (diagnosticsOf version file report.offenses)

namespace Analysis

def key (file : Path) : String := "linter-rubocop::" ++ file.text

/-- The diagnostics for what the tool has printed. If that is of no use, the reason is the only one. -/
def ofOutput (file : Path) (o : Output) : List Diagnostic :=
  match o.diagnostics file with
  | .ok ds => ds
  | .error p => [.topOfFile file p.message]

def ofResult (file : Path) : RunResult → Option (List Diagnostic) × List Notice
  | .ok (some o) => (some (ofOutput file o), [])
  | .ok none => (none, [])
  | .error p => (none, [.unexpected p])

/-- The program has come to its end: the run's result counts if no newer one has taken the key. -/
def conclude (file : Path) (t : Ticket) (e : Ending) (l : Linter) : Progress Analysis :=
  let (result, registry) := l.registry.conclude t e
  let (found, notices) := ofResult file result
  ⟨{ l with registry := registry }, .finished found, (e.notices ++ notices).map .notify⟩

/-- Starts the tool. A command that cannot be used is reported at the top of the file. -/
def launch (s : Surroundings) (p : Plan) (useBundler : Bool) (l : Linter) : Progress Analysis :=
  match p.request useBundler (some (key p.file)) with
  | .error e => ⟨l, .finished (some [.topOfFile p.file e.message]), []⟩
  | .ok request =>
    let (ticket, registry) := l.registry.take (key p.file)
    let l := { l with registry := registry }
    match s.startFault request with
    | some e => conclude p.file ticket (.failed (.spawn request.program e.message)) l
    | none => ⟨l, .running p.file ticket, [.start .awaited request]⟩

/-- Goes on with an inquiry, or past it. -/
def afterAsking (s : Surroundings) (p : Plan) (i : Bundler.Inquiry) (probe : Option Request) (l : Linter) :
    Progress Analysis :=
  match i with
  | .answered bundled => launch s p bundled l
  | i => ⟨l, .asking p i, probe.toList.map (.start .probed)⟩

/-- The arguments and the input for a buffer. The tool reads edits, and takes a stored file from its place. -/
def source (b : Buffer) (file : Path) : List String × Option String :=
  if b.modified then (["--stdin", file.text], some b.text) else ([file.text], none)

def start (s : Surroundings) (b : Buffer) (l : Linter) : Progress Analysis :=
  match b.path with
  | none => ⟨l, .finished none, []⟩
  | some file =>
    let (extra, input) := source b file
    match l.plan? s.files file extra input with
    | none => ⟨l, .finished (some []), []⟩
    | some p =>
      if p.config.useBundler then launch s p true l
      else if p.config.detectBundler then
        let (i, bundles, probe) := l.bundles.ask s p.cwd
        afterAsking s p i probe { l with bundles := bundles }
      else launch s p false l

/-- The next step, when what the analysis waits for has come. Nothing happens at any other signal. -/
def step (s : Surroundings) (signal : Signal) (a : Analysis) (l : Linter) : Progress Analysis :=
  match a, signal with
  | .asking p (.probing n), .probeEnded ok => launch s p ok { l with bundles := l.bundles.probed n ok }
  | .asking p (.waiting n), .answerKnown =>
    match l.bundles.awaited? n with
    | some bundled => launch s p bundled l
    | none => ⟨l, a, []⟩
  | .running file t, .programEnded e =>
    if e = .stopped ∧ l.registry.isDismissed t = false then ⟨l, a, []⟩ else conclude file t e l
  | _, _ => ⟨l, a, []⟩

def found? : Analysis → Option (Option (List Diagnostic))
  | .finished found => some found
  | _ => none

end Analysis
end LintBridge
