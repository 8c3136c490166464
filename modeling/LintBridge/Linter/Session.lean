import LintBridge.Linter.Correction

/-!
One linter and the calls that are under way on it.

Each step is a step of one call, or a change from outside; steps of different calls may follow one another in
any order. `ready` lists the calls that need nothing from outside to go on.
-/

set_option autoImplicit false
set_option relaxedAutoImplicit false

namespace LintBridge

inductive Task
  /-- Whether a directory's bundle has RuboCop. -/
  | lookUp (dir : Path)
  /-- A run of a program, with its key if it has one. -/
  | run (request : Request)
  /-- A run of a program by one who waits at intervals; its key does not count. -/
  | runBlocking (request : Request)
  | analyze (buffer : Buffer)
  | correct (buffer : Buffer) (trigger : Trigger)

/-- A call under way, or over. -/
inductive Activity
  | lookup (inquiry : Bundler.Inquiry)
  | running (ticket : Option Ticket)
  | ran (result : RunResult)
  | analysis (analysis : Analysis)
  | correction (correction : Correction)

namespace Activity

def isOver : Activity → Bool
  | .lookup (.answered _) => true
  | .ran _ => true
  | .analysis (.finished _) => true
  | .correction (.finished _) => true
  | _ => false

def awaitedAnswer? : Activity → Option Nat
  | .lookup (.waiting n) => some n
  | .analysis (.asking _ (.waiting n)) => some n
  | .correction (.asking _ _ (.waiting n)) => some n
  | _ => none

def ticket? : Activity → Option Ticket
  | .running t => t
  | .analysis (.running _ t) => some t
  | _ => none

/-- The signal that the call can go on with at once. -/
def readySignal? (l : Linter) (a : Activity) : Option Signal :=
  match a.awaitedAnswer?, a.ticket? with
  | some n, _ => (l.bundles.awaited? n).map fun _ => .answerKnown
  | _, some t => if l.registry.isDismissed t then some (.programEnded .stopped) else none
  | none, none => none

def concludeRun (ticket : Option Ticket) (e : Ending) (l : Linter) : Progress Activity :=
  match ticket with
  | none => ⟨l, .ran e.result, e.notices.map .notify⟩
  | some t =>
    let (result, registry) := l.registry.conclude t e
    ⟨{ l with registry := registry }, .ran result, e.notices.map .notify⟩

/-- Starts the program of a run that has its ticket, if it is to have one. -/
def startRun (s : Surroundings) (manner : Manner) (r : Request) (ticket : Option Ticket) (l : Linter) :
    Progress Activity :=
  match s.startFault r with
  | some e => concludeRun ticket (.failed (.spawn r.program e.message)) l
  | none => ⟨l, .running ticket, [.start manner r]⟩

def start (s : Surroundings) (t : Task) (l : Linter) : Progress Activity :=
  match t with
  | .lookUp dir =>
    let (i, bundles, probe) := l.bundles.ask s dir
    ⟨{ l with bundles := bundles }, .lookup i, probe.toList.map (.start .probed)⟩
  | .run r =>
    match r.key with
    | none => startRun s .awaited r none l
    | some key =>
      let (ticket, registry) := l.registry.take key
      startRun s .awaited r (some ticket) { l with registry := registry }
  | .runBlocking r => startRun s .polled r none l
  | .analyze b =>
    let p := Analysis.start s b l
    ⟨p.linter, .analysis p.state, p.effects⟩
  | .correct b trigger =>
    let p := Correction.start s b trigger l
    ⟨p.linter, .correction p.state, p.effects⟩

/-- The next step of a call, when what it waits for has come. Nothing happens at any other signal. -/
def step (s : Surroundings) (signal : Signal) (a : Activity) (l : Linter) : Progress Activity :=
  match a, signal with
  | .lookup (.probing n), .probeEnded ok =>
    ⟨{ l with bundles := l.bundles.probed n ok }, .lookup (.answered ok), []⟩
  | .lookup (.waiting n), .answerKnown =>
    match l.bundles.awaited? n with
    | some bundled => ⟨l, .lookup (.answered bundled), []⟩
    | none => ⟨l, a, []⟩
  | .running ticket, .programEnded e =>
    if e = .stopped ∧ ticket.all (fun t => !l.registry.isDismissed t) then ⟨l, a, []⟩
    else concludeRun ticket e l
  | .analysis x, signal =>
    let p := x.step s signal l
    ⟨p.linter, .analysis p.state, p.effects⟩
  | .correction x, signal =>
    let p := x.step s signal l
    ⟨p.linter, .correction p.state, p.effects⟩
  | _, _ => ⟨l, a, []⟩

end Activity

/-- A linter with the calls on it, by number. -/
structure Session where
  linter : Linter
  calls : List (Nat × Activity)

/-- What may happen to a session. -/
inductive SessionEvent
  /-- A call begins, under a new number. -/
  | call (number : Nat) (task : Task)
  /-- What a call waits for has come. -/
  | signal (number : Nat) (signal : Signal)
  /-- A call's outcome has been taken, and the call is forgotten. -/
  | forget (number : Nat)
  | configure (config : Config)
  | setRoot (root : Option Path)
  | remember (dir : Path) (bundled : Bool)

namespace Session

def ofLinter (l : Linter) : Session := ⟨l, []⟩

/-- The session after a step of call `number`, and what the step does. -/
def settle (s : Session) (number : Nat) (p : Progress Activity) : Session × List Effect :=
  (⟨p.linter, Keyed.put number p.state s.calls⟩, p.effects)

def step (around : Surroundings) (s : Session) : SessionEvent → Session × List Effect
  | .call number task => s.settle number (Activity.start around task s.linter)
  | .signal number signal =>
    match Keyed.get? number s.calls with
    | none => (s, [])
    | some a => s.settle number (a.step around signal s.linter)
  | .forget number => ({ s with calls := Keyed.erase number s.calls }, [])
  | .configure c => ({ s with linter := { s.linter with config := c } }, [])
  | .setRoot root => ({ s with linter := { s.linter with root := root } }, [])
  | .remember dir bundled =>
    ({ s with linter := { s.linter with bundles := s.linter.bundles.remember dir bundled } }, [])

/-- The calls that can go on at once, and the signals that they go on with. -/
def ready (s : Session) : List (Nat × Signal) :=
  s.calls.filterMap fun (number, a) => (a.readySignal? s.linter).map (number, ·)

def call? (s : Session) (number : Nat) : Option Activity := Keyed.get? number s.calls

end Session
end LintBridge
