import LintBridge.Linter.Analysis
import LintBridge.Process.Course

/-!
Scripted programs: what a program does is laid down beforehand, by rules that look at its arguments.
-/

set_option autoImplicit false
set_option relaxedAutoImplicit false

namespace LintBridge.Scenario

structure Rule where
  /-- The argument for which the rule is meant; without one, it is meant for all. -/
  only : Option String
  stdout : List UInt8
  stderr : List UInt8
  exitCode : UInt8
  /-- Whether a signal ends the program after its output. -/
  aborts : Bool
  /-- Whether the program repeats its input after its output. -/
  echoes : Bool
  readsInput : Bool
  /-- Whether the program never ends. -/
  hangs : Bool
  /-- The gate at which the program waits before it does anything. -/
  gate : Option String
  /-- Whether the call is recorded. -/
  recorded : Bool
  /-- How many milliseconds longer a process that the program leaves behind holds its output. -/
  lingers : Nat
  deriving DecidableEq, Repr

def Rule.idle : Rule := ⟨none, [], [], 0, false, false, true, false, none, true, 0⟩

abbrev Script := List Rule

/-- The rule for some arguments: the first that is meant for all or for one of them. -/
def Script.rule (s : Script) (args : List String) : Rule :=
  (s.find? fun r => r.only.all args.contains).getD .idle

def shortWhile : Nat := 1

/-- The course of a program that follows a rule, from where it is let through its gate. -/
def Rule.course (r : Rule) (input : Option String) : Course where
  stdout := r.stdout ++ if r.echoes && r.readsInput then Text.encode (input.getD "").toList else []
  stderr := r.stderr
  exitCode := if r.aborts then none else some (Int32.ofNat r.exitCode.toNat)
  endsAt := if r.hangs then none else some shortWhile
  lingers := some r.lingers

/-! ### The shell of the system

Of what a shell can do, one thing is known here: to end and leave a process behind. -/

/-- How many seconds the process sleeps that a command leaves behind. -/
def secondsBehind? (command : String) : Option Nat :=
  match (Text.splitWhere (· == ' ') command.toList).map String.ofList with
  | ["/bin/sleep", seconds, "&"] => seconds.toNat?
  | _ => none

/-- What the shell does at a request that leaves a sleeper behind. -/
def shellScript? (r : Request) : Option Script :=
  match r.program, r.args with
  | "/bin/sh", ["-c", command] =>
    (secondsBehind? command).map fun seconds => [{ Rule.idle with recorded := false, lingers := seconds * 1000 }]
  | _, _ => none

end LintBridge.Scenario

namespace LintBridge

/-- The signal for one who waits for a program in some manner; none, if the program keeps him for ever. -/
def Course.signal (c : Course) (m : Manner) (timeoutMs : Nat) : Option Signal :=
  match m with
  | .awaited => some (.programEnded (c.awaited timeoutMs))
  | .polled => (c.polled timeoutMs).map .programEnded
  | .probed =>
    match c.endsAt with
    | none => some (.probeEnded false)
    | some t => some (.probeEnded (t ≤ timeoutMs && c.exitCode == some 0))

def Course.isInTime (c : Course) (m : Manner) (timeoutMs : Nat) : Bool :=
  match m with
  | .awaited => c.completeAt.any fun t => t ≤ timeoutMs
  | .polled => c.endsAt.any fun t => t ≤ Course.lastLook timeoutMs
  | .probed => c.endsAt.any fun t => t ≤ timeoutMs

def Manner.timeUp : Manner → Signal
  | .probed => .probeEnded false
  | _ => .programEnded .timedOut

end LintBridge
