import LintBridge.Process.Run
import LintBridge.Text.Utf8

/-!
The course of a started program in time, and what the two ways of waiting for it make of that.

A program ends at one moment, and its output is complete when the last process that holds its pipes closes
them, which may be later. `awaited` wants both before the time is up. `polled` looks only for the end, at
regular moments, and then waits for the output however long it takes.
-/

set_option autoImplicit false
set_option relaxedAutoImplicit false

namespace LintBridge

/-- What a started program does, with moments in milliseconds from its start. -/
structure Course where
  stdout : List UInt8
  stderr : List UInt8
  /-- There is no exit code for a program that a signal has ended. -/
  exitCode : Option Int32
  /-- When the program ends, if it does. -/
  endsAt : Option Nat
  /-- How much later its output is complete, if it ever is. -/
  lingers : Option Nat
  deriving DecidableEq, Repr

namespace Course

/-- What the program leaves behind. Bytes that are no text are shown as such. -/
def output (c : Course) : Output where
  stdout := String.ofList (Text.decodeLossy c.stdout)
  stderr := String.ofList (Text.decodeLossy c.stderr)
  exitCode := c.exitCode

def completeAt (c : Course) : Option Nat := do
  let e ← c.endsAt
  let l ← c.lingers
  pure (e + l)

/-- The ending for one who waits for the end and the output together. -/
def awaited (c : Course) (timeoutMs : Nat) : Ending :=
  match c.completeAt with
  | none => .timedOut
  | some t => if t ≤ timeoutMs then .output c.output else .timedOut

/-- How many milliseconds lie between two looks at a program. -/
def pollInterval : Nat := 10

def lastLook (timeoutMs : Nat) : Nat := (timeoutMs + pollInterval - 1) / pollInterval * pollInterval

/-- The ending for one who looks for the end at intervals, and takes the output after that. There is none if
the program ends in time, but its output never does. -/
def polled (c : Course) (timeoutMs : Nat) : Option Ending :=
  match c.endsAt with
  | none => some .timedOut
  | some t =>
    if t ≤ lastLook timeoutMs then c.lingers.map fun _ => .output c.output else some .timedOut

end Course
end LintBridge
