import LintBridge.Config
import LintBridge.Path

/-!
Requests to run a program.
-/

set_option autoImplicit false
set_option relaxedAutoImplicit false

namespace LintBridge

/-- One run of a program that is asked for. -/
structure Request where
  program : String
  args : List String
  cwd : Path
  /-- What the program reads; without it there is nothing to read. -/
  input : Option String
  timeoutMs : UInt64
  /-- Runs with the same key replace one another; a run without a key is never replaced. -/
  key : Option String
  deriving DecidableEq, Repr

namespace Request

/-- The request to run a command, whose first word is the program. -/
def ofCommand (command : List String) (cwd : Path) : Except Problem Request :=
  match command with
  | [] => .error .noCommand
  | program :: args => .ok ⟨program, args, cwd, none, defaultTimeoutMs, none⟩

end Request

structure Output where
  stdout : String
  stderr : String
  /-- There is no exit code for a program that a signal has ended. -/
  exitCode : Option Int32
  deriving DecidableEq, Repr

end LintBridge
