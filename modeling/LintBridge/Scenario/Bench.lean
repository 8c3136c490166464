import LintBridge.Scenario.Script
import LintBridge.Surroundings

/-!
A bench: files, scripted programs, the programs that run, and a clock.

What has been started is recorded. A program that waits at a gate goes on when the gate is open; gates stay
open.
-/

set_option autoImplicit false
set_option relaxedAutoImplicit false

namespace LintBridge.Scenario

/-- What a program has been given to read. -/
inductive CallInput
  | nothing
  | text (text : String)
  /-- There is something, but the program has not read it. -/
  | unread
  deriving DecidableEq, Repr

/-- The record of a started program. -/
structure CallRecord where
  tool : String
  args : List String
  cwd : String
  input : CallInput
  deriving DecidableEq, Repr

structure Child where
  /-- The call that waits for it. -/
  caller : Nat
  manner : Manner
  /-- When the caller's time is up. -/
  deadline : Nat
  gate : Option String
  course : Course
  deriving DecidableEq, Repr

structure Bench where
  files : FileTree
  /-- The programs that are found by name. -/
  found : List (String × Script)
  /-- The programs that are found by their place. -/
  placed : List (List String × Script)
  openGates : List String
  /-- What a fetch from an address brings. -/
  network : String → StyleGuide.Fetched
  clock : Nat
  /-- What has been started, oldest first. -/
  calls : List CallRecord
  children : List Child

def placeText (names : List String) : String := "/" ++ String.intercalate "/" names

def lastName (program : String) : String :=
  String.ofList ((Text.splitWhere (· == '/') program.toList).getLast?.getD [])

def maxArgument : Nat := 131071

def hasNul (s : String) : Bool := s.toList.contains (Char.ofNat 0)

def silence (url : String) : StyleGuide.Fetched := .error (.unreachable url)

namespace Bench

def directory (b : Bench) (cwd : Path) : Except SystemError (List String) := do
  let names ← b.files.locate cwd
  match b.files.top.find? names with
  | some (.directory _) => .ok names
  | _ => .error .notDirectory

/-- The script of a program, seen from the directory `names`. A program without a slash in its name is
looked for among those that are found by name. -/
def script (b : Bench) (names : List String) (program : String) : Except SystemError Script :=
  if program.toList.contains '/' then do
    let place ← (FileTree.mk b.files.top names).locate ⟨program⟩
    match b.files.top.find? place with
    | some (.file _ true) =>
      match Keyed.get? place b.placed with
      | some script => .ok script
      | none => .error .badFormat
    | _ => .error .denied
  else if program = "." ∨ program = ".." then .error .denied
  else if FileTree.maxName < program.utf8ByteSize then .error .nameTooLong
  else
    match Keyed.get? program b.found with
    | some script => .ok script
    | none => .error .notFound

/-- The directory and the script of a request, or why its program cannot be started. -/
def resolve (b : Bench) (r : Request) : Except SystemError (List String × Script) := do
  if hasNul r.program || r.args.any hasNul || hasNul r.cwd.text then .error .nulInArgument
  let names ← b.directory r.cwd
  let script ← match shellScript? r with
    | some script => pure script
    | none => b.script names r.program
  if r.args.any (maxArgument < ·.utf8ByteSize) then .error .argumentTooLong
  pure (names, script)

def surroundings (b : Bench) : Surroundings where
  files := b.files
  startFault r :=
    match b.resolve r with
    | .ok _ => none
    | .error e => some e
  fetch := b.network
  clock := b.clock

/-- The record of a started program. -/
def record (names : List String) (r : Request) (rule : Rule) : CallRecord where
  tool := lastName r.program
  args := r.args
  cwd := placeText names
  input :=
    match r.input with
    | none => .nothing
    | some text => if rule.readsInput then .text text else .unread

def start (caller : Nat) (m : Manner) (r : Request) (b : Bench) : Bench :=
  match b.resolve r with
  | .error _ => b
  | .ok (names, script) =>
    let rule := script.rule r.args
    { b with
      calls := b.calls ++ if rule.recorded then [record names r rule] else []
      children := b.children ++
        [⟨caller, m, b.clock + r.timeoutMs.toNat, rule.gate, rule.course r.input⟩] }

def isLetThrough (b : Bench) (c : Child) : Bool := c.gate.all b.openGates.contains

def timeLeft (b : Bench) (c : Child) : Nat := c.deadline - b.clock

/-- The first program that has come to its end, and the signal for its caller. -/
def ended? (b : Bench) : Option (Nat × Signal) := do
  let c ← b.children.find? fun c => b.isLetThrough c && c.course.isInTime c.manner (b.timeLeft c)
  let signal ← c.course.signal c.manner (b.timeLeft c)
  pure (c.caller, signal)

def nextDeadline? (b : Bench) : Option Nat := (b.children.map Child.deadline).min?

/-- The first caller whose time is up, and the signal for him. -/
def expired? (b : Bench) : Option (Nat × Signal) :=
  (b.children.find? fun c => c.deadline ≤ b.clock).map fun c => (c.caller, c.manner.timeUp)

def dismiss (caller : Nat) (b : Bench) : Bench :=
  { b with children := b.children.filter fun c => c.caller != caller }

def openGate (gate : String) (b : Bench) : Bench := { b with openGates := gate :: b.openGates }

/-- Whether a caller's program waits at a gate that is shut. -/
def isAtGate (b : Bench) (caller : Nat) : Bool :=
  b.children.any fun c => c.caller == caller && !b.isLetThrough c

def waitUntil (t : Nat) (b : Bench) : Bench := { b with clock := max b.clock t }

/-- Puts a file or a directory into the place that the names lead to. A file that could be executed before
can still be, but follows no script. -/
def write (names : List String) (e : Entry) (b : Bench) : Bench :=
  let place := b.files.here ++ names
  let e :=
    match e, b.files.top.find? place with
    | .file content _, some (.file _ executable) => Entry.file content executable
    | e, _ => e
  { b with files := b.files.write names e, placed := Keyed.erase place b.placed }

def remove (names : List String) (b : Bench) : Bench := { b with files := b.files.remove names }

def place (names : List String) (s : Script) (b : Bench) : Bench :=
  { b with
    files := b.files.write names (.file [] true)
    placed := Keyed.put (b.files.here ++ names) s b.placed }

end Bench
end LintBridge.Scenario
