import LintBridge.Notice
import LintBridge.Process.Registry
import LintBridge.Process.Request

/-!
The steps of a run, from its claim to its result.

`Stage.advance` is one step of one run. `Crowd.step` is one step of any of many runs that share a registry;
their steps may be interleaved in any order.
-/

set_option autoImplicit false
set_option relaxedAutoImplicit false

namespace LintBridge

/-- The result of a run; nothing, if it has timed out or been replaced. -/
abbrev RunResult := Except Problem (Option Output)

/-- How a run's program has come to its end. -/
inductive Ending
  | output (output : Output)
  /-- It could not be started, or its output could not be collected. -/
  | failed (problem : Problem)
  | timedOut
  /-- The run has been told to stop. -/
  | stopped
  deriving DecidableEq, Repr

def Notice.timedOut : Notice where
  kind := .info
  message := "Linter-Rubocop: Linter timed out"
  description := some <|
    "Make sure you are not running Rubocop with a slow-starting interpreter like JRuby. " ++
    "If you are still seeing timeouts, consider running your linter `on save` and not `on change`."

namespace Ending

def result : Ending → RunResult
  | output o => .ok (some o)
  | failed p => .error p
  | timedOut => .ok none
  | stopped => .ok none

def notices : Ending → List Notice
  | timedOut => [.timedOut]
  | _ => []

end Ending

/-- The result of a run with a ticket; a run that a newer one has replaced has none. -/
def RunResult.judged (current : Bool) (e : Ending) : RunResult := if current then e.result else .ok none

/-- The last two steps of a run with a ticket, at once: it looks whether its ticket still counts, and gives
its key up. -/
def Registry.conclude (t : Ticket) (e : Ending) (r : Registry) : RunResult × Registry :=
  (RunResult.judged (r.isCurrent t) e, r.release t)

/-- How far a run has come. -/
inductive Stage
  /-- Nothing is done yet. -/
  | fresh
  | drawn (token : UInt64)
  | entered (token : UInt64) (previous : Option UInt64)
  /-- The program is started. A run without a key has no ticket. -/
  | underway (ticket : Option Ticket)
  | ended (ticket : Ticket) (ending : Ending)
  | judged (ticket : Ticket) (result : RunResult)
  | returned (result : RunResult)

inductive Move
  /-- The run takes its next step. -/
  | proceed
  /-- Its program comes to an end. -/
  | finish (ending : Ending)

namespace Stage

/-- The next stage of a run with the given key. A move that does not fit the stage is impossible. -/
def advance (key : Option String) (r : Registry) : Stage → Move → Option (Stage × Registry × List Notice)
  | fresh, .proceed =>
    match key with
    | none => some (underway none, r, [])
    | some _ => let (token, r) := r.draw; some (drawn token, r, [])
  | drawn token, .proceed =>
    match key with
    | none => none
    | some key => let (previous, r) := r.enter ⟨key, token⟩; some (entered token previous, r, [])
  | entered token previous, .proceed =>
    match key with
    | none => none
    | some key => some (underway (some ⟨key, token⟩), r.dismiss previous, [])
  | underway none, .finish e =>
    if e = .stopped then none else some (returned e.result, r, e.notices)
  | underway (some t), .finish e =>
    if e = .stopped ∧ r.isDismissed t = false then none else some (ended t e, r, e.notices)
  | ended t e, .proceed => some (judged t (RunResult.judged (r.isCurrent t) e), r, [])
  | judged t result, .proceed => some (returned result, r.release t, [])
  | _, _ => none

end Stage

/-- Many runs and the registry that they share. -/
structure Crowd where
  registry : Registry
  /-- The key and the stage of each run, by its number. -/
  runs : List (Nat × Option String × Stage)

namespace Crowd

/-- Runs that have done nothing yet, numbered in order. -/
def ofKeys (keys : List (Option String)) : Crowd where
  registry := .empty
  runs := keys.zipIdx.map fun (key, n) => (n, key, Stage.fresh)

def step (c : Crowd) (n : Nat) (m : Move) : Option (Crowd × List Notice) :=
  match Keyed.get? n c.runs with
  | none => none
  | some (key, stage) =>
    match stage.advance key c.registry m with
    | none => none
    | some (stage, registry, notices) => some (⟨registry, Keyed.put n (key, stage) c.runs⟩, notices)

def result? (c : Crowd) (n : Nat) : Option RunResult :=
  match Keyed.get? n c.runs with
  | some (_, .returned r) => some r
  | _ => none

/-- A whole schedule of steps, with the notices that each run sends. -/
def play : Crowd → List (Nat × Move) → Option (Crowd × List (Nat × Notice))
  | c, [] => some (c, [])
  | c, (n, m) :: rest =>
    match c.step n m with
    | none => none
    | some (c, notices) =>
      (c.play rest).map fun r => (r.1, notices.map (n, ·) ++ r.2)

end Crowd
end LintBridge
