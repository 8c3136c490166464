import LintBridge.Scenario.Rehearsal
import LintBridge.Server.Step

/-!
The server at a bench, message by message.
-/

set_option autoImplicit false
set_option relaxedAutoImplicit false

namespace LintBridge.Scenario

open Server (Deed Turn)

/-- Whether a deed can be seen by the client. -/
def isHeard : Deed → Bool
  | .announce _ => true
  | .answer _ _ => true
  | _ => false

def outcomeOf (t : Turn) : Outcome Server Deed where
  state := t.server
  starts := t.deeds.filterMap fun
    | .start m r => some (m, r)
    | _ => none
  said := t.deeds.filter isHeard

def dueTimer? (now : Nat) (s : Server) : Option Nat :=
  (s.timers.find? fun t => t.2.due ≤ now).map Prod.fst

def serverMachine : Machine Server Deed where
  ready := Server.ready
  signal around number signal s := outcomeOf (s.step around (.signal number signal))
  nextTimer? s := (s.timers.map fun t => t.2.due).min?
  fire around now s :=
    match dueTimer? now s with
    | some number => (number, outcomeOf (s.step around (.elapse number)))
    | none => (0, ⟨s, [], []⟩)
  isOver number s := (Keyed.get? number s.jobs).isNone

abbrev ServerRehearsal := Rehearsal Server Deed

namespace ServerRehearsal

def ofBench (b : Bench) : ServerRehearsal := ⟨.fresh, b, []⟩

def receive (m : Message) (r : ServerRehearsal) : ServerRehearsal :=
  Rehearsal.absorb r.state.next (outcomeOf (r.state.step r.bench.surroundings (.message m))) r

def settle (r : ServerRehearsal) : ServerRehearsal := Rehearsal.settle serverMachine Rehearsal.ample r

/-- All that it takes for a piece of work to be done happens. -/
def finish (number : Nat) (r : ServerRehearsal) : ServerRehearsal :=
  Rehearsal.finish serverMachine number Rehearsal.ample r

/-- Pieces of work are done one after the other, but for those that wait at a gate. -/
def finishOpen (numbers : List Nat) (r : ServerRehearsal) : ServerRehearsal :=
  numbers.foldl (fun r n => if r.bench.isAtGate n then r else finish n r) r

/-- Time passes until a moment, with all that happens on the way. -/
def waitUntil (moment : Nat) (r : ServerRehearsal) : ServerRehearsal :=
  Rehearsal.waitUntil serverMachine moment Rehearsal.ample r

/-- A gate is opened, and all that goes on comes to its end: the work that is under way, and then the timers that
still run, for which time has to pass, with the work that comes from them. -/
def release (gate : String) (r : ServerRehearsal) : ServerRehearsal :=
  let r := settle { r with bench := r.bench.openGate gate }
  let r := finishOpen (Keyed.keys r.state.jobs) r
  match (r.state.timers.map fun t => t.2.due).max? with
  | none => r
  | some last => finishOpen (Keyed.keys r.state.timers) (r.waitUntil last)

def reply? (number : Nat) (r : ServerRehearsal) : Option Reply :=
  r.said.findSome? fun
    | .answer n reply => if n = number then some reply else none
    | _ => none

/-- What the server has told the client, from the place `from` of all that can be heard. -/
def announcements (since : Nat) (r : ServerRehearsal) : List Announcement :=
  (r.said.drop since).filterMap fun
    | .announce a => some a
    | _ => none

end ServerRehearsal
end LintBridge.Scenario
