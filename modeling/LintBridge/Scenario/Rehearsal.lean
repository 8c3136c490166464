import LintBridge.Linter.Session
import LintBridge.Scenario.Bench

/-!
Running a machine of calls against a bench.

A machine starts programs and waits for them; the bench says how they end. First goes on what needs nothing
from outside, then what a program's end lets go on; time passes only where it must.
-/

set_option autoImplicit false
set_option relaxedAutoImplicit false

namespace LintBridge.Scenario

/-- What a step of a machine brings about: programs to start for the call that has taken the step, and what
is said to the outside. -/
structure Outcome (σ ο : Type) where
  state : σ
  starts : List (Manner × Request)
  said : List ο

/-- A state with calls in it that start programs and wait for them. -/
structure Machine (σ ο : Type) where
  /-- The calls that can go on at once. -/
  ready : σ → List (Nat × Signal)
  /-- The next step of a call. -/
  signal : Surroundings → Nat → Signal → σ → Outcome σ ο
  /-- When the next timer is due. -/
  nextTimer? : σ → Option Nat
  /-- The step of a timer that is due, and the call that it is a step of. -/
  fire : Surroundings → Nat → σ → Nat × Outcome σ ο
  /-- Whether a call is over. -/
  isOver : Nat → σ → Bool

/-- A machine's state, the bench, and what has been said, oldest first. -/
structure Rehearsal (σ ο : Type) where
  state : σ
  bench : Bench
  said : List ο

namespace Rehearsal

variable {σ ο : Type}

/-- Takes over what a step of call `number` has brought about. -/
def absorb (number : Nat) (o : Outcome σ ο) (r : Rehearsal σ ο) : Rehearsal σ ο where
  state := o.state
  bench := o.starts.foldl (fun b s => b.start number s.1 s.2) r.bench
  said := r.said ++ o.said

/-- The next step of a call. It waits for nothing any longer. -/
def signal (m : Machine σ ο) (number : Nat) (s : Signal) (r : Rehearsal σ ο) : Rehearsal σ ο :=
  let r := { r with bench := r.bench.dismiss number }
  r.absorb number (m.signal r.bench.surroundings number s r.state)

def instant? (m : Machine σ ο) (r : Rehearsal σ ο) : Option (Rehearsal σ ο) :=
  match m.ready r.state with
  | (number, s) :: _ => some (r.signal m number s)
  | [] =>
    match r.bench.ended? with
    | some (number, s) => some (r.signal m number s)
    | none => none

/-- All steps that take no time; `fuel` bounds their number. -/
def settle (m : Machine σ ο) : Nat → Rehearsal σ ο → Rehearsal σ ο
  | 0, r => r
  | fuel + 1, r =>
    match r.instant? m with
    | some r => settle m fuel r
    | none => r

def nextMoment? (m : Machine σ ο) (r : Rehearsal σ ο) : Option Nat :=
  match m.nextTimer? r.state, r.bench.nextDeadline? with
  | some a, some b => some (min a b)
  | some a, none => some a
  | none, some b => some b
  | none, none => none

/-- What happens by time alone at the bench's clock. Timers come before deadlines. -/
def lapse (m : Machine σ ο) (r : Rehearsal σ ο) : Rehearsal σ ο :=
  if (m.nextTimer? r.state).any fun t => t ≤ r.bench.clock then
    let (number, o) := m.fire r.bench.surroundings r.bench.clock r.state
    r.absorb number o
  else
    match r.bench.expired? with
    | some (number, s) => r.signal m number s
    | none => r

/-- Lets time pass until a moment, with all that happens on the way; `fuel` bounds the number of steps. -/
def waitUntil (m : Machine σ ο) (moment : Nat) : Nat → Rehearsal σ ο → Rehearsal σ ο
  | 0, r => r
  | fuel + 1, r =>
    match r.instant? m with
    | some r => waitUntil m moment fuel r
    | none =>
      match r.nextMoment? m with
      | none => { r with bench := r.bench.waitUntil moment }
      | some t =>
        if t ≤ moment then waitUntil m moment fuel (lapse m { r with bench := r.bench.waitUntil t })
        else { r with bench := r.bench.waitUntil moment }

/-- Goes on until a call is over, or waits for what never comes; `fuel` bounds the number of steps. -/
def finish (m : Machine σ ο) (number : Nat) : Nat → Rehearsal σ ο → Rehearsal σ ο
  | 0, r => r
  | fuel + 1, r =>
    match r.instant? m with
    | some r => finish m number fuel r
    | none =>
      if m.isOver number r.state then r
      else
        match r.nextMoment? m with
        | none => r
        | some t => finish m number fuel (lapse m { r with bench := r.bench.waitUntil t })

def ample : Nat := 1000000

end Rehearsal

def startsOf (effects : List Effect) : List (Manner × Request) :=
  effects.filterMap fun
    | .start m r => some (m, r)
    | .notify _ => none

def noticesOf (effects : List Effect) : List Notice :=
  effects.filterMap fun
    | .start _ _ => none
    | .notify n => some n

def sessionMachine : Machine Session Notice where
  ready := Session.ready
  signal around number s session :=
    let (session, effects) := session.step around (.signal number s)
    ⟨session, startsOf effects, noticesOf effects⟩
  nextTimer? _ := none
  fire _ _ session := (0, ⟨session, [], []⟩)
  isOver number session := (session.call? number).all Activity.isOver

abbrev LinterRehearsal := Rehearsal Session Notice

namespace LinterRehearsal

def apply (number : Nat) (e : SessionEvent) (r : LinterRehearsal) : LinterRehearsal :=
  let (session, effects) := r.state.step r.bench.surroundings e
  r.absorb number ⟨session, startsOf effects, noticesOf effects⟩

def begin (number : Nat) (t : Task) (r : LinterRehearsal) : LinterRehearsal :=
  Rehearsal.settle sessionMachine Rehearsal.ample (LinterRehearsal.apply number (.call number t) r)

def perform (number : Nat) (t : Task) (r : LinterRehearsal) : LinterRehearsal :=
  Rehearsal.finish sessionMachine number Rehearsal.ample
    (LinterRehearsal.apply number (.call number t) r)

end LinterRehearsal
end LintBridge.Scenario
