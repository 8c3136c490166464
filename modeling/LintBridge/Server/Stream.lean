import LintBridge.Server.Frame
import LintBridge.Server.Step

/-!
A stream of messages that comes all at once.

All messages are taken in before the first of them is served, so what comes after a greeting finds the server
still busy with it. A break in the stream is reported first, because it is found while messages are taken in.
-/

set_option autoImplicit false
set_option relaxedAutoImplicit false

namespace LintBridge.Server

open Json (Value)

/-- A message that has been taken in: the name that the client has given it, and what it comes to. -/
structure Pending where
  id : Option Value
  intake : Intake

/-- What becomes of a message at the end of the talk: what the client still waits for is given up. -/
def Pending.givenUp (p : Pending) : Pending :=
  match p.id, p.intake with
  | some id, .taken _ => ⟨some id, .refused .cancelled⟩
  | _, _ => p

/-- Takes the messages of a stream in, up to the end of the talk; `before` are those that have come already.
The refusal is that of a break. -/
def takeIn : Phase → List Pending → List Incoming → List Pending × Option Refusal
  | _, before, [] => (before, none)
  | _, before, .error r :: _ => (before, some r)
  | .exited, before, .ok _ :: _ => (before, none)
  | p, before, .ok none :: rest => takeIn p before rest
  | p, before, .ok (some l) :: rest =>
    match p.intake l.message with
    | (.taken .exit, _) => takeIn .exited (before.map Pending.givenUp) rest
    | (a, p) => takeIn p (before ++ [⟨l.id, a⟩]) rest

/-- The answers among deeds, to the message with the given name. -/
def answersIn (id : Value) (deeds : List Deed) : List String :=
  deeds.filterMap fun
    | .answer _ reply => some (answerFrame id reply)
    | _ => none

/-- Serves the messages that have been taken in, one after the other. The answers are what is written. -/
def serveAll (around : Surroundings) : List Pending → Server → List String
  | [], _ => []
  | p :: rest, s =>
    let t := settle around s.next p.id.isSome p.intake { s with next := s.next + 1 }
    answersIn (p.id.getD .null) t.deeds ++ serveAll around rest t.server

def serveStream (around : Surroundings) (input : List UInt8) : String :=
  let (pending, fault) := takeIn fresh.phase [] (messagesIn input)
  String.join
    ((fault.map fun r => answerFrame .null (.error r)).toList ++ serveAll around pending fresh)

end LintBridge.Server
