import LintBridge.Server.Demand
import LintBridge.Server.Work

/-!
The server as a machine: messages come, work goes on, and time passes.

`step` takes one event and never waits. `run` takes many. A message is first taken in, which decides whether
it is served at all, and then served; where many messages come at once, they are all taken in before the
first of them is served.
-/

set_option autoImplicit false
set_option relaxedAutoImplicit false

namespace LintBridge.Server

open Json (Value)

/-- How many milliseconds an edit waits for the next one. -/
def editDelay : Nat := 300

/-- When an edit is to be linted: in the first millisecond after its delay. -/
def dueAfter (now : Nat) : Nat := now + editDelay + 1

/-! ### Settings -/

/-- The section of the client's settings that is meant for the server. -/
def settingsSection : String := "rubocop"

/-- The configuration in the client's settings, if they have a section that is one. -/
def configIn? (settings : Value) : Option Config :=
  (settings.get? settingsSection).bind fun v => (Config.shape.fromValue v).toOption

/-- The server under new settings; nothing, if they change nothing. -/
def configured? (settings : Value) (s : Server) : Option Server :=
  (configIn? settings).bind fun c =>
    if c = s.linter.config then none else some { s with linter := { s.linter with config := c } }

/-! ### Messages -/

/-- The root that a greeting names: its own, or else its first folder, if that is a directory of files. -/
def Greeting.root? (g : Greeting) : Option Path :=
  (g.root.or (g.folders.bind List.head?)).bind Url.filePath?

def greeted (g : Greeting) (s : Server) : Server :=
  let s := match g.root? with
    | none => s
    | some root => { s with linter := { s.linter with root := some root } }
  let s := (g.options.bind fun options => s.configured? options).getD s
  { s with phase := .initialized }

/-- The server has no more to do with its client. What the client still waits for is given up. -/
def leave (s : Server) : Turn :=
  let (waited, others) := s.jobs.partition fun j => j.2.isRequest
  ⟨{ s with phase := .exited, jobs := others }, waited.map fun j => .answer j.1 (.error .cancelled)⟩

def serve (around : Surroundings) (number : Nat) (isRequest : Bool) (d : Demand) (s : Server) : Turn :=
  match d with
  | .greet g => conclude number isRequest (.ok introduction) (s.greeted g)
  | .welcome => (announce .welcome s).andThen (conclude number isRequest (.ok .null))
  | .rest => conclude number isRequest (.ok .null) s
  | .exit => s.leave
  | .opened d =>
    lintVersion around number d.url d.version
      { s with documents := s.documents.opened d.url d.version d.text }
  | .edited e =>
    if e.texts.isEmpty then conclude number isRequest (.ok .null) s
    else
      .quiet
        { s with
          documents := s.documents.edited e.url e.version e.texts
          timers := s.timers ++ [(number, ⟨dueAfter around.clock, e.url, e.version⟩)] }
  | .saved u text =>
    let s := { s with documents := s.documents.saved u text }
    if s.linter.config.fixOnSave then fix around number isRequest u .save s
    else lintStored around number isRequest u s
  | .closed u =>
    (announce (.diagnostics u [] none) { s with documents := s.documents.closed u }).andThen
      (conclude number isRequest (.ok .null))
  | .configured settings =>
    match s.configured? settings with
    | none => conclude number isRequest (.ok .null) s
    | some s => lintAll around number isRequest (Keyed.keys s.documents) s
  | .hover u p => hover around number isRequest u p s
  | .actions q => conclude number isRequest (.ok (codeActions q.url q.only)) s
  | .execute command arguments =>
    match fixTarget? command arguments with
    | none => conclude number isRequest (.ok .null) s
    | some u => fix around number isRequest u .command s
  | .other => conclude number isRequest (.error .methodNotFound) s

def Gate.isOpen (g : Gate) (p : Phase) : Bool :=
  match g with
  | .greeting => p == .uninitialized
  | .service => p == .initialized
  | .rest => p == .initialized
  | .parting => true
  | .always => true

/-- Why a message is refused that is not taken in the phase. -/
def Gate.refusal (g : Gate) (p : Phase) : Refusal :=
  match g with
  | .greeting => .invalidRequest
  | _ => p.refusal

def Gate.phase (g : Gate) (p : Phase) : Phase :=
  match g with
  | .greeting => .initializing
  | .rest => .shutDown
  | _ => p

def optionalMark : String := "$/"

/-- What a message comes to when it arrives. -/
inductive Intake
  /-- Nothing is to be done for it. -/
  | dropped
  | refused (refusal : Refusal)
  | taken (demand : Demand)

/-- A message that the server takes. A request must not be sent as a notification, nor the other way. -/
def Handling.intake (h : Handling) (m : Message) : Intake :=
  if h.gate = .parting then .taken .exit
  else if m.isRequest && !h.isRequest then .refused .invalidRequest
  else if !m.isRequest && h.isRequest then .dropped
  else
    match h.read m.params with
    | .error r => .refused r
    | .ok d => .taken d

/-- A message arrives: what it comes to, and the server's phase after it. -/
def Phase.intake (p : Phase) (m : Message) : Intake × Phase :=
  match handling? m.method with
  | none =>
    (if m.isRequest && !m.method.startsWith optionalMark then .refused (.methodUnknown m.method)
      else .dropped, p)
  | some h =>
    if h.gate.isOpen p then (h.intake m, h.gate.phase p) else (.refused (h.gate.refusal p), p)

/-- Does what is to be done for a message that has been taken in. A greeting that comes to nothing leaves the
server as if nobody had talked to it. -/
def settle (around : Surroundings) (number : Nat) (isRequest : Bool) (a : Intake) (s : Server) : Turn :=
  let back := if s.phase = .initializing then { s with phase := .uninitialized } else s
  match a with
  | .dropped => .quiet back
  | .refused r => conclude number isRequest (.error r) back
  | .taken d => serve around number isRequest d s

/-- A message arrives, under the next number, and is served. After the end of the talk, nothing does. -/
def receive (around : Surroundings) (m : Message) (s : Server) : Turn :=
  if s.phase = .exited then .quiet s
  else
    let (a, phase) := s.phase.intake m
    settle around s.next m.isRequest a { s with phase := phase, next := s.next + 1 }

/-! ### All events -/

/-- What may happen to the server. -/
inductive Event
  | message (message : Message)
  /-- What a piece of work waits for has come. -/
  | signal (number : Nat) (signal : Signal)
  /-- The time of an edit has come. -/
  | elapse (number : Nat)

/-- The time of an edit has come: it is linted if it is still the latest. -/
def elapse (around : Surroundings) (number : Nat) (s : Server) : Turn :=
  match Keyed.get? number s.timers with
  | none => .quiet s
  | some t =>
    let s := { s with timers := Keyed.erase number s.timers }
    if s.documents.isLatest t.url t.version then lintVersion around number t.url t.version s else .quiet s

def step (around : Surroundings) (s : Server) : Event → Turn
  | .message m => s.receive around m
  | .signal number signal =>
    match Keyed.get? number s.jobs with
    | none => .quiet s
    | some j => j.step around number signal s
  | .elapse number => s.elapse around number

/-- The state after many events, each with what is around then, and what has been done in each of them. -/
def run (s : Server) : List (Surroundings × Event) → Server × List (List Deed)
  | [] => (s, [])
  | (around, e) :: rest =>
    let t := s.step around e
    let (s, deeds) := t.server.run rest
    (s, t.deeds :: deeds)

/-- The work that can go on at once, and the signals that it goes on with. -/
def ready (s : Server) : List (Nat × Signal) :=
  s.jobs.filterMap fun (number, j) => (j.work.readySignal? s).map (number, ·)

end LintBridge.Server
