import LintBridge.Linter.Session
import LintBridge.Server.Documents
import LintBridge.Server.Message
import LintBridge.StyleGuide.Shelf

/-!
What the server keeps: the open documents, the linter, the rules that it has fetched, and the work that is
not done yet.

A piece of work has a number, which it keeps until it is done: the number of the message that it comes from,
or of the timer that has led to it. `Keyed` says what is found under a number.
-/

set_option autoImplicit false
set_option relaxedAutoImplicit false

namespace LintBridge

namespace Server

/-- How far the talk with the client has come. -/
inductive Phase
  | uninitialized
  /-- A greeting has come and is not answered yet. -/
  | initializing
  | initialized
  | shutDown
  | exited
  deriving DecidableEq, Repr

/-- Whether the server may tell the client something without being asked. -/
def Phase.speaks : Phase → Bool
  | initialized => true
  | shutDown => true
  | _ => false

def Phase.refusal : Phase → Refusal
  | uninitialized => .notInitialized
  | initializing => .notInitialized
  | _ => .invalidRequest

/-- Work that is not done yet. -/
inductive Work
  /-- A lint of a document; after it, the stored texts of the other documents are linted. -/
  | linting (url : Url) (version : Option Int) (analysis : Analysis) (later : List Url)
  /-- A correction of a document's file; if it has a summary, the stored text is linted after it. -/
  | fixing (url : Url) (correction : Correction)
  /-- A correction that needs the file's text first. -/
  | reading (url : Url) (path : Path) (trigger : Trigger)
  /-- A hover that needs the rule's text. -/
  | hovering (diagnostic : Diagnostic) (anchor : String) (reader : StyleGuide.Reader)

/-- A piece of work, and whether the client waits for an answer. -/
structure Job where
  isRequest : Bool
  work : Work

/-- An edit that is to be linted when its time has come. -/
structure Timer where
  due : Nat
  url : Url
  version : Int
  deriving DecidableEq, Repr

end Server

/-- The state of the server. -/
structure Server where
  phase : Server.Phase
  documents : Documents
  linter : Linter
  shelf : StyleGuide.Shelf
  jobs : List (Nat × Server.Job)
  timers : List (Nat × Server.Timer)
  /-- The next number. -/
  next : Nat

namespace Server

def fresh : Server := ⟨.uninitialized, [], .ofConfig .default, .empty, [], [], 0⟩

/-- What a step of the server does besides changing its state. -/
inductive Deed
  /-- The server begins to lint a buffer of a document. -/
  | lint (url : Url) (version : Option Int) (buffer : Buffer)
  /-- The server begins to correct the file of a document. -/
  | correct (url : Url) (trigger : Trigger) (buffer : Buffer)
  | start (manner : Manner) (request : Request)
  | announce (announcement : Announcement)
  /-- The answer to the message with this number. -/
  | answer (number : Nat) (reply : Reply)

/-- The outcome of a step. -/
structure Turn where
  server : Server
  deeds : List Deed

namespace Turn

/-- A step that does nothing besides. -/
def quiet (s : Server) : Turn := ⟨s, []⟩

def andThen (t : Turn) (f : Server → Turn) : Turn :=
  let u := f t.server
  ⟨u.server, t.deeds ++ u.deeds⟩

def after (d : Deed) (t : Turn) : Turn := ⟨t.server, d :: t.deeds⟩

end Turn

def announce (a : Announcement) (s : Server) : Turn :=
  ⟨s, if s.phase.speaks then [.announce a] else []⟩

def perform (effects : List Effect) (s : Server) : Turn :=
  ⟨s, effects.flatMap fun
    | .start m r => [.start m r]
    | .notify n => if s.phase.speaks then [.announce (.notice n)] else []⟩

def keep (number : Nat) (j : Job) (s : Server) : Turn :=
  .quiet { s with jobs := Keyed.put number j s.jobs }

def conclude (number : Nat) (isRequest : Bool) (reply : Reply) (s : Server) : Turn :=
  ⟨{ s with jobs := Keyed.erase number s.jobs }, if isRequest then [.answer number reply] else []⟩

end Server
end LintBridge
