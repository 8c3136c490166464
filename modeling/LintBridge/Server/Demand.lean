import LintBridge.Json.Writer
import LintBridge.Server.Message
import LintBridge.Server.Params
import LintBridge.Server.Params.Unserved

/-!
What messages ask for.

The method says how a message is taken: in which phase of the server, whether as a request, and with which
parameters. `handling?` is the table of the methods.
-/

set_option autoImplicit false
set_option relaxedAutoImplicit false

namespace LintBridge.Server

open Json (Shape Value)

/-- What a message asks for. -/
inductive Demand
  | greet (greeting : Greeting)
  | welcome
  | rest
  | exit
  | opened (document : NewDocument)
  | edited (edit : Edit)
  | saved (url : Url) (text : Option String)
  | closed (url : Url)
  | configured (settings : Value)
  | hover (url : Url) (position : Position)
  | actions (query : ActionQuery)
  | execute (command : String) (arguments : List Value)
  /-- Something that the server does not do. -/
  | other

inductive Gate
  /-- Once, as the first one. -/
  | greeting
  /-- Between the greeting and the end. -/
  | service
  /-- As the end of the service. -/
  | rest
  /-- As the end of the talk, whether an answer is waited for or not. -/
  | parting
  | always
  deriving DecidableEq, Repr

/-- How the messages of a method are taken. -/
structure Handling where
  gate : Gate
  isRequest : Bool
  read : Option Value → Except Refusal Demand

def required {α : Type} (shape : Shape α) (make : α → Demand) : Option Value → Except Refusal Demand
  | none => .error (.invalidParams "Missing params field")
  | some v =>
    match shape.fromValue v with
    | .ok a => .ok (make a)
    | .error m => .error (.invalidParams m.message)

def absent (d : Demand) : Option Value → Except Refusal Demand
  | none => .ok d
  | some v => .error (.invalidParams ("Unexpected params: " ++ v.compact))

def request {α : Type} (shape : Shape α) (make : α → Demand) : Handling :=
  ⟨.service, true, required shape make⟩

def notification {α : Type} (shape : Shape α) (make : α → Demand) : Handling :=
  ⟨.service, false, required shape make⟩

/-! ### What the server does not do -/

def unservedNotifications : List String :=
  ["textDocument/willSave", "workspace/didChangeWorkspaceFolders", "workspace/didCreateFiles",
   "workspace/didRenameFiles", "workspace/didDeleteFiles", "workspace/didChangeWatchedFiles"]

/-- How the messages of methods are taken that the server knows of and does not serve. -/
def unservedHandling? (method : String) : Option Handling :=
  match unservedRequests.lookup method with
  | some form => some (request form.shape fun _ => .other)
  | none =>
    if unservedNotifications.contains method then some (notification Shape.value fun _ => .other)
    else none

/-! ### The methods -/

def handling? (method : String) : Option Handling :=
  match method with
  | "initialize" => some ⟨.greeting, true, required greeting.shape .greet⟩
  | "initialized" => some (notification nothing fun _ => .welcome)
  | "shutdown" => some ⟨.rest, true, absent .rest⟩
  | "exit" => some ⟨.parting, false, fun _ => .ok .exit⟩
  | "textDocument/didOpen" => some (notification opening.shape .opened)
  | "textDocument/didChange" => some (notification editing.shape .edited)
  | "textDocument/didSave" => some (notification saving.shape fun s => .saved s.1 s.2)
  | "textDocument/didClose" => some (notification closing.shape .closed)
  | "workspace/didChangeConfiguration" => some (notification configuring.shape .configured)
  | "textDocument/hover" => some (request hovering fun h => .hover h.1 h.2)
  | "textDocument/codeAction" => some (request actionQuery .actions)
  | "workspace/executeCommand" => some (request command fun c => .execute c.1 c.2)
  | "$/cancelRequest" => some ⟨.always, false, fun _ => .ok .other⟩
  | other => unservedHandling? other

end LintBridge.Server
