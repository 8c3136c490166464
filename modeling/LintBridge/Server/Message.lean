import LintBridge.Diagnostic.Basic
import LintBridge.Notice
import LintBridge.Url.Basic

/-!
The messages between the server and its client: requests, which are answered, and notifications, which are
not.
-/

set_option autoImplicit false
set_option relaxedAutoImplicit false

namespace LintBridge

open Json (Value)

structure Message where
  method : String
  /-- Whether the client waits for an answer. -/
  isRequest : Bool
  params : Option Value

structure Refusal where
  code : Int
  message : String
  data : Option Value

abbrev Reply := Except Refusal Value

namespace Refusal

def notInitialized : Refusal := ⟨-32002, "Server not initialized", none⟩

def invalidRequest : Refusal := ⟨-32600, "Invalid request", none⟩

def methodNotFound : Refusal := ⟨-32601, "Method not found", none⟩

def methodUnknown (method : String) : Refusal := { methodNotFound with data := some (.text method) }

def invalidParams (reason : String) : Refusal := ⟨-32602, reason, none⟩

def parseError : Refusal := ⟨-32700, "Parse error", none⟩

def cancelled : Refusal := ⟨-32800, "Canceled", none⟩

def toJson (r : Refusal) : Value :=
  .ofMembers
    ([("code", .number (.integer r.code)), ("message", .text r.message)] ++
      match r.data with
      | some d => [("data", d)]
      | none => [])

end Refusal

/-- What the server tells its client without being asked. -/
inductive Announcement
  /-- The diagnostics of a document now, for the version that they belong to if that is known. -/
  | diagnostics (url : Url) (shown : List Diagnostic) (version : Option Int)
  | notice (notice : Notice)
  /-- The server is ready. -/
  | welcome

end LintBridge
