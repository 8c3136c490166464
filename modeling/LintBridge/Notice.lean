import LintBridge.Json.Value

/-!
Notices: messages for the user, apart from diagnostics.
-/

set_option autoImplicit false
set_option relaxedAutoImplicit false

namespace LintBridge

inductive NoticeKind
  | info
  | success
  | error
  deriving DecidableEq, Repr

def NoticeKind.name : NoticeKind → String
  | info => "info"
  | success => "success"
  | error => "error"

/-- A message for the user, with a longer text if there is more to say. -/
structure Notice where
  kind : NoticeKind
  message : String
  description : Option String
  deriving DecidableEq, Repr

namespace Notice

def plain (kind : NoticeKind) (message : String) : Notice := ⟨kind, message, none⟩

def failure (message reason : String) : Notice := ⟨.error, message, some reason⟩

/-- The notice in JSON; one without a longer text has no key for it. -/
def toJson (n : Notice) : Json.Value :=
  .ofMembers
    ([("kind", .text n.kind.name), ("message", .text n.message)] ++
      match n.description with
      | some d => [("description", .text d)]
      | none => [])

end Notice

/-- The notices that have been kept for later, oldest first. -/
abbrev Notebook := List Notice

namespace Notebook

def add (book : Notebook) (n : Notice) : Notebook := book ++ [n]

/-- All notices, and the empty book that is left when they are taken out. -/
def take (book : Notebook) : Notebook × Notebook := (book, [])

end Notebook
end LintBridge
