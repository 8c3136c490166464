import LintBridge.Path

/-!
The text that the linter looks at: a file as an editor holds it.
-/

set_option autoImplicit false
set_option relaxedAutoImplicit false

namespace LintBridge

structure Buffer where
  /-- Where the text is stored; a scratch text has no such place. -/
  path : Option Path
  text : String
  /-- Whether the text differs from what is stored. -/
  modified : Bool
  deriving DecidableEq, Repr

namespace Buffer

def saved (path : Path) (text : String) : Buffer := ⟨some path, text, false⟩

def edited (path : Path) (text : String) : Buffer := ⟨some path, text, true⟩

end Buffer
end LintBridge
