import LintBridge.Files.Tree
import LintBridge.Process.Request
import LintBridge.StyleGuide.Fetch

/-!
What a step of the linter finds around it: the files, whether a program can be started, the network, and the
time.
-/

set_option autoImplicit false
set_option relaxedAutoImplicit false

namespace LintBridge

/-- What there is at one moment. -/
structure Surroundings where
  files : FileTree
  /-- Why the program of a request cannot be started, if so. -/
  startFault : Request → Option SystemError
  /-- What a fetch from an address brings. -/
  fetch : String → StyleGuide.Fetched
  /-- The time in milliseconds. -/
  clock : Nat

end LintBridge
