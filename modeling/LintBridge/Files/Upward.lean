import LintBridge.Files.Tree

/-!
Files that hold for a directory and all that lies below it.
-/

set_option autoImplicit false
set_option relaxedAutoImplicit false

namespace LintBridge.FileTree

/-- The directories in which a file for `start` is looked for, nearest first: the place itself if it is a
directory, and what is above it. -/
def searched (t : FileTree) (start : Path) : List Path :=
  if t.isDirectory start then start.ancestors
  else start.parent?.elim [] Path.ancestors

/-- The nearest file of a name. -/
def findUpward? (t : FileTree) (start : Path) (name : String) : Option Path :=
  ((t.searched start).map fun d => d.join ⟨name⟩).find? t.isFile

end LintBridge.FileTree
