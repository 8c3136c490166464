import LintBridge.Config
import LintBridge.Files.Tree

/-!
Configurations and settings in files.
-/

set_option autoImplicit false
set_option relaxedAutoImplicit false

namespace LintBridge

/-- The file in a project's directory that has its settings. -/
def settingsFile : String := ".rubolint.json"

/-- The settings of a project, if its directory has a file with settings that can be read. -/
def Settings.load? (t : FileTree) (dir : Path) : Option Settings :=
  let path := dir.join ⟨settingsFile⟩
  if t.isFile path then
    match t.readText path with
    | .error _ => none
    | .ok s => (Settings.shape.parse s).toOption
  else none

namespace Config

def ofFile (t : FileTree) (path : Path) : Except Problem Config :=
  match t.readText path with
  | .error e => .error (.config ("Failed to read config: " ++ e.message))
  | .ok s => parse s

/-- The configuration that holds for a project: its settings count if the configuration lets them. -/
def forProject (c : Config) (t : FileTree) (dir : Path) : Config :=
  if c.detectProjectSettings then (Settings.load? t dir).elim c c.withSettings else c

end Config
end LintBridge
