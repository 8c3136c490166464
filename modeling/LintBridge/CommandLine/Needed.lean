import LintBridge.CommandLine.Work
import LintBridge.Linter.Session

/-!
The files that a run may look at.

They are known before the run: the file itself, the files that hold for the directories above it, and the
configuration that is named. The server looks at no file before it has answered its client's greeting, and a
stream that comes at once does not wait for that answer.
-/

set_option autoImplicit false
set_option relaxedAutoImplicit false

namespace LintBridge.CommandLine

def directoryFiles : List String := [rubocopConfigFile, settingsFile, Bundler.gemfile]

def around (file : Path) : List Path :=
  file :: file.ancestors.flatMap fun d => directoryFiles.map fun n => d.join ⟨n⟩

/-- The files that an action may look at, seen from the directory `here`. -/
def neededFiles (here : Path) (o : Options) (a : Action) : List Path :=
  let named := match a with
    | .lint file _ _ _ => [Path.absolute here file]
    | .fix file => [Path.absolute here file]
    | .serve => []
  (o.configFile.map (Path.absolute here)).toList ++ named.flatMap around

end LintBridge.CommandLine
