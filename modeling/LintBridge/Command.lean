import LintBridge.Problem
import LintBridge.Text.Blank

/-!
The command line that runs RuboCop.
-/

set_option autoImplicit false
set_option relaxedAutoImplicit false

namespace LintBridge.Command

def reportFlags : List String := ["--force-exclusion", "--format", "json", "--display-style-guide"]

/-- The arguments that keep RuboCop from using its result cache. -/
def noCacheFlags : List String := ["--cache", "false"]

/-- What comes before a command that goes through Bundler. -/
def throughBundler : List String := ["bundle", "exec"]

def fixedFlags (useCache : Bool) : List String := reportFlags ++ if useCache then [] else noCacheFlags

/-- The words of a command, with Bundler in front if it is wanted and not there yet. -/
def base (useBundler : Bool) (tokens : List String) : List String :=
  (if useBundler && !throughBundler.isPrefixOf tokens then throughBundler else []) ++ tokens

/-- The words of a command, the program first, with the fixed arguments and then `extra` at the end. -/
def resolve (command : String) (useBundler useCache : Bool) (extra : List String) :
    Except Problem (List String) :=
  match Text.words command with
  | [] => .error .noCommand
  | tokens => .ok (base useBundler tokens ++ fixedFlags useCache ++ extra)

end LintBridge.Command
