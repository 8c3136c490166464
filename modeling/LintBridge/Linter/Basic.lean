import LintBridge.Buffer
import LintBridge.Bundler.Memo
import LintBridge.Command
import LintBridge.Files.Settings
import LintBridge.Files.Upward
import LintBridge.Process.Run

/-!
The linter: what it keeps from one call to the next, and how it decides what to run.
-/

set_option autoImplicit false
set_option relaxedAutoImplicit false

namespace LintBridge

structure Linter where
  config : Config
  /-- The directory in which the files below it are linted. -/
  root : Option Path
  bundles : Bundler.Memo
  registry : Registry

/-- How a caller waits for a program that it has started. -/
inductive Manner
  /-- For its end and its output together. -/
  | awaited
  /-- For its end, at intervals, and for its output after that. -/
  | polled
  /-- For its end only, to see whether it has succeeded. -/
  | probed
  deriving DecidableEq, Repr

/-- What a step of a call does besides changing the linter. -/
inductive Effect
  | start (manner : Manner) (request : Request)
  | notify (notice : Notice)
  deriving DecidableEq, Repr

/-- The file whose presence says that a project uses RuboCop. -/
def rubocopConfigFile : String := ".rubocop.yml"

/-- What a call has decided before the command line is put together. -/
structure Plan where
  file : Path
  cwd : Path
  config : Config
  /-- The arguments after the fixed ones. -/
  extra : List String
  input : Option String

namespace Linter

def ofConfig (c : Config) : Linter := ⟨c, none, .empty, .empty⟩

/-- The directory in which a file is linted: the root if the file lies below it, and else its own. -/
def workingDir (l : Linter) (file : Path) : Path :=
  let own : Path := ((file.parent?).filter fun p => !p.text.isEmpty).getD ⟨"."⟩
  match l.root with
  | none => own
  | some root => if file.startsWith root then root else own

def effectiveConfig (l : Linter) (t : FileTree) (file : Path) : Config :=
  l.config.forProject t (l.workingDir file)

def isEnabled (c : Config) (t : FileTree) (file : Path) : Bool :=
  !c.disableWhenNoConfigFile || (t.findUpward? file rubocopConfigFile).isSome

def plan? (l : Linter) (t : FileTree) (file : Path) (extra : List String) (input : Option String) :
    Option Plan :=
  let config := l.effectiveConfig t file
  if isEnabled config t file then some ⟨file, l.workingDir file, config, extra, input⟩ else none

end Linter

namespace Plan

/-- The request that a plan comes to, once it is known whether the command goes through Bundler. -/
def request (p : Plan) (useBundler : Bool) (key : Option String) : Except Problem Request := do
  let command ← Command.resolve p.config.command useBundler p.config.useRubocopCache p.extra
  let r ← Request.ofCommand command p.cwd
  pure { r with input := p.input, timeoutMs := p.config.timeoutMs, key := key }

end Plan

def Notice.unexpected (p : Problem) : Notice := .failure "Rubocop: Unexpected error" p.message

end LintBridge
