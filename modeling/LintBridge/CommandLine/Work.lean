import LintBridge.CommandLine.Findings
import LintBridge.Linter.Session
import LintBridge.StyleGuide.Shelf

/-!
From the arguments to a call of the linter, and from its end to an exit code.
-/

set_option autoImplicit false
set_option relaxedAutoImplicit false

namespace LintBridge.CommandLine

def versionText : String := "rubolint 0.1.0"

def Options.applyTo (o : Options) (c : Config) : Config :=
  { c with
    command := o.command.getD c.command
    useBundler := o.useBundler || c.useBundler
    disableWhenNoConfigFile := o.disableWhenNoConfigFile || c.disableWhenNoConfigFile
    timeoutMs := o.timeoutMs.getD c.timeoutMs }

/-- The configuration of a run: that of the named file, or else the default one, under the switches. -/
def Options.loadConfig (o : Options) (t : FileTree) : Except Problem Config := do
  let c ← match o.configFile with
    | none => .ok Config.default
    | some path => Config.ofFile t path
  pure (o.applyTo c)

def currentDirectory (t : FileTree) : Path := ⟨"/" ++ String.intercalate "/" t.here⟩

/-- The text that comes through the standard input, if it is one. -/
def inputText? (input : List UInt8) : Option String := (Text.decode? input).map String.ofList

/-- The buffer for a file: its text is the input, or else what is stored. -/
def bufferFor? (t : FileTree) (input : List UInt8) (file : Path) (fromInput : Bool) : Option Buffer :=
  let path := Path.absolute (currentDirectory t) file
  if fromInput then (inputText? input).map (Buffer.edited path)
  else (t.readText file).toOption.map (Buffer.saved path)

/-- The linter of a run, which keeps to the current directory. -/
def linterFor? (o : Options) (t : FileTree) : Option Linter :=
  (o.loadConfig t).toOption.map fun c =>
    { Linter.ofConfig c with root := some (currentDirectory t) }

/-- The linter and the call for an action; nothing, if the file or the configuration cannot be used. -/
def prepare? (t : FileTree) (input : List UInt8) (o : Options) : Action → Option (Linter × Task)
  | .lint file fromInput _ _ => do
    let b ← bufferFor? t input file fromInput
    let l ← linterFor? o t
    pure (l, .analyze b)
  | .fix file => do
    let b ← bufferFor? t input file false
    let l ← linterFor? o t
    pure (l, .correct b .command)
  | .serve => none

structure Result where
  exitCode : Nat
  stdout : String
  deriving DecidableEq, Repr

def Result.failure : Result := ⟨failureCode, ""⟩

/-- The texts of the rules that diagnostics link to, in their order. -/
def describeAll (now : Nat) (fetched : StyleGuide.Fetched) :
    StyleGuide.Shelf → List Diagnostic → List (Option String)
  | _, [] => []
  | shelf, d :: ds =>
    match d.anchor? with
    | none => none :: describeAll now fetched shelf ds
    | some a =>
      let (text, shelf, _) := shelf.consult a now fetched
      text :: describeAll now fetched shelf ds

def findingsOf (wanted : Bool) (now : Nat) (fetched : StyleGuide.Fetched) (ds : List Diagnostic) :
    List Finding :=
  if wanted then List.zipWith Finding.mk ds (describeAll now fetched .empty ds)
  else ds.map fun d => ⟨d, none⟩

/-- What the end of the call comes to. A fetch of the style guide brings `fetched`. -/
def conclude (now : Nat) (fetched : StyleGuide.Fetched) (action : Action) (a : Option Activity) : Result :=
  match action, a with
  | .lint file _ format wanted, some (.analysis (.finished found)) =>
    ⟨lintCode found, found.elim "" fun ds => render format file (findingsOf wanted now fetched ds)⟩
  | .fix _, some (.correction (.finished summary)) => ⟨fixCode summary, ""⟩
  | _, _ => .failure

end LintBridge.CommandLine
