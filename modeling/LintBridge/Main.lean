import LintBridge.CommandLine.Needed
import LintBridge.Scenario.CommandLine
import LintBridge.Scenario.ScriptFile
import LintBridge.Server.Stream

/-!
The command line. It reads the files that the run may look at, and the script of the programs that can be
started, and prints what the run leaves behind.
-/

set_option autoImplicit false
set_option relaxedAutoImplicit false

open LintBridge
open LintBridge.CommandLine (Action Invocation Options)
open LintBridge.Scenario (Bench)

namespace LintBridge.Main

/-- The variable that names the file with the script of the programs. Without it there are no programs. -/
def scriptVariable : String := "LINT_BRIDGE_PROGRAMS"

/-- All that comes through a stream, after what has come already. -/
partial def readAll (input : IO.FS.Stream) (before : List UInt8) : IO (List UInt8) := do
  let bytes ← input.read 65536
  if bytes.isEmpty then pure before else readAll input (before ++ bytes.toList)

def bytesAt? (path : String) : IO (Option (List UInt8)) :=
  try
    let bytes ← IO.FS.readBinFile path
    pure (some bytes.toList)
  catch _ => pure none

def withFile (t : FileTree) (path : Path) : IO FileTree := do
  match ← bytesAt? path.text with
  | none => pure t
  | some bytes =>
    let names := Scenario.namesOf path.text
    pure { t with top := Entry.put (.file bytes false) names t.top }

def benchFor (o : Options) (a : Action) : IO Bench := do
  let here ← IO.currentDir
  let place : Path := ⟨toString here⟩
  let names := Scenario.namesOf place.text
  let start : FileTree := ⟨Entry.put .emptyDirectory names .emptyDirectory, names⟩
  let files ← (CommandLine.neededFiles place o a).foldlM withFile start
  let script ← match ← IO.getEnv scriptVariable with
    | none => pure none
    | some path => bytesAt? path
  let programs := (script.bind Text.decode?).bind fun cs => (Json.Value.parse (String.ofList cs)).toOption
  pure ((Bench.ofFiles files).withScripts (programs.getD .null))

def perform (input : List UInt8) (o : Options) (a : Action) : IO UInt32 := do
  let b ← benchFor o a
  match a with
  | .serve =>
    IO.print (Server.serveStream b.surroundings input)
    pure 0
  | a =>
    let p := Scenario.performAction o a input b
    for n in p.notices do
      for line in CommandLine.noticeLines n do
        IO.eprintln line
    IO.print p.result.stdout
    pure (UInt32.ofNat p.result.exitCode)

end LintBridge.Main

def main (args : List String) : IO UInt32 := do
  match Invocation.parse? args with
  | none => pure (UInt32.ofNat CommandLine.failureCode)
  | some .help => pure 0
  | some .version =>
    IO.println CommandLine.versionText
    pure 0
  | some (.run o a) =>
    let input ← LintBridge.Main.readAll (← IO.getStdin) []
    LintBridge.Main.perform input o a
