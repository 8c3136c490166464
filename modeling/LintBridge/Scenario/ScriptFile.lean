import LintBridge.Scenario.Bench

/-!
Scripted programs in JSON: an object from the names of programs to their rules.

A name without a slash is that of a program that is found by name; one with a slash is a place below the
directory from which paths start.
-/

set_option autoImplicit false
set_option relaxedAutoImplicit false

namespace LintBridge.Scenario

open Json (Value)

def isSet (v : Value) (key : String) : Bool :=
  match v.get? key with
  | some (.bool b) => b
  | _ => false

def hexDigitValue (c : Char) : Nat :=
  if c.isDigit then c.toNat - '0'.toNat else c.toNat - 'a'.toNat + 10

def bytesOfHex : List Char → List UInt8
  | a :: b :: rest => UInt8.ofNat (hexDigitValue a * 16 + hexDigitValue b) :: bytesOfHex rest
  | _ => []

/-- What a program prints: a text under the key, or bytes in hexadecimal digits beside it. -/
def printed (v : Value) (key : String) : List UInt8 :=
  match (v.get? key).bind Value.asText? with
  | some s => Text.encode s.toList
  | none => bytesOfHex (((v.get? (key ++ "_hex")).bind Value.asText?).getD "").toList

def exitCodeOf : Option Value → UInt8
  | some (.number (.integer i)) => UInt8.ofNat i.toNat
  | _ => 0

def Rule.ofJson (v : Value) : Rule where
  only := (v.get? "when").bind Value.asText?
  stdout := printed v "stdout"
  stderr := printed v "stderr"
  exitCode := exitCodeOf (v.get? "exit")
  aborts := isSet v "abort"
  echoes := isSet v "echo_stdin"
  readsInput := (v.get? "read_stdin").isNone || isSet v "read_stdin"
  hangs := isSet v "hang"
  gate := (v.get? "gate").bind Value.asText?
  recorded := (v.get? "log").isNone || isSet v "log"
  lingers := 0

/-- The rules of a program: a list of them, or a single one. -/
def Script.ofJson : Value → Script
  | .array rules => rules.map Rule.ofJson
  | v => [Rule.ofJson v]

/-- The names in a place that is seen from where paths start. -/
def namesOf (place : String) : List String :=
  ((Text.splitWhere (· == '/') place.toList).map String.ofList).filter fun n => !n.isEmpty && n != "."

/-- Puts scripted programs onto the bench. Those that are found by name take the place of all before. -/
def Bench.withScripts (scripts : Value) (b : Bench) : Bench :=
  match scripts with
  | .object members =>
    members.foldl
      (fun b (name, rules) =>
        if name.toList.contains '/' then b.place (namesOf name) (Script.ofJson rules)
        else { b with found := Keyed.put name (Script.ofJson rules) b.found })
      { b with found := [] }
  | _ => { b with found := [] }

def Bench.ofFiles (t : FileTree) : Bench := ⟨t, [], [], [], silence, 0, [], []⟩

end LintBridge.Scenario
