import LintBridge.Json.Value
import LintBridge.Decimal.Shortest

/-!
Writing JSON: `Value.compact` without any space, `Value.pretty` with a line for each item and each member.
Both keep the members of an object in the order they are given in, and escape only quotes, backslashes
and controls.
-/

set_option autoImplicit false
set_option relaxedAutoImplicit false

namespace LintBridge.Json

def hexDigit (n : Nat) : Char := Nat.digitChar n

def escapeChar (c : Char) : List Char :=
  if c = '"' then ['\\', '"']
  else if c = '\\' then ['\\', '\\']
  else if c = '\n' then ['\\', 'n']
  else if c = '\r' then ['\\', 'r']
  else if c = '\t' then ['\\', 't']
  else if c.toNat = 0x08 then ['\\', 'b']
  else if c.toNat = 0x0C then ['\\', 'f']
  else if c.toNat < 0x20 then
    ['\\', 'u', '0', '0', hexDigit (c.toNat / 16), hexDigit (c.toNat % 16)]
  else [c]

def writeString (s : String) : List Char :=
  '"' :: (s.toList.flatMap escapeChar ++ ['"'])

def Number.write : Number → List Char
  | .integer i => (toString i).toList
  | .decimal x => x.text.toList

def newLine (depth : Nat) : List Char := '\n' :: List.replicate (2 * depth) ' '

mutual

def writeCompact : Value → List Char
  | .null => ['n', 'u', 'l', 'l']
  | .bool true => ['t', 'r', 'u', 'e']
  | .bool false => ['f', 'a', 'l', 's', 'e']
  | .number n => n.write
  | .text s => writeString s
  | .array items => '[' :: writeCompactItems true items
  | .object members => '\x7b' :: writeCompactMembers true members

def writeCompactItems (first : Bool) : List Value → List Char
  | [] => [']']
  | v :: rest => (if first then [] else [',']) ++ writeCompact v ++ writeCompactItems false rest

def writeCompactMembers (first : Bool) : List (String × Value) → List Char
  | [] => ['\x7d']
  | (key, v) :: rest =>
    (if first then [] else [',']) ++ writeString key ++ ':' :: writeCompact v ++
      writeCompactMembers false rest

end

mutual

/-- A value that starts at `depth` steps of indentation. An empty container stays on its line. -/
def writePretty (depth : Nat) : Value → List Char
  | .null => ['n', 'u', 'l', 'l']
  | .bool true => ['t', 'r', 'u', 'e']
  | .bool false => ['f', 'a', 'l', 's', 'e']
  | .number n => n.write
  | .text s => writeString s
  | .array [] => ['[', ']']
  | .array (v :: rest) =>
    '[' :: newLine (depth + 1) ++ writePretty (depth + 1) v ++ writePrettyItems depth rest
  | .object [] => ['\x7b', '\x7d']
  | .object ((key, v) :: rest) =>
    '\x7b' :: newLine (depth + 1) ++ writeString key ++ ':' :: ' ' :: writePretty (depth + 1) v ++
      writePrettyMembers depth rest

def writePrettyItems (depth : Nat) : List Value → List Char
  | [] => newLine depth ++ [']']
  | v :: rest =>
    ',' :: newLine (depth + 1) ++ writePretty (depth + 1) v ++ writePrettyItems depth rest

def writePrettyMembers (depth : Nat) : List (String × Value) → List Char
  | [] => newLine depth ++ ['\x7d']
  | (key, v) :: rest =>
    ',' :: newLine (depth + 1) ++ writeString key ++ ':' :: ' ' :: writePretty (depth + 1) v ++
      writePrettyMembers depth rest

end

namespace Value

def compact (v : Value) : String := String.ofList (writeCompact v)

def pretty (v : Value) : String := String.ofList (writePretty 0 v)

end Value
end LintBridge.Json
