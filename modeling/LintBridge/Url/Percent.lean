import LintBridge.Text.Utf8

/-!
Characters in addresses that are written as the numbers of their bytes, after a percent sign.
-/

set_option autoImplicit false
set_option relaxedAutoImplicit false

namespace LintBridge.Percent

def isControl (c : Char) : Bool := c.toNat < 0x20 || c.toNat == 0x7F

/-- The characters besides controls that are not written as themselves in each part of an address. -/
def fragmentSet : List Char := [' ', '"', '<', '>', '\x60']

def pathSet : List Char := fragmentSet ++ ['#', '?', '\x7b', '\x7d']

def userSet : List Char := pathSet ++ ['/', ':', ';', '=', '@', '[', '\\', ']', '^', '|']

def querySet : List Char := [' ', '"', '#', '<', '>']

def specialQuerySet : List Char := '\'' :: querySet

def byteText (b : UInt8) : List Char :=
  ['%', (Nat.digitChar (b.toNat / 16)).toUpper, (Nat.digitChar (b.toNat % 16)).toUpper]

/-- A text in which the characters of a set, controls, and all that is not ASCII are written in bytes. -/
def encode (set : List Char) (cs : List Char) : List Char :=
  cs.flatMap fun c =>
    if isControl c || c.toNat > 0x7E || set.contains c then (Text.encodeChar c).flatMap byteText else [c]

def hexValue? (c : Char) : Option Nat :=
  if c.isDigit then some (c.toNat - '0'.toNat)
  else if 'a' ≤ c ∧ c ≤ 'f' then some (c.toNat - 'a'.toNat + 10)
  else if 'A' ≤ c ∧ c ≤ 'F' then some (c.toNat - 'A'.toNat + 10)
  else none

/-- The bytes of a text, those after percent signs too. A percent sign without a number stands for itself. -/
def decode : List Char → List UInt8
  | '%' :: a :: b :: rest =>
    match hexValue? a, hexValue? b with
    | some x, some y => UInt8.ofNat (16 * x + y) :: decode rest
    | _, _ => 0x25 :: decode (a :: b :: rest)
  | c :: rest => Text.encodeChar c ++ decode rest
  | [] => []

end LintBridge.Percent
