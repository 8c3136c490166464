import LintBridge.Text.Blank

/-!
Version numbers as tools report them.

A text is read as a semantic version if it is one, and otherwise as up to three numbers between dots, what
is missing being zero.
-/

set_option autoImplicit false
set_option relaxedAutoImplicit false

namespace LintBridge

/-- A version: its three numbers, and the identifiers that mark it as a version before that release. -/
structure Version where
  major : Nat
  minor : Nat
  patch : Nat
  prerelease : List (List Char)
  deriving DecidableEq, Repr

namespace Version

def maxNumber : Nat := 18446744073709551615

def ofDigits (ds : List Char) : Nat := ds.foldl (fun n d => n * 10 + (d.toNat - '0'.toNat)) 0

def digits? (ds : List Char) : Option Nat :=
  if ds ≠ [] ∧ ds.all Char.isDigit ∧ ofDigits ds ≤ maxNumber then some (ofDigits ds) else none

def plainNumber? (ds : List Char) : Option Nat :=
  if ds.length ≥ 2 ∧ ds.head? = some '0' then none else digits? ds

def number? (cs : List Char) : Option Nat :=
  match cs with
  | '+' :: ds => digits? ds
  | ds => digits? ds

def isIdentifierChar (c : Char) : Bool := c.isAlphanum || c == '-'

/-- Whether a text may be one of the identifiers after a plus sign. -/
def isBuildIdentifier (cs : List Char) : Bool := !cs.isEmpty && cs.all isIdentifierChar

/-- Whether a text may be one of the identifiers after a minus sign: a number there has no needless zeros. -/
def isPrereleaseIdentifier (cs : List Char) : Bool :=
  isBuildIdentifier cs && !(cs.all Char.isDigit && 2 ≤ cs.length && cs.head? == some '0')

def dotted (cs : List Char) : List (List Char) := Text.splitWhere (· == '.') cs

/-- The text before the first `sep`, and the text after it if there is one. -/
def cutAt (sep : Char) (cs : List Char) : List Char × Option (List Char) :=
  (cs.takeWhile (· != sep),
    match cs.dropWhile (· != sep) with
    | [] => none
    | _ :: rest => some rest)

/-- A semantic version: three plain numbers, then identifiers after a minus sign, then identifiers after a
plus sign, which do not count. -/
def semantic? (cs : List Char) : Option Version :=
  let (head, build) := cutAt '+' cs
  let (core, pre) := cutAt '-' head
  match dotted core with
  | [a, b, c] => do
    let major ← plainNumber? a
    let minor ← plainNumber? b
    let patch ← plainNumber? c
    let ids := pre.elim [] dotted
    if ids.all isPrereleaseIdentifier && (build.elim [] dotted).all isBuildIdentifier then
      some ⟨major, minor, patch, ids⟩
    else none
  | _ => none

/-- Up to three numbers between dots; what comes after the third does not count. -/
def padded? (cs : List Char) : Option Version :=
  match (dotted cs).take 3 with
  | [a] => do some ⟨← number? a, 0, 0, []⟩
  | [a, b] => do some ⟨← number? a, ← number? b, 0, []⟩
  | [a, b, c] => do some ⟨← number? a, ← number? b, ← number? c, []⟩
  | _ => none

/-- Reads a version; blanks around it and letters `v` in front do not count. -/
def parse? (s : String) : Option Version :=
  let cs := (Text.dropTrailingBlanks (Text.dropBlanks s.toList)).dropWhile (· == 'v')
  (semantic? cs).or (padded? cs)

def numbers (v : Version) : Nat × Nat × Nat := (v.major, v.minor, v.patch)

def numbersBefore (a b : Nat × Nat × Nat) : Bool :=
  if a.1 ≠ b.1 then a.1 < b.1
  else if a.2.1 ≠ b.2.1 then a.2.1 < b.2.1
  else a.2.2 < b.2.2

/-- Whether a version comes before the release with the given numbers. The versions before a release that
are marked so have its numbers and come before it, too. -/
def isBefore (v : Version) (release : Nat × Nat × Nat) : Bool :=
  numbersBefore v.numbers release || (v.numbers == release && !v.prerelease.isEmpty)

end Version
end LintBridge
