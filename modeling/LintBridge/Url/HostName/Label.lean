import LintBridge.Text.Blank
import LintBridge.Url.HostName.Composition
import LintBridge.Url.HostName.Direction
import LintBridge.Url.HostName.Folding
import LintBridge.Url.HostName.Joining
import LintBridge.Url.Percent
import LintBridge.Url.Punycode

/-!
The labels of the name of a host: what stands between its dots.

A label is used in ASCII. If it has other letters, or is written as a label that has some, these have to be
in their one form, and to stand where they may.
-/

set_option autoImplicit false
set_option relaxedAutoImplicit false

namespace LintBridge.HostName

/-- The characters that no host may contain, besides controls. -/
def forbidden : List Char := [' ', '#', '/', ':', '<', '>', '?', '@', '[', '\\', ']', '^', '|']

def isForbidden (c : Char) : Bool := Percent.isControl c || forbidden.contains c || c == '%'

def asciiStart : List Char := "xn--".toList

/-- How many letters a label may have, of which some are outside ASCII. -/
def longestLetters : Nat := 1000

/-- How long a label may be that holds letters outside ASCII, without what it begins with. -/
def longestAscii : Nat := 2000

/-- Whether letters may stand next to each other as they do: none is a mark without a letter, and the joiners
among them are needed. -/
def areWellPlaced (letters : List Char) : Bool := !letters.head?.any isMark && joinersFit [] letters

def areSettled (letters : List Char) : Bool :=
  letters.all (fun c => folded? c == some [c]) && composed letters == letters

/-- A label: how it is written in ASCII, and the letters that it stands for. -/
structure Label where
  ascii : List Char
  letters : List Char
  deriving DecidableEq, Repr

namespace Label

def ofLetters? (letters : List Char) : Option Label :=
  if letters.all Punycode.isAscii then some ⟨letters, letters⟩
  else if letters.length > longestLetters || !areWellPlaced letters then none
  else some ⟨asciiStart ++ Punycode.encode letters, letters⟩

/-- The label that is written in ASCII, from behind what it begins with. -/
def ofAscii? (ascii : List Char) : Option Label :=
  if !ascii.all Punycode.isAscii || ascii.isEmpty || ascii.getLast? == some '-' ||
      ascii.length > longestAscii then none
  else
    ((Punycode.decode? ascii).filter fun letters => areSettled letters && areWellPlaced letters).map
      fun letters => ⟨asciiStart ++ ascii, letters⟩

def of? (cs : List Char) : Option Label :=
  if cs.any isForbidden then none
  else if asciiStart.isPrefixOf cs then ofAscii? (cs.drop asciiStart.length)
  else ofLetters? cs

end Label

/-- A name in ASCII, if a host may have it. Where one of its letters is read from right to left, each label
has one direction. -/
def toAscii? (name : List Char) : Option (List Char) := do
  let letters ← foldedName? name
  let labels ← (Text.splitWhere (· == '.') (composed letters)).mapM Label.of?
  let directions := labels.map fun l => l.letters.map Direction.of
  if directions.any (·.any Direction.isRightToLeft) && !directions.all Direction.agree then none
  else pure (List.intercalate ['.'] (labels.map Label.ascii))

end LintBridge.HostName
