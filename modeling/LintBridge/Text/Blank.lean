import LintBridge.Text.Range

/-!
Blank characters, and the text between them.

Blank means the Unicode property White_Space, which is larger than the ASCII class and smaller than
"invisible": the zero width space, the byte order mark and the information separators are not blank.
-/

set_option autoImplicit false
set_option relaxedAutoImplicit false

namespace LintBridge.Text

/-- The ranges of the White_Space property, both ends included. -/
def blankRanges : List (Nat × Nat) :=
  [(0x09, 0x0D), (0x20, 0x20), (0x85, 0x85), (0xA0, 0xA0), (0x1680, 0x1680), (0x2000, 0x200A),
   (0x2028, 0x2029), (0x202F, 0x202F), (0x205F, 0x205F), (0x3000, 0x3000)]

/-- Whether a character has the White_Space property. -/
def isBlank (c : Char) : Bool := inRanges blankRanges c

def dropBlanks (cs : List Char) : List Char := cs.dropWhile isBlank

def dropTrailingBlanks (cs : List Char) : List Char := (cs.reverse.dropWhile isBlank).reverse

/-- A text without its leading and trailing blanks. -/
def trim (s : String) : String := String.ofList (dropTrailingBlanks (dropBlanks s.toList))

/-- Whether a text has a character that is not blank. -/
def hasInk (s : String) : Bool := s.toList.any fun c => !isBlank c

/-- The maximal runs of characters that are not blank, in order. -/
def wordRuns : List Char → List (List Char)
  | [] => []
  | c :: cs =>
    if isBlank c then wordRuns cs
    else
      match cs, wordRuns cs with
      | d :: _, w :: ws => if isBlank d then [c] :: w :: ws else (c :: w) :: ws
      | _, ws => [c] :: ws

/-- The words of a text: what is left when it is cut at blanks. -/
def words (s : String) : List String := (wordRuns s.toList).map String.ofList

/-- The parts of a list between the elements that satisfy `p`; there is always at least one. -/
def splitWhere {α : Type} (p : α → Bool) : List α → List (List α)
  | [] => [[]]
  | a :: as =>
    if p a then [] :: splitWhere p as
    else
      match splitWhere p as with
      | [] => [[a]]
      | part :: parts => (a :: part) :: parts

/-- The lines of a text, cut at line feeds; a final line feed is followed by one more, empty line. -/
def lineRuns (cs : List Char) : List (List Char) := splitWhere (· == '\n') cs

end LintBridge.Text
