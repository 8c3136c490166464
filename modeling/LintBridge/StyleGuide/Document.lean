import LintBridge.Text.Blank

/-!
The style guide's text, and the rules in it.

A rule begins with its heading, a line such as `=== Tabs or Spaces? [[tabs-or-spaces]]`, and goes on to the
next heading. What stands before the first heading belongs to no rule.
-/

set_option autoImplicit false
set_option relaxedAutoImplicit false

namespace LintBridge.StyleGuide

/-- What is left and right of the first place where `mark` stands. -/
def cutFirst? (mark : List Char) : List Char → Option (List Char × List Char)
  | [] => none
  | c :: cs =>
    if mark.isPrefixOf (c :: cs) then some ([], (c :: cs).drop mark.length)
    else (cutFirst? mark cs).map fun (left, right) => (c :: left, right)

/-- What is left and right of the last place where `mark` stands. -/
def cutLast? (mark : List Char) : List Char → Option (List Char × List Char)
  | [] => none
  | c :: cs =>
    match cutLast? mark cs with
    | some (left, right) => some (c :: left, right)
    | none =>
      if mark.isPrefixOf (c :: cs) then some ([], (c :: cs).drop mark.length) else none

def headingMark : List Char := ['=', '=', '=']

def anchorOpen : List Char := ['[', '[']

def anchorClose : List Char := [']', ']']

/-- The anchor of a heading: after its mark, what stands between the last opening brackets that are still
closed, and the last closing ones. Other lines have none. -/
def anchor? (line : List Char) : Option (List Char) := do
  let (_, title) ← cutFirst? headingMark line
  let (inner, _) ← cutLast? anchorClose title
  let (_, anchor) ← cutLast? anchorOpen inner
  pure anchor

/-- The rules among some lines: the anchor of each heading, with the lines up to the next one. -/
def sections : List (List Char) → List (List Char × List (List Char))
  | [] => []
  | line :: rest =>
    match anchor? line with
    | some a => (a, rest.takeWhile fun l => (anchor? l).isNone) :: sections rest
    | none => sections rest

/-- Whether two characters are the same but for case. The long s is a small s. -/
def sameLetter (pattern c : Char) : Bool :=
  c.toLower == pattern || (pattern == 's' && c.toNat == 0x17F)

def codeMark : List Char := "[source,ruby]".toList

def fenceMark : List Char := "----".toList

def startsWithMark : List Char → List Char → Bool
  | [], _ => true
  | _ :: _, [] => false
  | m :: mark, c :: cs => sameLetter m c && startsWithMark mark cs

def markLength? (cs : List Char) : Option Nat :=
  if startsWithMark codeMark cs then some codeMark.length
  else if startsWithMark fenceMark cs then some fenceMark.length
  else none

/-- A text without the marks around code. They are taken out from left to right, after `skip` characters
that belong to a mark already seen. -/
def dropMarks (skip : Nat) : List Char → List Char
  | [] => []
  | c :: cs =>
    match skip with
    | n + 1 => dropMarks n cs
    | 0 =>
      match markLength? (c :: cs) with
      | some n => dropMarks (n - 1) cs
      | none => c :: dropMarks 0 cs

/-- What is shown of a rule. -/
def body (lines : List (List Char)) : List Char :=
  Text.dropTrailingBlanks (Text.dropBlanks (dropMarks 0 (List.intercalate ['\n'] lines)))

/-- The rules of a style guide in their order: anchors and texts. -/
def rules (document : String) : List (String × String) :=
  (sections (Text.lineRuns document.toList)).map fun (a, lines) =>
    (String.ofList a, String.ofList (body lines))

end LintBridge.StyleGuide
