import LintBridge.Text.Blank
import LintBridge.Url.HostName.FoldingTable

/-!
Names of hosts without the differences that do not matter in them: capitals become small, forms of one letter
become that letter, and what is not seen goes.
-/

set_option autoImplicit false
set_option relaxedAutoImplicit false

namespace LintBridge.HostName

/-- The character that stands for another one in a run of the table. -/
def inRun? (n : Nat) (run : Nat × Nat × Nat × Nat × Nat) : Option Nat :=
  let (first, target, length, step, targetStep) := run
  if first ≤ n ∧ (n - first) % step = 0 ∧ (n - first) / step < length then
    some (target + (n - first) / step * targetStep)
  else none

/-- The text that stands for a character in a range of the table. -/
def inTexts? (n : Nat) (range : Nat × Nat × String) : Option String :=
  let (first, last, texts) := range
  if first ≤ n ∧ n ≤ last then (Text.words texts)[n - first]? else none

/-- What stands for a character in a name, if a name may hold it. -/
def folded? (c : Char) : Option (List Char) :=
  let n := c.toNat
  if n < 0x80 then some [c.toLower]
  else if Text.inRanges ignoredRanges c then some []
  else if Text.inRanges unusableRanges c then none
  else
    match foldingRuns.findSome? (inRun? n), foldingTexts.findSome? (inTexts? n) with
    | some m, _ => some [Char.ofNat m]
    | none, some text => some text.toList
    | none, none => some [c]

/-- A name with all that stands for its characters, if a name may hold them. -/
def foldedName? (name : List Char) : Option (List Char) := (name.mapM folded?).map List.flatten

end LintBridge.HostName
