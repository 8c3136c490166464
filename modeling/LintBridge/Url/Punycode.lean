/-!
Host names in ASCII: letters outside ASCII are written behind the others, as gaps.

A gap says how far it is from one letter to the next, where letters are ordered by their code points and
then by their places. It is written in digits of base 36, with thresholds that follow the sizes of the gaps
before it.
-/

set_option autoImplicit false
set_option relaxedAutoImplicit false

namespace LintBridge.Punycode

def base : Nat := 36

def threshold (place bias : Nat) : Nat :=
  if place ≤ bias then 1 else if bias + 26 ≤ place then 26 else place - bias

theorem threshold_pos (place bias : Nat) : 1 ≤ threshold place bias := by
  unfold threshold
  split
  · omega
  · split <;> omega

def scaleDown (gap places : Nat) : Nat × Nat :=
  if _h : 455 < gap then scaleDown (gap / 35) (places + base) else (gap, places)
termination_by gap
decreasing_by exact Nat.div_lt_self (by omega) (by omega)

/-- The bias after a gap, when `count` letters have been placed. -/
def adapt (gap count : Nat) (first : Bool) : Nat :=
  let halved := if first then gap / 700 else gap / 2
  let (small, places) := scaleDown (halved + halved / count) 0
  places + base * small / (small + 38)

def digit (n : Nat) : Char :=
  if n < 26 then Char.ofNat ('a'.toNat + n) else Char.ofNat ('0'.toNat + (n - 26))

def digitValue? (c : Char) : Option Nat :=
  if c.isLower then some (c.toNat - 'a'.toNat)
  else if c.isUpper then some (c.toNat - 'A'.toNat)
  else if c.isDigit then some (c.toNat - '0'.toNat + 26)
  else none

def writeGap (bias place gap : Nat) : List Char :=
  let t := threshold place bias
  if _h : gap < t then [digit gap]
  else digit (t + (gap - t) % (base - t)) :: writeGap bias (place + base) ((gap - t) / (base - t))
termination_by gap
decreasing_by
  have := threshold_pos place bias
  exact Nat.lt_of_le_of_lt (Nat.div_le_self _ _) (by omega)

/-- What has been written, and what the next gap depends on. -/
structure Writer where
  written : List Char
  gap : Nat
  bias : Nat
  /-- How many letters have been placed. -/
  placed : Nat

/-- Looks at one letter of the name while the letters with code point `n` are placed. -/
def Writer.pass (basic n : Nat) (w : Writer) (c : Char) : Writer :=
  if c.toNat < n then { w with gap := w.gap + 1 }
  else if c.toNat = n then
    { written := w.written ++ writeGap w.bias base w.gap
      gap := 0
      bias := adapt w.gap (w.placed + 1) (w.placed == basic)
      placed := w.placed + 1 }
  else w

/-- Places the letters with each of the code points, which come in rising order, above `from`. -/
def placeAll (name : List Char) (basic : Nat) : List Nat → Nat → Writer → Writer
  | [], _, w => w
  | n :: rest, lowest, w =>
    let w := { w with gap := w.gap + (n - lowest) * (w.placed + 1) }
    let w := name.foldl (Writer.pass basic n) w
    placeAll name basic rest (n + 1) { w with gap := w.gap + 1 }

def isAscii (c : Char) : Bool := c.toNat < 0x80

def risingOnce (ns : List Nat) : List Nat := (ns.mergeSort (· ≤ ·)).eraseDups

def encode (name : List Char) : List Char :=
  let ascii := name.filter isAscii
  let others := risingOnce ((name.filter fun c => !isAscii c).map Char.toNat)
  let w := placeAll name ascii.length others 0x80 ⟨[], 0, 72, ascii.length⟩
  ascii ++ (if ascii.isEmpty then [] else ['-']) ++ w.written

def wordSize : Nat := 4294967296

/-- Reads the digits of a gap from a place on: the gap, and what is left. -/
def readGap (bias : Nat) : Nat → Nat → Nat → List Char → Option (Nat × List Char)
  | _, _, _, [] => none
  | place, weight, sum, c :: cs =>
    match digitValue? c with
    | none => none
    | some d =>
      let sum := sum + d * weight
      let t := threshold place bias
      if sum ≥ wordSize then none
      else if d < t then some (sum, cs)
      else if weight * (base - t) ≥ wordSize then none
      else readGap bias (place + base) (weight * (base - t)) sum cs

/-- Puts letters into a name, a gap each; `fuel` bounds their number. -/
def insertAll : Nat → List Char → Nat → Nat → Nat → List Char → Option (List Char)
  | _, [], _, _, _, name => some name
  | 0, _ :: _, _, _, _, _ => none
  | fuel + 1, digits, lowest, spot, bias, name =>
    match readGap bias base 1 0 digits with
    | none => none
    | some (gap, rest) =>
      let total := name.length + 1
      let n := lowest + (spot + gap) / total
      let place := (spot + gap) % total
      if n > 0x10FFFF ∨ (0xD800 ≤ n ∧ n ≤ 0xDFFF) then none
      else
        insertAll fuel rest n (place + 1) (adapt gap total (spot == 0 && lowest == 0x80))
          (name.take place ++ Char.ofNat n :: name.drop place)

/-- The name that is written in ASCII. What divides the letters from the gaps does not stand in front. -/
def decode? (ascii : List Char) : Option (List Char) :=
  let digits := (ascii.reverse.takeWhile (· != '-')).reverse
  let basic := (ascii.take (ascii.length - digits.length)).dropLast
  if basic.isEmpty && digits.length < ascii.length then none
  else insertAll (digits.length + 1) digits 0x80 0 72 basic

end LintBridge.Punycode
