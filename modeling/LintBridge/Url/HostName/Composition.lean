import LintBridge.Url.HostName.CompositionTable
import LintBridge.Url.HostName.Mark

/-!
Texts in one form: each letter together with its marks, as far as there is one letter for them.
-/

set_option autoImplicit false
set_option relaxedAutoImplicit false

namespace LintBridge.HostName

/-- The pairs of a list: first and second, third and fourth, and so on. -/
def pairs : List Char → List (Char × Char)
  | a :: b :: rest => (a, b) :: pairs rest
  | _ => []

/-- The first of the syllables of Hangul. They stand in the order of their leads, then of their vowels, then
of their tails, of which the first is none. -/
def syllableBase : Nat := 0xAC00

def leadBase : Nat := 0x1100
def vowelBase : Nat := 0x1161
def tailBase : Nat := 0x11A7
def leadCount : Nat := 19
def vowelCount : Nat := 21
def tailCount : Nat := 28

def syllable? (n : Nat) : Option Nat :=
  if syllableBase ≤ n ∧ n < syllableBase + leadCount * vowelCount * tailCount then some (n - syllableBase)
  else none

/-- The syllable that a lead and a vowel make, or a syllable without a tail and a tail. -/
def composedSyllable? (x y : Nat) : Option Nat :=
  if leadBase ≤ x ∧ x < leadBase + leadCount ∧ vowelBase ≤ y ∧ y < vowelBase + vowelCount then
    some (syllableBase + ((x - leadBase) * vowelCount + (y - vowelBase)) * tailCount)
  else if (syllable? x).any (· % tailCount == 0) && tailBase < y && y < tailBase + tailCount then
    some (x + (y - tailBase))
  else none

/-- The letter that two characters make, the second one a mark or a part of a syllable. -/
def composed? (a b : Char) : Option Char :=
  if b.toNat < 0x300 then none
  else
    match composedSyllable? a.toNat b.toNat with
    | some n => some (Char.ofNat n)
    | none => (composedWith.lookup b.toNat).bind fun s => (pairs s.toList).lookup a

def parts? (c : Char) : Option (Char × Char) :=
  if c.toNat < 0xC0 then none
  else
    composedWith.findSome? fun (mark, s) =>
      ((pairs s.toList).find? fun p => p.2 == c).map fun p => (p.1, Char.ofNat mark)

/-- A character in its smallest parts; `fuel` bounds how often it is taken apart. -/
def takenApart : Nat → Char → List Char
  | 0, c => [c]
  | fuel + 1, c =>
    match syllable? c.toNat with
    | some i =>
      let tail := i % tailCount
      Char.ofNat (leadBase + i / (vowelCount * tailCount)) ::
        Char.ofNat (vowelBase + i / tailCount % vowelCount) ::
        if tail = 0 then [] else [Char.ofNat (tailBase + tail)]
    | none =>
      match parts? c with
      | some (a, mark) => takenApart fuel a ++ [mark]
      | none => [c]

def mostMarks : Nat := 3

/-- Puts a character behind others; a mark goes before the marks of higher classes at the end. The list is
reversed. -/
def insertMark (c : Char) : List Char → List Char
  | [] => [c]
  | d :: ds =>
    if markClass c ≠ 0 ∧ markClass c < markClass d then d :: insertMark c ds else c :: d :: ds

def inOrder (cs : List Char) : List Char := (cs.foldl (fun done c => insertMark c done) []).reverse

/-- A letter and the marks that could not join it, in order. -/
structure Cluster where
  letter : Char
  marks : List Char

/-- A character comes behind a cluster: it joins the letter, or stays with the marks, or starts anew. A mark
joins the letter only if no mark of its own class or of a higher one is between them. -/
def Cluster.next (done : List Char) (k : Cluster) (c : Char) : List Char × Cluster :=
  let blocked := k.marks.getLast?.any fun m => markClass c ≤ markClass m
  match if blocked then none else composed? k.letter c with
  | some letter => (done, { k with letter := letter })
  | none =>
    if markClass c = 0 then (done ++ k.letter :: k.marks, ⟨c, []⟩)
    else (done, { k with marks := k.marks ++ [c] })

def joined : List Char → List Char
  | [] => []
  | c :: cs =>
    let (done, k) := cs.foldl (fun (done, k) c => Cluster.next done k c) (([] : List Char), Cluster.mk c [])
    done ++ k.letter :: k.marks

def composed (cs : List Char) : List Char := joined (inOrder (cs.flatMap (takenApart mostMarks)))

end LintBridge.HostName
