/-!
Bytes and characters in UTF-8.

`decodeLossy` puts U+FFFD for each maximal part that cannot continue to a character, and never fails;
`decode?` refuses such bytes. Both walk with the same step, `nextChar`.
-/

set_option autoImplicit false
set_option relaxedAutoImplicit false

namespace LintBridge.Text

def encodeChar (c : Char) : List UInt8 := String.utf8EncodeChar c

def encode (cs : List Char) : List UInt8 := cs.flatMap encodeChar

/-- What a lead byte asks for: the number of bytes that follow it, its payload, and the range that the
second byte must lie in. The narrow ranges keep out overlong forms, surrogates and values over U+10FFFF. -/
def lead? (b : UInt8) : Option (Nat × Nat × UInt8 × UInt8) :=
  if b ≤ 0x7F then some (0, b.toNat, 0x80, 0xBF)
  else if 0xC2 ≤ b && b ≤ 0xDF then some (1, b.toNat - 0xC0, 0x80, 0xBF)
  else if b == 0xE0 then some (2, 0, 0xA0, 0xBF)
  else if b == 0xED then some (2, 0xD, 0x80, 0x9F)
  else if 0xE1 ≤ b && b ≤ 0xEF then some (2, b.toNat - 0xE0, 0x80, 0xBF)
  else if b == 0xF0 then some (3, 0, 0x90, 0xBF)
  else if 0xF1 ≤ b && b ≤ 0xF3 then some (3, b.toNat - 0xF0, 0x80, 0xBF)
  else if b == 0xF4 then some (3, 4, 0x80, 0x8F)
  else none

/-- Takes `n` bytes that continue a character whose payload so far is `code`, the first of them from the
given range. The answer is the character, or nothing where the bytes stop fitting, and the bytes left. -/
def continueChar : Nat → Nat → UInt8 → UInt8 → List UInt8 → Option Char × List UInt8
  | 0, code, _, _, rest => (some (Char.ofNat code), rest)
  | _ + 1, _, _, _, [] => (none, [])
  | n + 1, code, low, high, b :: rest =>
    if low ≤ b && b ≤ high then continueChar n (code * 64 + (b.toNat - 0x80)) 0x80 0xBF rest
    else (none, b :: rest)

/-- The first character of the bytes `b :: rest`, or nothing if a maximal part of them is no character. -/
def nextChar (b : UInt8) (rest : List UInt8) : Option Char × List UInt8 :=
  match lead? b with
  | none => (none, rest)
  | some (n, payload, low, high) => continueChar n payload low high rest

theorem length_continueChar_le (n code : Nat) (low high : UInt8) (rest : List UInt8) :
    (continueChar n code low high rest).2.length ≤ rest.length := by
  induction n generalizing code low high rest with
  | zero => simp [continueChar]
  | succ n ih =>
    cases rest with
    | nil => simp [continueChar]
    | cons b rest =>
      simp only [continueChar]
      split
      · exact Nat.le_succ_of_le (ih _ _ _ _)
      · exact Nat.le_refl _

theorem length_nextChar_le (b : UInt8) (rest : List UInt8) :
    (nextChar b rest).2.length ≤ rest.length := by
  unfold nextChar
  split
  · exact Nat.le_refl _
  · exact length_continueChar_le _ _ _ _ _

/-- The characters of some bytes, nothing standing for each part that is no character. -/
def decodeParts (bytes : List UInt8) : List (Option Char) :=
  match bytes with
  | [] => []
  | b :: rest => (nextChar b rest).1 :: decodeParts (nextChar b rest).2
termination_by bytes.length
decreasing_by exact Nat.lt_succ_of_le (length_nextChar_le b rest)

/-- The characters of some bytes, U+FFFD standing for each part that is no character. -/
def decodeLossy (bytes : List UInt8) : List Char :=
  (decodeParts bytes).map fun c => c.getD (Char.ofNat 0xFFFD)

/-- The characters of some bytes, if every part of them is a character. -/
def decode? (bytes : List UInt8) : Option (List Char) := (decodeParts bytes).mapM id

end LintBridge.Text
