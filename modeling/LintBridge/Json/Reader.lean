import LintBridge.Json.Cursor
import LintBridge.Json.Value

/-!
Reading JSON text.

`Value.parse` reads a whole text. The parts below it are also the parts of readers that take a record
straight from text: words, numbers, strings, and the skipping of values that nobody asks for. Skipping is
more lenient than reading: it looks neither at the size of numbers, nor at surrogates, nor at the depth.
-/

set_option autoImplicit false
set_option relaxedAutoImplicit false

namespace LintBridge.Json

open LintBridge.Decimal (Binary64 Magnitude)

def maxUnsigned : Nat := 18446744073709551615

/-- The largest written exponent that is taken at its value. -/
def maxExponent : Nat := 2147483647

def maxDepth : Nat := 127

namespace Cursor

/-! ### Words -/

def readWord : List Char → Cursor → Except Failure Cursor
  | [], c => .ok c
  | w :: word, c =>
    match c.rest with
    | [] => c.fail .endInValue
    | x :: _ => if x = w then readWord word c.advance else c.failPeeked .noWord

/-! ### Numbers -/

def digitValue (x : Char) : Nat := x.toNat - '0'.toNat

/-- Takes digits into a number for as long as it stays within `limit`: the number, and how many digits
it took. -/
def absorb (limit : Nat) : Nat → List Char → Nat × Nat
  | n, [] => (n, 0)
  | n, d :: ds =>
    if n * 10 + digitValue d ≤ limit then
      let (m, count) := absorb limit (n * 10 + digitValue d) ds
      (m, count + 1)
    else (n, 0)

/-- The number `significand * 10 ^ exponent`, which binary64 must reach. -/
def decimalNumber (negative : Bool) (significand : Nat) (exponent : Int) (c : Cursor) :
    Except Failure (Number × Cursor) :=
  match (Magnitude.ofNat? significand).bind fun x =>
      x.scaleTen? (exponent.natAbs / 308 + 2) exponent with
  | some m => .ok (.decimal ⟨negative, m⟩, c)
  | none => c.fail .numberOutOfRange

/-- An integer without a fraction or an exponent. Zero with a sign and what lies below `-2 ^ 63` become
binary64 numbers. -/
def integerNumber (negative : Bool) (n : Nat) (c : Cursor) : Except Failure (Number × Cursor) :=
  if negative = false then .ok (.integer n, c)
  else if n = 0 ∨ 9223372036854775808 < n then decimalNumber true n 0 c
  else .ok (.integer (-(n : Int)), c)

def readExponent (negative : Bool) (significand : Nat) (start : Int) (c : Cursor) :
    Except Failure (Number × Cursor) :=
  let (down, c) :=
    match c.rest with
    | '+' :: _ => (false, c.advance)
    | '-' :: _ => (true, c.advance)
    | _ => (false, c)
  match c.rest with
  | [] => c.fail .endInValue
  | x :: _ =>
    if x.isDigit = false then c.failPeeked .badNumber
    else
      let digits := c.rest.takeWhile Char.isDigit
      let (size, count) := absorb maxExponent 0 digits
      let done := c.skipWhile Char.isDigit
      if count = digits.length then
        decimalNumber negative significand (if down then start - size else start + size) done
      else if significand ≠ 0 ∧ down = false then
        .error ⟨.fault .numberOutOfRange, c.place.afterAll (digits.take (count + 1))⟩
      else .ok (.decimal ⟨negative, Magnitude.zero⟩, done)

def readFraction (negative : Bool) (significand : Nat) (start : Int) (c : Cursor) :
    Except Failure (Number × Cursor) :=
  let digits := c.rest.takeWhile Char.isDigit
  let done := c.skipWhile Char.isDigit
  if digits.isEmpty then
    if c.rest.isEmpty then c.fail .endInValue else c.failPeeked .badNumber
  else
    let (significand, count) := absorb maxUnsigned significand digits
    let exponent := start - count
    match done.rest with
    | 'e' :: _ => readExponent negative significand exponent done.advance
    | 'E' :: _ => readExponent negative significand exponent done.advance
    | _ => decimalNumber negative significand exponent done

/-- Reads what may follow the digits of an integer; `dropped` of them did not fit `significand`. -/
def readAfterDigits (negative : Bool) (significand dropped : Nat) (c : Cursor) :
    Except Failure (Number × Cursor) :=
  match c.rest with
  | '.' :: _ => readFraction negative significand dropped c.advance
  | 'e' :: _ => readExponent negative significand dropped c.advance
  | 'E' :: _ => readExponent negative significand dropped c.advance
  | _ =>
    if dropped = 0 then integerNumber negative significand c
    else decimalNumber negative significand dropped c

def readUnsigned (negative : Bool) (c : Cursor) : Except Failure (Number × Cursor) :=
  match c.rest with
  | [] => c.fail .endInValue
  | x :: rest =>
    if x = '0' then
      match rest with
      | d :: _ =>
        if d.isDigit then c.advance.failPeeked .badNumber
        else readAfterDigits negative 0 0 c.advance
      | [] => readAfterDigits negative 0 0 c.advance
    else if x.isDigit then
      let digits := c.rest.takeWhile Char.isDigit
      let (significand, count) := absorb maxUnsigned 0 digits
      readAfterDigits negative significand (digits.length - count) (c.skipWhile Char.isDigit)
    else c.failPeeked .badNumber

def readNumber (c : Cursor) : Except Failure (Number × Cursor) :=
  match c.rest with
  | '-' :: _ => readUnsigned true c.advance
  | _ => readUnsigned false c

/-! ### Strings -/

def hexDigit? (x : Char) : Option Nat :=
  if '0' ≤ x ∧ x ≤ '9' then some (x.toNat - '0'.toNat)
  else if 'a' ≤ x ∧ x ≤ 'f' then some (x.toNat - 'a'.toNat + 10)
  else if 'A' ≤ x ∧ x ≤ 'F' then some (x.toNat - 'A'.toNat + 10)
  else none

def fourHexDigits? : List Char → Option Nat
  | [a, b, c, d] => do
    let a ← hexDigit? a
    let b ← hexDigit? b
    let c ← hexDigit? c
    let d ← hexDigit? d
    pure (((a * 16 + b) * 16 + c) * 16 + d)
  | _ => none

def byteCount (cs : List Char) : Nat := cs.foldl (fun n c => n + c.utf8Size) 0

/-- Reads the four digits of a hexadecimal escape. They take four bytes, whatever those are. -/
def readHex (c : Cursor) : Except Failure (Nat × Cursor) :=
  match fourHexDigits? (c.rest.take 4) with
  | some n => .ok (n, c.advance.advance.advance.advance)
  | none =>
    if byteCount (c.rest.take 4) < 4 then .error ⟨.fault .endInString, c.place.afterAll c.rest⟩
    else .error ⟨.fault .badEscape, c.place.afterBytes 4 c.rest⟩

def isHighSurrogate (n : Nat) : Bool := 0xD800 ≤ n && n ≤ 0xDBFF

def isLowSurrogate (n : Nat) : Bool := 0xDC00 ≤ n && n ≤ 0xDFFF

def surrogatePair (high low : Nat) : Char :=
  Char.ofNat ((high - 0xD800) * 0x400 + (low - 0xDC00) + 0x10000)

/-- Reads a given character between the two halves of a pair of surrogates. -/
def readBetweenHalves (x : Char) (c : Cursor) : Except Failure Cursor :=
  match c.rest with
  | [] => c.fail .endInString
  | y :: _ => if x = y then .ok c.advance else c.failPeeked .cutHexEscape

/-- Reads a hexadecimal escape after its letter; a high surrogate must be followed by the escape of a
low one, and the two make one character. -/
def readHexEscape (c : Cursor) : Except Failure (Char × Cursor) := do
  let (n, c) ← c.readHex
  if isLowSurrogate n then c.fail .loneSurrogate
  else if isHighSurrogate n then
    let c ← c.readBetweenHalves '\\'
    let c ← c.readBetweenHalves 'u'
    let (m, c) ← c.readHex
    if isLowSurrogate m then pure (surrogatePair n m, c) else c.fail .loneSurrogate
  else pure (Char.ofNat n, c)

def escaped? (x : Char) : Option Char :=
  match x with
  | '"' => some '"'
  | '\\' => some '\\'
  | '/' => some '/'
  | 'b' => some (Char.ofNat 0x08)
  | 'f' => some (Char.ofNat 0x0C)
  | 'n' => some '\n'
  | 'r' => some '\r'
  | 't' => some '\t'
  | _ => none

def readEscape (c : Cursor) : Except Failure (Char × Cursor) :=
  match c.rest with
  | [] => c.fail .endInString
  | x :: _ =>
    match escaped? x with
    | some y => .ok (y, c.advance)
    | none => if x = 'u' then c.advance.readHexEscape else c.failPeeked .badEscape

/-- Reads one character of a string, or nothing at its closing quote. -/
def readStringChar (c : Cursor) : Except Failure (Option Char × Cursor) :=
  match c.rest with
  | [] => c.fail .endInString
  | x :: _ =>
    if x = '"' then .ok (none, c.advance)
    else if x = '\\' then do
      let (y, c) ← c.advance.readEscape
      pure (some y, c)
    else if x.toNat < 0x20 then c.failPeeked .controlInString
    else .ok (some x, c.advance)

/-- Reads the characters of a string up to its closing quote; `acc` holds the ones before, the last
first, and `fuel` bounds the number of characters. -/
def readStringChars : Nat → List Char → Cursor → Except Failure (String × Cursor)
  | 0, _, c => c.fail .endInString
  | fuel + 1, acc, c =>
    match c.readStringChar with
    | .error e => .error e
    | .ok (none, c) => .ok (String.ofList acc.reverse, c)
    | .ok (some x, c) => readStringChars fuel (x :: acc) c

def readString (c : Cursor) : Except Failure (String × Cursor) :=
  readStringChars (c.rest.length + 1) [] c

/-! ### Values -/

def readColon (c : Cursor) : Except Failure Cursor :=
  let c := c.skipSpace
  match c.rest with
  | ':' :: _ => .ok c.advance
  | [] => c.fail .endInObject
  | _ => c.failPeeked .noColon

/-- Goes to the next item of a list, or says that the list ends; the cursor then stands at its bracket. -/
def nextItem (first : Bool) (c : Cursor) : Except Failure (Option Cursor × Cursor) :=
  let c := c.skipSpace
  match c.rest with
  | [] => c.fail .endInList
  | ']' :: _ => .ok (none, c)
  | x :: _ =>
    if first then .ok (some c, c)
    else if x = ',' then
      let c := c.advance.skipSpace
      match c.rest with
      | ']' :: _ => c.failPeeked .trailingComma
      | [] => c.fail .endInValue
      | _ => .ok (some c, c)
    else c.failPeeked .noListCommaOrEnd

/-- Goes to the opening quote of the next key of an object, or says that the object ends; the cursor then
stands at its brace. -/
def nextKey (first : Bool) (c : Cursor) : Except Failure (Option Cursor × Cursor) :=
  let c := c.skipSpace
  match c.rest with
  | [] => c.fail .endInObject
  | x :: _ =>
    if x = '\x7d' then .ok (none, c)
    else if first then
      if x = '"' then .ok (some c, c) else c.failPeeked .keyNotString
    else if x = ',' then
      let c := c.advance.skipSpace
      match c.rest with
      | [] => c.fail .endInValue
      | y :: _ =>
        if y = '"' then .ok (some c, c)
        else if y = '\x7d' then c.failPeeked .trailingComma
        else c.failPeeked .keyNotString
    else c.failPeeked .noObjectCommaOrEnd

/-- Reads the items of a list up to and with its bracket; `acc` holds the ones before, the last first. -/
def readItems {α : Type} (item : Cursor → Except Failure (α × Cursor)) :
    Nat → Bool → List α → Cursor → Except Failure (List α × Cursor)
  | 0, _, _, c => c.fail .endInList
  | fuel + 1, first, acc, c =>
    match c.nextItem first with
    | .error e => .error e
    | .ok (none, c) => .ok (acc.reverse, c.advance)
    | .ok (some c, _) =>
      match item c with
      | .error e => .error e
      | .ok (a, c) => readItems item fuel false (a :: acc) c

/-- Reads the members of an object up to and with its brace; `acc` holds the ones before. -/
def readMembers {α : Type} (value : Cursor → Except Failure (α × Cursor)) :
    Nat → Bool → List (String × α) → Cursor → Except Failure (List (String × α) × Cursor)
  | 0, _, _, c => c.fail .endInObject
  | fuel + 1, first, acc, c =>
    match c.nextKey first with
    | .error e => .error e
    | .ok (none, c) => .ok (acc, c.advance)
    | .ok (some c, _) =>
      match c.advance.readString with
      | .error e => .error e
      | .ok (key, c) =>
        match c.readColon with
        | .error e => .error e
        | .ok c =>
          match value c with
          | .error e => .error e
          | .ok (a, c) => readMembers value fuel false (insertMember key a acc) c

def readScalar (c : Cursor) : Except Failure (Value × Cursor) :=
  match c.rest with
  | [] => c.fail .endInValue
  | x :: _ =>
    if x = 'n' then (c.advance.readWord ['u', 'l', 'l']).map fun c => (.null, c)
    else if x = 't' then (c.advance.readWord ['r', 'u', 'e']).map fun c => (.bool true, c)
    else if x = 'f' then (c.advance.readWord ['a', 'l', 's', 'e']).map fun c => (.bool false, c)
    else if x = '"' then c.advance.readString.map fun r => (.text r.1, r.2)
    else if x = '-' ∨ x.isDigit then c.readNumber.map fun r => (.number r.1, r.2)
    else c.failPeeked .noValue

/-- Reads a value with at most `depth` containers inside one another. -/
def readValue (depth : Nat) (c : Cursor) : Except Failure (Value × Cursor) :=
  let c := c.skipSpace
  match c.rest with
  | '[' :: _ =>
    match depth with
    | 0 => c.failPeeked .tooDeep
    | depth + 1 =>
      (readItems (readValue depth) c.rest.length true [] c.advance).map fun r => (.array r.1, r.2)
  | '\x7b' :: _ =>
    match depth with
    | 0 => c.failPeeked .tooDeep
    | depth + 1 =>
      (readMembers (readValue depth) c.rest.length true [] c.advance).map fun r => (.object r.1, r.2)
  | _ => c.readScalar

def readEnd (c : Cursor) : Except Failure Unit :=
  let c := c.skipSpace
  if c.rest.isEmpty then .ok () else c.failPeeked .trailingCharacters

/-! ### Skipping -/

/-- Skips the digits after a point or an exponent's sign; `place` is where their absence is reported. -/
def skipDigits (c : Cursor) (place : Place) : Except Failure Cursor :=
  match c.rest with
  | x :: _ =>
    if x.isDigit then .ok (c.skipWhile Char.isDigit) else .error ⟨.fault .badNumber, place⟩
  | [] => .error ⟨.fault .badNumber, place⟩

def skipExponent (c : Cursor) : Except Failure Cursor :=
  match c.rest with
  | x :: _ =>
    if x = 'e' ∨ x = 'E' then
      let c := c.advance
      let c :=
        match c.rest with
        | '+' :: _ => c.advance
        | '-' :: _ => c.advance
        | _ => c
      c.skipDigits c.peeked
    else .ok c
  | [] => .ok c

def skipNumber (c : Cursor) : Except Failure Cursor := do
  let c :=
    match c.rest with
    | '-' :: _ => c.advance
    | _ => c
  let c ←
    match c.rest with
    | [] => c.fail .badNumber
    | x :: rest =>
      if x = '0' then
        match rest with
        | d :: _ => if d.isDigit then c.advance.failPeeked .badNumber else pure c.advance
        | [] => pure c.advance
      else if x.isDigit then pure (c.skipWhile Char.isDigit)
      else c.failPeeked .badNumber
  match c.rest with
  | '.' :: _ => do
    let c ← c.advance.skipDigits c.advance.peeked
    c.skipExponent
  | _ => c.skipExponent

/-- Skips one character of a string; says whether the string goes on. -/
def skipStringChar (c : Cursor) : Except Failure (Bool × Cursor) :=
  match c.rest with
  | [] => c.fail .endInString
  | x :: _ =>
    if x = '"' then .ok (false, c.advance)
    else if x = '\\' then
      let c := c.advance
      match c.rest with
      | [] => c.fail .endInString
      | y :: _ =>
        if (escaped? y).isSome then .ok (true, c.advance)
        else if y = 'u' then c.advance.readHex.map fun r => (true, r.2)
        else c.failPeeked .badEscape
    else if x.toNat < 0x20 then c.fail .controlInString
    else .ok (true, c.advance)

/-- Skips the characters of a string up to its closing quote. -/
def skipStringChars : Nat → Cursor → Except Failure Cursor
  | 0, c => c.fail .endInString
  | fuel + 1, c =>
    match c.skipStringChar with
    | .error e => .error e
    | .ok (false, c) => .ok c
    | .ok (true, c) => skipStringChars fuel c

def skipString (c : Cursor) : Except Failure Cursor := skipStringChars (c.rest.length + 1) c

/-- A container that a value being skipped stands in. -/
inductive Container
  | list
  | object
  deriving DecidableEq, Repr

def skipKey (c : Cursor) : Except Failure Cursor := do
  let c := c.skipSpace
  match c.rest with
  | [] => c.fail .endInObject
  | x :: _ => if x = '"' then c.advance.skipString >>= readColon else c.failPeeked .keyNotString

/-- Closes the containers that end here. `comma` says that a value has just ended, so that a comma may
follow. The answer is the cursor at the next value and the containers it stands in, or the cursor after
the outermost container. -/
def closeContainers :
    Nat → Bool → List Container → Cursor → Except Failure (List Container × Cursor)
  | 0, _, _, c => c.fail .endInValue
  | _ + 1, _, [], c => .ok ([], c)
  | fuel + 1, comma, container :: outer, c =>
    let c := c.skipSpace
    match c.rest with
    | [] => c.fail (match container with | .list => .endInList | .object => .endInObject)
    | x :: _ =>
      if (x = ']' ∧ container = .list) ∨ (x = '\x7d' ∧ container = .object) then
        closeContainers fuel true outer c.advance
      else if comma then
        if x = ',' then
          match container with
          | .list => .ok (container :: outer, c.advance)
          | .object => c.advance.skipKey.map fun c => (container :: outer, c)
        else
          c.failPeeked
            (match container with | .list => .noListCommaOrEnd | .object => .noObjectCommaOrEnd)
      else
        match container with
        | .list => .ok (container :: outer, c)
        | .object => c.skipKey.map fun c => (container :: outer, c)

/-- Skips values until the outermost container is closed; `outer` are the containers around the cursor. -/
def skipNested : Nat → List Container → Cursor → Except Failure Cursor
  | 0, _, c => c.fail .endInValue
  | fuel + 1, outer, c => do
    let c := c.skipSpace
    let (containers, c) ←
      match c.rest with
      | '[' :: _ => closeContainers (c.rest.length + 1) false (.list :: outer) c.advance
      | '\x7b' :: _ => closeContainers (c.rest.length + 1) false (.object :: outer) c.advance
      | [] => c.fail .endInValue
      | x :: _ => do
        let c ←
          if x = 'n' then c.advance.readWord ['u', 'l', 'l']
          else if x = 't' then c.advance.readWord ['r', 'u', 'e']
          else if x = 'f' then c.advance.readWord ['a', 'l', 's', 'e']
          else if x = '"' then c.advance.skipString
          else if x = '-' ∨ x.isDigit then c.skipNumber
          else c.failPeeked .noValue
        closeContainers (c.rest.length + 2) true outer c
    if containers.isEmpty then pure c else skipNested fuel containers c

def skipValue (c : Cursor) : Except Failure Cursor := skipNested (c.rest.length + 1) [] c

end Cursor

def Value.parse (s : String) : Except Failure Value := do
  let (v, c) ← (Cursor.start s.toList).readValue maxDepth
  c.readEnd
  pure v

end LintBridge.Json
