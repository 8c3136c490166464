import LintBridge.Json.Reader

/-!
Shapes: how a type of the program is taken from JSON.

A shape has two readings. `fromValue` looks at a value that has been read already; what it finds wrong has
no place. `fromText` reads straight from text, so that a breach of the grammar and a mismatch are
reported in the order in which they stand there, each with its place.
-/

set_option autoImplicit false
set_option relaxedAutoImplicit false

namespace LintBridge.Json

def Value.seen : Value → Seen
  | .null => .null
  | .bool b => .bool b
  | .number (.integer i) => .integer i
  | .number (.decimal x) => .decimal x
  | .text s => .text s
  | .array _ => .sequence
  | .object _ => .map

namespace Cursor

/-- A mismatch of the value that starts here. A container is named without a look into it; any other value
is read, and may turn out to be none. -/
def unexpected {α : Type} (expected : String) (c : Cursor) : Except Failure α :=
  match c.rest with
  | '[' :: _ => c.mismatch (.kind .sequence expected)
  | '\x7b' :: _ => c.mismatch (.kind .map expected)
  | _ =>
    match c.readScalar with
    | .error e => .error e
    | .ok (v, c) => c.mismatch (.kind v.seen expected)

/-- Where a list in which reading stopped at `c` is left: after its bracket if that comes next, and after
a comma if that does. -/
def leaveList (c : Cursor) : Cursor :=
  let c := c.skipSpace
  match c.rest with
  | ']' :: _ => c.advance
  | ',' :: _ => c.advance.skipSpace
  | _ => c

/-- Where an object in which reading stopped at `c` is left: after its brace if that comes next. -/
def leaveObject (c : Cursor) : Cursor :=
  let c := c.skipSpace
  match c.rest with
  | '\x7d' :: _ => c.advance
  | _ => c

/-- Reads the bracket of a list of which nobody asks for another item. -/
def readListEnd (c : Cursor) : Except Failure Cursor :=
  let c := c.skipSpace
  match c.rest with
  | [] => c.fail .endInList
  | ']' :: _ => .ok c.advance
  | ',' :: _ =>
    let c := c.advance.skipSpace
    match c.rest with
    | ']' :: _ => c.failPeeked .trailingComma
    | _ => c.failPeeked .trailingCharacters
  | _ => c.failPeeked .trailingCharacters

end Cursor

/-- The two readings of a type. -/
structure Shape (α : Type) where
  fromValue : Value → Except Mismatch α
  fromText : Cursor → Except Failure (α × Cursor)

namespace Shape

def parse {α : Type} (shape : Shape α) (s : String) : Except Failure α := do
  let (a, c) ← shape.fromText (Cursor.start s.toList)
  c.readEnd
  pure a

def ofValue {α : Type} (f : Value → Except Mismatch α) : Shape α where
  fromValue := f
  fromText c := do
    let (v, c) ← c.readValue maxDepth
    match f v with
    | .ok a => pure (a, c)
    | .error m => c.mismatch m

def map {α β : Type} (f : α → β) (shape : Shape α) : Shape β where
  fromValue v := (shape.fromValue v).map f
  fromText c := (shape.fromText c).map fun r => (f r.1, r.2)

def bool : Shape Bool where
  fromValue
    | .bool b => .ok b
    | v => .error (.kind v.seen "a boolean")
  fromText c :=
    let c := c.skipSpace
    match c.rest with
    | [] => c.fail .endInValue
    | 't' :: _ => (c.advance.readWord ['r', 'u', 'e']).map fun c => (true, c)
    | 'f' :: _ => (c.advance.readWord ['a', 'l', 's', 'e']).map fun c => (false, c)
    | _ => c.unexpected "a boolean"

def textNamed (expected : String) : Shape String where
  fromValue
    | .text s => .ok s
    | v => .error (.kind v.seen expected)
  fromText c :=
    let c := c.skipSpace
    match c.rest with
    | [] => c.fail .endInValue
    | '"' :: _ => c.advance.readString
    | _ => c.unexpected expected

def text : Shape String := textNamed "a string"

/-- An integer from `low` to `high`, from a number that has been read. -/
def checkInteger (low high : Int) (expected : String) : Number → Except Mismatch Int
  | .integer i =>
    if low ≤ i ∧ i ≤ high then .ok i else .error (.bounds (.integer i) expected)
  | .decimal x => .error (.kind (.decimal x) expected)

def integer (low high : Int) (expected : String) : Shape Int where
  fromValue
    | .number n => checkInteger low high expected n
    | v => .error (.kind v.seen expected)
  fromText c :=
    let c := c.skipSpace
    match c.rest with
    | [] => c.fail .endInValue
    | x :: _ =>
      if x = '-' ∨ x.isDigit then
        match c.readNumber with
        | .error e => .error e
        | .ok (n, c) =>
          match checkInteger low high expected n with
          | .ok i => .ok (i, c)
          | .error m => c.mismatch m
      else c.unexpected expected

def word32 : Shape UInt32 := (integer 0 4294967295 "u32").map fun i => UInt32.ofNat i.toNat

def word64 : Shape UInt64 := (integer 0 18446744073709551615 "u64").map fun i => UInt64.ofNat i.toNat

def value : Shape Value where
  fromValue v := .ok v
  fromText c := c.readValue maxDepth

def optional {α : Type} (shape : Shape α) : Shape (Option α) where
  fromValue
    | .null => .ok none
    | v => (shape.fromValue v).map some
  fromText c :=
    let c := c.skipSpace
    match c.rest with
    | 'n' :: _ => (c.advance.readWord ['u', 'l', 'l']).map fun c => (none, c)
    | _ => (shape.fromText c).map fun r => (some r.1, r.2)

/-- Reads every value of a list, up to the first that does not fit. -/
def allFromValues {α : Type} (shape : Shape α) : List Value → Except Mismatch (List α)
  | [] => .ok []
  | v :: rest => do
    let a ← shape.fromValue v
    let as ← allFromValues shape rest
    pure (a :: as)

def list {α : Type} (shape : Shape α) : Shape (List α) where
  fromValue
    | .array items => allFromValues shape items
    | v => .error (.kind v.seen "a sequence")
  fromText c :=
    let c := c.skipSpace
    match c.rest with
    | [] => c.fail .endInValue
    | '[' :: _ => Cursor.readItems shape.fromText c.rest.length true [] c.advance
    | _ => c.unexpected "a sequence"

def pairName : String := "an array of length 2"

def pair {α : Type} (shape : Shape α) : Shape (α × α) where
  fromValue
    | .array [] => .error (.length 0 pairName)
    | .array [v] => do
      let _ ← shape.fromValue v
      .error (.length 1 pairName)
    | .array (v :: w :: rest) => do
      let a ← shape.fromValue v
      let b ← shape.fromValue w
      if rest.isEmpty then .ok (a, b)
      else .error (.surplus (rest.length + 2) 2)
    | v => .error (.kind v.seen pairName)
  fromText c :=
    let c := c.skipSpace
    match c.rest with
    | [] => c.fail .endInValue
    | '[' :: _ => do
      match ← c.advance.nextItem true with
      | (none, c) => c.leaveList.mismatch (.length 0 pairName)
      | (some c, _) =>
        let (a, c) ← shape.fromText c
        match ← c.nextItem false with
        | (none, c) => c.leaveList.mismatch (.length 1 pairName)
        | (some c, _) =>
          let (b, c) ← shape.fromText c
          let c ← c.readListEnd
          pure ((a, b), c)
    | _ => c.unexpected pairName

/-- The meaning of a name among `names`, or a mismatch that lists them. -/
def checkName {α : Type} (names : List (String × α)) (name : String) : Except Mismatch α :=
  match names.lookup name with
  | some a => .ok a
  | none => .error (.unknownVariant name (names.map Prod.fst))

/-- One of some names. It may also be written as an object whose only key is the name and whose value is
null. -/
def oneOf {α : Type} (names : List (String × α)) : Shape α where
  fromValue
    | .text s => checkName names s
    | .object [(key, v)] => do
      let a ← checkName names key
      match v with
      | .null => .ok a
      | v => .error (.kind v.seen "unit")
    | .object _ => .error (.bounds .map "map with a single key")
    | v => .error (.kind v.seen "string or map")
  fromText c :=
    let c := c.skipSpace
    let readName (c : Cursor) : Except Failure (α × Cursor) :=
      let c := c.skipSpace
      match c.rest with
      | [] => c.fail .endInValue
      | '"' :: _ => do
        let (name, c) ← c.advance.readString
        match checkName names name with
        | .ok a => .ok (a, c)
        | .error m => c.mismatch m
      | '\x7d' :: _ => c.failPeeked .noValue
      | _ => c.failPeeked .keyNotString
    match c.rest with
    | [] => c.fail .endInValue
    | '"' :: _ => readName c
    | '\x7b' :: _ => do
      let (a, c) ← readName c.advance
      let c ← c.readColon
      let c := c.skipSpace
      let c ←
        match c.rest with
        | [] => c.fail .endInValue
        | 'n' :: _ => c.advance.readWord ['u', 'l', 'l']
        | _ => c.unexpected "unit"
      let c := c.skipSpace
      match c.rest with
      | [] => c.fail .endInObject
      | '\x7d' :: _ => .ok (a, c.advance)
      | _ => c.fail .noValue
    | _ => c.failPeeked .noValue

end Shape
end LintBridge.Json
