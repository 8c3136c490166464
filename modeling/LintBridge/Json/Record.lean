import LintBridge.Json.Shape

/-!
Records in JSON: an object with known keys, or a list with the fields in their order.

An object may leave fields out and may have keys that are not known, which are skipped; the record's
`finish` says what a field that was left out means. A list must have every field, except that it may end
before fields that fill themselves, and must not have more.
-/

set_option autoImplicit false
set_option relaxedAutoImplicit false

namespace LintBridge.Json

/-- A field of a record whose fields are collected in `σ`: its key, and how its value goes in. -/
structure Field (σ : Type) where
  key : String
  /-- Whether a list may end before the field. -/
  fills : Bool
  fromValue : Value → Except Mismatch (σ → σ)
  fromText : Cursor → Except Failure ((σ → σ) × Cursor)

/-- A field of some shape, put into the collection by `put`. -/
def Field.of {σ β : Type} (key : String) (shape : Shape β) (put : β → σ → σ) : Field σ where
  key := key
  fills := false
  fromValue v := (shape.fromValue v).map put
  fromText c := (shape.fromText c).map fun r => (put r.1, r.2)

def Field.filling {σ β : Type} (key : String) (shape : Shape β) (put : β → σ → σ) : Field σ :=
  { Field.of key shape put with fills := true }

/-- A record of type `α` whose fields are collected in `σ`. -/
structure Record (σ α : Type) where
  /-- What messages call the record. -/
  name : String
  fields : List (Field σ)
  /-- The collection before any field. -/
  start : σ
  /-- The record from the fields that were there. -/
  finish : σ → Except Mismatch α

namespace Record

variable {σ α : Type}

def field? (r : Record σ α) (key : String) : Option (Field σ) :=
  r.fields.find? fun f => f.key == key

def listName (r : Record σ α) : String :=
  r.name ++ " with " ++ elements r.fields.length

/-- Where a list that ends before these fields is too short: the number of the first of them that does not
fill itself; `count` fields come before them. -/
def shortAt? : List (Field σ) → Nat → Option Nat
  | [], _ => none
  | f :: rest, count => if f.fills then shortAt? rest (count + 1) else some count

/-- The collection from a list that ends before these fields. -/
def endItems (r : Record σ α) (fields : List (Field σ)) (s : σ) : Except Mismatch σ :=
  match shortAt? fields (r.fields.length - fields.length) with
  | none => .ok s
  | some count => .error (.length count r.listName)

def collectMembers (r : Record σ α) : σ → List (String × Value) → Except Mismatch σ
  | s, [] => .ok s
  | s, (key, v) :: rest =>
    match r.field? key with
    | none => r.collectMembers s rest
    | some f => do
      let put ← f.fromValue v
      r.collectMembers (put s) rest

/-- Collects the items of a list, field by field; `total` is the length of the list. -/
def collectItems (r : Record σ α) (total : Nat) : σ → List (Field σ) → List Value → Except Mismatch σ
  | s, fields, [] => r.endItems fields s
  | _, [], _ :: _ => .error (.surplus total r.fields.length)
  | s, f :: fields, v :: items => do
    let put ← f.fromValue v
    r.collectItems total (put s) fields items

def ofMembers (r : Record σ α) (members : List (String × Value)) : Except Mismatch α := do
  let s ← r.collectMembers r.start members
  r.finish s

def ofValue (r : Record σ α) : Value → Except Mismatch α
  | .object members => r.ofMembers members
  | .array items => do
    let s ← r.collectItems items.length r.start r.fields items
    r.finish s
  | v => .error (.kind v.seen r.name)

/-- Collects the members of an object from text, up to and with its brace; `seen` are the known keys so
far. -/
def collectText (r : Record σ α) :
    Nat → Bool → List String → σ → Cursor → Except Failure (α × Cursor)
  | 0, _, _, _, c => c.fail .endInObject
  | fuel + 1, first, seen, s, c =>
    match c.nextKey first with
    | .error e => .error e
    | .ok (none, c) =>
      match r.finish s with
      | .ok a => .ok (a, c.advance)
      | .error m => c.leaveObject.mismatch m
    | .ok (some c, _) =>
      match c.advance.readString with
      | .error e => .error e
      | .ok (key, c) =>
        match r.field? key with
        | none =>
          match c.readColon.bind Cursor.skipValue with
          | .error e => .error e
          | .ok c => r.collectText fuel false seen s c
        | some f =>
          if seen.contains key then c.leaveObject.mismatch (.duplicateField key)
          else
            match c.readColon.bind f.fromText with
            | .error e => .error e
            | .ok (put, c) => r.collectText fuel false (key :: seen) (put s) c

/-- Collects the items of a list from text, field by field, up to and with its bracket. -/
def collectTextItems (r : Record σ α) : List (Field σ) → Bool → σ → Cursor → Except Failure (α × Cursor)
  | [], _, s, c =>
    match r.finish s with
    | .error m => c.leaveList.mismatch m
    | .ok a => c.readListEnd.map fun c => (a, c)
  | f :: fields, first, s, c =>
    match c.nextItem first with
    | .error e => .error e
    | .ok (none, c) =>
      match (r.endItems (f :: fields) s).bind r.finish with
      | .ok a => .ok (a, c.advance)
      | .error m => c.leaveList.mismatch m
    | .ok (some c, _) =>
      match f.fromText c with
      | .error e => .error e
      | .ok (put, c) => r.collectTextItems fields false (put s) c

def ofText (r : Record σ α) (c : Cursor) : Except Failure (α × Cursor) :=
  let c := c.skipSpace
  match c.rest with
  | [] => c.fail .endInValue
  | '[' :: _ => r.collectTextItems r.fields true r.start c.advance
  | '\x7b' :: _ => r.collectText c.rest.length true [] r.start c.advance
  | _ => c.unexpected r.name

def shape (r : Record σ α) : Shape α where
  fromValue := r.ofValue
  fromText := r.ofText

def required {β : Type} (key : String) : Option β → Except Mismatch β
  | some b => .ok b
  | none => .error (.missingField key)

end Record
end LintBridge.Json
