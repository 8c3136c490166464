import LintBridge.Json.Record

/-!
Forms: what a value has to look like where nobody keeps what it says.

A form looks at a value that has been read already and answers with the first thing that is wrong. The
members of an object are looked at in the order of their keys; after them come the keys that are missing,
in the order of the record.
-/

set_option autoImplicit false
set_option relaxedAutoImplicit false

namespace LintBridge.Json

abbrev Form := Value → Except Mismatch Unit

/-- A member of a record: its key, and what stands under it. -/
structure Part where
  key : String
  form : Form
  /-- Whether an object must have it. -/
  needed : Bool
  /-- Whether a list may end before it. -/
  fills : Bool

namespace Form

def of {α : Type} (shape : Shape α) : Form := fun v => (shape.fromValue v).map fun _ => ()

def shape (form : Form) : Shape Unit := Shape.ofValue form

def any : Form := fun _ => .ok ()

def bool : Form := of .bool

def text : Form := of .text

def signed32 : Form := of (.integer (-2147483648) 2147483647 "i32")

def word32 : Form := of .word32

def number (expected : String) : Form
  | .number _ => .ok ()
  | v => .error (.kind v.seen expected)

def oneOf (names : List String) : Form := of (.oneOf (names.map fun n => (n, ())))

def optional (form : Form) : Form
  | .null => .ok ()
  | v => form v

def list (form : Form) : Form
  | .array items => items.forM form
  | v => .error (.kind v.seen "a sequence")

/-- An object with any keys that suit `key`; messages call it `expected`. -/
def mapOf (expected : String) (key form : Form) : Form
  | .object members => members.forM fun m => do
    key (.text m.1)
    form m.2
  | v => .error (.kind v.seen expected)

def anyOf (name : String) (forms : List Form) : Form := fun v =>
  if forms.any fun form => (form v).toBool then .ok ()
  else .error (.other ("data did not match any variant of untagged enum " ++ name))

/-! ### Records -/

def members (parts : List Part) (found : List (String × Value)) : Except Mismatch Unit := do
  found.forM fun m =>
    match parts.find? fun p => p.key == m.1 with
    | none => .ok ()
    | some p => p.form m.2
  parts.forM fun p =>
    if p.needed && (lookupMember p.key found).isNone then .error (.missingField p.key) else .ok ()

/-- The items of a list, one for each part; `count` parts of `known` come before these. -/
def items (name : String) (known total : Nat) : Nat → List Part → List Value → Except Mismatch Unit
  | _, [], [] => .ok ()
  | _, [], _ :: _ => .error (.surplus total known)
  | count, p :: parts, [] =>
    if p.fills then items name known total (count + 1) parts []
    else .error (.length count (name ++ " with " ++ elements known))
  | count, p :: parts, v :: rest => do
    p.form v
    items name known total (count + 1) parts rest

/-- A record: an object with some keys, or a list with the parts in their order. -/
def record (name : String) (parts : List Part) : Form
  | .object found => members parts found
  | .array vs => items name parts.length vs.length 0 parts vs
  | v => .error (.kind v.seen name)

/-- The members of a record that stands inside of another one, without braces of its own. -/
def inner (parts : List Part) (found : List (String × Value)) : Except Mismatch Unit :=
  match members parts found with
  | .ok () => .ok ()
  | .error m => .error m.ofInner

/-- The members of an object that is to be a record with other records inside. It may not be a list. -/
def membersOf (name : String) : Value → Except Mismatch (List (String × Value))
  | .object found => .ok found
  | v => .error (.kind v.seen name)

/-- A record with other records inside, which come after its own members. -/
def nested (name : String) (own : List Part) (inside : List (List Part)) : Form := fun v => do
  let found ← membersOf name v
  members own found
  inside.forM fun parts => inner parts found

end Form

namespace Part

/-- A member that must be there. -/
def must (key : String) (form : Form) : Part := ⟨key, form, true, false⟩

def may (key : String) (form : Form) : Part := ⟨key, form.optional, false, false⟩

/-- A member that objects and lists may lack, or have as null. -/
def spare (key : String) (form : Form) : Part := ⟨key, form.optional, false, true⟩

def flags (keys : List String) : List Part := keys.map fun k => may k Form.bool

end Part
end LintBridge.Json
