import LintBridge.Json.Failure

/-!
A cursor: the characters of a text that are still to be read, and the place where they start.
-/

set_option autoImplicit false
set_option relaxedAutoImplicit false

namespace LintBridge.Json

namespace Place

def after (p : Place) (c : Char) : Place :=
  if c = '\n' then ⟨p.line + 1, 0⟩ else ⟨p.line, p.column + c.utf8Size⟩

def afterAll (p : Place) (cs : List Char) : Place := cs.foldl after p

/-- The place `n` bytes further into `cs`, which may lie inside a character. -/
def afterBytes (p : Place) : Nat → List Char → Place
  | _, [] => p
  | n, c :: cs =>
    if n = 0 then p
    else if c.utf8Size ≤ n then (p.after c).afterBytes (n - c.utf8Size) cs
    else ⟨p.line, p.column + n⟩

end Place

structure Cursor where
  rest : List Char
  place : Place
  deriving DecidableEq, Repr

namespace Cursor

def start (cs : List Char) : Cursor := ⟨cs, ⟨1, 0⟩⟩

def advance (c : Cursor) : Cursor :=
  match c.rest with
  | [] => c
  | x :: rest => ⟨rest, c.place.after x⟩

def skipWhile (p : Char → Bool) (c : Cursor) : Cursor :=
  ⟨c.rest.dropWhile p, c.place.afterAll (c.rest.takeWhile p)⟩

/-- The place one byte into the next character, where a fault of that character is reported; at the end
of the text, the end. -/
def peeked (c : Cursor) : Place := c.place.afterBytes 1 c.rest

def isSpace (x : Char) : Bool := x == ' ' || x == '\n' || x == '\t' || x == '\r'

def skipSpace (c : Cursor) : Cursor := c.skipWhile isSpace

def fail {α : Type} (c : Cursor) (f : Fault) : Except Failure α := .error ⟨.fault f, c.place⟩

def failPeeked {α : Type} (c : Cursor) (f : Fault) : Except Failure α := .error ⟨.fault f, c.peeked⟩

def mismatch {α : Type} (c : Cursor) (m : Mismatch) : Except Failure α :=
  .error ⟨.mismatch m, c.place⟩

theorem length_advance_le (c : Cursor) : c.advance.rest.length ≤ c.rest.length := by
  unfold advance
  split <;> simp_all

end Cursor
end LintBridge.Json
