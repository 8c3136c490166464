import LintBridge.StyleGuide.Shelf

/-!
Many readers at one shelf.

`step` is a step of one reader that nothing can interrupt, and steps of different readers may follow one
another in any order. `advance` takes all steps of one reader up to its next wait.
-/

set_option autoImplicit false
set_option relaxedAutoImplicit false

namespace LintBridge.StyleGuide

/-- A shelf and its readers: their numbers, the anchors that they ask for, and how far they have come. -/
structure Readers where
  shelf : Shelf
  all : List (Nat × String × Reader)
  deriving DecidableEq, Repr

namespace Readers

def ofShelf (s : Shelf) : Readers := ⟨s, []⟩

def enter (number : Nat) (anchor : String) (r : Readers) : Readers :=
  { r with all := Keyed.put number (anchor, .fresh) r.all }

def step (number now : Nat) (fetched : Option Fetched) (r : Readers) : Option Readers :=
  match Keyed.get? number r.all with
  | none => none
  | some (anchor, reader) =>
    (reader.step anchor now fetched r.shelf).map fun (reader, shelf) =>
      ⟨shelf, Keyed.put number (anchor, reader) r.all⟩

def advance (number now : Nat) (fetched : Option Fetched) (r : Readers) : Readers :=
  match Keyed.get? number r.all with
  | none => r
  | some (anchor, reader) =>
    let (reader, shelf) := reader.advance anchor now fetched r.shelf
    ⟨shelf, Keyed.put number (anchor, reader) r.all⟩

def answer? (number : Nat) (r : Readers) : Option (Option String) :=
  (Keyed.get? number r.all).bind fun (_, reader) => reader.answer?

def fetcher? (r : Readers) : Option Nat :=
  (r.all.find? fun (_, _, reader) => reader == .fetching).map Prod.fst

/-- The first reader that waits for the lock, if it is free. -/
def next? (r : Readers) : Option Nat :=
  if r.shelf.locked then none
  else (r.all.find? fun (_, _, reader) => reader == .queueing).map Prod.fst

/-- Goes on until nobody waits any longer: fetches bring the given documents in turn, the last one as often
as need be. The number is that of the fetches; `fuel` bounds the number of waits. -/
def settle (now : Nat) : Nat → List Fetched → Readers → Readers × List Fetched × Nat
  | 0, documents, r => (r, documents, 0)
  | fuel + 1, documents, r =>
    match r.next? with
    | some number => settle now fuel documents (r.advance number now none)
    | none =>
      match r.fetcher?, documents with
      | some number, [] => (r.advance number now none, [], 0)
      | some number, d :: rest =>
        let left := if rest.isEmpty then [d] else rest
        let (r, documents, n) := settle now fuel left (r.advance number now (some d))
        (r, documents, n + 1)
      | none, _ => (r, documents, 0)

/-- The answers for anchors that are asked for at the same time. -/
def consult (now : Nat) (documents : List Fetched) (anchors : List String) (s : Shelf) :
    List (Option String) × Shelf × List Fetched × Nat :=
  let numbered := anchors.zipIdx
  let r := numbered.foldl (fun r (a, n) => (r.enter n a).advance n now none) (ofShelf s)
  let (r, documents, fetches) := settle now (2 * anchors.length + 2) documents r
  (numbered.map fun (_, n) => (r.answer? n).getD none, r.shelf, documents, fetches)

end Readers
end LintBridge.StyleGuide
