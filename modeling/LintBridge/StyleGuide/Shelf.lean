import LintBridge.Keyed
import LintBridge.StyleGuide.Document
import LintBridge.StyleGuide.Fetch

/-!
The rules that have been fetched, and the readers who ask for them.

One fetch brings all rules, and each stays good for a lifetime. A reader who finds no good text queues for
the lock, looks again, and fetches unless that has been done within a lifetime. `Reader.step` is a step that
cannot be interrupted; `Reader.advance` is all that a reader does until it has to wait.
-/

set_option autoImplicit false
set_option relaxedAutoImplicit false

namespace LintBridge.StyleGuide

/-- A rule's text, and when it stops being good. -/
structure Leaf where
  text : String
  expiresAt : Nat
  deriving DecidableEq, Repr

/-- What is kept. Moments are in milliseconds. -/
structure Shelf where
  url : String
  lifetime : Nat
  leaves : List (String × Leaf)
  /-- When a document was stored last. -/
  refreshedAt : Option Nat
  /-- Whether a reader holds the lock. -/
  locked : Bool
  deriving DecidableEq, Repr

def guideUrl : String :=
  "https://raw.githubusercontent.com/bbatsov/ruby-style-guide/master/README.adoc"

def defaultLifetime : Nat := 24 * 60 * 60 * 1000

namespace Shelf

def empty : Shelf := ⟨guideUrl, defaultLifetime, [], none, false⟩

def size (s : Shelf) : Nat := s.leaves.length

/-- Whether a document was stored less than a lifetime ago. -/
def isRecent (now : Nat) (s : Shelf) : Bool := s.refreshedAt.any fun t => now - t < s.lifetime

/-- Stores the rules of a document; of rules with one anchor the last one counts. -/
def store (now : Nat) (document : String) (s : Shelf) : Shelf :=
  { s with
    leaves := (rules document).foldl
      (fun all r => Keyed.put r.1 ⟨r.2, now + s.lifetime⟩ all) s.leaves }

end Shelf

/-- Which of its looks a reader takes. -/
inductive Look
  | first
  | withLock
  | afterFetch
  deriving DecidableEq, Repr

/-- What a reader does next. -/
inductive Reader
  | looking (look : Look)
  /-- It has seen an expired leaf, and takes it out. -/
  | dropping (look : Look)
  | queueing
  | checking
  /-- It waits for the document. -/
  | fetching
  | storing (document : String)
  | stamping (moment : Nat)
  | unlocking (answer : Option String)
  | finished (answer : Option String)
  deriving DecidableEq, Repr

namespace Reader

/-- What follows a look that has found nothing. -/
def afterMiss : Look → Reader
  | .first => queueing
  | .withLock => checking
  | .afterFetch => unlocking none

/-- What follows a look that has found a text. -/
def afterHit (text : String) : Look → Reader
  | .first => finished (some text)
  | _ => unlocking (some text)

/-- One step of a reader for an anchor. A reader waits while another one holds the lock, and while the
document is on its way; `fetched` is the document when it has come. -/
def step (anchor : String) (now : Nat) (fetched : Option Fetched) (r : Reader) (s : Shelf) :
    Option (Reader × Shelf) :=
  match r with
  | looking look =>
    match Keyed.get? anchor s.leaves with
    | none => some (afterMiss look, s)
    | some leaf => some (if now < leaf.expiresAt then afterHit leaf.text look else dropping look, s)
  | dropping look => some (afterMiss look, { s with leaves := Keyed.erase anchor s.leaves })
  | queueing => if s.locked then none else some (looking .withLock, { s with locked := true })
  | checking => some (if s.isRecent now then unlocking none else fetching, s)
  | fetching =>
    match fetched with
    | none => none
    | some (.error f) => some (unlocking (some f.placeholder), s)
    | some (.ok document) => some (storing document, s)
  | storing document => some (stamping now, s.store now document)
  | stamping moment => some (looking .afterFetch, { s with refreshedAt := some moment })
  | unlocking answer => some (finished answer, { s with locked := false })
  | finished _ => none

/-- More steps than a reader takes between two waits. -/
def stride : Nat := 16

/-- The steps of a reader until it has to wait, or is done; `fuel` bounds their number. The document is
taken at the first of them only. -/
def advanceFrom (anchor : String) (now : Nat) : Nat → Option Fetched → Reader → Shelf → Reader × Shelf
  | 0, _, r, s => (r, s)
  | fuel + 1, fetched, r, s =>
    match step anchor now fetched r s with
    | none => (r, s)
    | some (r, s) => advanceFrom anchor now fuel none r s

def advance (anchor : String) (now : Nat) (fetched : Option Fetched) (r : Reader) (s : Shelf) :
    Reader × Shelf :=
  advanceFrom anchor now stride fetched r s

def fresh : Reader := looking .first

def answer? : Reader → Option (Option String)
  | finished a => some a
  | _ => none

end Reader

/-- A reader alone at a shelf, with the document that a fetch would bring. The last part of the answer is
whether there was a fetch. -/
def Shelf.consult (anchor : String) (now : Nat) (fetched : Fetched) (s : Shelf) :
    Option String × Shelf × Bool :=
  match Reader.fresh.advance anchor now none s with
  | (.fetching, s) =>
    let (r, s) := Reader.fetching.advance anchor now (some fetched) s
    (r.answer?.getD none, s, true)
  | (r, s) => (r.answer?.getD none, s, false)

end LintBridge.StyleGuide
