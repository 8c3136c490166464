import LintBridge.Keyed

/-!
Who owns a key.

A run with a key draws a token, enters it for the key, and tells the run that it has replaced to stop. These
are three steps, and other runs may take theirs in between. A run whose token is no longer entered for its
key has been replaced, and what it brings is stale.
-/

set_option autoImplicit false
set_option relaxedAutoImplicit false

namespace LintBridge

/-- A run's claim to its key. -/
structure Ticket where
  key : String
  token : UInt64
  deriving DecidableEq, Repr

/-- The tokens and the keys that they are entered for. -/
structure Registry where
  /-- The next token. -/
  next : UInt64
  /-- The token entered last for each key, until its run is over. -/
  owners : List (String × UInt64)
  /-- The tokens whose runs have been told to stop. -/
  dismissed : List UInt64
  deriving DecidableEq, Repr

namespace Registry

def empty : Registry := ⟨0, [], []⟩

/-- The token that is entered for a key. -/
def owner? (r : Registry) (key : String) : Option UInt64 := Keyed.get? key r.owners

def draw (r : Registry) : UInt64 × Registry := (r.next, { r with next := r.next + 1 })

/-- Enters a token for a key. The answer is the token that it replaces. -/
def enter (t : Ticket) (r : Registry) : Option UInt64 × Registry :=
  (r.owner? t.key, { r with owners := Keyed.put t.key t.token r.owners })

def dismiss (previous : Option UInt64) (r : Registry) : Registry :=
  match previous with
  | none => r
  | some token => { r with dismissed := token :: r.dismissed }

def isDismissed (t : Ticket) (r : Registry) : Bool := r.dismissed.contains t.token

/-- Whether no newer run has taken the key. -/
def isCurrent (t : Ticket) (r : Registry) : Bool := r.owner? t.key == some t.token

/-- Gives the key up, if it is still the run's own. -/
def release (t : Ticket) (r : Registry) : Registry :=
  if r.isCurrent t then { r with owners := Keyed.erase t.key r.owners } else r

def take (key : String) (r : Registry) : Ticket × Registry :=
  let (token, r) := r.draw
  let (previous, r) := r.enter ⟨key, token⟩
  (⟨key, token⟩, r.dismiss previous)

def inFlight (r : Registry) : Nat := r.owners.length

/-! ### Who owns a key afterwards -/

theorem owner?_draw (r : Registry) (key : String) : r.draw.2.owner? key = r.owner? key := rfl

theorem owner?_dismiss (previous : Option UInt64) (r : Registry) (key : String) :
    (r.dismiss previous).owner? key = r.owner? key := by
  cases previous <;> rfl

theorem owner?_enter (t : Ticket) (r : Registry) (key : String) :
    (r.enter t).2.owner? key = if t.key = key then some t.token else r.owner? key :=
  Keyed.get?_put t.key key t.token r.owners

theorem isCurrent_iff (t : Ticket) (r : Registry) :
    r.isCurrent t = true ↔ r.owner? t.key = some t.token := by
  simp [isCurrent]

theorem isCurrent_enter (t : Ticket) (r : Registry) : (r.enter t).2.isCurrent t = true := by
  rw [isCurrent_iff, owner?_enter, if_pos rfl]

/-- A run that has been replaced cannot take the key from the run that has replaced it. -/
theorem owner?_release (t : Ticket) (r : Registry) (key : String) :
    (r.release t).owner? key = if t.key = key ∧ r.isCurrent t = true then none else r.owner? key := by
  unfold release
  by_cases h : r.isCurrent t = true
  · simp only [h, if_true, and_true]
    exact Keyed.get?_erase t.key key r.owners
  · simp [h]

end Registry
end LintBridge
