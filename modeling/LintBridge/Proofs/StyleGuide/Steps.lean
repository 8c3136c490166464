import LintBridge.Proofs.Keyed
import LintBridge.StyleGuide.Readers

/-!
What one step of a reader can do.

`Steps` has a case for each thing that may happen in a step, with what it finds on the shelf and what it leaves
there. Everything else about steps follows by cases: who holds the lock, who fetches, where leaves come from.
-/

set_option autoImplicit false
set_option relaxedAutoImplicit false

namespace LintBridge

namespace StyleGuide

/-- A document, and the moment at which it was stored. -/
structure Edition where
  document : String
  storedAt : Nat
  deriving DecidableEq, Repr

/-- The text of a rule in an edition; of rules with one anchor the last one counts. -/
def Edition.text? (e : Edition) (anchor : String) : Option String :=
  Keyed.get? anchor (rules e.document).reverse

def guide : String := "=== Tabs [[tabs]]\nuse spaces"

/-- A leaf with the text that an edition has for the anchor, good for a lifetime. -/
def Edition.Has (e : Edition) (lifetime : Nat) (anchor : String) (leaf : Leaf) : Prop :=
  e.text? anchor = some leaf.text ∧ leaf.expiresAt = e.storedAt + lifetime

theorem Shelf.get?_store (now : Nat) (document anchor : String) (s : Shelf) :
    Keyed.get? anchor (s.store now document).leaves =
      ((Edition.text? ⟨document, now⟩ anchor).map fun text => ⟨text, now + s.lifetime⟩).or
        (Keyed.get? anchor s.leaves) :=
  Keyed.get?_foldl_put (fun text => (⟨text, now + s.lifetime⟩ : Leaf)) anchor (rules document) s.leaves

namespace Reader

/-- The steps of a reader, each with what it finds on the shelf. -/
inductive Steps (anchor : String) (now : Nat) (fetched : Option Fetched) (s : Shelf) : Reader → Reader → Shelf → Prop
  | miss (look : Look) (absent : Keyed.get? anchor s.leaves = none) :
      Steps anchor now fetched s (.looking look) (afterMiss look) s
  | hit (look : Look) (leaf : Leaf) (found : Keyed.get? anchor s.leaves = some leaf)
      (good : now < leaf.expiresAt) : Steps anchor now fetched s (.looking look) (afterHit leaf.text look) s
  | stale (look : Look) (leaf : Leaf) (found : Keyed.get? anchor s.leaves = some leaf)
      (expired : leaf.expiresAt ≤ now) : Steps anchor now fetched s (.looking look) (.dropping look) s
  | drop (look : Look) : Steps anchor now fetched s (.dropping look) (afterMiss look)
      { s with leaves := Keyed.erase anchor s.leaves }
  | lock (free : s.locked = false) :
      Steps anchor now fetched s .queueing (.looking .withLock) { s with locked := true }
  | recent (recent : s.isRecent now = true) : Steps anchor now fetched s .checking (.unlocking none) s
  | due (notRecent : s.isRecent now = false) : Steps anchor now fetched s .checking .fetching s
  | failed (f : FetchFault) (came : fetched = some (.error f)) :
      Steps anchor now fetched s .fetching (.unlocking (some f.placeholder)) s
  | arrived (document : String) (came : fetched = some (.ok document)) :
      Steps anchor now fetched s .fetching (.storing document) s
  | store (document : String) :
      Steps anchor now fetched s (.storing document) (.stamping now) (s.store now document)
  | stamp (moment : Nat) :
      Steps anchor now fetched s (.stamping moment) (.looking .afterFetch) { s with refreshedAt := some moment }
  | unlock (answer : Option String) :
      Steps anchor now fetched s (.unlocking answer) (.finished answer) { s with locked := false }

theorem steps_of_step {anchor : String} {now : Nat} {fetched : Option Fetched} {r r' : Reader} {s s' : Shelf}
    (done : step anchor now fetched r s = some (r', s')) : Steps anchor now fetched s r r' s' := by
  cases r with
  | looking look =>
    simp only [step] at done
    split at done
    · rename_i absent
      cases done
      exact .miss look absent
    · rename_i leaf found
      by_cases good : now < leaf.expiresAt
      · rw [if_pos good] at done
        cases done
        exact .hit look leaf found good
      · rw [if_neg good] at done
        cases done
        exact .stale look leaf found (Nat.le_of_not_lt good)
  | dropping look =>
    cases done
    exact .drop look
  | queueing =>
    simp only [step] at done
    split at done
    · cases done
    · rename_i free
      cases done
      exact .lock (by simpa using free)
  | checking =>
    cases recent : s.isRecent now with
    | true =>
      simp only [step, recent] at done
      cases done
      exact .recent recent
    | false =>
      simp only [step, recent] at done
      cases done
      exact .due recent
  | fetching =>
    simp only [step] at done
    split at done
    · cases done
    · rename_i f
      cases done
      exact .failed f rfl
    · rename_i document
      cases done
      exact .arrived document rfl
  | storing document =>
    cases done
    exact .store document
  | stamping moment =>
    cases done
    exact .stamp moment
  | unlocking answer =>
    cases done
    exact .unlock answer
  | finished answer => cases done

/-- Whether a reader holds the lock. -/
def holds : Reader → Bool
  | .looking .first => false
  | .dropping .first => false
  | .queueing => false
  | .finished _ => false
  | _ => true

/-- Whether a reader fetches the document, or has it in hand. -/
def fetches : Reader → Bool
  | .fetching => true
  | .storing _ => true
  | _ => false

def edition? (now : Nat) : Reader → Option Edition
  | .storing document => some ⟨document, now⟩
  | _ => none

theorem edition?_eq_none {now : Nat} {r : Reader} (idle : ∀ document, r ≠ .storing document) :
    r.edition? now = none := by
  cases r with
  | storing document => exact absurd rfl (idle document)
  | _ => rfl

theorem holds_of_fetches {r : Reader} (fetches : r.fetches = true) : r.holds = true := by
  cases r with
  | fetching => rfl
  | storing document => rfl
  | _ => cases fetches

section
variable {anchor : String} {now : Nat} {fetched : Option Fetched} {r r' : Reader} {s s' : Shelf}

theorem Steps.lifetime (steps : Steps anchor now fetched s r r' s') : s'.lifetime = s.lifetime := by
  cases steps <;> rfl

theorem Steps.holds (steps : Steps anchor now fetched s r r' s') (holds : r'.holds = true) :
    r.holds = true ∨ s.locked = false ∧ s'.locked = true := by
  cases steps with
  | lock free => exact .inr ⟨free, rfl⟩
  | miss look => cases look <;> simp_all [Reader.holds, afterMiss]
  | hit look => cases look <;> simp_all [Reader.holds, afterHit]
  | stale look => cases look <;> simp_all [Reader.holds]
  | drop look => cases look <;> simp_all [Reader.holds, afterMiss]
  | _ => exact .inl rfl

theorem Steps.locked (steps : Steps anchor now fetched s r r' s') :
    s'.locked = s.locked ∨ s'.locked = true ∨ r.holds = true ∧ r'.holds = false := by
  cases steps with
  | lock free => exact .inr (.inl rfl)
  | unlock answer => exact .inr (.inr ⟨rfl, rfl⟩)
  | _ => exact .inl rfl

theorem Steps.of_stamping {moment : Nat} (steps : Steps anchor now fetched s r (.stamping moment) s') :
    moment = now ∧ ∃ document, r = .storing document := by
  -- Only one constructor fits, but what follows a look has to be split by the look to see that.
  generalize is : Reader.stamping moment = r' at steps
  cases steps with
  | store document =>
    cases is
    exact ⟨rfl, document, rfl⟩
  | miss look => cases look <;> cases is
  | hit look => cases look <;> cases is
  | drop look => cases look <;> cases is
  | _ => cases is

theorem Steps.of_dropping {look : Look} (steps : Steps anchor now fetched s r (.dropping look) s') :
    ∃ leaf, Keyed.get? anchor s.leaves = some leaf ∧ leaf.expiresAt ≤ now := by
  generalize is : Reader.dropping look = r' at steps
  cases steps with
  | stale _ leaf found expired => exact ⟨leaf, found, expired⟩
  | miss look => cases look <;> cases is
  | hit look => cases look <;> cases is
  | drop look => cases look <;> cases is
  | _ => cases is

theorem Steps.after_looking {look : Look} (steps : Steps anchor now fetched s (.looking look) r' s') :
    s' = s ∧ (r' = afterMiss look ∧ Keyed.get? anchor s.leaves = none ∨
      ∃ leaf, Keyed.get? anchor s.leaves = some leaf ∧
        (r' = afterHit leaf.text look ∧ now < leaf.expiresAt ∨ r' = .dropping look ∧ leaf.expiresAt ≤ now)) := by
  cases steps with
  | miss _ absent => exact ⟨rfl, .inl ⟨rfl, absent⟩⟩
  | hit _ leaf found good => exact ⟨rfl, .inr ⟨leaf, found, .inl ⟨rfl, good⟩⟩⟩
  | stale _ leaf found expired => exact ⟨rfl, .inr ⟨leaf, found, .inr ⟨rfl, expired⟩⟩⟩

theorem Steps.after_dropping {look : Look} (steps : Steps anchor now fetched s (.dropping look) r' s') :
    r' = afterMiss look ∧ s' = { s with leaves := Keyed.erase anchor s.leaves } := by
  cases steps
  exact ⟨rfl, rfl⟩

theorem Steps.after_queueing (steps : Steps anchor now fetched s .queueing r' s') : r' = .looking .withLock := by
  cases steps
  rfl

theorem Steps.after_checking (steps : Steps anchor now fetched s .checking r' s') :
    s' = s ∧ (r' = .unlocking none ∧ s.isRecent now = true ∨ r' = .fetching ∧ s.isRecent now = false) := by
  cases steps with
  | recent isRecent => exact ⟨rfl, .inl ⟨rfl, isRecent⟩⟩
  | due notRecent => exact ⟨rfl, .inr ⟨rfl, notRecent⟩⟩

theorem Steps.after_fetching (steps : Steps anchor now fetched s .fetching r' s') :
    s' = s ∧ ((∃ f, fetched = some (.error f) ∧ r' = .unlocking (some f.placeholder)) ∨
      ∃ document, fetched = some (.ok document) ∧ r' = .storing document) := by
  cases steps with
  | failed f came => exact ⟨rfl, .inl ⟨f, came, rfl⟩⟩
  | arrived document came => exact ⟨rfl, .inr ⟨document, came, rfl⟩⟩

theorem Steps.after_storing {document : String} (steps : Steps anchor now fetched s (.storing document) r' s') :
    r' = .stamping now ∧ s' = s.store now document := by
  cases steps
  exact ⟨rfl, rfl⟩

theorem Steps.after_stamping {moment : Nat} (steps : Steps anchor now fetched s (.stamping moment) r' s') :
    r' = .looking .afterFetch := by
  cases steps
  rfl

theorem Steps.after_unlocking {answer : Option String} (steps : Steps anchor now fetched s (.unlocking answer) r' s') :
    r' = .finished answer := by
  cases steps
  rfl

theorem Steps.not_finished {answer : Option String} : ¬ Steps anchor now fetched s (.finished answer) r' s' := by
  intro steps
  cases steps

/-- Whoever fetches has found that it is time to, and has changed nothing since. -/
theorem Steps.of_fetches (steps : Steps anchor now fetched s r r' s') (fetches : r'.fetches = true) :
    s' = s ∧ (r = .fetching ∨ r = .checking ∧ s.isRecent now = false) := by
  cases steps with
  | due notRecent => exact ⟨rfl, .inr ⟨rfl, notRecent⟩⟩
  | arrived document came => exact ⟨rfl, .inl rfl⟩
  | miss look => cases look <;> cases fetches
  | hit look => cases look <;> cases fetches
  | drop look => cases look <;> cases fetches
  | _ => cases fetches

theorem Steps.refreshedAt (steps : Steps anchor now fetched s r r' s') :
    s'.refreshedAt = match r with
      | .stamping moment => some moment
      | _ => s.refreshedAt := by
  cases steps <;> rfl

theorem Steps.leaves (steps : Steps anchor now fetched s r r' s') {key : String} {leaf : Leaf}
    (found : Keyed.get? key s'.leaves = some leaf) :
    Keyed.get? key s.leaves = some leaf ∨
      ∃ document, r = .storing document ∧ Edition.Has ⟨document, now⟩ s.lifetime key leaf := by
  cases steps with
  | drop look =>
    rw [Keyed.get?_erase] at found
    split at found
    · cases found
    · exact .inl found
  | store document =>
    rw [Shelf.get?_store] at found
    rcases Option.or_eq_some_iff.mp found with new | ⟨-, old⟩
    · obtain ⟨text, has, rfl⟩ := Option.map_eq_some_iff.mp new
      exact .inr ⟨document, rfl, has, rfl⟩
    · exact .inl old
  | _ => exact .inl found

theorem Steps.get?_leaves (steps : Steps anchor now fetched s r r' s') (idle : ∀ document, r ≠ .storing document)
    (key : String) :
    Keyed.get? key s'.leaves = Keyed.get? key s.leaves ∨
      (∃ look, r = .dropping look) ∧ anchor = key ∧ Keyed.get? key s'.leaves = none := by
  cases steps with
  | drop look =>
    rw [Keyed.get?_erase]
    by_cases same : anchor = key
    · exact .inr ⟨⟨look, rfl⟩, same, if_pos same⟩
    · exact .inl (if_neg same)
  | store document => exact absurd rfl (idle document)
  | _ => exact .inl rfl

end
end Reader

end StyleGuide
end LintBridge
