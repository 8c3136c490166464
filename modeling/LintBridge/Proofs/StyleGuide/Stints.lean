import LintBridge.Proofs.StyleGuide.Scenes

/-!
Readers who are interrupted only where they wait.

A stint is what a reader does between two waits: for the lock, or for a document. Each of its steps has its own
moment, and all of them come within a lifetime of the first. When a reader can go on, what `advance` makes him do
is a stint.
-/

set_option autoImplicit false
set_option relaxedAutoImplicit false

namespace LintBridge

namespace StyleGuide

/-- A stint of a reader: who it is, the moments of the steps, and what a fetch has brought when it begins. -/
structure Stint where
  number : Nat
  first : Nat
  later : List Nat
  fetched : Option Fetched

namespace Stint

def ended (x : Stint) : Nat := x.later.getLastD x.first

/-- The moment of the last step but one, if there is more than one. When a reader is done he knew the answer at
this moment, as the last step only gives back the lock. -/
def decided (x : Stint) : Nat := x.later.dropLast.getLastD x.first

def occasions (x : Stint) : List Occasion :=
  .act x.number x.first x.fetched :: x.later.map fun now => .act x.number now none

end Stint

/-- What may happen when readers are interrupted only where they wait. -/
inductive Visit
  | arrival (number : Nat) (anchor : String)
  | stint (x : Stint)

namespace Reader

/-- Whether a reader waits, or is done. -/
def rests : Reader → Bool
  | .queueing => true
  | .fetching => true
  | .finished _ => true
  | _ => false

/-- Whether a reader can begin a stint: he has just come, the lock is free, or the document has come. -/
def mayGoOn (fetched : Option Fetched) (locked : Bool) : Reader → Bool
  | .looking .first => true
  | .queueing => !locked
  | .fetching => fetched.isSome
  | _ => false

end Reader

namespace Scene

def visit (s : Scene) : Visit → Option Scene
  | .arrival n anchor => s.meet (.arrival n anchor)
  | .stint x =>
    if ∀ now ∈ x.later, now < x.first + s.shelf.lifetime then
      (s.play x.occasions).filter fun s => (s.reader? x.number).any fun p => p.2.rests
    else none

def visits : Scene → List Visit → Option Scene
  | s, [] => some s
  | s, v :: rest => (s.visit v).bind fun s => s.visits rest

/-- A stint, with its first step apart. -/
structure Stays (s s' : Scene) (x : Stint) : Prop where
  short : ∀ now ∈ x.later, now < x.first + s.shelf.lifetime
  steps : ∃ mid, s.meet (.act x.number x.first x.fetched) = some mid ∧
    mid.play (x.later.map fun now => .act x.number now none) = some s'
  rests : ∃ anchor r, s'.reader? x.number = some (anchor, r) ∧ r.rests = true

theorem Stays.rests_of_is {s s' : Scene} {x : Stint} (stays : Stays s s' x) {anchor : String} {r : Reader}
    (is : s'.reader? x.number = some (anchor, r)) : r.rests = true := by
  obtain ⟨a, q, is', rests⟩ := stays.rests
  rw [is] at is'
  cases is'
  exact rests

theorem visit_stint_eq_some_iff {s s' : Scene} {x : Stint} : s.visit (.stint x) = some s' ↔ Stays s s' x := by
  constructor
  · intro visited
    simp only [visit] at visited
    split at visited
    · rename_i short
      obtain ⟨played, rests⟩ := Option.filter_eq_some_iff.mp visited
      obtain ⟨mid, met, played⟩ := Option.bind_eq_some_iff.mp played
      obtain ⟨⟨anchor, r⟩, is, rests⟩ := (Option.any_eq_true _ _).mp rests
      exact ⟨short, ⟨mid, met, played⟩, anchor, r, is, rests⟩
    · cases visited
  · intro stays
    obtain ⟨mid, met, played⟩ := stays.steps
    obtain ⟨anchor, r, is, rests⟩ := stays.rests
    have all : s.play x.occasions = some s' := Option.bind_eq_some_iff.mpr ⟨mid, met, played⟩
    rw [visit, if_pos stays.short, all]
    simp [is, rests]

theorem play_later {n : Nat} (holds : List Nat → Scene → Reader → Prop) {later : List Nat} {s s' : Scene}
    {r : Reader}
    (step : ∀ {passed : List Nat} {now : Nat} {s s' : Scene} {r : Reader}, now ∈ later → holds passed s r →
      s.meet (.act n now none) = some s' → ∃ r', holds (passed ++ [now]) s' r')
    (begins : holds [] s r) (played : s.play (later.map fun now => .act n now none) = some s') :
    ∃ r', holds later s' r' := by
  have injective : ∀ m m' : Nat, Occasion.act n m none = .act n m' none → m = m' := by
    intro m m' eq
    cases eq
    rfl
  obtain ⟨moments, r', same, sofar⟩ := play_preserves
    (fun passed s => ∃ (moments : List Nat) (r : Reader),
      passed = moments.map (fun now => .act n now none) ∧ holds moments s r)
    (fun isIn sofar met => by
      obtain ⟨now, isLater, rfl⟩ := List.mem_map.mp isIn
      obtain ⟨moments, r, rfl, sofar⟩ := sofar
      obtain ⟨r', next⟩ := step isLater sofar met
      exact ⟨moments ++ [now], r', by rw [List.map_append, List.map_singleton], next⟩)
    ⟨[], r, rfl, begins⟩ played
  rw [(List.map_inj_right injective).mp same]
  exact ⟨r', sofar⟩

/-! ### Every reader who can go on has a stint -/

end Scene

namespace Reader

/-- How many steps a reader may still take without a wait. -/
def left : Reader → Nat
  | .looking .first => 8
  | .dropping .first => 7
  | .queueing => 6
  | .looking .withLock => 5
  | .dropping .withLock => 4
  | .checking => 3
  | .storing _ => 5
  | .stamping _ => 4
  | .looking .afterFetch => 3
  | .dropping .afterFetch => 2
  | .unlocking _ => 1
  | .fetching => 0
  | .finished _ => 0

theorem rests_of_stuck {anchor : String} {now : Nat} {fetched : Option Fetched} {r : Reader} {s : Shelf}
    (stuck : step anchor now fetched r s = none) : r.rests = true := by
  cases r with
  | queueing => rfl
  | fetching => rfl
  | finished answer => rfl
  | looking look =>
    simp only [step] at stuck
    split at stuck <;> cases stuck
  | _ => cases stuck

theorem rests_of_left {r : Reader} (none : r.left = 0) : r.rests = true := by
  cases r with
  | looking look => cases look <;> cases none
  | dropping look => cases look <;> cases none
  | fetching => rfl
  | finished answer => rfl
  | _ => cases none

theorem Steps.left_lt {anchor : String} {now : Nat} {r r' : Reader} {s s' : Shelf}
    (steps : Steps anchor now none s r r' s') : r'.left < r.left := by
  cases steps with
  | miss look => cases look <;> simp [left, afterMiss]
  | hit look => cases look <;> simp [left, afterHit]
  | stale look => cases look <;> simp [left]
  | drop look => cases look <;> simp [left, afterMiss]
  | failed f came => cases came
  | arrived document came => cases came
  | _ => simp [left]

theorem left_le (r : Reader) : r.left ≤ 8 := by
  cases r with
  | looking look => cases look <;> simp [left]
  | dropping look => cases look <;> simp [left]
  | _ => simp [left]

end Reader

namespace Scene

variable {s : Scene} {n now : Nat} {anchor : String} {r r' : Reader}

theorem exists_play_of_advanceFrom {fuel : Nat} (is : s.reader? n = some (anchor, r)) (onTime : s.clock ≤ now)
    (enough : r.left ≤ fuel) :
    ∃ k s' q, s.play (List.replicate k (.act n now none)) = some s' ∧ s'.reader? n = some (anchor, q) ∧
      q.rests = true ∧ s'.readers = ⟨(r.advanceFrom anchor now fuel none s.shelf).2,
        Keyed.put n (anchor, (r.advanceFrom anchor now fuel none s.shelf).1) s.readers.all⟩ := by
  induction fuel generalizing s r with
  | zero =>
    have same := Keyed.put_of_get? is
    exact ⟨0, s, r, rfl, is, Reader.rests_of_left (Nat.le_zero.mp enough), by rw [Reader.advanceFrom, same]; rfl⟩
  | succ fuel ih =>
    rw [Reader.advanceFrom]
    cases done : r.step anchor now none s.shelf with
    | none =>
      have same := Keyed.put_of_get? is
      exact ⟨0, s, r, rfl, is, Reader.rests_of_stuck done, by simp only [same]; rfl⟩
    | some next =>
      obtain ⟨q, shelf⟩ := next
      obtain ⟨mid, met, readers, clock⟩ := meet_act is onTime done
      have isNow : mid.reader? n = some (anchor, q) := by
        rw [reader?, readers, Keyed.get?_put, if_pos rfl]
      have less := (Reader.steps_of_step done).left_lt
      obtain ⟨k, s', q', played, is', rests, result⟩ := ih isNow (Nat.le_of_eq clock) (by omega)
      refine ⟨k + 1, s', q', ?_, is', rests, ?_⟩
      · rw [List.replicate_succ, play, met]
        exact played
      · have same : mid.shelf = shelf := congrArg Readers.shelf readers
        rw [result, readers, Keyed.put_put, same]

/-- A reader who can go on has a stint that begins now, and that is what `advance` makes of him. -/
theorem exists_stint {fetched : Option Fetched} (is : s.reader? n = some (anchor, r))
    (may : r.mayGoOn fetched s.shelf.locked = true) (onTime : s.clock ≤ now) (positive : 0 < s.shelf.lifetime) :
    ∃ x s', x.number = n ∧ x.first = now ∧ x.fetched = fetched ∧ s.visit (.stint x) = some s' ∧
      s'.readers = s.readers.advance n now fetched := by
  obtain ⟨⟨q, shelf⟩, done⟩ : ∃ next, r.step anchor now fetched s.shelf = some next := by
    cases r with
    | looking look =>
      cases look with
      | first =>
        simp only [Reader.step]
        split <;> exact ⟨_, rfl⟩
      | _ => cases may
    | queueing =>
      have free : s.shelf.locked = false := by simpa [Reader.mayGoOn] using may
      exact ⟨_, by rw [Reader.step, free]; rfl⟩
    | fetching =>
      cases fetched with
      | none => cases may
      | some fetched => cases fetched <;> exact ⟨_, rfl⟩
    | _ => cases may
  obtain ⟨mid, met, readers, clock⟩ := meet_act is onTime done
  have isNow : mid.reader? n = some (anchor, q) := by
    rw [reader?, readers, Keyed.get?_put, if_pos rfl]
  have enough : q.left ≤ 15 := Nat.le_trans q.left_le (by decide)
  obtain ⟨k, s', q', played, is', rests, result⟩ := exists_play_of_advanceFrom isNow (Nat.le_of_eq clock) enough
  refine ⟨⟨n, now, List.replicate k now, fetched⟩, s', rfl, rfl, rfl, visit_stint_eq_some_iff.mpr ?_, ?_⟩
  · exact
      { short := fun m isIn => by rw [List.eq_of_mem_replicate isIn]; exact Nat.lt_add_of_pos_right positive
        steps := ⟨mid, met, by rw [List.map_replicate]; exact played⟩
        rests := ⟨anchor, q', is', rests⟩ }
  · have known : Keyed.get? n s.readers.all = some (anchor, r) := is
    have same : mid.shelf = shelf := congrArg Readers.shelf readers
    have all : r.advance anchor now fetched s.readers.shelf = q.advanceFrom anchor now 15 none shelf := by
      have done : r.step anchor now fetched s.readers.shelf = some (q, shelf) := done
      rw [Reader.advance, Reader.stride, Reader.advanceFrom, done]
    rw [result, readers, Keyed.put_put, same]
    simp only [Readers.advance, known, all]

end Scene
end StyleGuide
end LintBridge
