import Mathlib.Data.List.Basic
import LintBridge.StyleGuide.Document

/-!
Which lines of a style guide are headings, and what their anchors are.

Both are said by the places where the marks stand (`StandsAt`), without the three cuts that find them: the first place
of the heading's mark, the last closing brackets, and the last opening brackets in front of those.
-/

set_option autoImplicit false
set_option relaxedAutoImplicit false

namespace LintBridge.StyleGuide

section
variable {α : Type}

/-- What stands from one place on and before another, if neither comes too late. -/
def slice? (start stop : Nat) (xs : List α) : Option (List α) :=
  if start ≤ stop ∧ stop ≤ xs.length then some ((xs.drop start).take (stop - start)) else none

theorem slice?_of_le {start stop : Nat} {xs : List α} (inOrder : start ≤ stop) (inside : stop ≤ xs.length) :
    slice? start stop xs = some ((xs.drop start).take (stop - start)) := if_pos ⟨inOrder, inside⟩

theorem slice?_cons_succ (start stop : Nat) (x : α) (xs : List α) :
    slice? (start + 1) (stop + 1) (x :: xs) = slice? start stop xs := by
  simp [slice?, Nat.add_sub_add_right]

theorem slice?_zero_succ (stop : Nat) (x : α) (xs : List α) :
    slice? 0 (stop + 1) (x :: xs) = (slice? 0 stop xs).map (x :: ·) := by
  unfold slice?
  by_cases inside : stop ≤ xs.length
  · rw [if_pos ⟨Nat.zero_le _, Nat.succ_le_succ inside⟩, if_pos ⟨Nat.zero_le _, inside⟩]
    rfl
  · rw [if_neg fun both => inside (Nat.le_of_succ_le_succ both.2), if_neg fun both => inside both.2]
    rfl

end

/-! ### Where marks stand -/

def StandsAt (mark cs : List Char) (i : Nat) : Prop := mark <+: cs.drop i

section
variable {mark cs left right : List Char} {i k : Nat} {c : Char}

theorem standsAt_zero_iff : StandsAt mark cs 0 ↔ mark.isPrefixOf cs = true := List.isPrefixOf_iff_prefix.symm

theorem standsAt_cons_succ : StandsAt mark (c :: cs) (i + 1) ↔ StandsAt mark cs i := Iff.rfl

theorem standsAt_drop : StandsAt mark (cs.drop k) i ↔ StandsAt mark cs (k + i) := by
  rw [StandsAt, List.drop_drop, StandsAt]

theorem StandsAt.length_le (stands : StandsAt mark cs i) (some : mark ≠ []) : i + mark.length ≤ cs.length := by
  have fits := List.IsPrefix.length_le stands
  have positive := List.length_pos_iff.mpr some
  rw [List.length_drop] at fits
  omega

theorem not_standsAt_nil (some : mark ≠ []) : ¬ StandsAt mark [] i := by
  intro stands
  have fits := stands.length_le some
  have positive := List.length_pos_iff.mpr some
  rw [List.length_nil] at fits
  omega

theorem standsAt_take (some : mark ≠ []) : StandsAt mark (cs.take k) i ↔ StandsAt mark cs i ∧ i + mark.length ≤ k := by
  have positive := List.length_pos_iff.mpr some
  rw [StandsAt, List.drop_take, List.prefix_take_iff, StandsAt]
  constructor
  · rintro ⟨stands, fits⟩
    exact ⟨stands, by omega⟩
  · rintro ⟨stands, fits⟩
    exact ⟨stands, by omega⟩

/-- A text is cut where a mark stands. -/
structure CutAt (mark cs left right : List Char) : Prop where
  stands : StandsAt mark cs left.length
  before : left = cs.take left.length
  after : right = cs.drop (left.length + mark.length)

theorem CutAt.cons (cut : CutAt mark cs left right) (c : Char) : CutAt mark (c :: cs) (c :: left) right where
  stands := standsAt_cons_succ.mpr cut.stands
  before := congrArg (c :: ·) cut.before
  after := by
    rw [List.length_cons, Nat.succ_add]
    exact cut.after

theorem cutAt_of_isPrefixOf (starts : mark.isPrefixOf cs = true) : CutAt mark cs [] (cs.drop mark.length) where
  stands := standsAt_zero_iff.mpr starts
  before := rfl
  after := by rw [List.length_nil, Nat.zero_add]

theorem cutFirst?_eq_some (cut : cutFirst? mark cs = some (left, right)) :
    CutAt mark cs left right ∧ ∀ i, StandsAt mark cs i → left.length ≤ i := by
  induction cs generalizing left with
  | nil => cases cut
  | cons c cs ih =>
    rw [cutFirst?] at cut
    split at cut
    · rename_i starts
      cases cut
      exact ⟨cutAt_of_isPrefixOf starts, fun i _ => Nat.zero_le i⟩
    · rename_i later
      obtain ⟨⟨left, right⟩, cut, same⟩ := Option.map_eq_some_iff.mp cut
      cases same
      obtain ⟨isCut, first⟩ := ih cut
      refine ⟨isCut.cons c, fun i stands => ?_⟩
      cases i with
      | zero => exact absurd (standsAt_zero_iff.mp stands) later
      | succ i => exact Nat.succ_le_succ (first i stands)

theorem cutFirst?_isSome (some : mark ≠ []) (stands : StandsAt mark cs i) : (cutFirst? mark cs).isSome = true := by
  induction cs generalizing i with
  | nil => exact absurd stands (not_standsAt_nil some)
  | cons c cs ih =>
    rw [cutFirst?]
    split
    · rfl
    · rename_i later
      cases i with
      | zero => exact absurd (standsAt_zero_iff.mp stands) later
      | succ i => simpa using ih stands

theorem cutLast?_isSome (some : mark ≠ []) (stands : StandsAt mark cs i) : (cutLast? mark cs).isSome = true := by
  induction cs generalizing i with
  | nil => exact absurd stands (not_standsAt_nil some)
  | cons c cs ih =>
    rw [cutLast?]
    split
    · rfl
    · rename_i none
      cases i with
      | zero => rw [if_pos (standsAt_zero_iff.mp stands)]; rfl
      | succ i =>
        have found := ih stands
        rw [none] at found
        cases found

theorem cutLast?_eq_some (some : mark ≠ []) (cut : cutLast? mark cs = Option.some (left, right)) :
    CutAt mark cs left right ∧ ∀ i, StandsAt mark cs i → i ≤ left.length := by
  induction cs generalizing left with
  | nil => cases cut
  | cons c cs ih =>
    rw [cutLast?] at cut
    split at cut
    · rename_i found
      cases cut
      obtain ⟨isCut, last⟩ := ih found
      refine ⟨isCut.cons c, fun i stands => ?_⟩
      cases i with
      | zero => exact Nat.zero_le _
      | succ i => exact Nat.succ_le_succ (last i stands)
    · rename_i none
      split at cut
      · rename_i starts
        cases cut
        refine ⟨cutAt_of_isPrefixOf starts, fun i stands => ?_⟩
        cases i with
        | zero => exact Nat.le_refl 0
        | succ i =>
          have found := cutLast?_isSome some (standsAt_cons_succ.mp stands)
          rw [none] at found
          cases found
      · cases cut

end

/-! ### Headings and anchors -/

/-- A line is a heading: after its mark there are opening brackets, and closing ones after those. -/
def IsHeading (line : List Char) : Prop :=
  ∃ h i j, StandsAt headingMark line h ∧ StandsAt anchorOpen line i ∧ StandsAt anchorClose line j ∧
    h + headingMark.length ≤ i ∧ i + anchorOpen.length ≤ j

/-- The anchor of a heading: it stands between the last opening brackets that have closing ones behind them, at `i`,
and the last closing brackets, at `j`. -/
def IsAnchor (line anchor : List Char) : Prop :=
  ∃ i j, StandsAt anchorOpen line i ∧ StandsAt anchorClose line j ∧
    (∃ h, StandsAt headingMark line h ∧ h + headingMark.length ≤ i) ∧
    (∀ i' j', StandsAt anchorOpen line i' → StandsAt anchorClose line j' → i' + anchorOpen.length ≤ j' → i' ≤ i) ∧
    (∀ j', StandsAt anchorClose line j' → j' ≤ j) ∧ slice? (i + anchorOpen.length) j line = some anchor

section
variable {line anchor : List Char}

theorem IsAnchor.isHeading (isAnchor : IsAnchor line anchor) : IsHeading line := by
  obtain ⟨i, j, opens, closes, ⟨h, stands, before⟩, -, -, sliced⟩ := isAnchor
  have inOrder : i + anchorOpen.length ≤ j := by
    by_contra late
    rw [slice?, if_neg fun both => late both.1] at sliced
    cases sliced
  exact ⟨h, i, j, stands, opens, closes, before, inOrder⟩

theorem isAnchor_of_anchor? (found : anchor? line = some anchor) : IsAnchor line anchor := by
  have three : headingMark.length = 3 := rfl
  have two : anchorOpen.length = 2 := rfl
  have two' : anchorClose.length = 2 := rfl
  obtain ⟨⟨front, title⟩, cut, found⟩ := Option.bind_eq_some_iff.mp found
  obtain ⟨⟨inner, back⟩, cut', found⟩ := Option.bind_eq_some_iff.mp found
  obtain ⟨⟨between, anchor⟩, cut'', same⟩ := Option.bind_eq_some_iff.mp found
  cases same
  obtain ⟨⟨stands, -, rfl⟩, -⟩ := cutFirst?_eq_some cut
  obtain ⟨⟨closes, isInner, -⟩, lastClose⟩ := cutLast?_eq_some (by decide) cut'
  obtain ⟨⟨opens, -, rfl⟩, lastOpen⟩ := cutLast?_eq_some (by decide) cut''
  obtain ⟨k, width⟩ : ∃ k, inner.length = k := ⟨_, rfl⟩
  rw [width] at closes isInner lastClose
  subst isInner
  rw [standsAt_drop] at closes
  rw [standsAt_take (by decide), standsAt_drop] at opens
  have inside := closes.length_le (by decide)
  refine ⟨front.length + 3 + between.length, front.length + 3 + k, opens.1, closes, ⟨front.length, stands, ?_⟩,
    ?_, ?_, ?_⟩
  · omega
  · intro i' j' opens' closes' inOrder
    by_cases early : i' < front.length + 3
    · omega
    -- Brackets behind the heading's mark stand in the title, and those that close there are not behind the last ones.
    · have place : i' = front.length + 3 + (i' - (front.length + 3)) := by omega
      have place' : j' = front.length + 3 + (j' - (front.length + 3)) := by omega
      rw [place'] at closes'
      have notBehind := lastClose _ (standsAt_drop.mpr closes')
      rw [place] at opens'
      have notLater := lastOpen _ ((standsAt_take (by decide)).mpr ⟨standsAt_drop.mpr opens', by omega⟩)
      omega
  · intro j' closes'
    by_cases early : j' < front.length + 3
    · omega
    · have place' : j' = front.length + 3 + (j' - (front.length + 3)) := by omega
      rw [place'] at closes'
      have notBehind := lastClose _ (standsAt_drop.mpr closes')
      omega
  · rw [slice?_of_le (by omega) (by omega), List.drop_take, List.drop_drop]
    congr 2
    omega

theorem anchor?_isSome_of_isHeading (isHeading : IsHeading line) : (anchor? line).isSome = true := by
  have three : headingMark.length = 3 := rfl
  have two : anchorOpen.length = 2 := rfl
  have two' : anchorClose.length = 2 := rfl
  obtain ⟨h, i, j, stands, opens, closes, behind, behind'⟩ := isHeading
  obtain ⟨⟨front, title⟩, cut⟩ := Option.isSome_iff_exists.mp (cutFirst?_isSome (by decide) stands)
  obtain ⟨⟨-, -, rfl⟩, first⟩ := cutFirst?_eq_some cut
  have notLater := first h stands
  have place : i = front.length + 3 + (i - (front.length + 3)) := by omega
  have place' : j = front.length + 3 + (j - (front.length + 3)) := by omega
  rw [place, ← standsAt_drop] at opens
  rw [place', ← standsAt_drop] at closes
  obtain ⟨⟨inner, back⟩, cut'⟩ := Option.isSome_iff_exists.mp (cutLast?_isSome (by decide) closes)
  obtain ⟨⟨-, isInner, -⟩, last⟩ := cutLast?_eq_some (by decide) cut'
  have notBehind := last _ closes
  have opens' : StandsAt anchorOpen inner (i - (front.length + 3)) := by
    rw [isInner, standsAt_take (by decide)]
    exact ⟨opens, by omega⟩
  obtain ⟨⟨between, anchor⟩, cut''⟩ := Option.isSome_iff_exists.mp (cutLast?_isSome (by decide) opens')
  have found : anchor? line = some anchor := by
    simp only [anchor?, bind, cut, three, cut', cut'', Option.bind_some, pure]
  rw [found]
  rfl

theorem anchor?_isSome_iff : (anchor? line).isSome = true ↔ IsHeading line := by
  constructor
  · intro found
    obtain ⟨anchor, found⟩ := Option.isSome_iff_exists.mp found
    exact (isAnchor_of_anchor? found).isHeading
  · exact anchor?_isSome_of_isHeading

end

end LintBridge.StyleGuide
