import LintBridge.Proofs.StyleGuide.Headings
import LintBridge.Proofs.StyleGuide.Marks

/-!
How the headings of a style guide part its lines.

The rules are found in one walk over the lines. Here they are found again by number: the places of the headings, and
the slices between them (`exists_section`). The slices are always there, and they share no line and leave none out that
is behind the first heading (`existsUnique_between`).
-/

set_option autoImplicit false
set_option relaxedAutoImplicit false

namespace LintBridge.StyleGuide

/-! ### Between two places -/

/-- Where the slice of the `k`th of some places ends: at the next place, or, after the last one, at the end. -/
def stopOf (places : List Nat) (count k : Nat) : Nat := places[k + 1]?.getD count

/-- A number is behind the `k`th of some places, and before the end of its slice. -/
def Holds (places : List Nat) (count k i : Nat) : Prop :=
  ∃ start, places[k]? = some start ∧ start < i ∧ i < stopOf places count k

section
variable {places : List Nat} {count i : Nat}

theorem getD_map_succ (places : List Nat) (count k : Nat) :
    (places.map (· + 1))[k]?.getD (count + 1) = places[k]?.getD count + 1 := by
  rw [List.getElem?_map]
  cases places[k]? <;> rfl

/-- What is not a place itself is before all of them or in the slice of exactly one. -/
theorem existsUnique_between (sorted : places.Pairwise (· < ·)) (inside : i < count) (other : i ∉ places) :
    (∀ p ∈ places, i < p) ∨ ∃! k, Holds places count k i := by
  induction places with
  | nil => exact .inl (List.forall_mem_nil _)
  | cons p places ih =>
    obtain ⟨behind, sorted⟩ := List.pairwise_cons.mp sorted
    obtain ⟨differs, other⟩ : i ≠ p ∧ i ∉ places := by simpa using other
    by_cases early : i < p
    · exact .inl (List.forall_mem_cons.mpr ⟨early, fun q isIn => early.trans (behind q isIn)⟩)
    · have late : p < i := by omega
      rcases ih sorted other with before | ⟨k, ⟨start, isPlace, after, inSlice⟩, only⟩
      · refine .inr ⟨0, ⟨p, rfl, late, ?_⟩, ?_⟩
        · cases places with
          | nil => exact inside
          | cons q places => exact before q List.mem_cons_self
        · rintro k ⟨start, isPlace, after, -⟩
          cases k with
          | zero => rfl
          | succ k =>
            have isBefore := before start (List.mem_of_getElem? isPlace)
            omega
      · refine .inr ⟨k + 1, ⟨start, isPlace, after, inSlice⟩, ?_⟩
        rintro k' ⟨start', isPlace', after', inSlice'⟩
        cases k' with
        | zero =>
          cases places with
          | nil => cases isPlace
          | cons q places =>
            have next : i < q := inSlice'
            have notBefore : q ≤ start := by
              rcases List.mem_cons.mp (List.mem_of_getElem? isPlace) with rfl | isLater
              · exact Nat.le_refl start
              · exact Nat.le_of_lt ((List.pairwise_cons.mp sorted).1 start isLater)
            omega
        | succ k' => exact congrArg (· + 1) (only k' ⟨start', isPlace', after', inSlice'⟩)

end

/-! ### The places of the headings -/

def headingPlaces : List (List Char) → List Nat
  | [] => []
  | line :: rest =>
    if (anchor? line).isSome then 0 :: (headingPlaces rest).map (· + 1) else (headingPlaces rest).map (· + 1)

section
variable {lines : List (List Char)} {line anchor : List Char} {i k start : Nat}

theorem mem_headingPlaces_iff : i ∈ headingPlaces lines ↔ ∃ line, lines[i]? = some line ∧ IsHeading line := by
  induction lines generalizing i with
  | nil => simp [headingPlaces]
  | cons line rest ih =>
    rw [headingPlaces]
    cases i with
    | zero =>
      simp only [List.getElem?_cons_zero, Option.some.injEq, exists_eq_left', ← anchor?_isSome_iff]
      split <;> simp [*]
    | succ i =>
      simp only [List.getElem?_cons_succ, ← ih]
      split <;> simp

theorem pairwise_headingPlaces (lines : List (List Char)) : (headingPlaces lines).Pairwise (· < ·) := by
  induction lines with
  | nil => exact .nil
  | cons line rest ih =>
    have shifted : ((headingPlaces rest).map (· + 1)).Pairwise (· < ·) :=
      List.pairwise_map.mpr (ih.imp fun before => Nat.succ_lt_succ before)
    rw [headingPlaces]
    split
    · exact List.pairwise_cons.mpr ⟨by simp, shifted⟩
    · exact shifted

theorem length_sections (lines : List (List Char)) : (sections lines).length = (headingPlaces lines).length := by
  induction lines with
  | nil => rfl
  | cons line rest ih =>
    rw [sections, headingPlaces]
    cases anchor? line <;> simp [ih]

theorem slice?_before_headings (lines : List (List Char)) :
    slice? 0 ((headingPlaces lines)[0]?.getD lines.length) lines =
      some (lines.takeWhile fun line => (anchor? line).isNone) := by
  induction lines with
  | nil => rfl
  | cons line rest ih =>
    rw [headingPlaces]
    cases found : anchor? line with
    | some anchor => rw [List.takeWhile_cons_of_neg (by simp [found])]; rfl
    | none =>
      rw [List.takeWhile_cons_of_pos (by simp [found]), Option.isSome_none, if_neg Bool.false_ne_true, List.length_cons,
        getD_map_succ, slice?_zero_succ, ih]
      rfl

/-- Each heading has its own slice of the lines, and it is what is found for it. -/
theorem exists_section (isPlace : (headingPlaces lines)[k]? = some start) :
    ∃ heading anchor own, lines[start]? = some heading ∧ anchor? heading = some anchor ∧
      slice? (start + 1) (stopOf (headingPlaces lines) lines.length k) lines = some own ∧
      (sections lines)[k]? = some (anchor, own) := by
  induction lines generalizing k start with
  | nil => cases isPlace
  | cons line rest ih =>
    have later : ∀ {k s}, (headingPlaces rest)[k]? = some s → ∃ heading anchor own,
        (line :: rest)[s + 1]? = some heading ∧ anchor? heading = some anchor ∧
        slice? (s + 1 + 1) (((headingPlaces rest).map (· + 1))[k + 1]?.getD (rest.length + 1)) (line :: rest) =
          some own ∧
        (sections rest)[k]? = some (anchor, own) := by
      intro k s isPlace
      obtain ⟨heading, anchor, own, isLine, found, sliced, isSection⟩ := ih isPlace
      refine ⟨heading, anchor, own, isLine, found, ?_, isSection⟩
      rw [getD_map_succ, slice?_cons_succ]
      exact sliced
    rw [headingPlaces] at isPlace ⊢
    rw [sections]
    cases found : anchor? line with
    | none =>
      rw [found, Option.isSome_none, if_neg Bool.false_ne_true, List.getElem?_map] at isPlace
      obtain ⟨s, isPlace', rfl⟩ := Option.map_eq_some_iff.mp isPlace
      exact later isPlace'
    | some anchor =>
      rw [found, Option.isSome_some, if_pos rfl] at isPlace
      cases k with
      | zero =>
        cases isPlace
        refine ⟨line, anchor, _, rfl, found, ?_, rfl⟩
        have ends : stopOf (0 :: (headingPlaces rest).map (· + 1)) (line :: rest).length 0 =
            (headingPlaces rest)[0]?.getD rest.length + 1 := getD_map_succ (headingPlaces rest) rest.length 0
        rw [Option.isSome_some, if_pos rfl, ends, slice?_cons_succ, slice?_before_headings]
      | succ k =>
        rw [List.getElem?_cons_succ, List.getElem?_map] at isPlace
        obtain ⟨s, isPlace', rfl⟩ := Option.map_eq_some_iff.mp isPlace
        exact later isPlace'

end

/-- A text is what is shown of some lines: their text without its marks and without the blanks around it. -/
def Shows (lines : List (List Char)) (text : List Char) : Prop :=
  ∃ pieces, Cut (textOf lines) pieces ∧ Text.Trims pieces.flatten text

def linesOf (document : String) : List (List Char) := document.toList.splitOn '\n'

theorem rules_eq (document : String) :
    rules document = (sections (linesOf document)).map fun found =>
      (String.ofList found.1, String.ofList (body found.2)) := by
  rw [rules, Text.lineRuns_eq_splitOn]
  rfl

/-- The rules of a document go with its headings, one to one and in their order. Each has the anchor of its heading
and shows the lines from there up to the next heading, or to the end; that slice is always there. A line that is no
heading is before all of them or belongs to exactly one rule. -/
theorem rules_part_document (document : String) :
    ∃ places : List Nat, places.Pairwise (· < ·) ∧
      (∀ i, i ∈ places ↔ ∃ line, (linesOf document)[i]? = some line ∧ IsHeading line) ∧
      (rules document).length = places.length ∧
      (∀ k start, places[k]? = some start → ∃ heading own rule, (linesOf document)[start]? = some heading ∧
        slice? (start + 1) (stopOf places (linesOf document).length k) (linesOf document) = some own ∧
        (rules document)[k]? = some rule ∧ IsAnchor heading rule.1.toList ∧ Shows own rule.2.toList) ∧
      ∀ i line, (linesOf document)[i]? = some line → ¬ IsHeading line →
        (∀ start ∈ places, i < start) ∨ ∃! k, Holds places (linesOf document).length k i := by
  refine ⟨headingPlaces (linesOf document), pairwise_headingPlaces _, fun i => mem_headingPlaces_iff, ?_, ?_, ?_⟩
  · rw [rules_eq, List.length_map, length_sections]
  · intro k start isPlace
    obtain ⟨heading, anchor, own, isLine, found, sliced, isSection⟩ := exists_section isPlace
    refine ⟨heading, own, (String.ofList anchor, String.ofList (body own)), isLine, sliced, ?_, ?_, ?_⟩
    · rw [rules_eq, List.getElem?_map, isSection]
      rfl
    · rw [String.toList_ofList]
      exact isAnchor_of_anchor? found
    · rw [String.toList_ofList]
      exact exists_cut_body own
  · intro i line isLine other
    obtain ⟨inside, -⟩ := List.getElem?_eq_some_iff.mp isLine
    refine existsUnique_between (pairwise_headingPlaces _) inside fun isPlace => ?_
    obtain ⟨line', isLine', isHeading⟩ := mem_headingPlaces_iff.mp isPlace
    rw [isLine] at isLine'
    cases isLine'
    exact other isHeading

end LintBridge.StyleGuide
