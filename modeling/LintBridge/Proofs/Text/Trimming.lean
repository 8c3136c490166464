import Mathlib.Data.List.TakeWhile
import LintBridge.Text.Blank

/-!
What is left of a text without the blanks around it, and the parts of a text between separators.

`Trims` says it without the two passes: blanks before, blanks after, and no blank at either end of what stands between
them. There is exactly one such text (`trims_iff`). Cutting a text is the library's `List.splitOn`.
-/

set_option autoImplicit false
set_option relaxedAutoImplicit false

namespace LintBridge.Text

section
variable {whole text front rest blanks : List Char}

/-- The text is what is left of a whole when the blanks around it are taken off. -/
def Trims (whole text : List Char) : Prop :=
  ∃ before after, whole = before ++ (text ++ after) ∧ (∀ c ∈ before, isBlank c = true) ∧
    (∀ c ∈ after, isBlank c = true) ∧ (∀ c ∈ text.head?, isBlank c = false) ∧ ∀ c ∈ text.getLast?, isBlank c = false

theorem isBlank_of_isAlphanum {c : Char} (visible : c.isAlphanum = true) : isBlank c = false := by
  have bounds : 48 ≤ c.toNat ∧ c.toNat ≤ 122 := by
    have within : ∀ {least most : UInt32}, 48 ≤ least.toNat → most.toNat ≤ 122 → least ≤ c.val → c.val ≤ most →
        48 ≤ c.toNat ∧ c.toNat ≤ 122 := fun low high above below =>
      ⟨low.trans (UInt32.le_iff_toNat_le.mp above), (UInt32.le_iff_toNat_le.mp below).trans high⟩
    rcases Bool.or_eq_true_iff.mp visible with letter | digit
    · rcases Bool.or_eq_true_iff.mp letter with upper | lower
      · obtain ⟨above, below⟩ := of_decide_eq_true upper
        exact within (by decide) (by decide) above below
      · obtain ⟨above, below⟩ := Bool.and_eq_true_iff.mp lower
        exact within (by decide) (by decide) (of_decide_eq_true above) (of_decide_eq_true below)
    · obtain ⟨above, below⟩ := Bool.and_eq_true_iff.mp digit
      exact within (by decide) (by decide) (of_decide_eq_true above) (of_decide_eq_true below)
  simp [isBlank, inRanges, blankRanges]
  omega

/-! ### One end at a time -/

theorem dropBlanks_append_of_blank (blank : ∀ c ∈ blanks, isBlank c = true) :
    dropBlanks (blanks ++ text) = dropBlanks text := List.dropWhile_append_of_pos blank

theorem dropBlanks_of_starts (starts : ∀ c ∈ text.head?, isBlank c = false) : dropBlanks text = text := by
  cases text with
  | nil => rfl
  | cons c cs => exact List.dropWhile_cons_of_neg (by simp [starts c rfl])

theorem dropTrailingBlanks_append_of_blank (blank : ∀ c ∈ blanks, isBlank c = true) :
    dropTrailingBlanks (text ++ blanks) = dropTrailingBlanks text := by
  have blank' : ∀ c ∈ blanks.reverse, isBlank c = true := fun c isIn => blank c (List.mem_reverse.mp isIn)
  rw [dropTrailingBlanks, List.reverse_append, List.dropWhile_append_of_pos blank', dropTrailingBlanks]

theorem dropTrailingBlanks_append_of_ends (ends : ∀ c ∈ front.getLast?, isBlank c = false) :
    dropTrailingBlanks (front ++ rest) = front ++ dropTrailingBlanks rest := by
  have kept : front.reverse.dropWhile isBlank = front.reverse :=
    dropBlanks_of_starts fun c isHead => ends c (by rwa [List.head?_reverse] at isHead)
  rw [dropTrailingBlanks, dropTrailingBlanks, List.reverse_append, List.dropWhile_append]
  split
  · rename_i none
    rw [List.isEmpty_iff.mp none, kept]
    simp
  · simp

theorem dropTrailingBlanks_cons {c : Char} (visible : isBlank c = false) (rest : List Char) :
    dropTrailingBlanks (c :: rest) = c :: dropTrailingBlanks rest := by
  have ends : ∀ d ∈ [c].getLast?, isBlank d = false := by simpa using visible
  exact dropTrailingBlanks_append_of_ends ends

theorem dropTrailingBlanks_of_ends (ends : ∀ c ∈ text.getLast?, isBlank c = false) :
    dropTrailingBlanks text = text := by
  have kept : dropTrailingBlanks (text ++ []) = text ++ dropTrailingBlanks [] := dropTrailingBlanks_append_of_ends ends
  have empty : dropTrailingBlanks [] = [] := rfl
  rwa [empty, List.append_nil] at kept

/-! ### Both ends -/

theorem trims_trimmed (whole : List Char) : Trims whole (dropTrailingBlanks (dropBlanks whole)) := by
  have front := List.takeWhile_append_dropWhile (p := isBlank) (l := whole)
  have back := List.takeWhile_append_dropWhile (p := isBlank) (l := (dropBlanks whole).reverse)
  have parted : dropBlanks whole =
      dropTrailingBlanks (dropBlanks whole) ++ ((dropBlanks whole).reverse.takeWhile isBlank).reverse := by
    rw [dropTrailingBlanks, ← List.reverse_append, back, List.reverse_reverse]
  refine ⟨whole.takeWhile isBlank, ((dropBlanks whole).reverse.takeWhile isBlank).reverse, ?_, ?_, ?_, ?_, ?_⟩
  · rw [← parted]
    exact front.symm
  · exact fun c isIn => List.mem_takeWhile_imp isIn
  · exact fun c isIn => List.mem_takeWhile_imp (List.mem_reverse.mp isIn)
  · intro c isHead
    have first : (dropBlanks whole).head? = some c := by
      rw [parted, List.head?_append, Option.mem_def.mp isHead, Option.some_or]
    have stops := List.head?_dropWhile_not isBlank whole
    rw [dropBlanks] at first
    rw [first] at stops
    simpa using stops
  · intro c isLast
    rw [dropTrailingBlanks, List.getLast?_reverse] at isLast
    have stops := List.head?_dropWhile_not isBlank (dropBlanks whole).reverse
    rw [Option.mem_def.mp isLast] at stops
    simpa using stops

theorem Trims.eq (trims : Trims whole text) : dropTrailingBlanks (dropBlanks whole) = text := by
  obtain ⟨before, after, rfl, blank, blank', starts, ends⟩ := trims
  rw [dropBlanks_append_of_blank blank]
  cases text with
  | nil =>
    have none : dropBlanks after = [] := by
      have all : dropBlanks (after ++ []) = dropBlanks [] := dropBlanks_append_of_blank blank'
      rwa [List.append_nil] at all
    rw [List.nil_append, none]
    rfl
  | cons c cs =>
    have starts' : ∀ d ∈ (c :: cs ++ after).head?, isBlank d = false := starts
    rw [dropBlanks_of_starts starts', dropTrailingBlanks_append_of_blank blank', dropTrailingBlanks_of_ends ends]

theorem trims_iff : Trims whole text ↔ dropTrailingBlanks (dropBlanks whole) = text :=
  ⟨Trims.eq, fun same => same ▸ trims_trimmed whole⟩

private theorem not_infix_of_blank {m : List Char} (some : m ≠ []) (visible : ∀ c ∈ m, isBlank c = false)
    (blank : ∀ c ∈ blanks, isBlank c = true) : ¬ m <:+: blanks := by
  intro isIn
  obtain ⟨c, has⟩ := List.exists_mem_of_ne_nil m some
  have isBlank := blank c (isIn.subset has)
  rw [visible c has] at isBlank
  cases isBlank

/-- A text without blanks stands in a whole just if it stands in what is left of it. -/
theorem Trims.infix_iff {m : List Char} (trims : Trims whole text) (some : m ≠ [])
    (visible : ∀ c ∈ m, isBlank c = false) : m <:+: text ↔ m <:+: whole := by
  obtain ⟨before, after, rfl, blank, blank', -, -⟩ := trims
  constructor
  · intro isIn
    exact List.infix_append_of_infix_right (List.infix_append_of_infix_left isIn)
  · intro isIn
    rcases List.infix_append_iff_ne_nil.mp isIn with inBefore | isIn | ⟨x, z, someX, -, rfl, ends, -⟩
    · exact absurd inBefore (not_infix_of_blank some visible blank)
    · rcases List.infix_append_iff_ne_nil.mp isIn with inText | inAfter | ⟨x, z, -, someZ, rfl, -, starts⟩
      · exact inText
      · exact absurd inAfter (not_infix_of_blank some visible blank')
      · exact absurd starts.isInfix
          (not_infix_of_blank someZ (fun c isIn => visible c (List.mem_append_right x isIn)) blank')
    · exact absurd ends.isInfix
        (not_infix_of_blank someX (fun c isIn => visible c (List.mem_append_left z isIn)) blank)

end

/-! ### Parts -/

theorem splitWhere_eq_splitOnP {α : Type} (p : α → Bool) (as : List α) : splitWhere p as = as.splitOnP p := by
  induction as with
  | nil => exact List.splitOnP_nil.symm
  | cons a as ih =>
    rw [splitWhere, List.splitOnP_cons_eq_if_modifyHead, ih]
    split
    · rfl
    · cases parts : as.splitOnP p with
      | nil => exact absurd parts (List.splitOnP_ne_nil p as)
      | cons part rest => rfl

theorem lineRuns_eq_splitOn (cs : List Char) : lineRuns cs = cs.splitOn '\n' := splitWhere_eq_splitOnP _ cs

end LintBridge.Text
