import Mathlib.Data.List.Forall2
import Mathlib.Data.List.Infix
import LintBridge.Proofs.Text.Trimming
import LintBridge.StyleGuide.Document

/-!
What is left of a rule's text when the marks around code are taken out.

`Cut` says it without the pass over the text: a text is cut at its first mark, and what comes after that in the same
way. No piece has a mark, so a mark in what is left is one that lies across a cut: its parts were kept apart by marks
that are gone.
-/

set_option autoImplicit false
set_option relaxedAutoImplicit false

namespace LintBridge.StyleGuide

/-! ### Marks -/

def IsSpelling (mark m : List Char) : Prop := List.Forall₂ (fun letter c => sameLetter letter c = true) mark m

/-- A mark around code: what opens the code, in letters of either case, or a fence. -/
def IsMark (m : List Char) : Prop := IsSpelling codeMark m ∨ m = fenceMark

theorem toLower_eq_self_or_large (c : Char) :
    c.toLower = c ∨ 65 ≤ c.toNat ∧ c.toNat ≤ 90 ∧ c.toLower.toNat = c.toNat + 32 := by
  unfold Char.toLower
  split
  · rename_i large
    have least : 65 ≤ c.val.toNat := UInt32.le_iff_toNat_le.mp large.1
    have most : c.val.toNat ≤ 90 := UInt32.le_iff_toNat_le.mp large.2
    refine .inr ⟨least, most, ?_⟩
    show (c.val + 32).toNat = c.val.toNat + 32
    rw [UInt32.toNat_add]
    refine Nat.mod_eq_of_lt ?_
    show c.val.toNat + 32 < 4294967296
    omega
  · exact .inl rfl

theorem eq_or_large_of_sameLetter {letter c : Char} (same : sameLetter letter c = true) :
    c = letter ∨ (65 ≤ c.toNat ∧ c.toNat ≤ 90 ∧ letter.toNat = c.toNat + 32) ∨ letter = 's' ∧ c.toNat = 0x17F := by
  rcases Bool.or_eq_true_iff.mp same with lower | long
  · obtain rfl := beq_iff_eq.mp lower
    rcases toLower_eq_self_or_large c with same | large
    · exact .inl same.symm
    · exact .inr (.inl large)
  · obtain ⟨isS, isLong⟩ := Bool.and_eq_true_iff.mp long
    exact .inr (.inr ⟨beq_iff_eq.mp isS, beq_iff_eq.mp isLong⟩)

section
variable {m n mark cs text left right : List Char} {pieces : List (List Char)}

theorem startsWithMark_iff : startsWithMark mark cs = true ↔ ∃ m, IsSpelling mark m ∧ m <+: cs := by
  induction mark generalizing cs with
  | nil => simp [startsWithMark, IsSpelling]
  | cons letter mark ih =>
    cases cs with
    | nil => simp [startsWithMark, IsSpelling]
    | cons c cs =>
      rw [startsWithMark, Bool.and_eq_true, ih]
      constructor
      · rintro ⟨same, m, alike, starts⟩
        exact ⟨c :: m, .cons same alike, List.cons_prefix_cons.mpr ⟨rfl, starts⟩⟩
      · rintro ⟨_, alike, starts⟩
        cases alike with
        | cons same alike =>
          obtain ⟨rfl, rest⟩ := List.cons_prefix_cons.mp starts
          exact ⟨same, _, alike, rest⟩

theorem sameLetter_dash_iff {c : Char} : sameLetter '-' c = true ↔ c = '-' := by
  constructor
  · intro same
    rcases eq_or_large_of_sameLetter same with rfl | ⟨least, -, small⟩ | ⟨isS, -⟩
    · rfl
    · have dash : '-'.toNat = 45 := rfl
      omega
    · cases isS
  · rintro rfl
    rfl

theorem isSpelling_fenceMark_iff : IsSpelling fenceMark m ↔ m = fenceMark := by
  have dashes : fenceMark = ['-', '-', '-', '-'] := rfl
  rw [IsSpelling, dashes]
  simp only [List.forall₂_cons_left_iff, List.forall₂_nil_left_iff, sameLetter_dash_iff]
  constructor
  · rintro ⟨_, _, rfl, ⟨_, _, rfl, ⟨_, _, rfl, ⟨_, _, rfl, rfl, rfl⟩, rfl⟩, rfl⟩, rfl⟩
    rfl
  · rintro rfl
    exact ⟨_, _, rfl, ⟨_, _, rfl, ⟨_, _, rfl, ⟨_, _, rfl, rfl, rfl⟩, rfl⟩, rfl⟩, rfl⟩

theorem IsMark.ne_nil (isMark : IsMark m) : m ≠ [] := by
  rintro rfl
  rcases isMark with alike | same
  · cases alike
  · cases same

private theorem notBlank_of_sameLetter {letter c : Char} (visible : Text.isBlank letter = false)
    (same : sameLetter letter c = true) : Text.isBlank c = false := by
  rcases eq_or_large_of_sameLetter same with rfl | ⟨least, most, -⟩ | ⟨-, long⟩
  · exact visible
  · simp [Text.isBlank, Text.inRanges, Text.blankRanges]
    omega
  · simp [Text.isBlank, Text.inRanges, Text.blankRanges, long]

private theorem notBlank_of_isSpelling (alike : IsSpelling mark m)
    (visible : ∀ letter ∈ mark, Text.isBlank letter = false) : ∀ c ∈ m, Text.isBlank c = false := by
  induction alike with
  | nil => exact List.forall_mem_nil _
  | cons same _ ih =>
    obtain ⟨first, others⟩ := List.forall_mem_cons.mp visible
    exact List.forall_mem_cons.mpr ⟨notBlank_of_sameLetter first same, ih others⟩

theorem IsMark.notBlank (isMark : IsMark m) : ∀ c ∈ m, Text.isBlank c = false := by
  have code : codeMark.all (fun c => !Text.isBlank c) = true := by decide
  have fence : fenceMark.all (fun c => !Text.isBlank c) = true := by decide
  rcases isMark with alike | rfl
  · exact notBlank_of_isSpelling alike fun c isIn => by simpa using List.all_eq_true.mp code c isIn
  · exact fun c isIn => by simpa using List.all_eq_true.mp fence c isIn

theorem markLength?_eq_some (isMark : IsMark m) (starts : m <+: cs) : markLength? cs = some m.length := by
  rw [markLength?]
  rcases isMark with alike | rfl
  · rw [if_pos (startsWithMark_iff.mpr ⟨m, alike, starts⟩), alike.length_eq]
  · obtain ⟨rest, rfl⟩ := starts
    rfl

theorem markLength?_eq_none_iff : markLength? cs = none ↔ ∀ m, IsMark m → ¬ m <+: cs := by
  constructor
  · intro none m isMark starts
    rw [markLength?_eq_some isMark starts] at none
    cases none
  · intro unmarked
    have noCode : ¬ startsWithMark codeMark cs = true := by
      rw [startsWithMark_iff]
      rintro ⟨m, alike, starts⟩
      exact unmarked m (.inl alike) starts
    have noFence : ¬ startsWithMark fenceMark cs = true := by
      rw [startsWithMark_iff]
      rintro ⟨m, alike, starts⟩
      exact unmarked m (.inr (isSpelling_fenceMark_iff.mp alike)) starts
    rw [markLength?, if_neg noCode, if_neg noFence]

/-! ### Cutting a text at its marks -/

def Unmarked (text : List Char) : Prop := ∀ m, IsMark m → ¬ m <:+: text

/-- The pieces of a text that is cut at its first mark, and then what comes after that in the same way. -/
inductive Cut : List Char → List (List Char) → Prop
  | whole {text : List Char} (unmarked : Unmarked text) : Cut text [text]
  | mark {left m right : List Char} {pieces : List (List Char)} (isMark : IsMark m)
      (first : ∀ l n r, IsMark n → left ++ (m ++ right) = l ++ (n ++ r) → left.length ≤ l.length)
      (rest : Cut right pieces) : Cut (left ++ (m ++ right)) (left :: pieces)

theorem dropMarks_skip (k : Nat) (cs : List Char) : dropMarks k cs = dropMarks 0 (cs.drop k) := by
  induction cs generalizing k with
  | nil => cases k <;> rfl
  | cons c cs ih =>
    cases k with
    | zero => rfl
    | succ k => exact ih k

theorem dropMarks_of_unmarked (unmarked : Unmarked text) : dropMarks 0 text = text := by
  induction text with
  | nil => rfl
  | cons c cs ih =>
    have none : markLength? (c :: cs) = none :=
      markLength?_eq_none_iff.mpr fun m isMark starts => unmarked m isMark starts.isInfix
    rw [dropMarks, none]
    exact congrArg (c :: ·) (ih fun m isMark isIn => unmarked m isMark (List.infix_cons isIn))

theorem dropMarks_mark (isMark : IsMark m)
    (first : ∀ l n r, IsMark n → left ++ (m ++ right) = l ++ (n ++ r) → left.length ≤ l.length) :
    dropMarks 0 (left ++ (m ++ right)) = left ++ dropMarks 0 right := by
  induction left with
  | nil =>
    obtain ⟨c, cs, rfl⟩ := List.exists_cons_of_ne_nil isMark.ne_nil
    have found := markLength?_eq_some isMark (List.prefix_append (c :: cs) right)
    rw [List.nil_append, List.nil_append, List.cons_append, dropMarks, ← List.cons_append, found]
    show dropMarks cs.length (cs ++ right) = dropMarks 0 right
    rw [dropMarks_skip, List.drop_left]
  | cons c left ih =>
    have none : markLength? (c :: (left ++ (m ++ right))) = none := by
      refine markLength?_eq_none_iff.mpr ?_
      rintro n isMark' ⟨r, whole⟩
      have later := first [] n r isMark' whole.symm
      exact absurd later (by simp)
    have first' : ∀ l n r, IsMark n → left ++ (m ++ right) = l ++ (n ++ r) → left.length ≤ l.length := by
      intro l n r isMark' whole
      have later := first (c :: l) n r isMark' (congrArg (c :: ·) whole)
      simpa using later
    rw [List.cons_append, dropMarks, none]
    exact congrArg (c :: ·) (ih first')

theorem Cut.dropMarks_eq (cut : Cut text pieces) : dropMarks 0 text = pieces.flatten := by
  induction cut with
  | whole unmarked => rw [dropMarks_of_unmarked unmarked, List.flatten_singleton]
  | mark isMark first rest ih => rw [dropMarks_mark isMark first, ih, List.flatten_cons]

theorem exists_first_mark (marked : ¬ Unmarked text) :
    ∃ left m right, text = left ++ (m ++ right) ∧ IsMark m ∧
      ∀ l n r, IsMark n → text = l ++ (n ++ r) → left.length ≤ l.length := by
  induction text with
  | nil =>
    refine absurd (fun m isMark isIn => ?_) marked
    exact isMark.ne_nil (List.infix_nil.mp isIn)
  | cons c cs ih =>
    by_cases starts : ∃ m, IsMark m ∧ m <+: c :: cs
    · obtain ⟨m, isMark, right, whole⟩ := starts
      exact ⟨[], m, right, whole.symm, isMark, fun l _ _ _ _ => Nat.zero_le l.length⟩
    · have later : ¬ Unmarked cs := by
        intro unmarked
        refine marked fun m isMark isIn => ?_
        rcases List.infix_cons_iff.mp isIn with isFirst | isLater
        · exact starts ⟨m, isMark, isFirst⟩
        · exact unmarked m isMark isLater
      obtain ⟨left, m, right, rfl, isMark, first⟩ := ih later
      refine ⟨c :: left, m, right, rfl, isMark, fun l n r isMark' whole => ?_⟩
      cases l with
      | nil => exact absurd ⟨n, isMark', r, whole.symm⟩ starts
      | cons d l => exact Nat.succ_le_succ (first l n r isMark' (List.cons.inj whole).2)

theorem exists_cut (text : List Char) : ∃ pieces, Cut text pieces := by
  induction length : text.length using Nat.strong_induction_on generalizing text with
  | _ k ih =>
    by_cases unmarked : Unmarked text
    · exact ⟨[text], .whole unmarked⟩
    · obtain ⟨left, m, right, rfl, isMark, first⟩ := exists_first_mark unmarked
      have shorter : right.length < k := by
        have some := List.length_pos_iff.mpr isMark.ne_nil
        simp only [List.length_append] at length
        omega
      obtain ⟨pieces, rest⟩ := ih right.length shorter right rfl
      exact ⟨left :: pieces, .mark isMark first rest⟩

theorem Cut.unmarked (cut : Cut text pieces) : ∀ p ∈ pieces, Unmarked p := by
  induction cut with
  | whole unmarked => exact List.forall_mem_singleton.mpr unmarked
  | @mark left m right pieces isMark first rest ih =>
    refine List.forall_mem_cons.mpr ⟨?_, ih⟩
    rintro n isMark' ⟨l, r, rfl⟩
    have later := first l n (r ++ (m ++ right)) isMark' (by simp)
    have some := List.length_pos_iff.mpr isMark'.ne_nil
    simp only [List.length_append] at later
    omega

/-! ### Marks across a cut -/

/-- A text lies across a cut: a first part of it ends a piece, a last part begins a later one, and in between there
are whole pieces only. -/
def Crosses (m : List Char) (pieces : List (List Char)) : Prop :=
  ∃ before left x inner y right after, pieces = before ++ (left ++ x) :: (inner ++ (y ++ right) :: after) ∧
    x ≠ [] ∧ y ≠ [] ∧ m = x ++ (inner.flatten ++ y)

theorem Crosses.infix (crosses : Crosses m pieces) : m <:+: pieces.flatten := by
  obtain ⟨before, left, x, inner, y, right, after, rfl, -, -, rfl⟩ := crosses
  exact ⟨before.flatten ++ left, right ++ after.flatten, by simp⟩

theorem Crosses.cons (crosses : Crosses m pieces) (p : List Char) : Crosses m (p :: pieces) := by
  obtain ⟨before, left, x, inner, y, right, after, rfl, some, some', rfl⟩ := crosses
  exact ⟨p :: before, left, x, inner, y, right, after, rfl, some, some', rfl⟩

theorem exists_of_prefix_flatten (some : m ≠ []) (starts : m <+: pieces.flatten) :
    ∃ inner y right after, pieces = inner ++ (y ++ right) :: after ∧ y ≠ [] ∧ m = inner.flatten ++ y := by
  induction pieces generalizing m with
  | nil => exact absurd (List.prefix_nil.mp starts) some
  | cons p pieces ih =>
    obtain ⟨rest, whole⟩ := starts
    rw [List.flatten_cons] at whole
    rcases List.append_eq_append_iff.mp whole with ⟨right, rfl, -⟩ | ⟨later, rfl, rest'⟩
    · exact ⟨[], m, right, pieces, rfl, some, rfl⟩
    · by_cases none : later = []
      · subst none
        rw [List.append_nil] at some ⊢
        exact ⟨[], p, [], pieces, by simp, some, rfl⟩
      · obtain ⟨inner, y, right, after, rfl, some', rfl⟩ := ih none ⟨rest, rest'.symm⟩
        exact ⟨p :: inner, y, right, after, rfl, some', by simp⟩

/-- What stands in some pieces together stands in one of them, or lies across a cut. -/
theorem infix_flatten_iff (some : m ≠ []) :
    m <:+: pieces.flatten ↔ (∃ p ∈ pieces, m <:+: p) ∨ Crosses m pieces := by
  constructor
  · intro isIn
    induction pieces with
    | nil => exact absurd (List.infix_nil.mp isIn) some
    | cons p pieces ih =>
      rw [List.flatten_cons] at isIn
      rcases List.infix_append_iff_ne_nil.mp isIn with inFirst | inRest | ⟨x, z, someX, someZ, rfl, ⟨left, rfl⟩, starts⟩
      · exact .inl ⟨p, List.mem_cons_self, inFirst⟩
      · rcases ih inRest with ⟨q, isPiece, inPiece⟩ | crosses
        · exact .inl ⟨q, List.mem_cons_of_mem p isPiece, inPiece⟩
        · exact .inr (crosses.cons p)
      · obtain ⟨inner, y, right, after, rfl, someY, rfl⟩ := exists_of_prefix_flatten someZ starts
        exact .inr ⟨[], left, x, inner, y, right, after, rfl, someX, someY, rfl⟩
  · rintro (⟨p, isPiece, inPiece⟩ | crosses)
    · exact inPiece.trans (List.infix_of_mem_flatten isPiece)
    · exact crosses.infix

theorem Cut.infix_flatten_iff (cut : Cut text pieces) (isMark : IsMark m) :
    m <:+: pieces.flatten ↔ Crosses m pieces := by
  rw [StyleGuide.infix_flatten_iff isMark.ne_nil]
  constructor
  · rintro (⟨p, isPiece, inPiece⟩ | crosses)
    · exact absurd inPiece (cut.unmarked p isPiece m isMark)
    · exact crosses
  · exact .inr

/-- A mark does not lie across a cut where each mark that is gone began a line. -/
theorem not_crosses_of_lines (isMark : IsMark m) (lines : ∀ p ∈ pieces.dropLast, ∀ c ∈ p.getLast?, c = '\n') :
    ¬ Crosses m pieces := by
  rintro ⟨before, left, x, inner, y, right, after, rfl, some, -, rfl⟩
  have isFirst : left ++ x ∈ (before ++ (left ++ x) :: (inner ++ (y ++ right) :: after)).dropLast := by
    rw [List.dropLast_append_of_ne_nil (List.cons_ne_nil _ _), List.dropLast_cons_of_ne_nil (by simp)]
    exact List.mem_append_right before List.mem_cons_self
  have isLast : x.getLast some ∈ (left ++ x).getLast? := by
    rw [List.getLast?_append_of_ne_nil left some, List.getLast?_eq_some_getLast some]
    rfl
  have lineFeed : x.getLast some = '\n' := lines _ isFirst _ isLast
  have visible := isMark.notBlank _ (List.mem_append_left _ (List.getLast_mem some))
  rw [lineFeed] at visible
  cases visible

end

/-! ### What is shown of a rule -/

/-- The lines of a rule as one text, before its marks are taken out. -/
def textOf (lines : List (List Char)) : List Char := ['\n'].intercalate lines

theorem exists_cut_body (lines : List (List Char)) :
    ∃ pieces, Cut (textOf lines) pieces ∧ Text.Trims pieces.flatten (body lines) := by
  obtain ⟨pieces, cut⟩ := exists_cut (textOf lines)
  refine ⟨pieces, cut, Text.trims_iff.mpr ?_⟩
  rw [← cut.dropMarks_eq]
  rfl

/-- In what is shown of a rule, a mark stands exactly where it lies across a cut: where marks are gone that have kept
its parts from each other. So there is none if each mark that is gone has begun a line. -/
theorem marks_survive_across_cuts (document : String) :
    List.Forall₂ (fun (found : List Char × List (List Char)) (rule : String × String) =>
      ∃ pieces, Cut (textOf found.2) pieces ∧ Text.Trims pieces.flatten rule.2.toList ∧
        (∀ m, IsMark m → (m <:+: rule.2.toList ↔ Crosses m pieces)) ∧
        ((∀ p ∈ pieces.dropLast, ∀ c ∈ p.getLast?, c = '\n') → Unmarked rule.2.toList))
      (sections (Text.lineRuns document.toList)) (rules document) := by
  rw [rules, List.forall₂_map_right_iff, List.forall₂_same]
  rintro ⟨anchor, lines⟩ -
  obtain ⟨pieces, cut, trims⟩ := exists_cut_body lines
  have survives : ∀ m, IsMark m → (m <:+: body lines ↔ Crosses m pieces) := by
    intro m isMark
    rw [trims.infix_iff isMark.ne_nil isMark.notBlank, cut.infix_flatten_iff isMark]
  refine ⟨pieces, cut, ?_, ?_, ?_⟩
  · rwa [String.toList_ofList]
  · rwa [String.toList_ofList]
  · intro lines m isMark isIn
    rw [String.toList_ofList] at isIn
    exact not_crosses_of_lines isMark lines ((survives m isMark).mp isIn)

/-- A fence whose halves stand on the two sides of another mark is shown. -/
theorem mark_may_be_shown :
    rules "=== Tabs [[tabs]]\n--[source,ruby]--" = [("tabs", "----")] ∧
      ¬ ∀ (document : String), ∀ rule ∈ rules document, ∀ m, IsMark m → ¬ m <:+: rule.2.toList := by
  have shown : rules "=== Tabs [[tabs]]\n--[source,ruby]--" = [("tabs", "----")] := by decide
  refine ⟨shown, fun none => ?_⟩
  have isRule : ("tabs", "----") ∈ rules "=== Tabs [[tabs]]\n--[source,ruby]--" := by
    rw [shown]
    exact List.mem_singleton_self _
  exact none _ _ isRule fenceMark (.inr rfl) List.infix_rfl

end LintBridge.StyleGuide
