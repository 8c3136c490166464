import LintBridge.Proofs.Json.Grammar

/-!
Which texts are numbers, and that the reader takes them.

`NumberLiteral` is the grammar of JSON numbers. A number may be too large to be kept; apart from that, the reader
takes every literal (`NumberLiteral.numberText`), wherever it stands.
-/

set_option autoImplicit false
set_option relaxedAutoImplicit false

namespace LintBridge.Json

open LintBridge.Decimal (Magnitude)

namespace Cursor

/-! ### The grammar -/

/-- One digit or more. -/
structure Digits (cs : List Char) : Prop where
  some : cs ≠ []
  each : ∀ x ∈ cs, x.isDigit = true

/-- The digits before the point: a single zero, or no zero in front. -/
inductive IntegerText : List Char → Prop
  | zero : IntegerText ['0']
  | digits {cs : List Char} (digits : Digits cs) (unpadded : cs.head? ≠ some '0') : IntegerText cs

/-- The point with the digits behind it, if there are any. -/
inductive FractionText : List Char → Prop
  | none : FractionText []
  | some {cs : List Char} (digits : Digits cs) : FractionText ('.' :: cs)

/-- The exponent, if there is one. -/
inductive ExponentText : List Char → Prop
  | none : ExponentText []
  | some {letter : Char} {sign cs : List Char} (isLetter : letter = 'e' ∨ letter = 'E')
      (isSign : sign = [] ∨ sign = ['+'] ∨ sign = ['-']) (digits : Digits cs) : ExponentText (letter :: (sign ++ cs))

/-- A number as JSON has it. -/
inductive NumberLiteral : List Char → Prop
  | mk {minus whole fraction exponent : List Char} (isMinus : minus = [] ∨ minus = ['-']) (isWhole : IntegerText whole)
      (isFraction : FractionText fraction) (isExponent : ExponentText exponent) :
      NumberLiteral (minus ++ (whole ++ (fraction ++ exponent)))

def OutOfRange (cs : List Char) : Prop := ∃ place, readNumber (start cs) = .error ⟨.fault .numberOutOfRange, place⟩

/-! ### Reading it -/

/-- What a reader has come to at `past`: the number that is found, or, if none is, that it is out of range. -/
def Judged (found : Option Number) (outcome : Except Failure (Number × Cursor)) (past : Cursor) : Prop :=
  match found with
  | some n => outcome = .ok (n, past)
  | none => ∃ place, outcome = .error ⟨.fault .numberOutOfRange, place⟩

/-- Where a number does not go on, `read` comes to the same for `cs` whatever follows. -/
def Judges (read : Cursor → Except Failure (Number × Cursor)) (cs : List Char) : Prop :=
  ∃ found, ∀ rest p, Ends rest → Judged found (read ⟨cs ++ rest, p⟩) ⟨rest, p.afterAll cs⟩

section
variable {negative : Bool} {significand : Nat} {cs rest : List Char}

theorem Ends.noDigit (ends : Ends rest) : ∀ x ∈ rest.head?, x.isDigit = false := by
  intro x isHead
  have stops := ends x isHead
  simp only [continuesNumber, Bool.or_eq_false_iff] at stops
  exact stops.1.1.1

theorem takeWhile_digits (digits : ∀ x ∈ cs, x.isDigit = true) (noDigit : ∀ x ∈ rest.head?, x.isDigit = false) :
    (cs ++ rest).takeWhile Char.isDigit = cs := by
  rw [List.takeWhile_append_of_pos digits]
  cases rest with
  | nil => exact List.append_nil cs
  | cons x rest => simp [noDigit x rfl]

theorem skipWhile_digits (digits : ∀ x ∈ cs, x.isDigit = true) (noDigit : ∀ x ∈ rest.head?, x.isDigit = false)
    (p : Place) : skipWhile Char.isDigit ⟨cs ++ rest, p⟩ = ⟨rest, p.afterAll cs⟩ := by
  have left : (cs ++ rest).dropWhile Char.isDigit = rest := by
    rw [List.dropWhile_append_of_pos digits]
    cases rest with
    | nil => rfl
    | cons x rest => simp [noDigit x rfl]
  simp only [skipWhile, left, takeWhile_digits digits noDigit]

theorem judged_decimalNumber (negative : Bool) (significand : Nat) (exponent : Int) :
    ∃ found, ∀ c, Judged found (decimalNumber negative significand exponent c) c := by
  unfold decimalNumber
  cases (Magnitude.ofNat? significand).bind fun x => x.scaleTen? (exponent.natAbs / 308 + 2) exponent with
  | some m => exact ⟨some (.decimal ⟨negative, m⟩), fun c => rfl⟩
  | none => exact ⟨none, fun c => ⟨c.place, rfl⟩⟩

theorem judged_integerNumber (negative : Bool) (n : Nat) :
    ∃ found, ∀ c, Judged found (integerNumber negative n c) c := by
  unfold integerNumber
  split
  · exact ⟨some (.integer n), fun c => rfl⟩
  · split
    · exact judged_decimalNumber true n 0
    · exact ⟨some (.integer (-(n : Int))), fun c => rfl⟩

private theorem readExponent_append {sign : List Char} (isSign : sign = [] ∨ sign = ['+'] ∨ sign = ['-'])
    (digits : Digits cs) (start : Int) (noDigit : ∀ x ∈ rest.head?, x.isDigit = false) (p : Place) :
    readExponent negative significand start ⟨sign ++ cs ++ rest, p⟩ =
      if (absorb maxExponent 0 cs).2 = cs.length then
        decimalNumber negative significand
          (if sign = ['-'] then start - (absorb maxExponent 0 cs).1 else start + (absorb maxExponent 0 cs).1)
          ⟨rest, p.afterAll (sign ++ cs)⟩
      else if significand ≠ 0 ∧ sign ≠ ['-'] then
        .error ⟨.fault .numberOutOfRange, p.afterAll (sign ++ cs.take ((absorb maxExponent 0 cs).2 + 1))⟩
      else .ok (.decimal ⟨negative, Magnitude.zero⟩, ⟨rest, p.afterAll (sign ++ cs)⟩) := by
  have taken := takeWhile_digits digits.each noDigit
  have left := fun p => skipWhile_digits digits.each noDigit p
  obtain ⟨x, tail, rfl⟩ := List.exists_cons_of_ne_nil digits.some
  have isDigit : x.isDigit = true := digits.each x List.mem_cons_self
  have noPlus : x ≠ '+' := by
    rintro rfl
    exact absurd isDigit (by decide)
  have noMinus : x ≠ '-' := by
    rintro rfl
    exact absurd isDigit (by decide)
  unfold readExponent
  obtain rfl | rfl | rfl := isSign
  all_goals
    simp only [List.nil_append, List.cons_append, advance_cons] at taken left ⊢
  · simp [noPlus, noMinus, isDigit, taken, left]
  · simp [isDigit, taken, left]
  · simp [isDigit, taken, left]

theorem judges_readExponent (negative : Bool) (significand : Nat) {sign : List Char} (isSign : sign = [] ∨ sign = ['+'] ∨ sign = ['-'])
    (digits : Digits cs) (start : Int) : Judges (readExponent negative significand start) (sign ++ cs) := by
  by_cases all : (absorb maxExponent 0 cs).2 = cs.length
  · obtain ⟨found, judged⟩ := judged_decimalNumber negative significand
      (if sign = ['-'] then start - (absorb maxExponent 0 cs).1 else start + (absorb maxExponent 0 cs).1)
    refine ⟨found, fun rest p ends => ?_⟩
    rw [readExponent_append isSign digits start ends.noDigit, if_pos all]
    exact judged _
  · by_cases large : significand ≠ 0 ∧ sign ≠ ['-']
    · refine ⟨none, fun rest p ends => ?_⟩
      rw [readExponent_append isSign digits start ends.noDigit, if_neg all, if_pos large]
      exact ⟨_, rfl⟩
    · refine ⟨some (.decimal ⟨negative, Magnitude.zero⟩), fun rest p ends => ?_⟩
      rw [readExponent_append isSign digits start ends.noDigit, if_neg all, if_neg large]
      rfl

private def readTail (negative : Bool) (significand : Nat) (start : Int)
    (finish : Cursor → Except Failure (Number × Cursor)) (c : Cursor) : Except Failure (Number × Cursor) :=
  match c.rest with
  | 'e' :: _ => readExponent negative significand start c.advance
  | 'E' :: _ => readExponent negative significand start c.advance
  | _ => finish c

private theorem judges_readTail (negative : Bool) (significand : Nat) {exponent : List Char} (isExponent : ExponentText exponent) (start : Int)
    {finish : Cursor → Except Failure (Number × Cursor)} (finishes : ∃ found, ∀ c, Judged found (finish c) c) :
    Judges (readTail negative significand start finish) exponent := by
  cases isExponent with
  | none =>
    obtain ⟨found, judged⟩ := finishes
    refine ⟨found, fun rest p ends => ?_⟩
    have ended : readTail negative significand start finish ⟨rest, p⟩ = finish ⟨rest, p⟩ := by
      unfold readTail
      split
      · rename_i rest
        cases ends _ (congrArg List.head? rest)
      · rename_i rest
        cases ends _ (congrArg List.head? rest)
      · rfl
    rw [List.nil_append, ended]
    exact judged ⟨rest, p⟩
  | some isLetter isSign digits =>
    obtain ⟨found, judged⟩ := judges_readExponent negative significand isSign digits start
    refine ⟨found, fun rest p ends => ?_⟩
    obtain rfl | rfl := isLetter
    · exact judged rest (p.after 'e') ends
    · exact judged rest (p.after 'E') ends

private theorem readAfterDigits_of_noPoint {dropped : Nat} {c : Cursor} (noPoint : ∀ tail, c.rest ≠ '.' :: tail) :
    readAfterDigits negative significand dropped c =
      readTail negative significand dropped (fun c =>
        if dropped = 0 then integerNumber negative significand c else decimalNumber negative significand dropped c) c := by
  obtain ⟨cs, p⟩ := c
  cases cs with
  | nil => rfl
  | cons x tail =>
    by_cases small : x = 'e'
    · subst small
      rfl
    · by_cases large : x = 'E'
      · subst large
        rfl
      · simp [readAfterDigits, readTail, small, large]

private theorem noDigit_exponent {exponent : List Char} (isExponent : ExponentText exponent) (ends : Ends rest) :
    ∀ x ∈ (exponent ++ rest).head?, x.isDigit = false := by
  cases isExponent with
  | none => exact ends.noDigit
  | some isLetter isSign digits =>
    intro x isHead
    cases isHead
    obtain rfl | rfl := isLetter <;> rfl

theorem judges_readFraction (negative : Bool) (significand : Nat) {exponent : List Char} (digits : Digits cs) (isExponent : ExponentText exponent)
    (start : Int) : Judges (readFraction negative significand start) (cs ++ exponent) := by
  obtain ⟨found, judged⟩ := judges_readTail negative (absorb maxUnsigned significand cs).1 isExponent
    (start - (absorb maxUnsigned significand cs).2)
    (judged_decimalNumber negative (absorb maxUnsigned significand cs).1 (start - (absorb maxUnsigned significand cs).2))
  refine ⟨found, fun rest p ends => ?_⟩
  have noDigit := noDigit_exponent isExponent ends
  have some : cs.isEmpty = false := by simpa using digits.some
  have whole : readFraction negative significand start ⟨cs ++ (exponent ++ rest), p⟩ =
      readTail negative (absorb maxUnsigned significand cs).1 (start - (absorb maxUnsigned significand cs).2)
        (decimalNumber negative (absorb maxUnsigned significand cs).1 (start - (absorb maxUnsigned significand cs).2))
        ⟨exponent ++ rest, p.afterAll cs⟩ := by
    unfold readFraction
    simp only [takeWhile_digits digits.each noDigit, skipWhile_digits digits.each noDigit, some, Bool.false_eq_true,
      if_false]
    rfl
  rw [List.append_assoc, whole, Place.afterAll_append]
  exact judged rest (p.afterAll cs) ends

theorem judges_readAfterDigits (negative : Bool) (significand : Nat) {fraction exponent : List Char} (isFraction : FractionText fraction)
    (isExponent : ExponentText exponent) (dropped : Nat) :
    Judges (readAfterDigits negative significand dropped) (fraction ++ exponent) := by
  cases isFraction with
  | none =>
    have finishes : ∃ found, ∀ c, Judged found
        (if dropped = 0 then integerNumber negative significand c else decimalNumber negative significand dropped c) c := by
      split
      · exact judged_integerNumber negative significand
      · exact judged_decimalNumber negative significand dropped
    obtain ⟨found, judged⟩ := judges_readTail negative significand isExponent dropped
      finishes
    refine ⟨found, fun rest p ends => ?_⟩
    have noPoint : ∀ tail, exponent ++ rest ≠ '.' :: tail := by
      intro tail point
      cases isExponent with
      | none => cases ends _ (congrArg List.head? point)
      | some isLetter isSign digits =>
        cases point
        obtain isLetter | isLetter := isLetter <;> cases isLetter
    rw [List.nil_append, readAfterDigits_of_noPoint noPoint]
    exact judged rest p ends
  | some digits =>
    obtain ⟨found, judged⟩ := judges_readFraction negative significand digits isExponent dropped
    exact ⟨found, fun rest p ends => judged rest (p.after '.') ends⟩

theorem judges_readUnsigned (negative : Bool) {whole fraction exponent : List Char} (isWhole : IntegerText whole)
    (isFraction : FractionText fraction) (isExponent : ExponentText exponent) :
    Judges (readUnsigned negative) (whole ++ (fraction ++ exponent)) := by
  have noDigit : ∀ {rest : List Char}, Ends rest → ∀ x ∈ (fraction ++ exponent ++ rest).head?, x.isDigit = false := by
    intro rest ends x isHead
    cases isFraction with
    | none => exact noDigit_exponent isExponent ends x isHead
    | some digits =>
      cases isHead
      rfl
  cases isWhole with
  | zero =>
    obtain ⟨found, judged⟩ := judges_readAfterDigits negative 0 isFraction isExponent 0
    refine ⟨found, fun rest p ends => ?_⟩
    have whole : readUnsigned negative ⟨'0' :: (fraction ++ exponent ++ rest), p⟩ =
        readAfterDigits negative 0 0 ⟨fraction ++ exponent ++ rest, p.after '0'⟩ := by
      have noDigit := noDigit ends
      generalize fraction ++ exponent ++ rest = tail at noDigit
      unfold readUnsigned
      cases tail with
      | nil => rfl
      | cons d tail => simp [noDigit d rfl]
    rw [List.singleton_append, List.cons_append, whole]
    exact judged rest (p.after '0') ends
  | digits digits unpadded =>
    obtain ⟨found, judged⟩ := judges_readAfterDigits negative (absorb maxUnsigned 0 whole).1 isFraction isExponent
      (whole.length - (absorb maxUnsigned 0 whole).2)
    refine ⟨found, fun rest p ends => ?_⟩
    have taken := takeWhile_digits digits.each (noDigit ends)
    have left := skipWhile_digits digits.each (noDigit ends) p
    have read : readUnsigned negative ⟨whole ++ (fraction ++ exponent ++ rest), p⟩ =
        readAfterDigits negative (absorb maxUnsigned 0 whole).1 (whole.length - (absorb maxUnsigned 0 whole).2)
          ⟨fraction ++ exponent ++ rest, p.afterAll whole⟩ := by
      obtain ⟨x, tail, rfl⟩ := List.exists_cons_of_ne_nil digits.some
      have isDigit : x.isDigit = true := digits.each x List.mem_cons_self
      have nonzero : x ≠ '0' := fun zero => unpadded (congrArg some zero)
      rw [List.cons_append] at taken left ⊢
      unfold readUnsigned
      simp only [nonzero, isDigit, if_true, if_false, taken, left]
    rw [List.append_assoc, read, Place.afterAll_append]
    exact judged rest (p.afterAll whole) ends

end

theorem IntegerText.starts {whole : List Char} (isWhole : IntegerText whole) :
    ∃ x tail, whole = x :: tail ∧ x.isDigit = true := by
  cases isWhole with
  | zero => exact ⟨'0', [], rfl, rfl⟩
  | digits digits unpadded =>
    obtain ⟨x, tail, rfl⟩ := List.exists_cons_of_ne_nil digits.some
    exact ⟨x, tail, rfl, digits.each x List.mem_cons_self⟩

namespace NumberLiteral

variable {cs : List Char}

theorem starts (literal : NumberLiteral cs) : ∃ x tail, cs = x :: tail ∧ (x = '-' ∨ x.isDigit = true) := by
  obtain ⟨isMinus, isWhole, isFraction, isExponent⟩ := literal
  obtain rfl | rfl := isMinus
  · obtain ⟨x, tail, rfl, isDigit⟩ := isWhole.starts
    exact ⟨x, _, rfl, .inr isDigit⟩
  · exact ⟨'-', _, rfl, .inl rfl⟩

/-- Whatever follows it, a literal is taken for one number, or found out of range. -/
theorem judges (literal : NumberLiteral cs) : Judges readNumber cs := by
  obtain ⟨isMinus, isWhole, isFraction, isExponent⟩ := literal
  obtain rfl | rfl := isMinus
  · obtain ⟨found, judged⟩ := judges_readUnsigned false isWhole isFraction isExponent
    refine ⟨found, fun rest p ends => ?_⟩
    have judged := judged rest p ends
    obtain ⟨x, tail, rfl, isDigit⟩ := isWhole.starts
    have noMinus : x ≠ '-' := by
      rintro rfl
      exact absurd isDigit (by decide)
    simpa [readNumber, noMinus] using judged
  · obtain ⟨found, judged⟩ := judges_readUnsigned true isWhole isFraction isExponent
    exact ⟨found, fun rest p ends => judged rest (p.after '-') ends⟩

theorem numberText (literal : NumberLiteral cs) (inRange : ¬ OutOfRange cs) : ∃ n, NumberText n cs := by
  obtain ⟨found, judged⟩ := literal.judges
  cases found with
  | none =>
    have tooLarge := judged [] ⟨1, 0⟩ (ends_spaces spaces_nil)
    rw [List.append_nil] at tooLarge
    exact absurd tooLarge inRange
  | some n => exact ⟨n, literal.starts, fun rest ends p => judged rest p ends⟩

end NumberLiteral
end Cursor
end LintBridge.Json
