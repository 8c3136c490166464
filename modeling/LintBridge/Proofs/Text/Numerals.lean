import Mathlib.Data.List.Induction

/-!
Numbers in decimal digits.

A text of digits is the shortest one of its number with zeros in front of it (`exists_eq_numeral`).
-/

set_option autoImplicit false
set_option relaxedAutoImplicit false

namespace LintBridge.Text

def numeral (zeros n : Nat) : List Char := List.replicate zeros '0' ++ Nat.toDigits 10 n

@[simp] theorem numeral_zero (n : Nat) : numeral 0 n = Nat.toDigits 10 n := rfl

theorem numeral_succ (zeros n : Nat) : numeral (zeros + 1) n = '0' :: numeral zeros n := rfl

theorem head_toDigits {n : Nat} (positive : 0 < n) :
    ∃ x tail, Nat.toDigits 10 n = x :: tail ∧ x ≠ '0' := by
  have nonzeroDigit : ∀ k < 10, 0 < k → Nat.digitChar k ≠ '0' := by decide
  induction n using Nat.strongRecOn with
  | ind n ih =>
    by_cases small : n < 10
    · exact ⟨n.digitChar, [], Nat.toDigits_of_lt_base small, nonzeroDigit n small positive⟩
    · obtain ⟨x, tail, digits, nonzero⟩ := ih (n / 10) (by omega) (by omega)
      refine ⟨x, tail ++ [(n % 10).digitChar], ?_, nonzero⟩
      rw [Nat.toDigits_of_base_le (by decide) (Nat.le_of_not_lt small), digits, List.cons_append]

theorem numeral_ne_nil (zeros n : Nat) : numeral zeros n ≠ [] := by simp [numeral, Nat.toDigits_ne_nil]

theorem isDigit_of_mem_numeral {zeros n : Nat} {c : Char} (isIn : c ∈ numeral zeros n) : c.isDigit = true := by
  rcases List.mem_append.mp isIn with isZero | isIn
  · rw [List.eq_of_mem_replicate isZero]
    rfl
  · exact Nat.isDigit_of_mem_toDigits (by decide) (by decide) isIn

theorem ofDigitChars_numeral (zeros n : Nat) : Nat.ofDigitChars 10 (numeral zeros n) 0 = n := by
  rw [numeral, Nat.ofDigitChars_append, Nat.ofDigitChars_replicate_zero, Nat.mul_zero, Nat.ofDigitChars_ten_toDigits]

/-! ### Every text of digits is a numeral -/

theorem digitChar_of_isDigit {c : Char} (isDigit : c.isDigit = true) :
    c.toNat - '0'.toNat < 10 ∧ (c.toNat - '0'.toNat).digitChar = c := by
  obtain ⟨least, most⟩ := Char.isDigit_iff_toNat.mp isDigit
  have zero : '0'.toNat = 48 := rfl
  have nine : '9'.toNat = 57 := rfl
  have written : ∀ k < 10, (k.digitChar).toNat = k + 48 := by decide
  refine ⟨by omega, Char.toNat_inj.mp ?_⟩
  rw [written _ (by omega)]
  omega

theorem eq_toDigits_of_head {ds : List Char} (digits : ∀ d ∈ ds, d.isDigit = true)
    (unpadded : ds.head? ≠ some '0') (some : ds ≠ []) : ds = Nat.toDigits 10 (Nat.ofDigitChars 10 ds 0) := by
  induction ds using List.reverseRecOn with
  | nil => exact absurd rfl some
  | append_singleton front d ih =>
    obtain ⟨small, written⟩ := digitChar_of_isDigit (digits d (by simp))
    have value : Nat.ofDigitChars 10 (front ++ [d]) 0 = 10 * Nat.ofDigitChars 10 front 0 + (d.toNat - '0'.toNat) := by
      rw [Nat.ofDigitChars_append, Nat.ofDigitChars_cons, Nat.ofDigitChars_nil]
    by_cases none : front = []
    · subst none
      rw [value, Nat.ofDigitChars_nil, Nat.mul_zero, Nat.zero_add, Nat.toDigits_of_lt_base small, written]
      rfl
    · have unpadded' : front.head? ≠ Option.some '0' := by
        cases front with
        | nil => exact absurd rfl none
        | cons f front => exact unpadded
      have shortest := ih (fun d isIn => digits d (by simp [isIn])) unpadded' none
      have positive : 0 < Nat.ofDigitChars 10 front 0 := by
        refine Nat.pos_of_ne_zero fun zero => ?_
        rw [zero, Nat.toDigits_zero] at shortest
        exact unpadded' (by rw [shortest]; rfl)
      rw [value, ← Nat.toDigits_append_toDigits (by decide) positive small, Nat.toDigits_of_lt_base small, written,
        ← shortest]

theorem exists_eq_numeral {ds : List Char} (digits : ∀ d ∈ ds, d.isDigit = true) (some : ds ≠ []) :
    ∃ zeros, ds = numeral zeros (Nat.ofDigitChars 10 ds 0) := by
  induction ds with
  | nil => exact absurd rfl some
  | cons d ds ih =>
    by_cases padded : d = '0' ∧ ds ≠ []
    · obtain ⟨rfl, more⟩ := padded
      obtain ⟨zeros, same⟩ := ih (fun d isIn => digits d (List.mem_cons_of_mem _ isIn)) more
      refine ⟨zeros + 1, ?_⟩
      rw [Nat.ofDigitChars_cons, numeral_succ]
      exact congrArg ('0' :: ·) same
    · by_cases zero : d = '0'
      · obtain rfl : ds = [] := by
          by_contra more
          exact padded ⟨zero, more⟩
        subst zero
        exact ⟨0, rfl⟩
      · exact ⟨0, eq_toDigits_of_head digits (by simpa using zero) some⟩

/-- Digits are the shortest ones of their number just if there is no needless zero in front. -/
theorem eq_toDigits_iff {ds : List Char} (digits : ∀ d ∈ ds, d.isDigit = true) (some : ds ≠ []) :
    ds = Nat.toDigits 10 (Nat.ofDigitChars 10 ds 0) ↔ ¬ (2 ≤ ds.length ∧ ds.head? = Option.some '0') := by
  constructor
  · rintro shortest ⟨long, padded⟩
    rw [shortest] at long padded
    rcases Nat.eq_zero_or_pos (Nat.ofDigitChars 10 ds 0) with zero | positive
    · rw [zero] at long
      exact absurd long (by decide)
    · obtain ⟨d, tail, written, nonzero⟩ := head_toDigits positive
      rw [written] at padded
      exact nonzero (Option.some.inj padded)
  · intro unpadded
    by_cases starts : ds.head? = Option.some '0'
    · have short : ds.length < 2 := Nat.lt_of_not_le fun long => unpadded ⟨long, starts⟩
      obtain ⟨tail, rfl⟩ := List.head?_eq_some_iff.mp starts
      obtain rfl : tail = [] := List.length_eq_zero_iff.mp (Nat.lt_one_iff.mp (Nat.lt_of_succ_lt_succ short))
      rfl
    · exact eq_toDigits_of_head digits starts some

end LintBridge.Text
