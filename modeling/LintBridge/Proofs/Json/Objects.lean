import LintBridge.Proofs.Json.Grammar
import LintBridge.Proofs.Json.Members
import Mathlib.Tactic.SplitIfs

/-!
The object that a text is, and what a record takes from it.

A record read from text takes its fields one by one and skips the rest, a record read from a value looks at a value
that has been read whole. `Record.exists_membersOf_of_parse` says that both come to the same: a text of an object from which a
record is read has members, and the record is what it collects from them.
-/

set_option autoImplicit false
set_option relaxedAutoImplicit false

namespace LintBridge.Json

namespace Cursor

/-! ### What is read can be skipped -/

theorem eq_of_decimalNumber {negative : Bool} {significand : Nat} {exponent : Int} {c past : Cursor} {n : Number}
    (read : decimalNumber negative significand exponent c = .ok (n, past)) : past = c := by
  unfold decimalNumber at read
  split at read
  · cases read
    rfl
  · cases read

theorem eq_of_integerNumber {negative : Bool} {k : Nat} {c past : Cursor} {n : Number}
    (read : integerNumber negative k c = .ok (n, past)) : past = c := by
  unfold integerNumber at read
  split at read
  · cases read
    rfl
  · split at read
    · exact eq_of_decimalNumber read
    · cases read
      rfl

def AtDigit (c : Cursor) : Prop := ∃ x tail, c.rest = x :: tail ∧ x.isDigit = true

theorem skipDigits_of_atDigit {c : Cursor} (digit : c.AtDigit) (place : Place) :
    c.skipDigits place = .ok (c.skipWhile Char.isDigit) := by
  obtain ⟨x, tail, rest, isDigit⟩ := digit
  unfold skipDigits
  split
  · rename_i y rest' same
    rw [rest] at same
    cases same
    rw [if_pos isDigit]
  · rename_i same
    rw [rest] at same
    cases same

def afterSign (c : Cursor) : Cursor :=
  match c.rest with
  | '+' :: _ => c.advance
  | '-' :: _ => c.advance
  | _ => c

theorem eq_of_readExponent {negative : Bool} {significand : Nat} {start : Int} {c past : Cursor} {n : Number}
    (read : readExponent negative significand start c = .ok (n, past)) :
    (afterSign c).AtDigit ∧ past = (afterSign c).skipWhile Char.isDigit := by
  unfold readExponent at read
  split at read
  rename_i down d sign
  have signed : afterSign c = d := by
    unfold afterSign
    split at sign <;> cases sign <;> simp [*]
  rw [signed]
  split at read
  · cases read
  · rename_i x tail rest
    split at read
    · cases read
    · rename_i digit
      refine ⟨⟨x, tail, rest, by simpa using digit⟩, ?_⟩
      simp only at read
      split at read
      · exact eq_of_decimalNumber read
      · split at read
        · cases read
        · cases read
          rfl

theorem skipExponent_of_readExponent {negative : Bool} {significand : Nat} {start : Int} {c past : Cursor} {n : Number}
    {x : Char} {tail : List Char} (letter : x = 'e' ∨ x = 'E') (rest : c.rest = x :: tail)
    (read : readExponent negative significand start c.advance = .ok (n, past)) : c.skipExponent = .ok past := by
  obtain ⟨digit, rfl⟩ := eq_of_readExponent read
  have skipped : c.skipExponent = (afterSign c.advance).skipDigits (afterSign c.advance).peeked := by
    unfold skipExponent
    rw [rest]
    simp only [letter, if_true]
    rfl
  rw [skipped, skipDigits_of_atDigit digit]

theorem skipExponent_of_noLetter {c : Cursor} (noSmall : ∀ tail, c.rest = 'e' :: tail → False)
    (noLarge : ∀ tail, c.rest = 'E' :: tail → False) : c.skipExponent = .ok c := by
  unfold skipExponent
  split
  · rename_i x tail rest
    have other : ¬ (x = 'e' ∨ x = 'E') := by
      rintro (rfl | rfl)
      · exact noSmall tail rest
      · exact noLarge tail rest
    rw [if_neg other]
  · rfl

theorem skipExponent_of_fraction {negative : Bool} {significand : Nat} {start : Int} {c past : Cursor} {n : Number}
    (read : readFraction negative significand start c = .ok (n, past)) :
    c.AtDigit ∧ (c.skipWhile Char.isDigit).skipExponent = .ok past := by
  unfold readFraction at read
  simp only at read
  split at read
  · split at read <;> cases read
  · rename_i some
    have digit : c.AtDigit := by
      cases rest : c.rest with
      | nil => simp [rest] at some
      | cons x tail =>
        refine ⟨x, tail, rest, ?_⟩
        by_contra noDigit
        simp [rest, noDigit] at some
    refine ⟨digit, ?_⟩
    split at read
    · rename_i rest
      exact skipExponent_of_readExponent (.inl rfl) rest read
    · rename_i rest
      exact skipExponent_of_readExponent (.inr rfl) rest read
    · rename_i noSmall noLarge
      rw [eq_of_decimalNumber read]
      exact skipExponent_of_noLetter noSmall noLarge

/-- Skips what may follow the digits of an integer. -/
def skipAfterDigits (c : Cursor) : Except Failure Cursor :=
  match c.rest with
  | '.' :: _ => do
    let c ← c.advance.skipDigits c.advance.peeked
    c.skipExponent
  | _ => c.skipExponent

theorem skipAfterDigits_of_read {negative : Bool} {significand dropped : Nat} {c past : Cursor} {n : Number}
    (read : readAfterDigits negative significand dropped c = .ok (n, past)) : c.skipAfterDigits = .ok past := by
  unfold readAfterDigits at read
  unfold skipAfterDigits
  split at read
  · rename_i rest
    obtain ⟨digit, exponent⟩ := skipExponent_of_fraction read
    simp only [rest, skipDigits_of_atDigit digit]
    exact exponent
  · rename_i rest
    simp only [rest]
    exact skipExponent_of_readExponent (.inl rfl) rest read
  · rename_i rest
    simp only [rest]
    exact skipExponent_of_readExponent (.inr rfl) rest read
  · rename_i noPoint noSmall noLarge
    have same : past = c := by
      split at read
      · exact eq_of_integerNumber read
      · exact eq_of_decimalNumber read
    subst same
    split
    · rename_i rest
      exact absurd rest (noPoint _)
    · exact skipExponent_of_noLetter noSmall noLarge

def skipInteger (c : Cursor) : Except Failure Cursor :=
  match c.rest with
  | [] => c.fail .badNumber
  | x :: rest =>
    if x = '0' then
      match rest with
      | d :: _ => if d.isDigit then c.advance.failPeeked .badNumber else pure c.advance
      | [] => pure c.advance
    else if x.isDigit then pure (c.skipWhile Char.isDigit)
    else c.failPeeked .badNumber

theorem skipInteger_of_readUnsigned {negative : Bool} {c past : Cursor} {n : Number}
    (read : readUnsigned negative c = .ok (n, past)) : c.skipInteger.bind skipAfterDigits = .ok past := by
  obtain ⟨cs, p⟩ := c
  cases cs with
  | nil => cases read
  | cons x tail =>
    unfold readUnsigned at read
    unfold skipInteger
    dsimp only at read ⊢
    by_cases zero : x = '0'
    · rw [if_pos zero] at read ⊢
      cases tail with
      | nil => exact skipAfterDigits_of_read read
      | cons y tail =>
        dsimp only at read ⊢
        by_cases digit : y.isDigit = true
        · rw [if_pos digit] at read
          cases read
        · rw [if_neg digit] at read ⊢
          exact skipAfterDigits_of_read read
    · rw [if_neg zero] at read ⊢
      by_cases digit : x.isDigit = true
      · rw [if_pos digit] at read ⊢
        exact skipAfterDigits_of_read read
      · rw [if_neg digit] at read
        cases read

/-- The cursor after a minus sign, if one comes next. -/
def afterMinus (c : Cursor) : Cursor :=
  match c.rest with
  | '-' :: _ => c.advance
  | _ => c

theorem skipNumber_eq (c : Cursor) : c.skipNumber = (afterMinus c).skipInteger.bind skipAfterDigits := by
  unfold skipNumber
  dsimp only
  split
  · rename_i rest
    have rest : (afterMinus c).rest = [] := rest
    simp only [skipInteger, rest]
    rfl
  · rename_i x tail rest
    have rest : (afterMinus c).rest = x :: tail := rest
    simp only [skipInteger, rest]
    by_cases zero : x = '0'
    · simp only [zero, if_true]
      cases tail with
      | nil => rfl
      | cons y tail =>
        dsimp only
        by_cases digit : y.isDigit = true
        · rw [if_pos digit, if_pos digit]
          rfl
        · rw [if_neg digit, if_neg digit]
          rfl
    · rw [if_neg zero, if_neg zero]
      by_cases digit : x.isDigit = true
      · rw [if_pos digit, if_pos digit]
        rfl
      · rw [if_neg digit, if_neg digit]
        rfl

theorem exists_readNumber_eq (c : Cursor) : ∃ negative, c.readNumber = readUnsigned negative (afterMinus c) := by
  obtain ⟨cs, p⟩ := c
  cases cs with
  | nil => exact ⟨false, rfl⟩
  | cons x tail =>
    by_cases minus : x = '-'
    · subst minus
      exact ⟨true, rfl⟩
    · exact ⟨false, by simp [readNumber, afterMinus, minus]⟩

theorem skipNumber_of_readNumber {c past : Cursor} {n : Number} (read : c.readNumber = .ok (n, past)) :
    c.skipNumber = .ok past := by
  obtain ⟨negative, unsigned⟩ := exists_readNumber_eq c
  rw [unsigned] at read
  rw [skipNumber_eq]
  exact skipInteger_of_readUnsigned read

theorem length_of_readHex {c d : Cursor} {n : Nat} (read : c.readHex = .ok (n, d)) : d.rest.length ≤ c.rest.length := by
  unfold readHex at read
  split at read
  · cases read
    have four := length_advance_le c
    have three := length_advance_le c.advance
    have two := length_advance_le c.advance.advance
    have one := length_advance_le c.advance.advance.advance
    omega
  · split at read <;> cases read

theorem length_lt_of_skipStringChar {c d : Cursor} {more : Bool} (skipped : c.skipStringChar = .ok (more, d)) :
    d.rest.length < c.rest.length := by
  obtain ⟨cs, p⟩ := c
  unfold skipStringChar at skipped
  cases cs with
  | nil => cases skipped
  | cons x tail =>
    simp only [advance] at skipped
    split at skipped
    · cases skipped
      exact Nat.lt_succ_self _
    · split at skipped
      · split at skipped
        · cases skipped
        · rename_i y tail
          split at skipped
          · cases skipped
            simp only [List.length_cons]
            omega
          · split at skipped
            · obtain ⟨⟨n, e⟩, read, same⟩ := exists_of_map_eq_ok skipped
              cases same
              have shorter := length_of_readHex read
              simp only [List.length_cons] at shorter ⊢
              omega
            · cases skipped
      · split at skipped
        · cases skipped
        · cases skipped
          exact Nat.lt_succ_self _

theorem rest_of_readBetweenHalves {x : Char} {c d : Cursor} (read : c.readBetweenHalves x = .ok d) :
    ∃ tail, c.rest = x :: tail ∧ d = c.advance := by
  unfold readBetweenHalves at read
  split at read
  · cases read
  · rename_i y tail rest
    split at read
    · rename_i same
      cases read
      exact ⟨tail, same ▸ rest, rfl⟩
    · cases read

theorem skipStringChar_of_readHex {c d : Cursor} {n : Nat} {tail : List Char} (rest : c.rest = '\\' :: tail)
    {tail' : List Char} (rest' : c.advance.rest = 'u' :: tail') (read : c.advance.advance.readHex = .ok (n, d)) :
    c.skipStringChar = .ok (true, d) := by
  unfold skipStringChar
  simp [rest, rest', read, escaped?, Except.map]

theorem skipStringChar_of_readHexEscape {c past : Cursor} {x : Char} {tail tail' : List Char}
    (rest : c.rest = '\\' :: tail) (rest' : c.advance.rest = 'u' :: tail')
    (read : c.advance.advance.readHexEscape = .ok (x, past)) :
    c.skipStringChar = .ok (true, past) ∨
      ∃ between, c.skipStringChar = .ok (true, between) ∧ between.skipStringChar = .ok (true, past) := by
  obtain ⟨⟨n, d⟩, hex, checked⟩ := exists_of_bind_eq_ok read
  have first := skipStringChar_of_readHex rest rest' hex
  dsimp only at checked
  split at checked
  · cases checked
  · split at checked
    · obtain ⟨e, backslash, afterBackslash⟩ := exists_of_bind_eq_ok checked
      obtain ⟨f, letter, afterLetter⟩ := exists_of_bind_eq_ok afterBackslash
      obtain ⟨⟨m, g⟩, hex', last⟩ := exists_of_bind_eq_ok afterLetter
      obtain ⟨_, atBackslash, rfl⟩ := rest_of_readBetweenHalves backslash
      obtain ⟨_, atLetter, rfl⟩ := rest_of_readBetweenHalves letter
      have second := skipStringChar_of_readHex atBackslash atLetter hex'
      dsimp only at last
      split at last
      · obtain ⟨-, rfl⟩ := Prod.mk.inj (Except.ok.inj last)
        exact .inr ⟨d, first, second⟩
      · cases last
    · cases checked
      exact .inl first

/-- What is one character for the reader is one or two for the skipper, as a pair of surrogates is. -/
theorem skipStringChar_of_read {c past : Cursor} {x : Char} (read : c.readStringChar = .ok (some x, past)) :
    c.skipStringChar = .ok (true, past) ∨
      ∃ between, c.skipStringChar = .ok (true, between) ∧ between.skipStringChar = .ok (true, past) := by
  unfold readStringChar at read
  split at read
  · cases read
  · rename_i y tail rest
    split at read
    · cases read
    · rename_i noQuote
      split at read
      · rename_i backslash
        subst backslash
        obtain ⟨⟨z, d⟩, escape, same⟩ := exists_of_bind_eq_ok read
        cases same
        unfold readEscape at escape
        split at escape
        · cases escape
        · rename_i y tail' rest'
          split at escape
          · rename_i named
            cases escape
            exact .inl (by simp [skipStringChar, rest, rest', named])
          · split at escape
            · rename_i code
              subst code
              exact skipStringChar_of_readHexEscape rest rest' escape
            · cases escape
      · rename_i noBackslash
        split at read
        · cases read
        · rename_i printed
          cases read
          exact .inl (by simp [skipStringChar, rest, noQuote, noBackslash, printed])

theorem skipStringChar_of_end {c past : Cursor} (read : c.readStringChar = .ok (none, past)) :
    c.skipStringChar = .ok (false, past) := by
  unfold readStringChar at read
  unfold skipStringChar
  split at read
  · cases read
  · split at read
    · rename_i quote
      cases read
      simp only [quote, if_true]
    · split at read
      · obtain ⟨found, _, same⟩ := exists_of_bind_eq_ok read
        cases same
      · split at read <;> cases read

theorem skipStringChars_of_read {n : Nat} {acc : List Char} {c past : Cursor} {s : String}
    (read : readStringChars n acc c = .ok (s, past)) :
    ∀ fuel, c.rest.length < fuel → skipStringChars fuel c = .ok past := by
  -- One step of the skipper leaves less text, and so fuel for the rest of it.
  have step : ∀ {c d : Cursor}, c.skipStringChar = .ok (true, d) →
      (∀ fuel, d.rest.length < fuel → skipStringChars fuel d = .ok past) →
      ∀ fuel, c.rest.length < fuel → skipStringChars fuel c = .ok past := by
    intro c d skipped others fuel enough
    have shorter := length_lt_of_skipStringChar skipped
    cases fuel with
    | zero => exact absurd enough (Nat.not_lt_zero _)
    | succ fuel =>
      rw [skipStringChars, skipped]
      exact others fuel (by omega)
  induction n generalizing acc c with
  | zero => cases read
  | succ n ih =>
    rw [readStringChars] at read
    split at read
    · cases read
    · rename_i d char
      cases read
      intro fuel enough
      cases fuel with
      | zero => exact absurd enough (Nat.not_lt_zero _)
      | succ fuel => rw [skipStringChars, skipStringChar_of_end char]
    · rename_i x d char
      have others := ih read
      obtain one | ⟨between, first, second⟩ := skipStringChar_of_read char
      · exact step one others
      · exact step first (step second others)

theorem skipString_of_readString {c past : Cursor} {s : String} (read : c.readString = .ok (s, past)) :
    c.skipString = .ok past :=
  skipStringChars_of_read read _ (Nat.lt_succ_self _)

/-- Skips a value that is neither a list nor an object, whose first character is `x`. -/
def skipScalar (x : Char) (c : Cursor) : Except Failure Cursor :=
  if x = 'n' then c.advance.readWord ['u', 'l', 'l']
  else if x = 't' then c.advance.readWord ['r', 'u', 'e']
  else if x = 'f' then c.advance.readWord ['a', 'l', 's', 'e']
  else if x = '"' then c.advance.skipString
  else if x = '-' ∨ x.isDigit then c.skipNumber
  else c.failPeeked .noValue

theorem skipScalar_of_readScalar {c past : Cursor} {v : Value} {x : Char} {tail : List Char} (rest : c.rest = x :: tail)
    (read : c.readScalar = .ok (v, past)) : skipScalar x c = .ok past := by
  unfold readScalar at read
  simp only [rest] at read
  have word : ∀ {w : List Char} {u : Value}, (c.advance.readWord w).map (fun d => (u, d)) = .ok (v, past) →
      c.advance.readWord w = .ok past := by
    intro w u mapped
    obtain ⟨d, read, same⟩ := exists_of_map_eq_ok mapped
    cases same
    exact read
  unfold skipScalar
  split_ifs at read ⊢
  · exact word read
  · exact word read
  · exact word read
  · obtain ⟨⟨s, d⟩, string, same⟩ := exists_of_map_eq_ok read
    cases same
    exact skipString_of_readString string
  · obtain ⟨⟨n, d⟩, number, same⟩ := exists_of_map_eq_ok read
    cases same
    exact skipNumber_of_readNumber number
  · cases read

/-- Behind the space stands `v`, which is neither a list nor an object, and then comes `past`. -/
structure Scalar (c : Cursor) (v : Value) (past : Cursor) : Prop where
  starts : ∃ x tail, c.skipSpace.rest = x :: tail ∧ x ≠ '[' ∧ x ≠ '\x7b'
  read : c.skipSpace.readScalar = .ok (v, past)

theorem Scalar.readValue {c past : Cursor} {v : Value} (scalar : c.Scalar v past) (d : Nat) :
    c.readValue d = .ok (v, past) := by
  obtain ⟨x, tail, rest, noList, noObject⟩ := scalar.starts
  unfold Cursor.readValue
  simp [rest, noList, noObject, scalar.read]

theorem Scalar.skipValue {c past : Cursor} {v : Value} (scalar : c.Scalar v past) : c.skipValue = .ok past := by
  obtain ⟨x, tail, rest, noList, noObject⟩ := scalar.starts
  have skipped := skipScalar_of_readScalar rest scalar.read
  rw [Cursor.skipValue, skipNested]
  dsimp only
  split
  · rename_i other
    exact absurd (List.cons.inj (rest.symm.trans other)).1 noList
  · rename_i other
    exact absurd (List.cons.inj (rest.symm.trans other)).1 noObject
  · rename_i none
    rw [rest] at none
    cases none
  · rename_i y tail' noList' noObject' other
    obtain ⟨rfl, rfl⟩ := List.cons.inj (rest.symm.trans other)
    unfold skipScalar at skipped
    split_ifs at skipped ⊢ <;>
      · rw [skipped]
        rfl

theorem skipSpace_skipSpace (c : Cursor) : c.skipSpace.skipSpace = c.skipSpace := by
  have token : AtToken c.skipSpace.rest := by
    intro x isHead
    have stops := List.head?_dropWhile_not isSpace c.rest
    rw [show (c.rest.dropWhile isSpace).head? = some x from isHead] at stops
    exact stops
  exact skipSpace_append spaces_nil token c.skipSpace.place

theorem Scalar.of_skipSpace {c past : Cursor} {v : Value} (scalar : c.skipSpace.Scalar v past) : c.Scalar v past :=
  ⟨skipSpace_skipSpace c ▸ scalar.starts, skipSpace_skipSpace c ▸ scalar.read⟩

theorem unexpected_ne_ok {α : Type} (expected : String) (c : Cursor) (r : α × Cursor) :
    c.unexpected expected ≠ .ok r := by
  intro ok
  unfold unexpected at ok
  split at ok
  · cases ok
  · cases ok
  · split at ok <;> cases ok

end Cursor

/-! ### Shapes -/

namespace Shape

variable {β γ : Type}

theorem integer_fromValue {low high i : Int} (expected : String) (above : low ≤ i) (below : i ≤ high) :
    (integer low high expected).fromValue (.number (.integer i)) = .ok i := if_pos ⟨above, below⟩

theorem word32_fromValue_toNat (n : UInt32) : word32.fromValue (.number (.integer n.toNat)) = .ok n := by
  have small : n.toNat < 4294967296 := n.toNat_lt
  have whole : (integer 0 4294967295 "u32").fromValue (.number (.integer n.toNat)) = .ok (n.toNat : Int) :=
    integer_fromValue "u32" (by omega) (by omega)
  change ((integer 0 4294967295 "u32").fromValue (.number (.integer n.toNat))).map _ = _
  rw [whole]
  simp [Except.map]

theorem word64_fromValue_toNat (n : UInt64) : word64.fromValue (.number (.integer n.toNat)) = .ok n := by
  have small : n.toNat < 18446744073709551616 := n.toNat_lt
  have whole : (integer 0 18446744073709551615 "u64").fromValue (.number (.integer n.toNat)) = .ok (n.toNat : Int) :=
    integer_fromValue "u64" (by omega) (by omega)
  change ((integer 0 18446744073709551615 "u64").fromValue (.number (.integer n.toNat))).map _ = _
  rw [whole]
  simp [Except.map]

theorem pair_fromValue {shape : Shape β} {v w : Value} {a b : β} (first : shape.fromValue v = .ok a)
    (second : shape.fromValue w = .ok b) : (pair shape).fromValue (.array [v, w]) = .ok (a, b) := by
  simp [pair, first, second, bind, Except.bind]

/-- The shape is read from text only where a value stands that is neither a list nor an object, and from that value it
is read as well. -/
def IsScalar (shape : Shape β) : Prop :=
  ∀ c past b, shape.fromText c = .ok (b, past) → ∃ v, c.Scalar v past ∧ shape.fromValue v = .ok b

theorem isScalar_textNamed (expected : String) : (textNamed expected).IsScalar := by
  intro c past b read
  simp only [textNamed] at read
  split at read
  · cases read
  · rename_i tail rest
    refine ⟨.text b, ⟨⟨'"', tail, rest, by decide, by decide⟩, ?_⟩, rfl⟩
    simp [Cursor.readScalar, rest, read, Except.map]
  · exact absurd read (Cursor.unexpected_ne_ok _ _ _)

theorem isScalar_bool : bool.IsScalar := by
  intro c past b read
  simp only [bool] at read
  split at read
  · cases read
  · rename_i tail rest
    obtain ⟨d, word, same⟩ := exists_of_map_eq_ok read
    cases same
    refine ⟨.bool true, ⟨⟨'t', tail, rest, by decide, by decide⟩, ?_⟩, rfl⟩
    simp [Cursor.readScalar, rest, word, Except.map]
  · rename_i tail rest
    obtain ⟨d, word, same⟩ := exists_of_map_eq_ok read
    cases same
    refine ⟨.bool false, ⟨⟨'f', tail, rest, by decide, by decide⟩, ?_⟩, rfl⟩
    simp [Cursor.readScalar, rest, word, Except.map]
  · exact absurd read (Cursor.unexpected_ne_ok _ _ _)

theorem isScalar_integer (low high : Int) (expected : String) : (integer low high expected).IsScalar := by
  intro c past b read
  simp only [integer] at read
  split at read
  · cases read
  · rename_i x tail rest
    split at read
    · rename_i digit
      split at read
      · cases read
      · rename_i n d number
        split at read
        · rename_i i within
          cases read
          obtain ⟨noNull, noTrue, noFalse, noQuote, -, noList, noObject⟩ := Cursor.ne_of_startsNumber digit
          refine ⟨.number n, ⟨⟨x, tail, rest, noList, noObject⟩, ?_⟩, within⟩
          simp [Cursor.readScalar, rest, noNull, noTrue, noFalse, noQuote, digit, number, Except.map]
        · cases read
    · exact absurd read (Cursor.unexpected_ne_ok _ _ _)

theorem IsScalar.map {shape : Shape β} (scalar : shape.IsScalar) (f : β → γ) : (shape.map f).IsScalar := by
  intro c past b read
  obtain ⟨⟨a, d⟩, found, same⟩ := exists_of_map_eq_ok read
  cases same
  obtain ⟨v, value, decoded⟩ := scalar _ _ _ found
  refine ⟨v, value, ?_⟩
  change (shape.fromValue v).map f = _
  rw [decoded]
  rfl

theorem isScalar_word64 : word64.IsScalar := (isScalar_integer _ _ _).map _

theorem optional_fromValue (shape : Shape β) {v : Value} (present : v ≠ .null) :
    (optional shape).fromValue v = (shape.fromValue v).map some := by
  cases v with
  | null => exact absurd rfl present
  | _ => rfl

theorem IsScalar.optional {shape : Shape β} (scalar : shape.IsScalar) (noNull : ∀ b, shape.fromValue .null ≠ .ok b) :
    (optional shape).IsScalar := by
  intro c past b read
  simp only [Shape.optional] at read
  split at read
  · rename_i tail rest
    obtain ⟨d, word, same⟩ := exists_of_map_eq_ok read
    cases same
    refine ⟨.null, ⟨⟨'n', tail, rest, by decide, by decide⟩, ?_⟩, rfl⟩
    simp [Cursor.readScalar, rest, word, Except.map]
  · obtain ⟨⟨a, d⟩, found, same⟩ := exists_of_map_eq_ok read
    cases same
    obtain ⟨v, value, decoded⟩ := scalar _ _ _ found
    have present : v ≠ .null := by
      rintro rfl
      exact noNull a decoded
    refine ⟨v, value.of_skipSpace, ?_⟩
    rw [optional_fromValue shape present, decoded]
    rfl

end Shape

/-- The field is read from text only where its value stands, which is neither a list nor an object, and from that value
it is read as well. -/
def Field.IsScalar {σ : Type} (f : Field σ) : Prop :=
  ∀ c past put, f.fromText c = .ok (put, past) → ∃ v, c.Scalar v past ∧ f.fromValue v = .ok put

theorem Shape.IsScalar.field {σ β : Type} {shape : Shape β} (scalar : shape.IsScalar) (key : String)
    (set : β → σ → σ) : (Field.of key shape set).IsScalar := by
  intro c past put read
  obtain ⟨⟨b, d⟩, found, same⟩ := exists_of_map_eq_ok read
  cases same
  obtain ⟨v, value, decoded⟩ := scalar _ _ _ found
  refine ⟨v, value, ?_⟩
  change (shape.fromValue v).map set = _
  rw [decoded]
  rfl

theorem Shape.IsScalar.filling {σ β : Type} {shape : Shape β} (scalar : shape.IsScalar) (key : String)
    (set : β → σ → σ) : (Field.filling key shape set).IsScalar := scalar.field key set

/-! ### The members of a text -/

namespace Cursor

/-- A value that is skipped, as far as it can be read; one that cannot stands as null. -/
def readSkipped (c : Cursor) : Except Failure (Value × Cursor) :=
  c.skipValue.map fun past =>
    match c.readValue maxDepth with
    | .ok (v, _) => (v, past)
    | .error _ => (.null, past)

theorem Scalar.readSkipped {c past : Cursor} {v : Value} (scalar : c.Scalar v past) :
    c.readSkipped = .ok (v, past) := by
  simp [Cursor.readSkipped, scalar.skipValue, scalar.readValue, Except.map]

end Cursor

/-- The members of the object that a text is, in the order of their keys. What cannot be read although it can be
skipped, such as a number that is too large, stands as null. -/
def membersOf (s : String) : Except Failure (List (String × Value)) :=
  let c := (Cursor.start s.toList).skipSpace
  match c.rest with
  | '\x7b' :: _ => do
    let (members, c) ← Cursor.readMembers Cursor.readSkipped c.rest.length true [] c.advance
    c.readEnd
    pure members
  | _ => c.fail .noValue

def OpensObject (s : String) : Prop := ∃ tail, (Cursor.start s.toList).skipSpace.rest = '\x7b' :: tail

theorem opensObject_of_membersOf {s : String} {members : List (String × Value)} (object : membersOf s = .ok members) :
    OpensObject s := by
  unfold membersOf at object
  dsimp only at object
  split at object
  · rename_i tail rest
    exact ⟨tail, rest⟩
  · cases object

namespace Record

variable {σ α : Type} {r : Record σ α}

theorem Tidy.collectMembers_next (tidy : r.Tidy) {key : String} {v : Value} {members : List (String × Value)}
    (sorted : Sorted members) {s : σ} (collected : r.collectMembers r.start members = .ok s) {f : σ → σ}
    (taken : r.put key v = .ok f) : r.collectMembers r.start (insertMember key v members) = .ok (f s) :=
  tidy.collectMembers_insertMember sorted
    (collectMembers_append_eq_ok.mpr ⟨s, collected, collectMembers_cons_eq_ok.mpr ⟨f, taken, rfl⟩⟩)

/-- While a record is collected from text, what it has is what it collects from the members so far. -/
theorem readMembers_of_collectText (tidy : r.Tidy) (scalar : ∀ f ∈ r.fields, f.IsScalar) {a : α} {past : Cursor} :
    ∀ (fuel : Nat) (first : Bool) (seen : List String) (s : σ) (acc : List (String × Value)) (c : Cursor),
      r.collectText fuel first seen s c = .ok (a, past) → Sorted acc → r.collectMembers r.start acc = .ok s →
      ∃ members u, c.readMembers Cursor.readSkipped fuel first acc = .ok (members, past) ∧ Sorted members ∧
        r.collectMembers r.start members = .ok u ∧ r.finish u = .ok a := by
  intro fuel
  induction fuel with
  | zero =>
    intro first seen s acc c read
    cases read
  | succ fuel ih =>
    intro first seen s acc c read sorted collected
    rw [collectText] at read
    split at read
    · cases read
    · rename_i d next
      split at read
      · rename_i b finished
        cases read
        refine ⟨acc, s, ?_, sorted, collected, finished⟩
        rw [Cursor.readMembers, next]
      · cases read
    · rename_i d e next
      split at read
      · cases read
      · rename_i key d keyRead
        have goOn : ∀ {v : Value} {f : σ → σ} {b e : Cursor} {seen : List String}, d.readColon = .ok b →
            b.readSkipped = .ok (v, e) → r.put key v = .ok f →
            r.collectText fuel false seen (f s) e = .ok (a, past) →
            ∃ members u, c.readMembers Cursor.readSkipped (fuel + 1) first acc = .ok (members, past) ∧
              Sorted members ∧ r.collectMembers r.start members = .ok u ∧ r.finish u = .ok a := by
          intro v f b e seen colon value taken others
          obtain ⟨members, u, rest, whole⟩ :=
            ih _ _ _ _ _ others (sorted.insertMember key v) (tidy.collectMembers_next sorted collected taken)
          refine ⟨members, u, ?_, whole⟩
          rw [Cursor.readMembers, next]
          simp only [keyRead, colon, value]
          exact rest
        split at read
        · rename_i unknown
          split at read
          · cases read
          · rename_i e skipped
            obtain ⟨g, colon, skip⟩ := exists_of_bind_eq_ok skipped
            obtain ⟨w, value⟩ : ∃ w, g.readSkipped = .ok (w, e) := by
              rw [Cursor.readSkipped, skip, Except.map]
              split
              · exact ⟨_, rfl⟩
              · exact ⟨_, rfl⟩
            exact goOn colon value (put_of_unknown unknown w) read
        · rename_i f known
          split at read
          · cases read
          · split at read
            · cases read
            · rename_i f' e fieldRead
              obtain ⟨g, colon, text⟩ := exists_of_bind_eq_ok fieldRead
              obtain ⟨v, value, decoded⟩ := scalar f (List.mem_of_find?_eq_some known) _ _ _ text
              exact goOn colon value.readSkipped ((put_of_known known v).trans decoded) read

/-- The text of an object from which a record is read has members, and the record is what it collects from them. -/
theorem exists_membersOf_of_parse (tidy : r.Tidy) (scalar : ∀ f ∈ r.fields, f.IsScalar) {s : String} {a : α}
    (parsed : r.shape.parse s = .ok a) (opens : OpensObject s) :
    ∃ members u, membersOf s = .ok members ∧ Sorted members ∧ r.collectMembers r.start members = .ok u ∧
      r.finish u = .ok a := by
  obtain ⟨tail, rest⟩ := opens
  obtain ⟨⟨b, past⟩, text, done⟩ := exists_of_bind_eq_ok parsed
  obtain ⟨_, atEnd, same⟩ := exists_of_bind_eq_ok done
  cases same
  change r.ofText _ = _ at text
  unfold ofText at text
  dsimp only at text
  rw [rest] at text
  obtain ⟨members, u, read, sorted, collected, finished⟩ :=
    readMembers_of_collectText tidy scalar _ _ _ _ _ _ text List.Pairwise.nil rfl
  refine ⟨members, u, ?_, sorted, collected, finished⟩
  unfold membersOf
  dsimp only
  rw [rest, read]
  simp only [bind, Except.bind, atEnd]
  rfl

theorem collectMembers_of_parse (tidy : r.Tidy) (scalar : ∀ f ∈ r.fields, f.IsScalar) {s : String} {a : α}
    (parsed : r.shape.parse s = .ok a) {members : List (String × Value)} (object : membersOf s = .ok members) :
    Sorted members ∧ ∃ u, r.collectMembers r.start members = .ok u ∧ r.finish u = .ok a := by
  obtain ⟨found, u, read, sorted, collected, finished⟩ :=
    exists_membersOf_of_parse tidy scalar parsed (opensObject_of_membersOf object)
  rw [object] at read
  cases read
  exact ⟨sorted, u, collected, finished⟩

end Record
end LintBridge.Json
