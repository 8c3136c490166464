import LintBridge.Json.Writer
import LintBridge.Proofs.Json.Members
import LintBridge.Proofs.Json.Numbers
import LintBridge.Proofs.Text.Numerals

/-!
What is written is read back.

A value is plain if its numbers are integers that the reader keeps as they are and the members of its objects are in
order. The text that `writePretty` has for a plain value is a text of that value, at any depth of indentation
(`Value.Plain.valueText`), so that reading it gives the value (`Value.Plain.parse_pretty`).
-/

set_option autoImplicit false
set_option relaxedAutoImplicit false

namespace LintBridge.Json

namespace Cursor

/-! ### Integers -/

theorem digits_toDigits (n : Nat) : Digits (Nat.toDigits 10 n) where
  some := Nat.toDigits_ne_nil
  each _ isIn := Nat.isDigit_of_mem_toDigits (by decide) (by decide) isIn

theorem absorb_eq {limit : Nat} (digits : List Char) :
    ∀ n, Nat.ofDigitChars 10 digits n ≤ limit →
      absorb limit n digits = (Nat.ofDigitChars 10 digits n, digits.length) := by
  have grows : ∀ (ds : List Char) (n : Nat), n ≤ Nat.ofDigitChars 10 ds n := by
    intro ds
    induction ds with
    | nil => exact fun n => Nat.le_refl n
    | cons d ds ih =>
      intro n
      rw [Nat.ofDigitChars_cons]
      exact Nat.le_trans (by omega) (ih _)
  induction digits with
  | nil => exact fun _ _ => rfl
  | cons d ds ih =>
    intro n within
    rw [Nat.ofDigitChars_cons, Nat.mul_comm] at within ⊢
    have step : n * 10 + digitValue d ≤ limit := Nat.le_trans (grows ds _) within
    have tail := ih (n * 10 + digitValue d) within
    rw [absorb, if_pos step]
    simp only [tail, List.length_cons]
    rfl

theorem readAfterDigits_of_ends {negative : Bool} {n : Nat} {rest : List Char} (ends : Ends rest) (p : Place) :
    readAfterDigits negative n 0 ⟨rest, p⟩ = integerNumber negative n ⟨rest, p⟩ := by
  cases rest with
  | nil => rfl
  | cons x rest =>
    have stops := ends x rfl
    simp only [continuesNumber, Bool.or_eq_false_iff, beq_eq_false_iff_ne] at stops
    obtain ⟨⟨⟨-, noPoint⟩, noSmall⟩, noLarge⟩ := stops
    simp [readAfterDigits, noPoint, noSmall, noLarge]

theorem readUnsigned_toDigits {n : Nat} (kept : n ≤ maxUnsigned) (negative : Bool) {rest : List Char}
    (ends : Ends rest) (p : Place) :
    readUnsigned negative ⟨Nat.toDigits 10 n ++ rest, p⟩ =
      integerNumber negative n ⟨rest, p.afterAll (Nat.toDigits 10 n)⟩ := by
  obtain rfl | positive := Nat.eq_zero_or_pos n
  · rw [Nat.toDigits_zero, List.singleton_append, readUnsigned]
    cases rest with
    | nil => exact readAfterDigits_of_ends ends _
    | cons d rest =>
      simp only [if_true, ends.noDigit d rfl, Bool.false_eq_true, if_false, advance_cons]
      exact readAfterDigits_of_ends ends _
  · obtain ⟨x, tail, digits, nonzero⟩ := Text.head_toDigits positive
    have isDigit : x.isDigit = true := (digits_toDigits n).each x (digits ▸ List.mem_cons_self)
    have taken := takeWhile_digits (digits_toDigits n).each ends.noDigit
    have left := skipWhile_digits (digits_toDigits n).each ends.noDigit p
    have value : Nat.ofDigitChars 10 (Nat.toDigits 10 n) 0 = n := Nat.ofDigitChars_toDigits (by decide) (by decide)
    have all : absorb maxUnsigned 0 (Nat.toDigits 10 n) = (n, (Nat.toDigits 10 n).length) := by
      rw [absorb_eq _ 0 (value.symm ▸ kept), value]
    have whole : readUnsigned negative ⟨Nat.toDigits 10 n ++ rest, p⟩ =
        readAfterDigits negative n 0 ⟨rest, p.afterAll (Nat.toDigits 10 n)⟩ := by
      unfold readUnsigned
      rw [digits, List.cons_append]
      simp only [nonzero, isDigit, if_true, if_false]
      rw [← List.cons_append, ← digits, taken, left, all]
      simp only [Nat.sub_self]
    rw [whole, readAfterDigits_of_ends ends]

theorem numberText_toDigits {n : Nat} (kept : n ≤ maxUnsigned) : NumberText (.integer n) (Nat.toDigits 10 n) := by
  obtain ⟨x, tail, digits⟩ := List.exists_cons_of_ne_nil (digits_toDigits n).some
  have isDigit : x.isDigit = true := (digits_toDigits n).each x (digits ▸ List.mem_cons_self)
  refine ⟨⟨x, tail, digits, .inr isDigit⟩, fun rest ends p => ?_⟩
  have noSign : x ≠ '-' := by
    rintro rfl
    exact absurd isDigit (by decide)
  have unsigned : readNumber ⟨Nat.toDigits 10 n ++ rest, p⟩ = readUnsigned false ⟨Nat.toDigits 10 n ++ rest, p⟩ := by
    rw [digits, List.cons_append]
    simp [readNumber, noSign]
  rw [unsigned, readUnsigned_toDigits kept false ends p, integerNumber, if_pos rfl]

theorem numberText_integer {i : Int} (low : -9223372036854775808 ≤ i) (high : i ≤ 18446744073709551615) :
    NumberText (.integer i) (Number.write (.integer i)) := by
  have written : Number.write (.integer i) =
      if 0 ≤ i then Nat.toDigits 10 i.toNat else '-' :: Nat.toDigits 10 (-i).toNat := by
    change i.repr.toList = _
    rw [Int.repr_eq_if]
    split <;> simp [Nat.repr_eq_ofList_toDigits]
  rw [written]
  split
  · rename_i notNegative
    have digits := numberText_toDigits (n := i.toNat) (by unfold maxUnsigned; omega)
    rwa [Int.toNat_of_nonneg notNegative] at digits
  · rename_i negative
    refine ⟨⟨'-', _, rfl, .inl rfl⟩, fun rest ends p => ?_⟩
    have whole := readUnsigned_toDigits (n := (-i).toNat) (by unfold maxUnsigned; omega) true ends (p.after '-')
    have fits : ¬ ((-i).toNat = 0 ∨ 9223372036854775808 < (-i).toNat) := by omega
    have back : -(((-i).toNat : Nat) : Int) = i := by omega
    rw [List.cons_append]
    simp only [readNumber, advance_cons, whole, integerNumber, Bool.true_eq_false, if_false, fits, back,
      Place.afterAll_cons]

/-! ### Strings -/

theorem charText_escapeChar (c : Char) : CharText c (escapeChar c) := by
  have ofNat : ∀ n, c.toNat = n → c = Char.ofNat n := fun n code => code ▸ (Char.ofNat_toNat c).symm
  have four : ∀ n < 0x20, fourHexDigits? ['0', '0', hexDigit (n / 16), hexDigit (n % 16)] = some n ∧
      isLowSurrogate n = false ∧ isHighSurrogate n = false := by decide
  unfold escapeChar
  split
  · rename_i quote
    subst quote
    exact .letter rfl
  split
  · rename_i backslash
    subst backslash
    exact .letter rfl
  split
  · rename_i lineFeed
    subst lineFeed
    exact .letter rfl
  split
  · rename_i carriageReturn
    subst carriageReturn
    exact .letter rfl
  split
  · rename_i tab
    subst tab
    exact .letter rfl
  split
  · rename_i code
    exact .letter (congrArg some (ofNat _ code).symm)
  split
  · rename_i code
    exact .letter (congrArg some (ofNat _ code).symm)
  split
  · rename_i control
    obtain ⟨digits, notLow, notHigh⟩ := four c.toNat control
    have coded := CharText.code digits notLow notHigh
    rwa [Char.ofNat_toNat] at coded
  · rename_i unquoted unescaped _ _ _ _ _ printed
    exact .plain unquoted unescaped printed

theorem charsText_flatMap (cs : List Char) : CharsText cs (cs.flatMap escapeChar) := by
  induction cs with
  | nil => exact .nil
  | cons c cs ih => exact .cons (charText_escapeChar c) ih

end Cursor

open Cursor

theorem valueText_writeString (d : Nat) (s : String) : ValueText d (.text s) (writeString s) := by
  have string : ValueText d (.text (String.ofList s.toList)) (writeString s) := .string (charsText_flatMap s.toList)
  rwa [String.ofList_toList] at string

/-! ### Values -/

theorem spaces_newLine (depth : Nat) : Spaces (newLine depth) := by
  intro x isIn
  obtain rfl | isIn := List.mem_cons.mp isIn
  · rfl
  · obtain rfl := List.eq_of_mem_replicate isIn
    rfl

def prettyItem (depth : Nat) (v : Value) : Item Value := ⟨[], newLine (depth + 1), writePretty (depth + 1) v, v⟩

def prettyMember (depth : Nat) (m : String × Value) : Member Value where
  before := []
  lead := newLine (depth + 1)
  key := m.1.toList
  keyText := m.1.toList.flatMap escapeChar
  afterKey := []
  valueLead := [' ']
  text := writePretty (depth + 1) m.2
  value := m.2

theorem writePrettyItems_eq (depth : Nat) (items : List Value) :
    writePrettyItems depth items = itemsText (newLine depth) false (items.map (prettyItem depth)) := by
  induction items with
  | nil => simp [writePrettyItems, itemsText]
  | cons v rest ih => simp [writePrettyItems, itemsText, prettyItem, ih]

theorem writePrettyMembers_eq (depth : Nat) (members : List (String × Value)) :
    writePrettyMembers depth members = membersText (newLine depth) false (members.map (prettyMember depth)) := by
  induction members with
  | nil => simp [writePrettyMembers, membersText]
  | cons m rest ih => simp [writePrettyMembers, membersText, prettyMember, writeString, ih]

theorem spaced_prettyItem (depth : Nat) (v : Value) : (prettyItem depth v).Spaced :=
  ⟨spaces_nil, spaces_newLine (depth + 1)⟩

theorem spaced_prettyMember (depth : Nat) (m : String × Value) : (prettyMember depth m).Spaced where
  before := spaces_nil
  lead := spaces_newLine (depth + 1)
  key := charsText_flatMap m.1.toList
  afterKey := spaces_nil
  valueLead := by
    intro x isIn
    obtain rfl := List.mem_singleton.mp isIn
    rfl

theorem pair_prettyMember (depth : Nat) (m : String × Value) : (prettyMember depth m).pair = m := by
  simp [Member.pair, prettyMember]

namespace Value

/-- A value whose text says it all: its numbers are integers that are kept as they are, the members of its objects are
in order, and at most `d` containers stand inside one another. -/
inductive Plain : Nat → Value → Prop
  | null {d : Nat} : Plain d .null
  | bool {d : Nat} (b : Bool) : Plain d (.bool b)
  | text {d : Nat} (s : String) : Plain d (.text s)
  | integer {d : Nat} {i : Int} (low : -9223372036854775808 ≤ i) (high : i ≤ 18446744073709551615) :
      Plain d (.number (.integer i))
  | list {d : Nat} {items : List Value} (each : ∀ v ∈ items, Plain d v) : Plain (d + 1) (.array items)
  | object {d : Nat} {members : List (String × Value)} (sorted : Sorted members) (each : ∀ m ∈ members, Plain d m.2) :
      Plain (d + 1) (.object members)

namespace Plain

theorem ofMembers {d : Nat} {members : List (String × Value)} (each : ∀ m ∈ members, Plain d m.2) :
    Plain (d + 1) (Value.ofMembers members) := by
  refine .object (sorted_foldl_insertMember members List.Pairwise.nil) fun m isIn => ?_
  obtain isIn | isIn := mem_foldl_insertMember members isIn
  · exact absurd isIn List.not_mem_nil
  · exact each m isIn

theorem valueText {d : Nat} {v : Value} (plain : Plain d v) : ∀ depth, ValueText d v (writePretty depth v) := by
  induction plain with
  | null =>
    intro depth
    rw [writePretty]
    exact .null
  | bool b =>
    intro depth
    cases b <;> rw [writePretty]
    · exact .no
    · exact .yes
  | text s =>
    intro depth
    rw [writePretty]
    exact valueText_writeString _ s
  | integer low high =>
    intro depth
    rw [writePretty]
    exact .number (numberText_integer low high)
  | @list d items each ih =>
    intro depth
    have values : (items.map (prettyItem depth)).map Item.value = items := by
      simp [Function.comp_def, prettyItem]
    have spaced : ∀ i ∈ items.map (prettyItem depth), i.Spaced :=
      List.forall_mem_map.mpr fun v _ => spaced_prettyItem depth v
    have texts : ∀ i ∈ items.map (prettyItem depth), ValueText d i.value i.text :=
      List.forall_mem_map.mpr fun v isIn => ih v isIn (depth + 1)
    cases items with
    | nil =>
      have list := ValueText.list spaces_nil spaced texts
      rw [writePretty]
      exact list
    | cons v rest =>
      have list := ValueText.list (spaces_newLine depth) spaced texts
      rw [values] at list
      rw [writePretty, writePrettyItems_eq]
      simpa [itemsText, prettyItem] using list
  | @object d members sorted each ih =>
    intro depth
    have pairs : (members.map (prettyMember depth)).map Member.pair = members := by
      simp [Function.comp_def, pair_prettyMember]
    have spaced : ∀ m ∈ members.map (prettyMember depth), m.Spaced :=
      List.forall_mem_map.mpr fun m _ => spaced_prettyMember depth m
    have texts : ∀ m ∈ members.map (prettyMember depth), ValueText d m.value m.text :=
      List.forall_mem_map.mpr fun m isIn => ih m isIn (depth + 1)
    cases members with
    | nil =>
      have object := ValueText.object spaces_nil spaced texts
      rw [writePretty]
      exact object
    | cons m rest =>
      have object := ValueText.object (spaces_newLine depth) spaced texts
      rw [pairs, ofMembers_of_sorted sorted] at object
      rw [writePretty, writePrettyMembers_eq]
      simpa [membersText, prettyMember, writeString] using object

/-- A plain value comes back from its text, whatever space follows it. -/
theorem parse_pretty {v : Value} (plain : Plain maxDepth v) {trail : List Char} (spaces : Spaces trail) :
    Value.parse (String.ofList (writePretty 0 v ++ trail)) = .ok v := by
  have whole := (plain.valueText 0).parse spaces_nil spaces
  exact whole

end Plain
end Value
end LintBridge.Json
