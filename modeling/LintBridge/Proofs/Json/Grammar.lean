import LintBridge.Json.Reader

/-!
Which texts are JSON, and that the reader accepts them.

`ValueText d v cs` says that `cs` is a text of `v`, with at most `d` containers inside one another. It leaves open how
a string is escaped, in which order the members of an object stand and where there is space. `ValueText.takes` says
that the reader takes every such text for its value, whatever follows it; only a number must not go on there.

A reader is followed by the text that it leaves behind and by its place, which depends on the text before that alone
(`Cursor.Takes`).
-/

set_option autoImplicit false
set_option relaxedAutoImplicit false

namespace LintBridge.Json

namespace Place

@[simp] theorem afterAll_nil (p : Place) : p.afterAll [] = p := rfl

@[simp] theorem afterAll_cons (p : Place) (c : Char) (cs : List Char) :
    p.afterAll (c :: cs) = (p.after c).afterAll cs := rfl

@[simp] theorem afterAll_append (p : Place) (front back : List Char) :
    p.afterAll (front ++ back) = (p.afterAll front).afterAll back := List.foldl_append

end Place

namespace Cursor

variable {α : Type}

/-- Where `rest` follows, `read` takes `cs` for `a`. -/
def Takes (read : Cursor → Except Failure (α × Cursor)) (cs : List Char) (a : α) (rest : List Char) : Prop :=
  ∀ p, read ⟨cs ++ rest, p⟩ = .ok (a, ⟨rest, p.afterAll cs⟩)

@[simp] theorem advance_cons (x : Char) (cs : List Char) (p : Place) :
    advance ⟨x :: cs, p⟩ = ⟨cs, p.after x⟩ := rfl

/-! ### Space and words -/

def Spaces (ws : List Char) : Prop := ∀ x ∈ ws, isSpace x = true

/-- No space comes next. -/
def AtToken (cs : List Char) : Prop := ∀ x ∈ cs.head?, isSpace x = false

theorem spaces_nil : Spaces [] := fun _ isIn => absurd isIn List.not_mem_nil

theorem atToken_nil : AtToken [] := fun _ isHead => nomatch isHead

theorem atToken_cons {x : Char} (token : isSpace x = false) (cs : List Char) : AtToken (x :: cs) := by
  intro y isHead
  cases isHead
  exact token

theorem skipSpace_append {ws cs : List Char} (spaces : Spaces ws) (token : AtToken cs) (p : Place) :
    skipSpace ⟨ws ++ cs, p⟩ = ⟨cs, p.afterAll ws⟩ := by
  have dropped : cs.dropWhile isSpace = cs := by
    cases cs with
    | nil => rfl
    | cons x cs => rw [List.dropWhile_cons, if_neg (Bool.eq_false_iff.mp (token x rfl))]
  have taken : cs.takeWhile isSpace = [] := by
    cases cs with
    | nil => rfl
    | cons x cs => rw [List.takeWhile_cons, if_neg (Bool.eq_false_iff.mp (token x rfl))]
  simp only [skipSpace, skipWhile, List.dropWhile_append_of_pos spaces, List.takeWhile_append_of_pos spaces, dropped,
    taken, List.append_nil]

theorem skipSpace_cons {ws : List Char} (spaces : Spaces ws) (x : Char) (token : isSpace x = false) (cs : List Char)
    (p : Place) : skipSpace ⟨ws ++ x :: cs, p⟩ = ⟨x :: cs, p.afterAll ws⟩ :=
  skipSpace_append spaces (atToken_cons token cs) p

theorem readWord_append (word rest : List Char) (p : Place) :
    readWord word ⟨word ++ rest, p⟩ = .ok ⟨rest, p.afterAll word⟩ := by
  induction word generalizing p with
  | nil => rfl
  | cons w word ih =>
    rw [List.cons_append, readWord]
    simp only [if_true, advance_cons]
    exact ih (p.after w)

/-! ### Strings -/

/-- How a character may stand inside a string. -/
inductive CharText : Char → List Char → Prop
  | plain {c : Char} (unquoted : c ≠ '"') (unescaped : c ≠ '\\') (printed : ¬ c.toNat < 0x20) : CharText c [c]
  | letter {x c : Char} (named : escaped? x = some c) : CharText c ['\\', x]
  | code {digits : List Char} {n : Nat} (four : fourHexDigits? digits = some n) (notLow : isLowSurrogate n = false)
      (notHigh : isHighSurrogate n = false) : CharText (Char.ofNat n) ('\\' :: 'u' :: digits)
  | pair {front back : List Char} {high low : Nat} (fourHigh : fourHexDigits? front = some high)
      (fourLow : fourHexDigits? back = some low) (isHigh : isHighSurrogate high = true)
      (notLow : isLowSurrogate high = false) (isLow : isLowSurrogate low = true) :
      CharText (surrogatePair high low) ('\\' :: 'u' :: (front ++ '\\' :: 'u' :: back))

/-- How some characters may stand inside a string. -/
inductive CharsText : List Char → List Char → Prop
  | nil : CharsText [] []
  | cons {c : Char} {s text rest : List Char} (first : CharText c text) (others : CharsText s rest) :
      CharsText (c :: s) (text ++ rest)

theorem takes_readHex {digits : List Char} {n : Nat} (four : fourHexDigits? digits = some n) (rest : List Char) :
    Takes readHex digits n rest := by
  intro p
  obtain ⟨a, b, c, d, rfl⟩ : ∃ a b c d, digits = [a, b, c, d] := by
    unfold fourHexDigits? at four
    split at four
    · exact ⟨_, _, _, _, rfl⟩
    · cases four
  have front : ([a, b, c, d] ++ rest).take 4 = [a, b, c, d] := by simp
  rw [readHex]
  simp only [front, four]
  rfl

theorem CharText.takes {c : Char} {text : List Char} (h : CharText c text) (rest : List Char) :
    Takes readStringChar text (some c) rest := by
  intro p
  cases h with
  | plain unquoted unescaped printed => simp [readStringChar, unquoted, unescaped, printed]
  | letter named => simp [readStringChar, readEscape, named, bind, Except.bind, pure, Except.pure]
  | code four notLow notHigh =>
    have hex := takes_readHex four rest ((p.after '\\').after 'u')
    have noLetter : escaped? 'u' = none := rfl
    simp [readStringChar, readEscape, noLetter, readHexEscape, hex, notLow, notHigh, bind, Except.bind, pure, Except.pure]
  | @pair front back high low fourHigh fourLow isHigh notLow isLow =>
    have hexHigh := takes_readHex fourHigh ('\\' :: 'u' :: (back ++ rest)) ((p.after '\\').after 'u')
    have hexLow := takes_readHex fourLow rest (((((p.after '\\').after 'u').afterAll front).after '\\').after 'u')
    have noLetter : escaped? 'u' = none := rfl
    simp [readStringChar, readEscape, noLetter, readHexEscape, readBetweenHalves, hexHigh, hexLow, isHigh, notLow, isLow,
      bind, Except.bind, pure, Except.pure]

theorem CharText.length_pos {c : Char} {text : List Char} (h : CharText c text) : 0 < text.length := by
  cases h <;> exact Nat.succ_pos _

theorem CharsText.length_le {s text : List Char} (h : CharsText s text) : s.length ≤ text.length := by
  induction h with
  | nil => exact Nat.le_refl _
  | cons first others ih =>
    have shown := first.length_pos
    simp only [List.length_cons, List.length_append]
    omega

theorem readStringChars_append {s text : List Char} (h : CharsText s text) (rest : List Char) :
    ∀ (fuel : Nat) (acc : List Char) (p : Place), s.length < fuel →
      readStringChars fuel acc ⟨text ++ '"' :: rest, p⟩ =
        .ok (String.ofList (acc.reverse ++ s), ⟨rest, p.afterAll (text ++ ['"'])⟩) := by
  induction h with
  | nil =>
    intro fuel acc p enough
    obtain ⟨fuel, rfl⟩ := Nat.exists_eq_add_of_lt enough
    simp [readStringChars, readStringChar]
  | @cons c s text others first _ ih =>
    intro fuel acc p enough
    cases fuel with
    | zero => exact absurd enough (Nat.not_lt_zero _)
    | succ fuel =>
      have char := first.takes (others ++ '"' :: rest) p
      have enough' : s.length < fuel := Nat.lt_of_succ_lt_succ enough
      rw [List.append_assoc, readStringChars, char]
      simp only [ih fuel (c :: acc) _ enough', List.reverse_cons, List.append_assoc, List.singleton_append,
        Place.afterAll_append]

theorem takes_readString {s text : List Char} (h : CharsText s text) (rest : List Char) :
    Takes readString (text ++ ['"']) (String.ofList s) rest := by
  intro p
  have enough : s.length < (text ++ '"' :: rest).length + 1 := by
    have shorter := h.length_le
    simp only [List.length_append]
    omega
  rw [List.append_assoc, List.singleton_append, readString]
  exact readStringChars_append h rest _ [] p enough

/-! ### Numbers -/

def continuesNumber (x : Char) : Bool := x.isDigit || x == '.' || x == 'e' || x == 'E'

/-- A number does not go on here. -/
def Ends (cs : List Char) : Prop := ∀ x ∈ cs.head?, continuesNumber x = false

/-- A text of a number. -/
structure NumberText (n : Number) (cs : List Char) : Prop where
  starts : ∃ x tail, cs = x :: tail ∧ (x = '-' ∨ x.isDigit = true)
  takes : ∀ rest, Ends rest → Takes readNumber cs n rest

theorem eq_of_isSpace {x : Char} (space : isSpace x = true) : x = ' ' ∨ x = '\n' ∨ x = '\t' ∨ x = '\r' := by
  simpa only [isSpace, Bool.or_eq_true, beq_iff_eq, or_assoc] using space

theorem ends_spaces {ws : List Char} (spaces : Spaces ws) : Ends ws := by
  intro x isHead
  obtain rfl | rfl | rfl | rfl := eq_of_isSpace (spaces x (List.mem_of_mem_head? isHead)) <;> rfl

theorem ends_spaces_cons {ws : List Char} (spaces : Spaces ws) {x : Char} (stops : continuesNumber x = false)
    (rest : List Char) : Ends (ws ++ x :: rest) := by
  cases ws with
  | nil =>
    intro y isHead
    cases isHead
    exact stops
  | cons w ws => exact fun y isHead => ends_spaces spaces y isHead

theorem isSpace_of_startsNumber {x : Char} (digit : x = '-' ∨ x.isDigit = true) : isSpace x = false := by
  rw [Bool.eq_false_iff]
  intro space
  obtain rfl | rfl | rfl | rfl := eq_of_isSpace space <;> revert digit <;> decide

theorem ne_of_startsNumber {x : Char} (digit : x = '-' ∨ x.isDigit = true) :
    x ≠ 'n' ∧ x ≠ 't' ∧ x ≠ 'f' ∧ x ≠ '"' ∧ x ≠ ']' ∧ x ≠ '[' ∧ x ≠ '\x7b' := by
  refine ⟨?_, ?_, ?_, ?_, ?_, ?_, ?_⟩ <;> rintro rfl <;> revert digit <;> decide

theorem NumberText.scalar {n : Number} {cs : List Char} (text : NumberText n cs) {rest : List Char} (ends : Ends rest)
    (p : Place) : readScalar ⟨cs ++ rest, p⟩ = .ok (.number n, ⟨rest, p.afterAll cs⟩) := by
  have whole := text.takes rest ends p
  obtain ⟨x, tail, rfl, digit⟩ := text.starts
  obtain ⟨noNull, noTrue, noFalse, noQuote, -⟩ := ne_of_startsNumber digit
  rw [List.cons_append] at whole ⊢
  simp only [readScalar, noNull, noTrue, noFalse, noQuote, digit, if_true, if_false, whole]
  rfl

/-! ### Lists -/

/-- One item of a list, as it stands in a text. -/
structure Item (α : Type) where
  /-- The space before the comma in front of it. -/
  before : List Char
  /-- The space before the item itself. -/
  lead : List Char
  text : List Char
  value : α

structure Item.Spaced (i : Item α) : Prop where
  before : Spaces i.before
  lead : Spaces i.lead

/-- The items of a list with its bracket; `gap` is the space before the bracket. -/
def itemsText (gap : List Char) : Bool → List (Item α) → List Char
  | _, [] => gap ++ [']']
  | first, i :: items =>
    (if first then [] else i.before ++ [',']) ++ (i.lead ++ (i.text ++ itemsText gap false items))

/-- The text starts with something that is neither space nor a bracket that closes a list. -/
def Starts (cs : List Char) : Prop := ∃ x tail, cs = x :: tail ∧ isSpace x = false ∧ x ≠ ']'

theorem ends_itemsText {gap : List Char} (spaces : Spaces gap) {items : List (Item α)}
    (spaced : ∀ i ∈ items, i.Spaced) (rest : List Char) : Ends (itemsText gap false items ++ rest) := by
  cases items with
  | nil =>
    rw [itemsText, List.append_assoc]
    exact ends_spaces_cons spaces rfl rest
  | cons i items =>
    rw [itemsText, if_neg Bool.false_ne_true]
    simp only [List.append_assoc, List.singleton_append]
    exact ends_spaces_cons (spaced i List.mem_cons_self).before rfl _

theorem length_itemsText (gap : List Char) {items : List (Item α)} (starts : ∀ i ∈ items, Starts i.text) (first : Bool) :
    items.length < (itemsText gap first items).length := by
  induction items generalizing first with
  | nil => simp [itemsText]
  | cons i items ih =>
    have shorter := ih (fun j isIn => starts j (List.mem_cons_of_mem i isIn)) false
    obtain ⟨x, tail, text, -⟩ := starts i List.mem_cons_self
    simp only [itemsText, List.length_append, List.length_cons, text]
    omega

theorem nextItem_cons {i : Item α} (spaced : i.Spaced) (starts : Starts i.text) (first : Bool) (rest : List Char)
    (p : Place) :
    nextItem first ⟨(if first then [] else i.before ++ [',']) ++ (i.lead ++ (i.text ++ rest)), p⟩ =
      .ok (some ⟨i.text ++ rest, p.afterAll ((if first then [] else i.before ++ [',']) ++ i.lead)⟩,
        ⟨i.text ++ rest, p.afterAll ((if first then [] else i.before ++ [',']) ++ i.lead)⟩) := by
  obtain ⟨x, tail, text, token, notEnd⟩ := starts
  have atItem : AtToken (i.text ++ rest) := by
    rw [text]
    exact atToken_cons token _
  cases first with
  | true =>
    simp only [if_true, List.nil_append, nextItem, skipSpace_append spaced.lead atItem]
    simp [text]
  | false =>
    simp only [if_neg Bool.false_ne_true, List.append_assoc, List.singleton_append, nextItem,
      skipSpace_cons spaced.before ',' rfl, advance_cons, skipSpace_append spaced.lead atItem]
    simp [text, notEnd]

theorem takes_readItems {read : Cursor → Except Failure (α × Cursor)} {gap : List Char} (spaces : Spaces gap)
    {items : List (Item α)} (spaced : ∀ i ∈ items, i.Spaced) (starts : ∀ i ∈ items, Starts i.text)
    (each : ∀ i ∈ items, ∀ rest, Ends rest → Takes read i.text i.value rest) (rest : List Char) :
    ∀ (fuel : Nat) (first : Bool) (acc : List α), items.length < fuel →
      Takes (readItems read fuel first acc) (itemsText gap first items) (acc.reverse ++ items.map Item.value) rest := by
  induction items with
  | nil =>
    intro fuel first acc enough p
    obtain ⟨fuel, rfl⟩ := Nat.exists_eq_add_of_lt enough
    simp [readItems, itemsText, nextItem, skipSpace_cons spaces ']' rfl]
  | cons i items ih =>
    intro fuel first acc enough p
    cases fuel with
    | zero => exact absurd enough (Nat.not_lt_zero _)
    | succ fuel =>
      have others : ∀ j ∈ items, j ∈ i :: items := fun j isIn => List.mem_cons_of_mem i isIn
      have next := nextItem_cons (spaced i List.mem_cons_self) (starts i List.mem_cons_self) first
        (itemsText gap false items ++ rest) p
      have ends : Ends (itemsText gap false items ++ rest) :=
        ends_itemsText spaces (fun j isIn => spaced j (others j isIn)) rest
      have item := each i List.mem_cons_self _ ends
      have tail := ih (fun j isIn => spaced j (others j isIn)) (fun j isIn => starts j (others j isIn))
        (fun j isIn => each j (others j isIn)) fuel false (i.value :: acc) (Nat.lt_of_succ_lt_succ enough)
      simp only [itemsText, List.append_assoc, readItems] at next ⊢
      rw [next]
      simp only [item _, tail _, List.reverse_cons, List.append_assoc, List.singleton_append, List.map_cons,
        Place.afterAll_append]

/-! ### Objects -/

/-- One member of an object, as it stands in a text. -/
structure Member (α : Type) where
  /-- The space before the comma in front of it. -/
  before : List Char
  /-- The space before the key. -/
  lead : List Char
  key : List Char
  keyText : List Char
  /-- The space before the colon. -/
  afterKey : List Char
  /-- The space before the value. -/
  valueLead : List Char
  text : List Char
  value : α

namespace Member

structure Spaced (m : Member α) : Prop where
  before : Spaces m.before
  lead : Spaces m.lead
  key : CharsText m.key m.keyText
  afterKey : Spaces m.afterKey
  valueLead : Spaces m.valueLead

def pair (m : Member α) : String × α := (String.ofList m.key, m.value)

end Member

/-- The members of an object with its brace; `gap` is the space before the brace. -/
def membersText (gap : List Char) : Bool → List (Member α) → List Char
  | _, [] => gap ++ ['\x7d']
  | first, m :: members =>
    (if first then [] else m.before ++ [',']) ++ (m.lead ++ '"' :: (m.keyText ++ '"' :: (m.afterKey ++ ':' ::
      (m.valueLead ++ (m.text ++ membersText gap false members)))))

theorem ends_membersText {gap : List Char} (spaces : Spaces gap) {members : List (Member α)}
    (spaced : ∀ m ∈ members, m.Spaced) (rest : List Char) : Ends (membersText gap false members ++ rest) := by
  cases members with
  | nil =>
    rw [membersText, List.append_assoc]
    exact ends_spaces_cons spaces rfl rest
  | cons m members =>
    rw [membersText, if_neg Bool.false_ne_true]
    simp only [List.append_assoc, List.singleton_append]
    exact ends_spaces_cons (spaced m List.mem_cons_self).before rfl _

theorem length_membersText (gap : List Char) (members : List (Member α)) (first : Bool) :
    members.length < (membersText gap first members).length := by
  induction members generalizing first with
  | nil => simp [membersText]
  | cons m members ih =>
    have shorter := ih false
    simp only [membersText, List.length_append, List.length_cons]
    omega

theorem nextKey_cons {before lead : List Char} (spacesBefore : Spaces before) (spacesLead : Spaces lead) (first : Bool)
    (rest : List Char) (p : Place) :
    nextKey first ⟨(if first then [] else before ++ [',']) ++ (lead ++ '"' :: rest), p⟩ =
      .ok (some ⟨'"' :: rest, p.afterAll ((if first then [] else before ++ [',']) ++ lead)⟩,
        ⟨'"' :: rest, p.afterAll ((if first then [] else before ++ [',']) ++ lead)⟩) := by
  cases first with
  | true =>
    simp only [if_true, List.nil_append, nextKey, skipSpace_cons spacesLead '"' rfl]
    simp
  | false =>
    simp only [if_neg Bool.false_ne_true, List.append_assoc, List.singleton_append, nextKey,
      skipSpace_cons spacesBefore ',' rfl, advance_cons, skipSpace_cons spacesLead '"' rfl]
    simp

theorem readColon_append {ws : List Char} (spaces : Spaces ws) (rest : List Char) (p : Place) :
    readColon ⟨ws ++ ':' :: rest, p⟩ = .ok ⟨rest, p.afterAll (ws ++ [':'])⟩ := by
  simp [readColon, skipSpace_cons spaces ':' rfl]

theorem takes_readMembers {read : Cursor → Except Failure (α × Cursor)} {gap : List Char} (spaces : Spaces gap)
    {members : List (Member α)} (spaced : ∀ m ∈ members, m.Spaced)
    (each : ∀ m ∈ members, ∀ rest, Ends rest → Takes read (m.valueLead ++ m.text) m.value rest) (rest : List Char) :
    ∀ (fuel : Nat) (first : Bool) (acc : List (String × α)), members.length < fuel →
      Takes (readMembers read fuel first acc) (membersText gap first members)
        ((members.map Member.pair).foldl (fun all m => insertMember m.1 m.2 all) acc) rest := by
  induction members with
  | nil =>
    intro fuel first acc enough p
    obtain ⟨fuel, rfl⟩ := Nat.exists_eq_add_of_lt enough
    simp [readMembers, membersText, nextKey, skipSpace_cons spaces '\x7d' rfl]
  | cons m members ih =>
    intro fuel first acc enough p
    cases fuel with
    | zero => exact absurd enough (Nat.not_lt_zero _)
    | succ fuel =>
      have others : ∀ n ∈ members, n ∈ m :: members := fun n isIn => List.mem_cons_of_mem m isIn
      have own := spaced m List.mem_cons_self
      have ends : Ends (membersText gap false members ++ rest) :=
        ends_membersText spaces (fun n isIn => spaced n (others n isIn)) rest
      have value := each m List.mem_cons_self _ ends
      have tail := ih (fun n isIn => spaced n (others n isIn)) (fun n isIn => each n (others n isIn)) fuel false
        (insertMember (String.ofList m.key) m.value acc) (Nat.lt_of_succ_lt_succ enough)
      have key := fun rest => takes_readString own.key rest
      simp only [Takes, List.append_assoc, List.singleton_append] at value key tail
      simp only [membersText, List.append_assoc, List.cons_append, readMembers]
      rw [nextKey_cons own.before own.lead]
      simp only [advance_cons, key, readColon_append own.afterKey, value, tail, List.map_cons, List.foldl_cons,
        Member.pair, Place.afterAll_append, Place.afterAll_cons, Place.afterAll_nil]

/-! ### Values -/

theorem takes_scalar {d : Nat} {x : Char} {tail lead rest : List Char} {v : Value} (spaces : Spaces lead)
    (token : isSpace x = false) (noList : x ≠ '[') (noObject : x ≠ '\x7b')
    (scalar : Takes readScalar (x :: tail) v rest) : Takes (readValue d) (lead ++ x :: tail) v rest := by
  intro p
  have whole := scalar (p.afterAll lead)
  rw [List.cons_append] at whole
  rw [List.append_assoc, List.cons_append]
  unfold readValue
  simp only [skipSpace_cons spaces x token]
  simp [noList, noObject, whole]

theorem takes_word {v : Value} {x : Char} {word rest : List Char}
    (read : ∀ p, readScalar ⟨x :: (word ++ rest), p⟩ =
      (readWord word ⟨word ++ rest, p.after x⟩).map fun c => (v, c)) : Takes readScalar (x :: word) v rest := by
  intro p
  rw [List.cons_append, read, readWord_append]
  rfl

end Cursor

open Cursor

/-- A text of a value, without space around it, in which at most `d` containers stand inside one another. Of two
members with one key the later one counts. -/
inductive ValueText : Nat → Value → List Char → Prop
  | null {d : Nat} : ValueText d .null ['n', 'u', 'l', 'l']
  | yes {d : Nat} : ValueText d (.bool true) ['t', 'r', 'u', 'e']
  | no {d : Nat} : ValueText d (.bool false) ['f', 'a', 'l', 's', 'e']
  | number {d : Nat} {n : Number} {cs : List Char} (text : NumberText n cs) : ValueText d (.number n) cs
  | string {d : Nat} {s cs : List Char} (text : CharsText s cs) :
      ValueText d (.text (String.ofList s)) ('"' :: (cs ++ ['"']))
  | list {d : Nat} {gap : List Char} {items : List (Item Value)} (spaces : Spaces gap) (spaced : ∀ i ∈ items, i.Spaced)
      (each : ∀ i ∈ items, ValueText d i.value i.text) :
      ValueText (d + 1) (.array (items.map Item.value)) ('[' :: itemsText gap true items)
  | object {d : Nat} {gap : List Char} {members : List (Member Value)} (spaces : Spaces gap)
      (spaced : ∀ m ∈ members, m.Spaced) (each : ∀ m ∈ members, ValueText d m.value m.text) :
      ValueText (d + 1) (.ofMembers (members.map Member.pair)) ('\x7b' :: membersText gap true members)

theorem ValueText.starts {d : Nat} {v : Value} {cs : List Char} (text : ValueText d v cs) : Starts cs := by
  cases text with
  | number text =>
    obtain ⟨x, tail, rfl, digit⟩ := text.starts
    obtain ⟨-, -, -, -, notEnd, -⟩ := ne_of_startsNumber digit
    exact ⟨x, tail, rfl, isSpace_of_startsNumber digit, notEnd⟩
  | _ => exact ⟨_, _, rfl, rfl, by decide⟩

theorem ValueText.takes {d : Nat} {v : Value} {cs : List Char} (text : ValueText d v cs) :
    ∀ {lead rest : List Char}, Spaces lead → Ends rest → Takes (readValue d) (lead ++ cs) v rest := by
  induction text with
  | null => exact fun spaces _ => takes_scalar spaces rfl (by decide) (by decide) (takes_word fun _ => rfl)
  | yes => exact fun spaces _ => takes_scalar spaces rfl (by decide) (by decide) (takes_word fun _ => rfl)
  | no => exact fun spaces _ => takes_scalar spaces rfl (by decide) (by decide) (takes_word fun _ => rfl)
  | number text =>
    intro lead rest spaces ends
    have scalar := text.scalar ends
    obtain ⟨x, tail, rfl, digit⟩ := text.starts
    obtain ⟨-, -, -, -, -, noList, noObject⟩ := ne_of_startsNumber digit
    exact takes_scalar spaces (isSpace_of_startsNumber digit) noList noObject scalar
  | string text =>
    intro lead rest spaces ends
    have whole := takes_readString text rest
    simp only [Takes, List.append_assoc, List.singleton_append] at whole
    refine takes_scalar spaces rfl (by decide) (by decide) fun p => ?_
    simp [readScalar, whole, Except.map]
  | @list d gap items gapSpaces spaced each ih =>
    intro lead rest spaces ends p
    have starts : ∀ i ∈ items, Starts i.text := fun i isIn => (each i isIn).starts
    -- The fuel is the length of the text, of which every item takes a character.
    have enough : items.length < ('[' :: (itemsText gap true items ++ rest)).length := by
      have shorter := length_itemsText gap starts true
      simp only [List.length_cons, List.length_append]
      omega
    have all := takes_readItems gapSpaces spaced starts
      (fun i isIn rest ends => ih i isIn spaces_nil ends) rest _ true [] enough
    rw [List.append_assoc, List.cons_append]
    unfold readValue
    simp only [skipSpace_cons spaces '[' rfl, advance_cons, all _]
    simp [Except.map]
  | @object d gap members gapSpaces spaced each ih =>
    intro lead rest spaces ends p
    have enough : members.length < ('\x7b' :: (membersText gap true members ++ rest)).length := by
      have shorter := length_membersText gap members true
      simp only [List.length_cons, List.length_append]
      omega
    have all := takes_readMembers gapSpaces spaced
      (fun m isIn rest ends => ih m isIn (spaced m isIn).valueLead ends) rest _ true [] enough
    rw [List.append_assoc, List.cons_append]
    unfold readValue
    simp only [skipSpace_cons spaces '\x7b' rfl, advance_cons, all _]
    simp [Except.map, Value.ofMembers]

/-- A text of a value is read as that value, whatever space stands around it. -/
theorem ValueText.parse {v : Value} {cs lead trail : List Char} (text : ValueText maxDepth v cs) (before : Spaces lead)
    (after : Spaces trail) : Value.parse (String.ofList (lead ++ (cs ++ trail))) = .ok v := by
  have whole := text.takes before (ends_spaces after) ⟨1, 0⟩
  have atEnd := skipSpace_append after atToken_nil
  simp only [List.append_assoc, List.append_nil] at whole atEnd
  simp [Value.parse, Cursor.start, whole, readEnd, atEnd, bind, Except.bind, pure, Except.pure]

end LintBridge.Json
