import LintBridge.Proofs.Json.Numbers
import LintBridge.Proofs.Json.Objects
import LintBridge.Proofs.Json.Writing
import Mathlib.Tactic.Choose

/-!
In which ways a record may be written, and that it is read from each.

A spelling says which texts a value has. `RecordText` is the spelling of a record whose fields have spellings: an
object with the fields in any order, in which fields that have their default may be missing and others may stand that
the record does not know. None of this looks at the reader. A shape reads a spelling (`Shape.Reads`) if it takes each of
these texts for the value that is spelled, and a record does so if its fields do (`Record.Spells.reads`).
-/

set_option autoImplicit false
set_option relaxedAutoImplicit false

namespace LintBridge.Json

open Cursor

/-! ### Spellings -/

/-- Which texts a value has, with at most so many containers inside one another. -/
abbrev Spelling (α : Type) := Nat → α → List Char → Prop

/-- A natural number is spelled in digits, with no zero in front. -/
def DigitsText {α : Type} (toNat : α → Nat) : Spelling α := fun _ a cs => cs = Nat.toDigits 10 (toNat a)

inductive BoolText : Spelling Bool
  | yes {d : Nat} : BoolText d true ['t', 'r', 'u', 'e']
  | no {d : Nat} : BoolText d false ['f', 'a', 'l', 's', 'e']

/-- A text is spelled in quotes, with any of its characters escaped. -/
inductive StringText : Spelling String
  | mk {d : Nat} {s : String} {cs : List Char} (text : CharsText s.toList cs) : StringText d s ('"' :: (cs ++ ['"']))

inductive OptionText {α : Type} (spelling : Spelling α) : Spelling (Option α)
  | null {d : Nat} : OptionText spelling d none ['n', 'u', 'l', 'l']
  | some {d : Nat} {a : α} {cs : List Char} (text : spelling d a cs) : OptionText spelling d (some a) cs

inductive ListText {α : Type} (spelling : Spelling α) : Spelling (List α)
  | mk {d : Nat} {gap : List Char} {items : List (Item α)} (spaces : Spaces gap) (spaced : ∀ i ∈ items, i.Spaced)
      (each : ∀ i ∈ items, spelling d i.value i.text) :
      ListText spelling (d + 1) (items.map Item.value) ('[' :: itemsText gap true items)

/-- A text of any value, with at most so many containers inside one another. -/
inductive AnyText : Nat → List Char → Prop
  | null {d : Nat} : AnyText d ['n', 'u', 'l', 'l']
  | yes {d : Nat} : AnyText d ['t', 'r', 'u', 'e']
  | no {d : Nat} : AnyText d ['f', 'a', 'l', 's', 'e']
  | number {d : Nat} {cs : List Char} (literal : NumberLiteral cs) (inRange : ¬ OutOfRange cs) : AnyText d cs
  | string {d : Nat} {s cs : List Char} (text : CharsText s cs) : AnyText d ('"' :: (cs ++ ['"']))
  | list {d : Nat} {gap : List Char} {items : List (Item Unit)} (spaces : Spaces gap) (spaced : ∀ i ∈ items, i.Spaced)
      (each : ∀ i ∈ items, AnyText d i.text) : AnyText (d + 1) ('[' :: itemsText gap true items)
  | object {d : Nat} {gap : List Char} {members : List (Member Unit)} (spaces : Spaces gap)
      (spaced : ∀ m ∈ members, m.Spaced) (each : ∀ m ∈ members, AnyText d m.text) :
      AnyText (d + 1) ('\x7b' :: membersText gap true members)

/-- A field as it is written: its key, what it is in a record, how that is spelled, and what it is if it is not
there. -/
structure FieldText (σ : Type) where
  {β : Type}
  key : String
  spelling : Spelling β
  get : σ → β
  default : β

/-- A record is spelled as an object. Its members may be in any order. What stands under the key of a field spells the
field; under other keys there may be anything. A field may be missing if it has its default. -/
inductive RecordText {σ : Type} (fields : List (FieldText σ)) : Spelling σ
  | mk {d : Nat} {gap : List Char} {members : List (Member Unit)} {s : σ} (spaces : Spaces gap)
      (spaced : ∀ m ∈ members, m.Spaced)
      (known : ∀ m ∈ members, ∀ f ∈ fields, String.ofList m.key = f.key → f.spelling d (f.get s) m.text)
      (unknown : ∀ m ∈ members, (∀ f ∈ fields, String.ofList m.key ≠ f.key) → AnyText d m.text)
      (missing : ∀ f ∈ fields, (∀ m ∈ members, String.ofList m.key ≠ f.key) → f.get s = f.default) :
      RecordText fields (d + 1) s ('\x7b' :: membersText gap true members)

/-! ### Texts with values put in -/

section
variable {α β : Type}

/-- The same item in the text, with another value. -/
def Cursor.Item.holding (i : Item α) (b : β) : Item β := ⟨i.before, i.lead, i.text, b⟩

/-- The same member in the text, with another value. -/
def Cursor.Member.holding (m : Member α) (b : β) : Member β :=
  ⟨m.before, m.lead, m.key, m.keyText, m.afterKey, m.valueLead, m.text, b⟩

theorem itemsText_holding (gap : List Char) (first : Bool) (items : List (Item α)) (value : Item α → β) :
    itemsText gap first (items.map fun i => i.holding (value i)) = itemsText gap first items := by
  induction items generalizing first with
  | nil => rfl
  | cons i items ih =>
    rw [List.map_cons, itemsText, itemsText, ih]
    rfl

theorem membersText_holding (gap : List Char) (first : Bool) (members : List (Member α)) (value : Member α → β) :
    membersText gap first (members.map fun m => m.holding (value m)) = membersText gap first members := by
  induction members generalizing first with
  | nil => rfl
  | cons m members ih =>
    rw [List.map_cons, membersText, membersText, ih]
    rfl

end

instance : Nonempty Value := ⟨.null⟩

section
variable {α : Type} {d : Nat} {gap : List Char}

theorem ValueText.list_holding {items : List (Item α)} {value : Item α → Value} (spaces : Spaces gap)
    (spaced : ∀ i ∈ items, i.Spaced) (each : ∀ i ∈ items, ValueText d (value i) i.text) :
    ValueText (d + 1) (.array (items.map value)) ('[' :: itemsText gap true items) := by
  have texts := @ValueText.list d gap (items.map fun i => i.holding (value i)) spaces
    (List.forall_mem_map.mpr fun i isIn => ⟨(spaced i isIn).before, (spaced i isIn).lead⟩)
    (List.forall_mem_map.mpr each)
  rwa [itemsText_holding, List.map_map] at texts

theorem ValueText.object_holding {members : List (Member α)} {value : Member α → Value} (spaces : Spaces gap)
    (spaced : ∀ m ∈ members, m.Spaced) (each : ∀ m ∈ members, ValueText d (value m) m.text) :
    ValueText (d + 1) (.ofMembers (members.map fun m => (String.ofList m.key, value m)))
      ('\x7b' :: membersText gap true members) := by
  have texts := @ValueText.object d gap (members.map fun m => m.holding (value m)) spaces
    (List.forall_mem_map.mpr fun m isIn =>
      let own := spaced m isIn
      ⟨own.before, own.lead, own.key, own.afterKey, own.valueLead⟩)
    (List.forall_mem_map.mpr each)
  rwa [membersText_holding, List.map_map] at texts

theorem ValueText.object_of_brace {v : Value} {cs : List Char} (text : ValueText d v ('\x7b' :: cs)) :
    ∃ members, v = .object members := by
  generalize braced : '\x7b' :: cs = whole at text
  cases text with
  | number text =>
    obtain ⟨x, tail, rfl, digit⟩ := text.starts
    obtain ⟨-, -, -, -, -, -, noBrace⟩ := ne_of_startsNumber digit
    cases braced
    exact absurd rfl noBrace
  | object => exact ⟨_, rfl⟩
  | _ => cases braced

theorem AnyText.exists_valueText {cs : List Char} (text : AnyText d cs) : ∃ v, ValueText d v cs := by
  induction text with
  | null => exact ⟨_, .null⟩
  | yes => exact ⟨_, .yes⟩
  | no => exact ⟨_, .no⟩
  | number literal inRange =>
    obtain ⟨n, text⟩ := literal.numberText inRange
    exact ⟨_, .number text⟩
  | string text => exact ⟨_, .string text⟩
  | list spaces spaced each ih =>
    choose! value texts using ih
    exact ⟨_, .list_holding spaces spaced texts⟩
  | object spaces spaced each ih =>
    choose! value texts using ih
    exact ⟨_, .object_holding spaces spaced texts⟩

end

/-! ### What shapes read -/

namespace Shape

variable {α : Type}

/-- The shape reads what is spelled: each text of `a` is a text of a value from which `a` is taken. -/
def Reads (shape : Shape α) (spelling : Spelling α) : Prop :=
  ∀ ⦃d a cs⦄, spelling d a cs → ∃ v, ValueText d v cs ∧ shape.fromValue v = .ok a

theorem reads_word32 : word32.Reads (DigitsText UInt32.toNat) := by
  rintro d n _ rfl
  have small : n.toNat < 4294967296 := n.toNat_lt
  exact ⟨_, .number (numberText_toDigits (by unfold maxUnsigned; omega)), word32_fromValue_toNat n⟩

theorem reads_word64 : word64.Reads (DigitsText UInt64.toNat) := by
  rintro d n _ rfl
  have small : n.toNat < 18446744073709551616 := n.toNat_lt
  exact ⟨_, .number (numberText_toDigits (by unfold maxUnsigned; omega)), word64_fromValue_toNat n⟩

theorem reads_bool : bool.Reads BoolText := by
  rintro d b cs (_ | _)
  · exact ⟨_, .yes, rfl⟩
  · exact ⟨_, .no, rfl⟩

theorem reads_text : text.Reads StringText := by
  rintro d s _ ⟨chars⟩
  refine ⟨_, .string chars, ?_⟩
  rw [String.ofList_toList]
  rfl

theorem Reads.optional {shape : Shape α} {spelling : Spelling α} (reads : shape.Reads spelling)
    (noNull : ∀ a, shape.fromValue .null ≠ .ok a) : (optional shape).Reads (OptionText spelling) := by
  rintro d o cs (_ | text)
  · exact ⟨_, .null, rfl⟩
  · obtain ⟨v, written, taken⟩ := reads text
    refine ⟨v, written, ?_⟩
    cases v with
    | null => exact absurd taken (noNull _)
    | _ => exact congrArg (Except.map some) taken

theorem allFromValues_map {ι : Type} {shape : Shape α} {items : List ι} {value : ι → Value} {a : ι → α}
    (each : ∀ i ∈ items, shape.fromValue (value i) = .ok (a i)) :
    allFromValues shape (items.map value) = .ok (items.map a) := by
  induction items with
  | nil => rfl
  | cons i items ih =>
    have others := ih fun j isIn => each j (List.mem_cons_of_mem i isIn)
    rw [List.map_cons, allFromValues, each i List.mem_cons_self, others]
    rfl

theorem Reads.list {shape : Shape α} {spelling : Spelling α} (reads : shape.Reads spelling) :
    (list shape).Reads (ListText spelling) := by
  rintro d _ _ ⟨spaces, spaced, each⟩
  choose! value texts taken using fun i isIn => reads (each i isIn)
  exact ⟨_, .list_holding spaces spaced texts, allFromValues_map taken⟩

end Shape

/-! ### What records read -/

namespace Record

variable {σ : Type} {r : Record σ σ} {fields : List (FieldText σ)} {s : σ}

/-- What has been put in under a key is what `s` has there; what is under other keys stays. -/
def Suits (fields : List (FieldText σ)) (s : σ) (key : String) (put : σ → σ) : Prop :=
  ∀ f ∈ fields, ∀ t, f.get (put t) = if f.key = key then f.get s else f.get t

/-- From members that suit `s` a record collects what `s` has under their keys, and keeps what it has under others. -/
theorem exists_collectMembers_of_suits {members : List (String × Value)}
    (each : ∀ m ∈ members, ∃ put, r.put m.1 m.2 = .ok put ∧ Suits fields s m.1 put) (t : σ) :
    ∃ u, r.collectMembers t members = .ok u ∧
      ∀ f ∈ fields, (f.key ∈ members.map Prod.fst ∨ f.get t = f.get s) → f.get u = f.get s := by
  induction members generalizing t with
  | nil => exact ⟨t, rfl, fun f _ found => found.elim (fun isIn => absurd isIn List.not_mem_nil) id⟩
  | cons m rest ih =>
    obtain ⟨put, taken, suits⟩ := each m List.mem_cons_self
    obtain ⟨u, collected, found⟩ := ih (fun n isIn => each n (List.mem_cons_of_mem m isIn)) (put t)
    refine ⟨u, collectMembers_cons_eq_ok.mpr ⟨put, taken, collected⟩, fun f isField known => found f isField ?_⟩
    have placed := suits f isField t
    by_cases own : f.key = m.1
    · exact .inr (by rw [placed, if_pos own])
    · rw [placed, if_neg own]
      exact known.imp_left fun isIn => (List.mem_cons.mp isIn).resolve_left own

/-- The record reads what is spelled under the key of a field, and puts it in where it belongs. -/
def ReadsField (r : Record σ σ) (fields : List (FieldText σ)) (f : FieldText σ) : Prop :=
  ∀ ⦃d b cs⦄, f.spelling d b cs → ∃ v put, ValueText d v cs ∧ r.put f.key v = .ok put ∧
    ∀ s, f.get s = b → Suits fields s f.key put

/-- The fields are those of the record, as they are spelled. -/
structure Spells (r : Record σ σ) (fields : List (FieldText σ)) : Prop where
  keys : r.fields.map Field.key = fields.map FieldText.key
  reads : ∀ f ∈ fields, r.ReadsField fields f
  start : ∀ f ∈ fields, f.get r.start = f.default
  finish : ∀ t, r.finish t = .ok t
  determined : ∀ s t, (∀ f ∈ fields, f.get s = f.get t) → s = t

theorem Spells.skips (spells : r.Spells fields) {key : String} (other : ∀ f ∈ fields, key ≠ f.key) :
    r.field? key = none := by
  refine List.find?_eq_none.mpr fun field isIn same => ?_
  have isKey : field.key ∈ fields.map FieldText.key := spells.keys ▸ List.mem_map_of_mem isIn
  obtain ⟨f, isField, itsKey⟩ := List.mem_map.mp isKey
  exact other f isField ((itsKey.trans (beq_iff_eq.mp same)).symm)

/-- A record is read however it is written. -/
theorem Spells.reads_record (spells : r.Spells fields) : r.shape.Reads (RecordText fields) := by
  rintro d s _ ⟨spaces, spaced, known, unknown, missing⟩
  rename_i d gap members
  have each : ∀ m ∈ members, ∃ v put, ValueText d v m.text ∧ r.put (String.ofList m.key) v = .ok put ∧
      Suits fields s (String.ofList m.key) put := by
    intro m isIn
    by_cases isKnown : ∃ f ∈ fields, String.ofList m.key = f.key
    · obtain ⟨f, isField, same⟩ := isKnown
      obtain ⟨v, put, text, taken, suits⟩ := spells.reads f isField (known m isIn f isField same)
      rw [same]
      exact ⟨v, put, text, taken, suits s rfl⟩
    · have other : ∀ f ∈ fields, String.ofList m.key ≠ f.key := fun f isField same => isKnown ⟨f, isField, same⟩
      obtain ⟨v, text⟩ := (unknown m isIn other).exists_valueText
      refine ⟨v, id, text, put_of_unknown (spells.skips other) v, fun f isField t => ?_⟩
      rw [if_neg (other f isField).symm]
      rfl
  choose! value put texts taken suits using each
  have object := ValueText.object_holding spaces spaced texts
  generalize pairs_eq : (members.map fun m => (String.ofList m.key, value m)) = pairs at object
  have suit : ∀ m ∈ pairs, ∃ put, r.put m.1 m.2 = .ok put ∧ Suits fields s m.1 put := by
    subst pairs_eq
    exact List.forall_mem_map.mpr fun m isIn => ⟨put m isIn, taken m isIn, suits m isIn⟩
  obtain ⟨u, collected, found⟩ := exists_collectMembers_of_suits
    (fun m isIn => suit m ((mem_foldl_insertMember pairs isIn).resolve_left List.not_mem_nil)) r.start
  have whole : u = s := by
    refine spells.determined u s fun f isField => found f isField ?_
    by_cases isThere : ∃ m ∈ members, String.ofList m.key = f.key
    · obtain ⟨m, isIn, same⟩ := isThere
      refine .inl (key_mem_foldl_insertMember pairs (.inr ?_))
      subst pairs_eq
      exact List.mem_map.mpr ⟨_, List.mem_map_of_mem isIn, same⟩
    · refine .inr ((spells.start f isField).trans (missing f isField ?_).symm)
      exact fun m isIn same => isThere ⟨m, isIn, same⟩
  refine ⟨_, object, ?_⟩
  change r.ofMembers _ = _
  rw [ofMembers, collected, whole]
  exact spells.finish s

theorem readsField_of {f : FieldText σ} {shape : Shape f.β} {set : f.β → σ → σ} (reads : shape.Reads f.spelling)
    (puts : ∀ v, r.put f.key v = (shape.fromValue v).map set) (suits : ∀ s, Suits fields s f.key (set (f.get s))) :
    r.ReadsField fields f := by
  intro d b cs text
  obtain ⟨v, written, taken⟩ := reads text
  refine ⟨v, set b, written, ?_, ?_⟩
  · rw [puts, taken]
    rfl
  · rintro s rfl
    exact suits s

end Record
end LintBridge.Json
