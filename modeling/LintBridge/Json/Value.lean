import LintBridge.Decimal.Binary64

/-!
JSON values.

An object is the list of its members in the order of their keys, no key twice; `insertMember` keeps that
order, and a later member takes the place of an earlier one with its key.
-/

set_option autoImplicit false
set_option relaxedAutoImplicit false

namespace LintBridge.Json

open LintBridge.Decimal (Binary64)

/-- A number: an integer between `-2 ^ 63` and `2 ^ 64 - 1`, or a binary64 number. -/
inductive Number
  | integer (value : Int)
  | decimal (value : Binary64)
  deriving DecidableEq, Repr

inductive Value
  | null
  | bool (value : Bool)
  | number (value : Number)
  | text (value : String)
  | array (items : List Value)
  | object (members : List (String × Value))
  deriving Repr

/-- The members with one more, in the order of the keys; it replaces a member with the same key. -/
def insertMember {α : Type} (key : String) (value : α) : List (String × α) → List (String × α)
  | [] => [(key, value)]
  | (k, v) :: rest =>
    if key = k then (key, value) :: rest
    else if key < k then (key, value) :: (k, v) :: rest
    else (k, v) :: insertMember key value rest

def lookupMember {α : Type} (key : String) (members : List (String × α)) : Option α :=
  members.lookup key

theorem lookupMember_cons {α : Type} (k q : String) (v : α) (rest : List (String × α)) :
    lookupMember k ((q, v) :: rest) = if k = q then some v else lookupMember k rest := by
  unfold lookupMember
  rw [List.lookup_cons]
  by_cases h : k = q
  · simp [h]
  · simp [h, beq_eq_false_iff_ne.2 h]

theorem lookupMember_append {α : Type} (k : String) (front back : List (String × α)) :
    lookupMember k (front ++ back) = (lookupMember k front).or (lookupMember k back) := List.lookup_append

theorem lookupMember_insertMember {α : Type} (key k : String) (value : α) (members : List (String × α)) :
    lookupMember k (insertMember key value members) =
      if k = key then some value else lookupMember k members := by
  induction members with
  | nil => exact lookupMember_cons k key value []
  | cons m rest ih =>
    obtain ⟨q, v⟩ := m
    unfold insertMember
    by_cases hq : key = q
    · subst hq
      rw [if_pos rfl, lookupMember_cons, lookupMember_cons]
      by_cases h : k = key <;> simp [h]
    · by_cases hlt : key < q
      · rw [if_neg hq, if_pos hlt, lookupMember_cons]
      · rw [if_neg hq, if_neg hlt, lookupMember_cons, lookupMember_cons, ih]
        by_cases h : k = key
        · subst h
          simp [hq]
        · simp [h]

namespace Value

/-- The member of an object with the given key; other values have none. -/
def get? (v : Value) (key : String) : Option Value :=
  match v with
  | .object members => lookupMember key members
  | _ => none

def asText? : Value → Option String
  | .text s => some s
  | _ => none

/-- An object from its members in any order; of two with one key the later one counts. -/
def ofMembers (members : List (String × Value)) : Value :=
  .object (members.foldl (fun all m => insertMember m.1 m.2 all) [])

/-- What is found in an object is the last member with the key. -/
theorem get?_ofMembers (members : List (String × Value)) (key : String) :
    (ofMembers members).get? key = lookupMember key members.reverse := by
  have fold : ∀ all : List (String × Value),
      lookupMember key (members.foldl (fun all m => insertMember m.1 m.2 all) all) =
        (lookupMember key members.reverse).or (lookupMember key all) := by
    induction members with
    | nil => exact fun _ => rfl
    | cons m rest ih =>
      intro all
      obtain ⟨k, v⟩ := m
      rw [List.foldl_cons, ih, lookupMember_insertMember, List.reverse_cons, lookupMember_append, lookupMember_cons]
      cases lookupMember key rest.reverse with
      | some found => rfl
      | none => by_cases same : key = k <;> simp [same, lookupMember]
  exact (fold []).trans Option.or_none

end Value
end LintBridge.Json
