/-!
Lists of pairs as maps.

A key counts once: `put` takes the place of what is there, or comes at the end, and `erase` takes a key
out. What is found afterwards is said by `get?_put` and `get?_erase`.
-/

set_option autoImplicit false
set_option relaxedAutoImplicit false

namespace LintBridge.Keyed

variable {κ α : Type} [DecidableEq κ]

def get? (key : κ) : List (κ × α) → Option α
  | [] => none
  | (k, a) :: rest => if k = key then some a else get? key rest

def put (key : κ) (value : α) : List (κ × α) → List (κ × α)
  | [] => [(key, value)]
  | (k, a) :: rest => if k = key then (key, value) :: rest else (k, a) :: put key value rest

def erase (key : κ) : List (κ × α) → List (κ × α)
  | [] => []
  | (k, a) :: rest => if k = key then erase key rest else (k, a) :: erase key rest

def keys (all : List (κ × α)) : List κ := all.map Prod.fst

theorem get?_put (key k : κ) (value : α) (all : List (κ × α)) :
    get? k (put key value all) = if key = k then some value else get? k all := by
  induction all with
  | nil => simp [put, get?]
  | cons p rest ih =>
    obtain ⟨q, a⟩ := p
    by_cases hq : q = key
    · subst hq
      by_cases hk : q = k <;> simp [put, get?, hk]
    · simp only [put, if_neg hq, get?, ih]
      by_cases hk : q = k
      · subst hk
        simp [Ne.symm hq]
      · simp [hk]

theorem get?_erase (key k : κ) (all : List (κ × α)) :
    get? k (erase key all) = if key = k then none else get? k all := by
  induction all with
  | nil => simp [erase, get?]
  | cons p rest ih =>
    obtain ⟨q, a⟩ := p
    by_cases hq : q = key
    · subst hq
      by_cases hk : q = k <;> simp_all [erase, get?]
    · simp only [erase, if_neg hq, get?, ih]
      by_cases hk : q = k
      · subst hk
        simp [Ne.symm hq]
      · simp [hk]

end LintBridge.Keyed
