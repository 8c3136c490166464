import LintBridge.Keyed

/-!
More about lists of pairs as maps: what is found is a member, what is found from the end of a list stands
last in it, what a change leaves behind, and how it changes a count.
-/

set_option autoImplicit false
set_option relaxedAutoImplicit false

namespace LintBridge.Keyed

variable {κ α : Type} [DecidableEq κ]

theorem mem_of_get? {key : κ} {value : α} {all : List (κ × α)} (found : get? key all = some value) :
    (key, value) ∈ all := by
  induction all with
  | nil => cases found
  | cons p rest ih =>
    obtain ⟨k, a⟩ := p
    by_cases same : k = key
    · rw [get?, if_pos same] at found
      cases found
      rw [same]
      exact List.mem_cons_self
    · rw [get?, if_neg same] at found
      exact List.mem_cons_of_mem _ (ih found)

theorem exists_get?_of_mem {key : κ} {value : α} {all : List (κ × α)} (isIn : (key, value) ∈ all) :
    ∃ found, get? key all = some found := by
  induction all with
  | nil => cases isIn
  | cons p rest ih =>
    obtain ⟨k, a⟩ := p
    by_cases same : k = key
    · exact ⟨a, by rw [get?, if_pos same]⟩
    · rw [get?, if_neg same]
      rcases List.mem_cons.mp isIn with eq | isIn
      · cases eq
        exact absurd rfl same
      · exact ih isIn

theorem get?_eq_none_of_forall {key : κ} {all : List (κ × α)} (absent : ∀ value, (key, value) ∉ all) :
    get? key all = none := by
  cases found : get? key all with
  | none => rfl
  | some value => exact absurd (mem_of_get? found) (absent value)

theorem get?_append (key : κ) (front back : List (κ × α)) :
    get? key (front ++ back) = (get? key front).or (get? key back) := by
  induction front with
  | nil => rfl
  | cons p rest ih =>
    obtain ⟨k, a⟩ := p
    by_cases same : k = key
    · simp [get?, same]
    · simp [get?, same, ih]

theorem get?_foldl_put {β : Type} (make : α → β) (k : κ) (new : List (κ × α)) (all : List (κ × β)) :
    get? k (new.foldl (fun all p => put p.1 (make p.2) all) all) =
      ((get? k new.reverse).map make).or (get? k all) := by
  induction new generalizing all with
  | nil => rfl
  | cons p rest ih =>
    obtain ⟨q, a⟩ := p
    rw [List.foldl_cons, ih, get?_put, List.reverse_cons, get?_append]
    cases get? k rest.reverse with
    | some found => rfl
    | none => by_cases same : q = k <;> simp [get?, same]

theorem put_put (key : κ) (first second : α) (all : List (κ × α)) :
    put key second (put key first all) = put key second all := by
  induction all with
  | nil => simp [put]
  | cons p rest ih =>
    obtain ⟨k, a⟩ := p
    by_cases same : k = key <;> simp [put, same, ih]

theorem put_of_get? {key : κ} {value : α} {all : List (κ × α)} (found : get? key all = some value) :
    put key value all = all := by
  induction all with
  | nil => cases found
  | cons p rest ih =>
    obtain ⟨k, a⟩ := p
    by_cases same : k = key
    · rw [get?, if_pos same] at found
      cases found
      rw [put, if_pos same, same]
    · rw [get?, if_neg same] at found
      rw [put, if_neg same, ih found]

theorem mem_put {key k : κ} {value v : α} {all : List (κ × α)} (isIn : (k, v) ∈ put key value all) :
    (k, v) ∈ all ∨ k = key ∧ v = value := by
  induction all with
  | nil =>
    cases List.mem_singleton.mp isIn
    exact .inr ⟨rfl, rfl⟩
  | cons p rest ih =>
    obtain ⟨q, a⟩ := p
    rw [put] at isIn
    split at isIn
    · rcases List.mem_cons.mp isIn with eq | isIn
      · cases eq
        exact .inr ⟨rfl, rfl⟩
      · exact .inl (List.mem_cons_of_mem _ isIn)
    · rcases List.mem_cons.mp isIn with eq | isIn
      · rw [eq]
        exact .inl List.mem_cons_self
      · exact (ih isIn).imp_left (List.mem_cons_of_mem _)

theorem mem_of_mem_erase {key k : κ} {v : α} {all : List (κ × α)} (isIn : (k, v) ∈ erase key all) :
    (k, v) ∈ all := by
  induction all with
  | nil => exact isIn
  | cons p rest ih =>
    obtain ⟨q, a⟩ := p
    rw [erase] at isIn
    split at isIn
    · exact List.mem_cons_of_mem _ (ih isIn)
    · rcases List.mem_cons.mp isIn with eq | isIn
      · rw [eq]
        exact List.mem_cons_self
      · exact List.mem_cons_of_mem _ (ih isIn)

theorem erase_of_get?_eq_none {key : κ} {all : List (κ × α)} (absent : get? key all = none) :
    erase key all = all := by
  induction all with
  | nil => rfl
  | cons p rest ih =>
    obtain ⟨k, a⟩ := p
    by_cases same : k = key
    · rw [get?, if_pos same] at absent
      cases absent
    · rw [get?, if_neg same] at absent
      rw [erase, if_neg same, ih absent]

theorem mem_keys_iff {key : κ} {all : List (κ × α)} :
    key ∈ keys all ↔ ∃ value, get? key all = some value := by
  constructor
  · intro isIn
    obtain ⟨⟨k, value⟩, isPair, rfl⟩ := List.mem_map.mp isIn
    exact exists_get?_of_mem isPair
  · rintro ⟨value, found⟩
    exact List.mem_map_of_mem (mem_of_get? found)

theorem get?_eq_none_of_not_mem_keys {key : κ} {all : List (κ × α)} (absent : key ∉ keys all) :
    get? key all = none :=
  get?_eq_none_of_forall fun _ isIn => absent (List.mem_map_of_mem isIn)

theorem nodup_keys_put (key : κ) (value : α) {all : List (κ × α)} (nodup : (keys all).Nodup) :
    (keys (put key value all)).Nodup := by
  induction all with
  | nil => exact List.nodup_cons.mpr ⟨List.not_mem_nil, nodup⟩
  | cons p rest ih =>
    obtain ⟨k, a⟩ := p
    obtain ⟨absent, nodup⟩ : k ∉ keys rest ∧ (keys rest).Nodup := List.nodup_cons.mp nodup
    by_cases same : k = key
    · rw [put, if_pos same]
      exact List.nodup_cons.mpr ⟨same ▸ absent, nodup⟩
    · rw [put, if_neg same]
      refine List.nodup_cons.mpr ⟨?_, ih nodup⟩
      intro isIn
      obtain ⟨v, found⟩ : ∃ v, get? k (put key value rest) = some v := mem_keys_iff.mp isIn
      rcases mem_put (mem_of_get? found) with isIn | ⟨same', -⟩
      · exact absent (List.mem_map_of_mem isIn)
      · exact same same'

theorem nodup_keys_erase (key : κ) {all : List (κ × α)} (nodup : (keys all).Nodup) :
    (keys (erase key all)).Nodup := by
  induction all with
  | nil => exact nodup
  | cons p rest ih =>
    obtain ⟨k, a⟩ := p
    obtain ⟨absent, nodup⟩ : k ∉ keys rest ∧ (keys rest).Nodup := List.nodup_cons.mp nodup
    rw [erase]
    split
    · exact ih nodup
    · refine List.nodup_cons.mpr ⟨?_, ih nodup⟩
      intro isIn
      obtain ⟨v, found⟩ : ∃ v, get? k (erase key rest) = some v := mem_keys_iff.mp isIn
      exact absent (List.mem_map_of_mem (mem_of_mem_erase (mem_of_get? found)))

theorem get?_filter (test : α → Bool) (key : κ) {all : List (κ × α)} (nodup : (keys all).Nodup) :
    get? key (all.filter fun p => test p.2) = (get? key all).filter test := by
  induction all with
  | nil => rfl
  | cons p rest ih =>
    obtain ⟨k, a⟩ := p
    obtain ⟨absent, nodup⟩ : k ∉ keys rest ∧ (keys rest).Nodup := List.nodup_cons.mp nodup
    have rest' := ih nodup
    by_cases same : k = key
    · have unfound : get? key rest = none := get?_eq_none_of_not_mem_keys (same ▸ absent)
      rw [unfound] at rest'
      cases passes : test a <;> simp [get?, same, passes, rest', Option.filter_some]
    · cases passes : test a <;> simp [get?, same, passes, rest']

theorem filterMap_key {β : Type} (make : α → β) (key : κ) {all : List (κ × α)} (nodup : (keys all).Nodup) :
    (all.filterMap fun p => if p.1 = key then some (make p.2) else none) = ((get? key all).map make).toList := by
  induction all with
  | nil => rfl
  | cons p rest ih =>
    obtain ⟨k, a⟩ := p
    obtain ⟨absent, nodup⟩ : k ∉ keys rest ∧ (keys rest).Nodup := List.nodup_cons.mp nodup
    have rest' := ih nodup
    by_cases same : k = key
    · have unfound : get? key rest = none := get?_eq_none_of_not_mem_keys (same ▸ absent)
      rw [unfound] at rest'
      simp [get?, same, rest']
    · simp [get?, same, rest']

theorem get?_perm {all all' : List (κ × α)} (perm : all.Perm all') (nodup : (keys all).Nodup) (key : κ) :
    get? key all = get? key all' := by
  induction perm with
  | nil => rfl
  | cons p _ ih =>
    obtain ⟨k, a⟩ := p
    rw [get?, get?, ih (List.nodup_cons.mp nodup).2]
  | swap p q rest =>
    obtain ⟨k, a⟩ := p
    obtain ⟨l, b⟩ := q
    have apart : l ≠ k := fun same => (List.nodup_cons.mp nodup).1 (same ▸ List.mem_cons_self)
    simp only [get?]
    by_cases first : l = key
    · have other : k ≠ key := fun same => apart (first.trans same.symm)
      rw [if_pos first, if_neg other, if_pos first]
    · rw [if_neg first, if_neg first]
  | trans front _ ih ih' => exact (ih nodup).trans (ih' ((front.map Prod.fst).nodup_iff.mp nodup))

/-- Another value stands for the key, later in the list than the given one. -/
def Later (key : κ) (value other : α) (all : List (κ × α)) : Prop :=
  ∃ front back, all = front ++ (key, value) :: back ∧ (key, other) ∈ back

/-- What is found in a list that is read from its end is the last that stands there for the key. -/
theorem get?_reverse_eq_some_iff {key : κ} {value : α} {all : List (κ × α)} (once : (all.map Prod.snd).Nodup)
    (isIn : (key, value) ∈ all) :
    get? key all.reverse = some value ↔ ∀ other, ¬ Later key value other all := by
  have notAgain : ∀ front back, all = front ++ (key, value) :: back → (key, value) ∉ back := by
    intro front back split isIn
    rw [split, List.map_append, List.map_cons] at once
    exact (List.nodup_cons.mp (List.nodup_append.mp once).2.1).1 (List.mem_map_of_mem isIn)
  have read : ∀ front back, all = front ++ (key, value) :: back →
      get? key all.reverse = (get? key back.reverse).or (some value) := by
    intro front back split
    rw [split, List.reverse_append, List.reverse_cons, List.append_assoc, get?_append,
      List.singleton_append, get?, if_pos rfl]
  constructor
  · rintro found other ⟨front, back, split, isLater⟩
    obtain ⟨last, foundLast⟩ := exists_get?_of_mem (List.mem_reverse.mpr isLater)
    rw [read front back split, foundLast, Option.some_or] at found
    cases found
    exact notAgain front back split (List.mem_reverse.mp (mem_of_get? foundLast))
  · intro last
    obtain ⟨front, back, split⟩ := List.append_of_mem isIn
    have absent : get? key back.reverse = none := get?_eq_none_of_forall fun other isLater =>
      last other ⟨front, back, split, List.mem_reverse.mp isLater⟩
    rw [read front back split, absent, Option.none_or]

/-- Where a value takes another's place, a count of values loses the one and gains the other. -/
theorem countP_put (test : α → Bool) {key : κ} {old : α} (new : α) {all : List (κ × α)}
    (found : get? key all = some old) :
    (put key new all).countP (fun p => test p.2) + (if test old then 1 else 0) =
      all.countP (fun p => test p.2) + (if test new then 1 else 0) := by
  induction all with
  | nil => cases found
  | cons p rest ih =>
    obtain ⟨k, a⟩ := p
    by_cases same : k = key
    · rw [get?, if_pos same] at found
      cases found
      rw [put, if_pos same]
      simp only [List.countP_cons]
      omega
    · rw [get?, if_neg same] at found
      have rest := ih found
      rw [put, if_neg same]
      simp only [List.countP_cons]
      omega

end LintBridge.Keyed
