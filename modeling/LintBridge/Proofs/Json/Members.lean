import LintBridge.Json.Record
import Mathlib.Data.List.Pairwise

/-!
The members of an object, in the order of their keys, and what a record takes from them.

A text has the members of an object in any order, a value has them sorted. For a tidy record, one whose fields do not
get in each other's way, this makes no difference (`Record.Tidy.collectMembers_ofMembers`): what it collects from the
members one by one is what it collects from the object that they make up.
-/

set_option autoImplicit false
set_option relaxedAutoImplicit false

namespace LintBridge.Json

theorem exists_of_map_eq_ok {ε α β : Type} {e : Except ε α} {f : α → β} {b : β} (ok : e.map f = .ok b) :
    ∃ a, e = .ok a ∧ f a = b := by
  cases e with
  | error m => cases ok
  | ok a =>
    cases ok
    exact ⟨a, rfl, rfl⟩

theorem exists_of_bind_eq_ok {ε α β : Type} {e : Except ε α} {f : α → Except ε β} {b : β} (ok : e.bind f = .ok b) :
    ∃ a, e = .ok a ∧ f a = .ok b := by
  cases e with
  | error m => cases ok
  | ok a => exact ⟨a, rfl, ok⟩

/-! ### Sorted members -/

section
variable {α : Type}

/-- The members are in the order of their keys, and no key is there twice. -/
def Sorted (members : List (String × α)) : Prop := members.Pairwise fun m n => m.1 < n.1

theorem mem_insertMember {key : String} {value : α} {members : List (String × α)} {m : String × α}
    (isIn : m ∈ insertMember key value members) : m = (key, value) ∨ m ∈ members := by
  induction members with
  | nil => exact .inl (List.mem_singleton.mp isIn)
  | cons n rest ih =>
    obtain ⟨q, w⟩ := n
    unfold insertMember at isIn
    split at isIn
    · exact (List.mem_cons.mp isIn).imp_right (List.mem_cons_of_mem _)
    · split at isIn
      · exact List.mem_cons.mp isIn
      · obtain rfl | isIn := List.mem_cons.mp isIn
        · exact .inr List.mem_cons_self
        · exact (ih isIn).imp_right (List.mem_cons_of_mem _)

theorem Sorted.insertMember {members : List (String × α)} (sorted : Sorted members) (key : String) (value : α) :
    Sorted (insertMember key value members) := by
  induction members with
  | nil => exact List.pairwise_singleton _ _
  | cons n rest ih =>
    obtain ⟨q, w⟩ := n
    obtain ⟨above, sortedRest⟩ := List.pairwise_cons.mp sorted
    unfold Json.insertMember
    split
    · rename_i same
      subst same
      exact List.pairwise_cons.mpr ⟨above, sortedRest⟩
    · split
      · rename_i other below
        refine List.pairwise_cons.mpr ⟨fun m isIn => ?_, sorted⟩
        obtain rfl | isIn := List.mem_cons.mp isIn
        · exact below
        · exact String.lt_trans below (above m isIn)
      · rename_i other notBelow
        have behind : q < key :=
          (String.le_total key q).elim
            (fun le => absurd (String.le_antisymm le (String.not_lt.mp notBelow)) other)
            fun le => String.not_le.mp fun le' => other (String.le_antisymm le' le)
        refine List.pairwise_cons.mpr ⟨fun m isIn => ?_, ih sortedRest⟩
        obtain rfl | isIn := mem_insertMember isIn
        · exact behind
        · exact above m isIn

theorem insertMember_of_last {key : String} {value : α} {members : List (String × α)}
    (last : ∀ m ∈ members, m.1 < key) : insertMember key value members = members ++ [(key, value)] := by
  induction members with
  | nil => rfl
  | cons n rest ih =>
    obtain ⟨q, w⟩ := n
    have before : q < key := last (q, w) List.mem_cons_self
    have other : key ≠ q := fun same => String.lt_irrefl q (same ▸ before)
    rw [insertMember, if_neg other, if_neg (String.lt_asymm before),
      ih fun m isIn => last m (List.mem_cons_of_mem _ isIn)]
    rfl

theorem foldl_insertMember_of_sorted (members : List (String × α)) :
    ∀ all : List (String × α), Sorted (all ++ members) →
      members.foldl (fun all m => insertMember m.1 m.2 all) all = all ++ members := by
  induction members with
  | nil => exact fun all _ => (List.append_nil all).symm
  | cons m rest ih =>
    intro all sorted
    obtain ⟨-, -, apart⟩ := List.pairwise_append.mp sorted
    have last : ∀ n ∈ all, n.1 < m.1 := fun n isIn => apart n isIn m List.mem_cons_self
    rw [List.foldl_cons, insertMember_of_last last, ih (all ++ [m]) (by simpa using sorted), List.append_assoc]
    rfl

theorem sorted_foldl_insertMember (members : List (String × α)) {all : List (String × α)} (sorted : Sorted all) :
    Sorted (members.foldl (fun all m => insertMember m.1 m.2 all) all) := by
  induction members generalizing all with
  | nil => exact sorted
  | cons m rest ih => exact ih (sorted.insertMember m.1 m.2)

theorem mem_foldl_insertMember (members : List (String × α)) {all : List (String × α)} {m : String × α}
    (isIn : m ∈ members.foldl (fun all m => insertMember m.1 m.2 all) all) : m ∈ all ∨ m ∈ members := by
  induction members generalizing all with
  | nil => exact .inl isIn
  | cons n rest ih =>
    obtain isIn | isIn := ih isIn
    · obtain rfl | isIn := mem_insertMember isIn
      · exact .inr List.mem_cons_self
      · exact .inl isIn
    · exact .inr (List.mem_cons_of_mem _ isIn)

theorem key_mem_insertMember {key k : String} {value : α} {members : List (String × α)}
    (known : k = key ∨ k ∈ members.map Prod.fst) : k ∈ (insertMember key value members).map Prod.fst := by
  induction members with
  | nil => exact List.mem_singleton.mpr (known.resolve_right List.not_mem_nil)
  | cons m rest ih =>
    obtain ⟨q, w⟩ := m
    unfold insertMember
    split
    · rename_i same
      subst same
      exact known.elim (fun isKey => isKey ▸ List.mem_cons_self) id
    · split
      · exact List.mem_cons.mpr known
      · rcases known with isKey | isIn
        · exact List.mem_cons_of_mem q (ih (.inl isKey))
        · exact List.mem_cons.mpr ((List.mem_cons.mp isIn).imp_right fun isIn => ih (.inr isIn))

theorem key_mem_foldl_insertMember {k : String} (members : List (String × α)) {all : List (String × α)}
    (known : k ∈ all.map Prod.fst ∨ k ∈ members.map Prod.fst) :
    k ∈ (members.foldl (fun all m => insertMember m.1 m.2 all) all).map Prod.fst := by
  induction members generalizing all with
  | nil => exact known.resolve_right List.not_mem_nil
  | cons m rest ih =>
    refine ih ?_
    rcases known with isIn | isIn
    · exact .inl (key_mem_insertMember (.inr isIn))
    · exact (List.mem_cons.mp isIn).imp_left fun isKey => key_mem_insertMember (.inl isKey)

end

theorem Value.ofMembers_of_sorted {members : List (String × Value)} (sorted : Sorted members) :
    Value.ofMembers members = .object members :=
  congrArg Value.object (foldl_insertMember_of_sorted members [] sorted)

/-! ### Records -/

namespace Record

variable {σ α : Type}

def put (r : Record σ α) (key : String) (v : Value) : Except Mismatch (σ → σ) :=
  match r.field? key with
  | none => .ok id
  | some f => f.fromValue v

theorem put_of_unknown {r : Record σ α} {key : String} (unknown : r.field? key = none) (v : Value) :
    r.put key v = .ok id := by
  rw [put, unknown]

theorem put_of_known {r : Record σ α} {key : String} {f : Field σ} (known : r.field? key = some f) (v : Value) :
    r.put key v = f.fromValue v := by
  rw [put, known]

theorem collectMembers_cons (r : Record σ α) (s : σ) (key : String) (v : Value) (rest : List (String × Value)) :
    r.collectMembers s ((key, v) :: rest) = (r.put key v).bind fun f => r.collectMembers (f s) rest := by
  rw [collectMembers, put]
  cases r.field? key <;> rfl

theorem collectMembers_cons_eq_ok {r : Record σ α} {s u : σ} {key : String} {v : Value} {rest : List (String × Value)} :
    r.collectMembers s ((key, v) :: rest) = .ok u ↔
      ∃ f, r.put key v = .ok f ∧ r.collectMembers (f s) rest = .ok u := by
  rw [collectMembers_cons]
  constructor
  · exact exists_of_bind_eq_ok
  · rintro ⟨f, taken, whole⟩
    rw [taken]
    exact whole

theorem collectMembers_append_eq_ok {r : Record σ α} {s u : σ} {front back : List (String × Value)} :
    r.collectMembers s (front ++ back) = .ok u ↔
      ∃ t, r.collectMembers s front = .ok t ∧ r.collectMembers t back = .ok u := by
  induction front generalizing s with
  | nil => exact ⟨fun whole => ⟨s, rfl, whole⟩, fun ⟨_, same, whole⟩ => by cases same; exact whole⟩
  | cons m front ih =>
    obtain ⟨key, v⟩ := m
    rw [List.cons_append, collectMembers_cons_eq_ok]
    constructor
    · rintro ⟨f, taken, whole⟩
      obtain ⟨t, atFront, atBack⟩ := ih.mp whole
      exact ⟨t, collectMembers_cons_eq_ok.mpr ⟨f, taken, atFront⟩, atBack⟩
    · rintro ⟨t, whole, atBack⟩
      obtain ⟨f, taken, atFront⟩ := collectMembers_cons_eq_ok.mp whole
      exact ⟨f, taken, ih.mpr ⟨t, atFront, atBack⟩⟩

theorem collectMembers_of_unknown {r : Record σ α} {members : List (String × Value)}
    (unknown : ∀ m ∈ members, r.field? m.1 = none) (s : σ) : r.collectMembers s members = .ok s := by
  induction members with
  | nil => rfl
  | cons m rest ih =>
    have taken : r.put m.1 m.2 = .ok id := put_of_unknown (unknown m List.mem_cons_self) m.2
    have others := ih fun n isIn => unknown n (List.mem_cons_of_mem m isIn)
    exact collectMembers_cons_eq_ok.mpr ⟨id, taken, others⟩

/-- The fields of the record do not get in each other's way: what one puts in takes the place of what it put in before,
and two of them put in theirs in any order. -/
structure Tidy (r : Record σ α) : Prop where
  again : ∀ {key v w f g}, r.put key v = .ok f → r.put key w = .ok g → ∀ s, g (f s) = g s
  swap : ∀ {key other v w f g}, key ≠ other → r.put key v = .ok f → r.put other w = .ok g → ∀ s, g (f s) = f (g s)

namespace Tidy

variable {r : Record σ α}

theorem collectMembers_front (tidy : r.Tidy) {key : String} {v : Value} {members : List (String × Value)}
    (other : ∀ m ∈ members, m.1 ≠ key) {s u : σ} (whole : r.collectMembers s (members ++ [(key, v)]) = .ok u) :
    r.collectMembers s ((key, v) :: members) = .ok u := by
  induction members generalizing s with
  | nil => exact whole
  | cons m rest ih =>
    obtain ⟨q, w⟩ := m
    obtain ⟨g, first, whole⟩ := collectMembers_cons_eq_ok.mp whole
    obtain ⟨f, own, tail⟩ :=
      collectMembers_cons_eq_ok.mp (ih (fun m isIn => other m (List.mem_cons_of_mem _ isIn)) whole)
    have swapped : f (g s) = g (f s) := tidy.swap (other (q, w) List.mem_cons_self) first own s
    rw [swapped] at tail
    exact collectMembers_cons_eq_ok.mpr ⟨f, own, collectMembers_cons_eq_ok.mpr ⟨g, first, tail⟩⟩

theorem collectMembers_insertMember (tidy : r.Tidy) {key : String} {v : Value} {members : List (String × Value)}
    (sorted : Sorted members) {s u : σ} (whole : r.collectMembers s (members ++ [(key, v)]) = .ok u) :
    r.collectMembers s (insertMember key v members) = .ok u := by
  induction members generalizing s with
  | nil => exact whole
  | cons m rest ih =>
    obtain ⟨q, w⟩ := m
    obtain ⟨above, sortedRest⟩ := List.pairwise_cons.mp sorted
    unfold insertMember
    split
    · rename_i same
      subst same
      obtain ⟨g, first, tail⟩ := collectMembers_cons_eq_ok.mp whole
      have others : ∀ m ∈ rest, m.1 ≠ key := fun m isIn same => String.lt_irrefl key (same ▸ above m isIn)
      obtain ⟨f, own, tail⟩ := collectMembers_cons_eq_ok.mp (tidy.collectMembers_front others tail)
      rw [tidy.again first own] at tail
      exact collectMembers_cons_eq_ok.mpr ⟨f, own, tail⟩
    · split
      · rename_i other below
        refine tidy.collectMembers_front (fun m isIn same => ?_) whole
        obtain rfl | isIn := List.mem_cons.mp isIn
        · exact other same.symm
        · exact String.lt_irrefl key (String.lt_trans below (same ▸ above m isIn))
      · obtain ⟨g, first, tail⟩ := collectMembers_cons_eq_ok.mp whole
        exact collectMembers_cons_eq_ok.mpr ⟨g, first, ih sortedRest tail⟩

/-- What a record collects from members one by one is what it collects from the object of them. -/
theorem collectMembers_ofMembers (tidy : r.Tidy) (members : List (String × Value)) {s u : σ}
    (whole : r.collectMembers s members = .ok u) :
    r.collectMembers s (members.foldl (fun all m => insertMember m.1 m.2 all) []) = .ok u := by
  -- What has been inserted so far stays sorted, and is collected before the rest.
  have fold : ∀ (all : List (String × Value)), Sorted all → r.collectMembers s (all ++ members) = .ok u →
      r.collectMembers s (members.foldl (fun all m => insertMember m.1 m.2 all) all) = .ok u := by
    clear whole
    induction members with
    | nil =>
      intro all _ whole
      rwa [List.append_nil] at whole
    | cons m rest ih =>
      intro all sorted whole
      have split : all ++ m :: rest = (all ++ [(m.1, m.2)]) ++ rest := by simp
      rw [split] at whole
      obtain ⟨t, front, back⟩ := collectMembers_append_eq_ok.mp whole
      have inserted := tidy.collectMembers_insertMember sorted front
      exact ih _ (sorted.insertMember m.1 m.2) (collectMembers_append_eq_ok.mpr ⟨t, inserted, back⟩)
  exact fold [] List.Pairwise.nil whole

theorem ofValue_ofMembers (tidy : r.Tidy) {members : List (String × Value)} {u : σ} {a : α}
    (collected : r.collectMembers r.start members = .ok u) (finished : r.finish u = .ok a) :
    r.shape.fromValue (.ofMembers members) = .ok a := by
  have whole := tidy.collectMembers_ofMembers members collected
  change r.ofMembers _ = _
  rw [ofMembers, whole]
  exact finished

end Tidy
end Record

/-! ### Fields -/

namespace Field

variable {σ β γ : Type}

/-- What the field puts in takes the place of what it put in before. -/
def Again (f : Field σ) : Prop :=
  ∀ v w a b, f.fromValue v = .ok a → f.fromValue w = .ok b → ∀ s, b (a s) = b s

/-- Two fields put in theirs in any order. -/
def Apart (f g : Field σ) : Prop :=
  ∀ v w a b, f.fromValue v = .ok a → g.fromValue w = .ok b → ∀ s, b (a s) = a (b s)

theorem Apart.symm {f g : Field σ} (apart : f.Apart g) : g.Apart f :=
  fun v w a b first second s => (apart w v b a second first s).symm

instance : Std.Symm (Apart (σ := σ)) := ⟨fun _ _ => Apart.symm⟩

/-- What the field puts in is a value of `shape`, put in by `set`. -/
def Reads (f : Field σ) (shape : Shape β) (set : β → σ → σ) : Prop :=
  f.fromValue = fun v => (shape.fromValue v).map set

theorem Reads.exists_of_ok {f : Field σ} {shape : Shape β} {set : β → σ → σ} (reads : f.Reads shape set) {v : Value}
    {a : σ → σ} (ok : f.fromValue v = .ok a) : ∃ b, shape.fromValue v = .ok b ∧ a = set b := by
  have mapped : (shape.fromValue v).map set = .ok a := (congrFun reads v).symm.trans ok
  obtain ⟨b, found, same⟩ := exists_of_map_eq_ok mapped
  exact ⟨b, found, same.symm⟩

theorem Reads.again {f : Field σ} {shape : Shape β} {set : β → σ → σ} (reads : f.Reads shape set)
    (same : ∀ b c s, set c (set b s) = set c s) : f.Again := by
  intro v w a b first second s
  obtain ⟨x, -, rfl⟩ := reads.exists_of_ok first
  obtain ⟨y, -, rfl⟩ := reads.exists_of_ok second
  exact same x y s

theorem Reads.apart {f g : Field σ} {shape : Shape β} {other : Shape γ} {set : β → σ → σ} {setOther : γ → σ → σ}
    (reads : f.Reads shape set) (readsOther : g.Reads other setOther)
    (same : ∀ b c s, setOther c (set b s) = set b (setOther c s)) : f.Apart g := by
  intro v w a b first second s
  obtain ⟨x, -, rfl⟩ := reads.exists_of_ok first
  obtain ⟨y, -, rfl⟩ := readsOther.exists_of_ok second
  exact same x y s

end Field

theorem Record.tidy_of_fields {σ α : Type} {r : Record σ α} (again : ∀ f ∈ r.fields, f.Again)
    (apart : r.fields.Pairwise Field.Apart) : r.Tidy where
  again := by
    intro key v w f g first second s
    cases found : r.field? key with
    | none =>
      rw [put_of_unknown found] at first second
      cases first
      cases second
      rfl
    | some field =>
      rw [put_of_known found] at first second
      exact again field (List.mem_of_find?_eq_some found) v w f g first second s
  swap := by
    intro key other v w f g different first second s
    cases found : r.field? key with
    | none =>
      rw [put_of_unknown found] at first
      cases first
      rfl
    | some field =>
      cases foundOther : r.field? other with
      | none =>
        rw [put_of_unknown foundOther] at second
        cases second
        rfl
      | some otherField =>
        rw [put_of_known found] at first
        rw [put_of_known foundOther] at second
        have key_eq : field.key = key := by simpa using List.find?_some found
        have other_eq : otherField.key = other := by simpa using List.find?_some foundOther
        have fields : field ≠ otherField := fun same => different (key_eq ▸ other_eq ▸ congrArg Field.key same)
        exact apart.forall (List.mem_of_find?_eq_some found) (List.mem_of_find?_eq_some foundOther) fields v w f g first
          second s

end LintBridge.Json
