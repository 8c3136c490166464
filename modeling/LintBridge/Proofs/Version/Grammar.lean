import LintBridge.Proofs.Text.Numerals
import LintBridge.Proofs.Text.Trimming
import LintBridge.Version

/-!
The texts that are semantic versions.

The reader cuts a text at its marks and looks at the parts. The grammar goes the other way: `Written` puts a text
together from the numbers and the identifiers. The two are the same (`semantic?_eq_some_iff`), since no part has a mark
that comes after it.
-/

set_option autoImplicit false
set_option relaxedAutoImplicit false

namespace LintBridge.Version

open Text (numeral)

variable {cs ds front id : List Char} {n : Nat}

/-! ### Numbers -/

theorem ofDigits_eq (ds : List Char) : ofDigits ds = Nat.ofDigitChars 10 ds 0 := by
  simp only [ofDigits, Nat.ofDigitChars, Nat.mul_comm]

theorem digits?_eq_some_iff : digits? ds = some n ↔ n ≤ maxNumber ∧ ∃ zeros, ds = numeral zeros n := by
  rw [digits?, ofDigits_eq]
  constructor
  · intro reads
    split at reads
    · rename_i fits
      obtain ⟨some, digits, bound⟩ := fits
      obtain rfl := Option.some.inj reads
      exact ⟨bound, Text.exists_eq_numeral (List.all_eq_true.mp digits) some⟩
    · cases reads
  · rintro ⟨bound, zeros, rfl⟩
    rw [Text.ofDigitChars_numeral, if_pos]
    exact ⟨Text.numeral_ne_nil zeros n, List.all_eq_true.mpr fun d isIn => Text.isDigit_of_mem_numeral isIn, bound⟩

theorem plainNumber?_eq_some_iff : plainNumber? ds = some n ↔ n ≤ maxNumber ∧ ds = Nat.toDigits 10 n := by
  rw [plainNumber?]
  constructor
  · intro reads
    split at reads
    · cases reads
    · rename_i unpadded
      obtain ⟨bound, zeros, rfl⟩ := digits?_eq_some_iff.mp reads
      have shortest := (Text.eq_toDigits_iff (fun d isIn => Text.isDigit_of_mem_numeral isIn)
        (Text.numeral_ne_nil zeros n)).mpr unpadded
      rw [Text.ofDigitChars_numeral] at shortest
      exact ⟨bound, shortest⟩
  · rintro ⟨bound, rfl⟩
    have digits : ∀ d ∈ Nat.toDigits 10 n, d.isDigit = true := fun d isIn =>
      Nat.isDigit_of_mem_toDigits (by decide) (by decide) isIn
    have unpadded := (Text.eq_toDigits_iff digits Nat.toDigits_ne_nil).mp (by rw [Nat.ofDigitChars_ten_toDigits])
    exact (if_neg unpadded).trans (digits?_eq_some_iff.mpr ⟨bound, 0, rfl⟩)

theorem not_plus_numeral (zeros n : Nat) (ds : List Char) : numeral zeros n ≠ '+' :: ds := by
  intro same
  have isIn : '+' ∈ numeral zeros n := by simp [same]
  have isDigit := Text.isDigit_of_mem_numeral isIn
  cases isDigit

theorem number?_eq_some_iff :
    number? cs = some n ↔ n ≤ maxNumber ∧ ∃ zeros, cs = numeral zeros n ∨ cs = '+' :: numeral zeros n := by
  rw [number?.eq_def]
  split
  · rename_i ds
    rw [digits?_eq_some_iff]
    refine and_congr_right fun _ => exists_congr fun zeros => ?_
    constructor
    · exact fun same => .inr (congrArg _ same)
    · rintro (same | same)
      · exact absurd same.symm (not_plus_numeral zeros n ds)
      · exact List.tail_eq_of_cons_eq same
  · rename_i ds unsigned
    rw [digits?_eq_some_iff]
    refine and_congr_right fun _ => exists_congr fun zeros => ?_
    exact (or_iff_left fun same => unsigned _ same).symm

/-! ### Identifiers -/

/-- One of the identifiers after a plus sign: letters, digits and minus signs, at least one of them. -/
def IsBuild (id : List Char) : Prop := id ≠ [] ∧ ∀ c ∈ id, c.isAlphanum = true ∨ c = '-'

/-- One of the identifiers after a minus sign: a number there is in its shortest digits. -/
def IsPrerelease (id : List Char) : Prop :=
  IsBuild id ∧ ((∀ c ∈ id, c.isDigit = true) → ∃ n, id = Nat.toDigits 10 n)

theorem isBuildIdentifier_iff : isBuildIdentifier id = true ↔ IsBuild id := by
  simp [isBuildIdentifier, isIdentifierChar, IsBuild]

theorem isPrereleaseIdentifier_iff : isPrereleaseIdentifier id = true ↔ IsPrerelease id := by
  rw [isPrereleaseIdentifier, Bool.and_eq_true, isBuildIdentifier_iff, IsPrerelease]
  refine and_congr_right fun build => ?_
  have padded : (id.all Char.isDigit && decide (2 ≤ id.length) && id.head? == some '0') = true ↔
      (∀ c ∈ id, c.isDigit = true) ∧ 2 ≤ id.length ∧ id.head? = some '0' := by simp [and_assoc]
  rw [Bool.not_eq_true', Bool.eq_false_iff, Ne, padded, not_and]
  refine forall_congr' fun digits => ?_
  rw [← Text.eq_toDigits_iff digits build.1]
  constructor
  · exact fun shortest => ⟨_, shortest⟩
  · rintro ⟨n, rfl⟩
    rw [Nat.ofDigitChars_ten_toDigits]

/-! ### Marks -/

theorem cutAt_eq_iff {sep : Char} {rest : Option (List Char)} :
    cutAt sep cs = (front, rest) ↔ cs = front ++ rest.elim [] (sep :: ·) ∧ sep ∉ front := by
  constructor
  · intro cut
    obtain ⟨rfl, rfl⟩ := Prod.mk.inj cut
    have parted := List.takeWhile_append_dropWhile (p := (· != sep)) (l := cs)
    have stops := List.head?_dropWhile_not (· != sep) cs
    refine ⟨?_, fun isIn => by simpa using List.mem_takeWhile_imp isIn⟩
    generalize cs.dropWhile (· != sep) = after at parted stops ⊢
    match after with
    | [] => exact parted.symm
    | c :: rest =>
      have isSep : c = sep := by simpa using stops
      subst isSep
      exact parted.symm
  · rintro ⟨rfl, free⟩
    have passes : ∀ c ∈ front, (c != sep) = true := fun c isIn => bne_iff_ne.mpr fun same => free (same ▸ isIn)
    rw [cutAt, List.takeWhile_append_of_pos passes, List.dropWhile_append_of_pos passes]
    cases rest with
    | none => simp
    | some rest => simp

/-- Identifiers after a mark, which is there only if they are. -/
def marked (mark : Char) (ids : List (List Char)) : List Char :=
  if ids = [] then [] else mark :: ['.'].intercalate ids

theorem dotted_eq_splitOn (cs : List Char) : dotted cs = cs.splitOn '.' := Text.splitWhere_eq_splitOnP _ cs

theorem dotted_intercalate {parts : List (List Char)} (free : ∀ part ∈ parts, '.' ∉ part) (some : parts ≠ []) :
    dotted (['.'].intercalate parts) = parts := by
  rw [dotted_eq_splitOn, List.splitOn_intercalate '.' free some]

theorem intercalate_dotted (cs : List Char) : ['.'].intercalate (dotted cs) = cs := by
  rw [dotted_eq_splitOn, List.intercalate_splitOn]

theorem dotted_ne_nil (cs : List Char) : dotted cs ≠ [] := by
  rw [dotted_eq_splitOn]
  exact List.splitOnP_ne_nil _ cs

theorem marked_dotted (mark : Char) (rest : Option (List Char)) :
    marked mark (rest.elim [] dotted) = rest.elim [] (mark :: ·) := by
  cases rest with
  | none => rfl
  | some cs => exact (if_neg (dotted_ne_nil cs)).trans (congrArg _ (intercalate_dotted cs))

theorem exists_cutAt_marked {mark : Char} {ids : List (List Char)} (free : mark ∉ front)
    (undotted : ∀ id ∈ ids, '.' ∉ id) :
    ∃ rest, cutAt mark (front ++ marked mark ids) = (front, rest) ∧ rest.elim [] dotted = ids := by
  by_cases none : ids = []
  · subst none
    exact ⟨Option.none, cutAt_eq_iff.mpr ⟨rfl, free⟩, rfl⟩
  · refine ⟨some (['.'].intercalate ids), cutAt_eq_iff.mpr ⟨?_, free⟩, dotted_intercalate undotted none⟩
    rw [marked, if_neg none]
    rfl

theorem not_mem_of_isBuild {c : Char} (build : IsBuild id) (other : c.isAlphanum = false) (sign : c ≠ '-') :
    c ∉ id := by
  intro isIn
  rcases build.2 c isIn with letter | minus
  · rw [other] at letter
    cases letter
  · exact sign minus

theorem not_mem_intercalate {c : Char} {parts : List (List Char)} (dot : c ≠ '.') (free : ∀ part ∈ parts, c ∉ part) :
    c ∉ ['.'].intercalate parts := by
  match parts with
  | [] => exact List.not_mem_nil
  | [part] =>
    rw [List.intercalate_singleton]
    exact free part (by simp)
  | part :: next :: parts =>
    rw [List.intercalate_cons_cons, List.mem_append, List.mem_append, not_or, not_or, List.mem_singleton]
    have rest := not_mem_intercalate dot fun part isPart => free part (List.mem_cons_of_mem _ isPart)
    exact ⟨⟨free part (by simp), dot⟩, rest⟩

theorem not_mem_marked {c mark : Char} {ids : List (List Char)} (other : c ≠ mark) (dot : c ≠ '.')
    (free : ∀ id ∈ ids, c ∉ id) : c ∉ marked mark ids := by
  rw [marked]
  split
  · exact List.not_mem_nil
  · rw [List.mem_cons, not_or]
    exact ⟨other, not_mem_intercalate dot free⟩

/-! ### The grammar -/

def core (v : Version) : List Char := ['.'].intercalate ([v.major, v.minor, v.patch].map (Nat.toDigits 10))

/-- A text is a semantic version: three numbers in their shortest digits with dots between them, then identifiers after
a minus sign, then identifiers after a plus sign, either of which may be missing. -/
structure Written (v : Version) (cs : List Char) : Prop where
  bounds : ∀ n ∈ [v.major, v.minor, v.patch], n ≤ maxNumber
  prerelease : ∀ id ∈ v.prerelease, IsPrerelease id
  text : ∃ build, (∀ id ∈ build, IsBuild id) ∧ cs = core v ++ marked '-' v.prerelease ++ marked '+' build

theorem not_mem_core {c : Char} (v : Version) (dot : c ≠ '.') (other : c.isDigit = false) : c ∉ core v := by
  refine not_mem_intercalate dot fun part isPart isIn => ?_
  obtain ⟨n, -, rfl⟩ := List.mem_map.mp isPart
  have isDigit := Nat.isDigit_of_mem_toDigits (by decide) (by decide) isIn
  rw [other] at isDigit
  cases isDigit

theorem dotted_core (v : Version) : dotted (core v) = [v.major, v.minor, v.patch].map (Nat.toDigits 10) := by
  refine dotted_intercalate (fun part isPart isIn => ?_) (by simp)
  obtain ⟨n, -, rfl⟩ := List.mem_map.mp isPart
  have isDigit := Nat.isDigit_of_mem_toDigits (by decide) (by decide) isIn
  cases isDigit

theorem core_of_dotted {v : Version} (parts : dotted cs = [v.major, v.minor, v.patch].map (Nat.toDigits 10)) :
    cs = core v := by
  rw [core, ← parts, intercalate_dotted]

section
variable {v : Version}

theorem written_of_semantic? (reads : semantic? cs = some v) : v.Written cs := by
  cases cut : cutAt '+' cs with
  | mk head build =>
  cases cut' : cutAt '-' head with
  | mk digits pre =>
  simp only [semantic?, cut, cut'] at reads
  split at reads
  · rename_i a b c parts
    simp only [Option.bind_eq_bind, Option.bind_eq_some_iff] at reads
    obtain ⟨major, isMajor, minor, isMinor, patch, isPatch, reads⟩ := reads
    split at reads
    · rename_i fits
      obtain rfl := Option.some.inj reads
      rw [Bool.and_eq_true, List.all_eq_true, List.all_eq_true] at fits
      obtain ⟨smallMajor, rfl⟩ := plainNumber?_eq_some_iff.mp isMajor
      obtain ⟨smallMinor, rfl⟩ := plainNumber?_eq_some_iff.mp isMinor
      obtain ⟨smallPatch, rfl⟩ := plainNumber?_eq_some_iff.mp isPatch
      refine ⟨by simp [smallMajor, smallMinor, smallPatch], fun id isIn => ?_, build.elim [] dotted,
        fun id isIn => ?_, ?_⟩
      · exact isPrereleaseIdentifier_iff.mp (fits.1 id isIn)
      · exact isBuildIdentifier_iff.mp (fits.2 id isIn)
      · have isCore := core_of_dotted (v := ⟨major, minor, patch, pre.elim [] dotted⟩) parts
        rw [marked_dotted, marked_dotted, ← isCore, ← (cutAt_eq_iff.mp cut').1, ← (cutAt_eq_iff.mp cut).1]
    · cases reads
  · cases reads

/-- The cuts find the marks of the grammar again: no minus sign is in the numbers, and no plus sign in front of its
own. -/
theorem semantic?_of_written (written : v.Written cs) : semantic? cs = some v := by
  obtain ⟨bounds, prerelease, build, builds, rfl⟩ := written
  have minusless : '-' ∉ core v := not_mem_core v (by decide) rfl
  have plusless : '+' ∉ core v ++ marked '-' v.prerelease := by
    rw [List.mem_append, not_or]
    refine ⟨not_mem_core v (by decide) rfl, not_mem_marked (by decide) (by decide) fun id isIn => ?_⟩
    exact not_mem_of_isBuild (prerelease id isIn).1 rfl (by decide)
  obtain ⟨rest, cut, isBuild⟩ := exists_cutAt_marked plusless fun id isIn =>
    not_mem_of_isBuild (builds id isIn) rfl (by decide)
  obtain ⟨pre, cut', isPre⟩ := exists_cutAt_marked minusless fun id isIn =>
    not_mem_of_isBuild (prerelease id isIn).1 rfl (by decide)
  have plain : ∀ n ∈ [v.major, v.minor, v.patch], plainNumber? (Nat.toDigits 10 n) = some n := fun n isIn =>
    plainNumber?_eq_some_iff.mpr ⟨bounds n isIn, rfl⟩
  have fits : (v.prerelease.all isPrereleaseIdentifier && build.all isBuildIdentifier) = true := by
    rw [Bool.and_eq_true, List.all_eq_true, List.all_eq_true]
    exact ⟨fun id isIn => isPrereleaseIdentifier_iff.mpr (prerelease id isIn),
      fun id isIn => isBuildIdentifier_iff.mpr (builds id isIn)⟩
  simp only [semantic?, cut, cut', dotted_core, List.map_cons, List.map_nil, isBuild, isPre, fits, if_true]
  rw [plain v.major (by simp), plain v.minor (by simp), plain v.patch (by simp)]
  rfl

/-- The reader takes exactly the texts of the grammar. -/
theorem semantic?_eq_some_iff : semantic? cs = some v ↔ v.Written cs := ⟨written_of_semantic?, semantic?_of_written⟩

end

end LintBridge.Version
