import LintBridge.Offense.Diagnostic
import LintBridge.Proofs.Version.Grammar

/-!
The style of a version's messages follows its numbers, however they are spelled.

A version is read in two ways, one after the other, and some texts can be read in both. There the two agree
(`semantic?_eq_padded?`): digits between dots have no room for identifiers. So it is enough to know what the second way
makes of a spelling of three numbers (`Spells`), and the rest is the order of the numbers.
-/

set_option autoImplicit false
set_option relaxedAutoImplicit false

namespace LintBridge.Version

open Text (numeral)

variable {cs t front rest : List Char} {s : String} {v w : Version} {a b c x y z : UInt64}

/-! ### Numbers between dots -/

theorem dotted_of_not_mem (free : '.' ∉ front) : dotted front = [front] := by
  rw [dotted_eq_splitOn, List.splitOn_eq_singleton free]

theorem dotted_append_cons (free : '.' ∉ front) (rest : List Char) :
    dotted (front ++ '.' :: rest) = front :: dotted rest := by
  rw [dotted_eq_splitOn, dotted_eq_splitOn, List.splitOn_append_cons_self_of_not_mem free]

theorem dotted_append (free : '.' ∉ front) (rest : List Char) :
    dotted (front ++ rest) = (dotted rest).modifyHead (front ++ ·) := by
  induction front with
  | nil => exact (congrFun List.modifyHead_id (dotted rest)).symm
  | cons c front ih =>
    obtain ⟨other, free⟩ := not_or.mp (mt List.mem_cons.mpr free)
    rw [List.cons_append, dotted, Text.splitWhere, ← dotted, if_neg (by simpa using Ne.symm other), ih free]
    cases parts : dotted rest with
    | nil => exact absurd parts (dotted_ne_nil rest)
    | cons part parts => rfl

theorem dot_not_mem_numeral (zeros n : Nat) : '.' ∉ numeral zeros n := by
  intro isIn
  have isDigit := Text.isDigit_of_mem_numeral isIn
  cases isDigit

theorem padded?_eq_none_iff : padded? cs = none ↔ ∃ part ∈ (dotted cs).take 3, number? part = none := by
  have few : ((dotted cs).take 3).length ≤ 3 := List.length_take_le 3 _
  have some : (dotted cs).take 3 ≠ [] := by simp [dotted_ne_nil]
  rw [padded?.eq_def]
  generalize (dotted cs).take 3 = parts at few some ⊢
  match parts with
  | [] => exact absurd rfl some
  | [x] =>
    dsimp only
    cases isX : number? x <;> simp [isX]
  | [x, y] =>
    dsimp only
    cases isX : number? x <;> cases isY : number? y <;> simp [isX, isY]
  | [x, y, z] =>
    dsimp only
    cases isX : number? x <;> cases isY : number? y <;> cases isZ : number? z <;> simp [isX, isY, isZ]
  | x :: y :: z :: u :: parts => exact absurd few (by simp)

/-- The spellings of three numbers: up to three groups of digits with dots between them, where zeros may stand in front
of the digits, a missing number is zero, and after another dot anything may follow. -/
inductive Spells : List Char → UInt64 → UInt64 → UInt64 → Prop
  | one (i : Nat) (a : UInt64) : Spells (numeral i a.toNat) a 0 0
  | two (i j : Nat) (a b : UInt64) : Spells (numeral i a.toNat ++ '.' :: numeral j b.toNat) a b 0
  | three (i j k : Nat) (a b c : UInt64) :
      Spells (numeral i a.toNat ++ '.' :: (numeral j b.toNat ++ '.' :: numeral k c.toNat)) a b c
  | more (i j k : Nat) (a b c : UInt64) (rest : List Char) :
      Spells (numeral i a.toNat ++ '.' :: (numeral j b.toNat ++ '.' :: (numeral k c.toNat ++ '.' :: rest))) a b c

theorem number?_numeral (zeros : Nat) (n : UInt64) : number? (numeral zeros n.toNat) = some n.toNat :=
  number?_eq_some_iff.mpr ⟨Nat.le_of_lt_succ n.toNat_lt, zeros, .inl rfl⟩

theorem padded?_of_spells (spells : Spells cs a b c) : padded? cs = some ⟨a.toNat, b.toNat, c.toNat, []⟩ := by
  cases spells with
  | one i => simp [padded?, dotted_of_not_mem, dot_not_mem_numeral, number?_numeral]
  | two i j => simp [padded?, dotted_append_cons, dotted_of_not_mem, dot_not_mem_numeral, number?_numeral]
  | three i j k => simp [padded?, dotted_append_cons, dotted_of_not_mem, dot_not_mem_numeral, number?_numeral]
  | more i j k a b c rest => simp [padded?, dotted_append_cons, dot_not_mem_numeral, number?_numeral]

/-! ### The two ways to read a version -/

theorem isDigit_of_mem_tail {n : Nat} {d : Char} (reads : number? cs = some n) (isIn : d ∈ cs.tail) :
    d.isDigit = true := by
  obtain ⟨-, zeros, rfl | rfl⟩ := number?_eq_some_iff.mp reads
  · exact Text.isDigit_of_mem_numeral (List.mem_of_mem_tail isIn)
  · exact Text.isDigit_of_mem_numeral isIn

theorem number?_eq_none {digits : List Char} {mark : Char} (some : digits ≠ []) (other : mark.isDigit = false)
    (rest : List Char) : number? (digits ++ mark :: rest) = none := by
  rw [Option.eq_none_iff_forall_ne_some]
  intro n reads
  have isDigit : mark.isDigit = true := by
    refine isDigit_of_mem_tail reads ?_
    rw [List.tail_append_of_ne_nil some]
    simp
  rw [other] at isDigit
  cases isDigit

theorem core_eq (v : Version) :
    core v = numeral 0 v.major ++ '.' :: (numeral 0 v.minor ++ '.' :: numeral 0 v.patch) := by
  simp [core, List.intercalate_cons_cons]

theorem marked_eq_nil_iff {mark : Char} {ids : List (List Char)} : marked mark ids = [] ↔ ids = [] := by
  rw [marked]
  split
  · simp [*]
  · simp [*]

theorem not_digit_of_marks {pre build : List (List Char)} {mark : Char}
    (tail : marked '-' pre ++ marked '+' build = mark :: rest) : mark.isDigit = false ∧ mark ≠ '.' := by
  rw [marked, marked] at tail
  split at tail
  · split at tail
    · cases tail
    · obtain ⟨rfl, -⟩ := List.cons.inj tail
      decide
  · obtain ⟨rfl, -⟩ := List.cons.inj tail
    decide

theorem padded?_core_append {mark : Char} (other : mark.isDigit = false) (dot : mark ≠ '.') (v : Version)
    (rest : List Char) : padded? (core v ++ mark :: rest) = none := by
  have undotted : '.' ∉ [mark] := by simpa using Ne.symm dot
  have joins : dotted (mark :: rest) = (dotted rest).modifyHead (mark :: ·) := dotted_append undotted rest
  rw [padded?_eq_none_iff, core_eq, List.append_assoc, List.cons_append, List.append_assoc, List.cons_append,
    dotted_append_cons (dot_not_mem_numeral 0 _), dotted_append_cons (dot_not_mem_numeral 0 _),
    dotted_append (dot_not_mem_numeral 0 _), joins]
  cases parts : dotted rest with
  | nil => exact absurd parts (dotted_ne_nil rest)
  | cons part parts =>
    exact ⟨_, by simp, number?_eq_none (Text.numeral_ne_nil 0 v.patch) other part⟩

theorem exists_toNat {n : Nat} (bound : n ≤ maxNumber) : ∃ a : UInt64, a.toNat = n :=
  ⟨UInt64.ofNat n, UInt64.toNat_ofNat_of_lt (Nat.lt_succ_of_le bound)⟩

theorem padded?_core (bounds : ∀ n ∈ [v.major, v.minor, v.patch], n ≤ maxNumber) :
    padded? (core v) = some ⟨v.major, v.minor, v.patch, []⟩ := by
  obtain ⟨a, isMajor⟩ := exists_toNat (bounds v.major (by simp))
  obtain ⟨b, isMinor⟩ := exists_toNat (bounds v.minor (by simp))
  obtain ⟨c, isPatch⟩ := exists_toNat (bounds v.patch (by simp))
  rw [core_eq, ← isMajor, ← isMinor, ← isPatch]
  exact padded?_of_spells (.three 0 0 0 a b c)

/-- Where a text can be read in both ways, they agree. -/
theorem semantic?_eq_padded? (isSemantic : semantic? cs = some v) (isPadded : padded? cs = some w) : v = w := by
  obtain ⟨bounds, -, build, -, rfl⟩ := semantic?_eq_some_iff.mp isSemantic
  rw [List.append_assoc] at isPadded
  cases tail : marked '-' v.prerelease ++ marked '+' build with
  | nil =>
    have plain : v.prerelease = [] := marked_eq_nil_iff.mp (List.append_eq_nil_iff.mp tail).1
    rw [tail, List.append_nil, padded?_core bounds, ← plain] at isPadded
    exact Option.some.inj isPadded
  | cons mark rest =>
    obtain ⟨other, dot⟩ := not_digit_of_marks tail
    rw [tail, padded?_core_append other dot] at isPadded
    cases isPadded

/-! ### What stands around a version -/

/-- What is left of a string without the blanks around it, and then without the letters `v` in front. -/
def Bare (s : String) (cs : List Char) : Prop :=
  ∃ vs, Text.Trims s.toList (List.replicate vs 'v' ++ cs) ∧ cs.head? ≠ some 'v'

/-- A string is a text with letters `v` in front of it, and with blanks around both. -/
def Frames (s : String) (cs : List Char) : Prop :=
  ∃ before vs after, s.toList = before ++ (List.replicate vs 'v' ++ (cs ++ after)) ∧
    (∀ c ∈ before, Text.isBlank c = true) ∧ ∀ c ∈ after, Text.isBlank c = true

theorem parse?_of_bare (bare : Bare s cs) : parse? s = (semantic? cs).or (padded? cs) := by
  obtain ⟨vs, trims, starts⟩ := bare
  have letters : ∀ c ∈ List.replicate vs 'v', (c == 'v') = true := fun c isIn => by simp [List.eq_of_mem_replicate isIn]
  have rest : cs.dropWhile (· == 'v') = cs := by
    cases cs with
    | nil => rfl
    | cons c cs => exact List.dropWhile_cons_of_neg (by simpa using starts)
  simp only [parse?, trims.eq, List.dropWhile_append_of_pos letters, rest]

theorem isBlank_of_isDigit {d : Char} (isDigit : d.isDigit = true) : Text.isBlank d = false :=
  Text.isBlank_of_isAlphanum (by simp [Char.isAlphanum, isDigit])

theorem bare_of_frames (frames : Frames s cs) (starts : ∃ d ds, cs = d :: ds ∧ d.isDigit = true) :
    Bare s (Text.dropTrailingBlanks cs) := by
  obtain ⟨before, vs, after, whole, blank, blank'⟩ := frames
  obtain ⟨d, ds, rfl, isDigit⟩ := starts
  have visible := isBlank_of_isDigit isDigit
  have letters : ∀ c ∈ List.replicate vs 'v', Text.isBlank c = false := fun c isIn => by
    rw [List.eq_of_mem_replicate isIn]
    rfl
  refine ⟨vs, Text.trims_iff.mpr ?_, ?_⟩
  · rw [whole, Text.dropBlanks_append_of_blank blank, Text.dropBlanks_of_starts, ← List.append_assoc,
      Text.dropTrailingBlanks_append_of_blank blank', Text.dropTrailingBlanks_append_of_ends]
    · exact fun c isLast => letters c (List.mem_of_getLast? isLast)
    · intro c isHead
      cases vs with
      | zero => exact Option.some.inj isHead ▸ visible
      | succ vs => exact letters c (Option.some.inj isHead ▸ List.mem_cons_self)
  · rw [Text.dropTrailingBlanks_cons visible]
    intro isLetter
    rw [Option.some.inj isLetter] at isDigit
    cases isDigit

theorem dropTrailingBlanks_numeral_append (zeros n : Nat) (rest : List Char) :
    Text.dropTrailingBlanks (numeral zeros n ++ rest) = numeral zeros n ++ Text.dropTrailingBlanks rest :=
  Text.dropTrailingBlanks_append_of_ends fun _ isLast =>
    isBlank_of_isDigit (Text.isDigit_of_mem_numeral (List.mem_of_getLast? isLast))

theorem dropTrailingBlanks_numeral (zeros n : Nat) : Text.dropTrailingBlanks (numeral zeros n) = numeral zeros n := by
  simpa [Text.dropTrailingBlanks] using dropTrailingBlanks_numeral_append zeros n []

theorem dropTrailingBlanks_dot (rest : List Char) :
    Text.dropTrailingBlanks ('.' :: rest) = '.' :: Text.dropTrailingBlanks rest := Text.dropTrailingBlanks_cons rfl rest

theorem Spells.trimmed (spells : Spells cs a b c) : Spells (Text.dropTrailingBlanks cs) a b c := by
  cases spells with
  | one i =>
    rw [dropTrailingBlanks_numeral]
    exact .one i a
  | two i j =>
    rw [dropTrailingBlanks_numeral_append, dropTrailingBlanks_dot, dropTrailingBlanks_numeral]
    exact .two i j a b
  | three i j k =>
    simp only [dropTrailingBlanks_numeral_append, dropTrailingBlanks_dot, dropTrailingBlanks_numeral]
    exact .three i j k a b c
  | more i j k a b c rest =>
    simp only [dropTrailingBlanks_numeral_append, dropTrailingBlanks_dot]
    exact .more i j k a b c _

theorem exists_numeral_append_eq_cons (zeros n : Nat) (rest : List Char) :
    ∃ d ds, numeral zeros n ++ rest = d :: ds ∧ d.isDigit = true := by
  obtain ⟨d, ds, same⟩ := List.exists_cons_of_ne_nil (Text.numeral_ne_nil zeros n)
  have isDigit : d.isDigit = true := Text.isDigit_of_mem_numeral (by rw [same]; exact List.mem_cons_self)
  exact ⟨d, ds ++ rest, by rw [same, List.cons_append], isDigit⟩

theorem Spells.starts (spells : Spells cs a b c) : ∃ d ds, cs = d :: ds ∧ d.isDigit = true := by
  cases spells with
  | one i =>
    rw [← List.append_nil (numeral i a.toNat)]
    exact exists_numeral_append_eq_cons ..
  | two i j => exact exists_numeral_append_eq_cons ..
  | three i j k => exact exists_numeral_append_eq_cons ..
  | more i j k => exact exists_numeral_append_eq_cons ..

theorem parse?_of_spells (frames : Frames s cs) (spells : Spells cs a b c) :
    parse? s = some ⟨a.toNat, b.toNat, c.toNat, []⟩ := by
  have isPadded := padded?_of_spells spells.trimmed
  rw [parse?_of_bare (bare_of_frames frames spells.starts), isPadded]
  cases isSemantic : semantic? (Text.dropTrailingBlanks cs) with
  | none => rfl
  | some v => exact congrArg some (semantic?_eq_padded? isSemantic isPadded)

theorem Written.visible (written : v.Written cs) {d : Char} (isIn : d ∈ cs) : Text.isBlank d = false := by
  obtain ⟨-, prerelease, build, builds, rfl⟩ := written
  by_contra blank
  have other : d.isAlphanum = false := by
    by_contra letter
    exact blank (Text.isBlank_of_isAlphanum (by simpa using letter))
  have dot : d ≠ '.' := fun same => blank (by rw [same]; rfl)
  have minus : d ≠ '-' := fun same => blank (by rw [same]; rfl)
  have plus : d ≠ '+' := fun same => blank (by rw [same]; rfl)
  have notDigit : d.isDigit = false := by
    simp only [Char.isAlphanum, Bool.or_eq_false_iff] at other
    exact other.2
  rcases List.mem_append.mp isIn with isIn | isIn
  · rcases List.mem_append.mp isIn with isIn | isIn
    · exact not_mem_core v dot notDigit isIn
    · exact not_mem_marked minus dot (fun id isId => not_mem_of_isBuild (prerelease id isId).1 other minus) isIn
  · exact not_mem_marked plus dot (fun id isId => not_mem_of_isBuild (builds id isId) other minus) isIn

theorem parse?_of_written (frames : Frames s cs) (written : v.Written cs) : parse? s = some v := by
  have kept := Text.dropTrailingBlanks_of_ends fun c isLast => written.visible (List.mem_of_getLast? isLast)
  have starts : ∃ d ds, cs = d :: ds ∧ d.isDigit = true := by
    obtain ⟨-, -, build, -, rfl⟩ := written
    rw [core_eq, List.append_assoc, List.append_assoc]
    exact exists_numeral_append_eq_cons ..
  have bare := bare_of_frames frames starts
  rw [kept] at bare
  rw [parse?_of_bare bare, semantic?_eq_some_iff.mpr written]
  rfl

/-! ### The order of the numbers -/

theorem triple_lt_iff : [a, b, c] < [x, y, z] ↔ a < x ∨ a = x ∧ (b < y ∨ b = y ∧ c < z) := by
  simp [List.cons_lt_cons_iff]

theorem numbersBefore_iff :
    numbersBefore (a.toNat, b.toNat, c.toNat) (x.toNat, y.toNat, z.toNat) = true ↔ [a, b, c] < [x, y, z] := by
  rw [triple_lt_iff, numbersBefore]
  simp only [UInt64.lt_iff_toNat_lt, ← UInt64.toNat_inj]
  split_ifs <;> simp_all

theorem isBefore_release :
    isBefore ⟨a.toNat, b.toNat, c.toNat, []⟩ (x.toNat, y.toNat, z.toNat) = true ↔ [a, b, c] < [x, y, z] := by
  simp [isBefore, numbers, numbersBefore_iff]

theorem isBefore_prerelease {ids : List (List Char)} (some : ids ≠ []) :
    isBefore ⟨a.toNat, b.toNat, c.toNat, ids⟩ (x.toNat, y.toNat, z.toNat) = true ↔ [a, b, c] ≤ [x, y, z] := by
  rw [List.le_iff_lt_or_eq, ← numbersBefore_iff]
  simp [isBefore, numbers, some, UInt64.toNat_inj]

theorem ofVersion_eq_embedded_iff (reads : parse? s = some v) :
    MessageStyle.ofVersion s = .embedded ↔ ¬ v.isBefore embeddedFrom = true ∧ v.isBefore embeddedUntil = true := by
  rw [MessageStyle.ofVersion, reads]
  cases isFrom : v.isBefore embeddedFrom <;> cases isUntil : v.isBefore embeddedUntil <;> simp [isFrom, isUntil]

/-- A number of 64 bits: digits, with a plus sign or without, and with any zeros in front. -/
def IsNumber (cs : List Char) : Prop :=
  ∃ zeros, ∃ n : UInt64, cs = numeral zeros n.toNat ∨ cs = '+' :: numeral zeros n.toNat

theorem number?_eq_none_iff : number? cs = none ↔ ¬ IsNumber cs := by
  rw [Option.eq_none_iff_forall_ne_some, ← not_exists]
  refine not_congr ⟨fun ⟨n, reads⟩ => ?_, fun ⟨zeros, n, isNumber⟩ => ?_⟩
  · obtain ⟨bound, zeros, isNumber⟩ := number?_eq_some_iff.mp reads
    obtain ⟨m, rfl⟩ := exists_toNat bound
    exact ⟨zeros, m, isNumber⟩
  · exact ⟨n.toNat, number?_eq_some_iff.mpr ⟨Nat.le_of_lt_succ n.toNat_lt, zeros, isNumber⟩⟩

/-- The style of the messages follows the numbers of the version. However these are spelled, and whatever blanks and
letters `v` are around them, the name is in the message from 0.52.0 on and before 0.68.0. A version before a release has
the release's numbers and comes just before it. A text that is no semantic version is no version at all if one of its
first three parts is no number. -/
theorem style_follows_numbers (s : String) :
    (∀ cs a b c, Frames s cs → Spells cs a b c →
      (MessageStyle.ofVersion s = .embedded ↔ [0, 52, 0] ≤ [a, b, c] ∧ [a, b, c] < [0, 68, 0])) ∧
    (∀ cs (a b c : UInt64) ids, Frames s cs → Written ⟨a.toNat, b.toNat, c.toNat, ids⟩ cs → ids ≠ [] →
      (MessageStyle.ofVersion s = .embedded ↔ [0, 52, 0] < [a, b, c] ∧ [a, b, c] ≤ [0, 68, 0])) ∧
    ∀ cs, Bare s cs → (¬ ∃ v, Written v cs) → (∃ part ∈ (cs.splitOn '.').take 3, ¬ IsNumber part) →
      MessageStyle.ofVersion s = .separate := by
  refine ⟨fun cs a b c frames spells => ?_, fun cs a b c ids frames written some => ?_,
    fun cs bare unwritten other => ?_⟩
  · have fromRelease := isBefore_release (a := a) (b := b) (c := c) (x := 0) (y := 52) (z := 0)
    have untilRelease := isBefore_release (a := a) (b := b) (c := c) (x := 0) (y := 68) (z := 0)
    rw [ofVersion_eq_embedded_iff (parse?_of_spells frames spells), ← List.not_lt]
    exact and_congr (not_congr fromRelease) untilRelease
  · have fromRelease := isBefore_prerelease (a := a) (b := b) (c := c) (x := 0) (y := 52) (z := 0) some
    have untilRelease := isBefore_prerelease (a := a) (b := b) (c := c) (x := 0) (y := 68) (z := 0) some
    rw [ofVersion_eq_embedded_iff (parse?_of_written frames written), ← List.not_le]
    exact and_congr (not_congr fromRelease) untilRelease
  · obtain ⟨part, isPart, noNumber⟩ := other
    have notSemantic : semantic? cs = none := by
      rw [Option.eq_none_iff_forall_ne_some]
      exact fun v reads => unwritten ⟨v, semantic?_eq_some_iff.mp reads⟩
    have notPadded : padded? cs = none := by
      rw [padded?_eq_none_iff, dotted_eq_splitOn]
      exact ⟨part, isPart, number?_eq_none_iff.mpr noNumber⟩
    rw [MessageStyle.ofVersion, parse?_of_bare bare, notSemantic, notPadded]
    rfl

theorem style_follows_spelled_numbers :
    MessageStyle.ofVersion " vv00.060.7.x-1\n" = .embedded ∧ MessageStyle.ofVersion "0.68.0-rc.1" = .embedded ∧
      MessageStyle.ofVersion "v0.6x.0" = .separate := by
  refine ⟨?_, ?_, ?_⟩
  · refine ((style_follows_numbers " vv00.060.7.x-1\n").1 "00.060.7.x-1".toList 0 60 7 ?_ ?_).mpr (by decide)
    · exact ⟨[' '], 2, ['\n'], by decide, List.forall_mem_singleton.mpr rfl, List.forall_mem_singleton.mpr rfl⟩
    · exact .more 1 1 0 0 60 7 "x-1".toList
  · have prerelease : ∀ id ∈ ["rc".toList, "1".toList], IsPrerelease id := fun id isIn =>
      isPrereleaseIdentifier_iff.mp (List.all_eq_true.mp (by decide) id isIn)
    have written : Written ⟨0, 68, 0, ["rc".toList, "1".toList]⟩ "0.68.0-rc.1".toList :=
      ⟨by decide, prerelease, [], by simp, by decide⟩
    exact ((style_follows_numbers "0.68.0-rc.1").2.1 "0.68.0-rc.1".toList 0 68 0 _
      ⟨[], 0, [], rfl, List.forall_mem_nil _, List.forall_mem_nil _⟩ written (by simp)).mpr (by decide)
  · have unwritten : ¬ ∃ v, Written v "0.6x.0".toList := by
      rintro ⟨v, written⟩
      have reads := semantic?_eq_some_iff.mpr written
      have unread : semantic? "0.6x.0".toList = none := by decide
      rw [unread] at reads
      cases reads
    have bare : Bare "v0.6x.0" "0.6x.0".toList :=
      ⟨1, Text.trims_iff.mpr (by decide), by decide⟩
    exact (style_follows_numbers "v0.6x.0").2.2 "0.6x.0".toList bare unwritten
      ⟨"6x".toList, by decide, number?_eq_none_iff.mp (by decide)⟩

end LintBridge.Version
