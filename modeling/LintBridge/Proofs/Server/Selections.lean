import LintBridge.Proofs.Offense.Ranges
import LintBridge.Server.Present

/-!
What the ranges that the server publishes select in a document.

A client reads a position as a line and a number of UTF-16 code units before it on that line, since the server
announces no other encoding. Reports count columns in characters, and the server passes these numbers on. The two
meet as long as no character up to the end of the range takes two units.
-/

set_option autoImplicit false
set_option relaxedAutoImplicit false

namespace LintBridge.Server

open Json (Value)

/-! ### How a client reads a position -/

/-- How many UTF-16 code units a character takes. -/
def unitsOf (c : Char) : Nat := if c.toNat < 0x10000 then 1 else 2

/-- How many characters come before a number of code units. That number counts as the end of the line if it is larger,
and it may not lie inside a character. -/
def charactersBefore? : Nat → List Char → Option Nat
  | 0, _ => some 0
  | _ + 1, [] => some 0
  | n + 1, c :: cs =>
    if unitsOf c ≤ n + 1 then (charactersBefore? (n + 1 - unitsOf c) cs).map (· + 1) else none

/-- The lines of a document. A line ends in a line feed, a carriage return, or both. -/
def documentLines : List Char → List (List Char)
  | [] => [[]]
  | '\r' :: '\n' :: cs => [] :: documentLines cs
  | c :: cs =>
    if c = '\n' ∨ c = '\r' then [] :: documentLines cs
    else
      match documentLines cs with
      | [] => [[c]]
      | line :: lines => (c :: line) :: lines

def natural? : Value → Option Nat
  | .number (.integer (.ofNat n)) => some n
  | _ => none

/-- The line and the character of it at which a position stands. -/
def placeOf? (document : String) (position : Value) : Option (Nat × Nat) := do
  let line ← position.get? "line" >>= natural?
  let units ← position.get? "character" >>= natural?
  let cs ← (documentLines document.toList)[line]?
  (charactersBefore? units cs).map fun column => (line, column)

def selection? (document : String) (range : Value) : Option ((Nat × Nat) × (Nat × Nat)) := do
  let start ← range.get? "start" >>= placeOf? document
  (range.get? "end" >>= placeOf? document).map fun stop => (start, stop)

def selected? (document : String) (d : Diagnostic) : Option ((Nat × Nat) × (Nat × Nat)) :=
  (diagnosticJson d).get? "range" >>= selection? document

/-! ### Characters and units -/

theorem unitsOf_pos (c : Char) : 0 < unitsOf c := by
  unfold unitsOf
  split <;> decide

private theorem charactersBefore?_le {n m : Nat} {cs : List Char} (read : charactersBefore? n cs = some m) : m ≤ n := by
  induction cs generalizing n m with
  | nil =>
    cases n <;> cases read <;> exact Nat.zero_le _
  | cons c cs ih =>
    cases n with
    | zero =>
      cases read
      exact Nat.zero_le _
    | succ n =>
      rw [charactersBefore?] at read
      split at read
      · obtain ⟨k, rest, rfl⟩ := Option.map_eq_some_iff.mp read
        have shorter := ih rest
        have takes := unitsOf_pos c
        omega
      · cases read

/-- Units and characters agree up to a place exactly if each character before it takes one unit. -/
theorem charactersBefore?_eq_self_iff {n : Nat} {cs : List Char} (inside : n ≤ cs.length) :
    charactersBefore? n cs = some n ↔ ∀ c ∈ cs.take n, unitsOf c = 1 := by
  induction cs generalizing n with
  | nil =>
    have zero : n = 0 := Nat.le_zero.mp inside
    subst zero
    simp [charactersBefore?]
  | cons c cs ih =>
    cases n with
    | zero => simp [charactersBefore?]
    | succ n =>
      have inside' : n ≤ cs.length := Nat.le_of_succ_le_succ inside
      rw [List.take_succ_cons, List.forall_mem_cons, charactersBefore?]
      by_cases single : unitsOf c = 1
      · rw [if_pos (by omega), single, Nat.add_sub_cancel]
        simp [ih inside']
      · have double : 2 ≤ unitsOf c := by
          have takes := unitsOf_pos c
          omega
        simp only [single, false_and, iff_false]
        intro read
        split at read
        · obtain ⟨k, rest, same⟩ := Option.map_eq_some_iff.mp read
          have shorter := charactersBefore?_le rest
          omega
        · cases read

/-! ### What is published -/

private theorem get?_range (d : Diagnostic) : (diagnosticJson d).get? "range" = some (rangeJson d.range) := by
  rw [diagnosticJson, Value.get?_ofMembers]
  cases d.cop <;> cases link? d <;> simp [Json.lookupMember_cons]

private theorem placeOf?_positionJson (document : String) (p : Position) :
    placeOf? document (positionJson p) =
      (documentLines document.toList)[p.line.toNat]?.bind fun cs =>
        (charactersBefore? p.column.toNat cs).map fun column => (p.line.toNat, column) := by
  have line : (positionJson p).get? "line" = some (number p.line.toNat) := by
    rw [positionJson, Value.get?_ofMembers]
    rfl
  have units : (positionJson p).get? "character" = some (number p.column.toNat) := by
    rw [positionJson, Value.get?_ofMembers]
    rfl
  simp only [placeOf?, line, units, bind, Option.bind_some, number, natural?]

private theorem selected?_eq (document : String) (d : Diagnostic) :
    selected? document d =
      (placeOf? document (positionJson d.range.start)).bind fun start =>
        (placeOf? document (positionJson d.range.stop)).map fun stop => (start, stop) := by
  have start : (rangeJson d.range).get? "start" = some (positionJson d.range.start) := by
    rw [rangeJson, Value.get?_ofMembers]
    rfl
  have stop : (rangeJson d.range).get? "end" = some (positionJson d.range.stop) := by
    rw [rangeJson, Value.get?_ofMembers]
    rfl
  simp only [selected?, get?_range, selection?, bind, Option.bind_some, start, stop]

/-- For an offense on a line of a document, the client selects exactly the characters that the report means if and
only if none of the characters up to the end of them takes two code units, and that end can be counted. -/
theorem selected?_eq_some_iff (style : MessageStyle) (file : Path) (document : String) (o : Offense) (s : Spot)
    (line : List Char) (located : o.spot = some s)
    (onLine : (documentLines document.toList)[s.line.toNat - 1]? = some line)
    (inside : s.column.toNat - 1 + s.length.toNat ≤ line.length) :
    selected? document (o.toDiagnostic style file) =
        some ((s.line.toNat - 1, s.column.toNat - 1), (s.line.toNat - 1, s.column.toNat - 1 + s.length.toNat)) ↔
      (∀ c ∈ line.take (s.column.toNat - 1 + s.length.toNat), unitsOf c = 1) ∧
        s.column.toNat - 1 + s.length.toNat < 4294967296 := by
  have range : (o.toDiagnostic style file).range = s.range := by simp [Offense.toDiagnostic, Offense.range, located]
  generalize first : s.column.toNat - 1 = a at inside ⊢
  have read : selected? document (o.toDiagnostic style file) =
      (charactersBefore? a line).bind fun start =>
        (charactersBefore? (min (a + s.length.toNat) 4294967295) line).map fun stop =>
          ((s.line.toNat - 1, start), (s.line.toNat - 1, stop)) := by
    rw [selected?_eq, range, placeOf?_positionJson, placeOf?_positionJson]
    simp only [Spot.range, toNat_lowered, toNat_cappedSum, onLine, first, Option.bind_some, Option.bind_map,
      Option.map_map, Function.comp_def]
  rw [read]
  constructor
  · intro selects
    obtain ⟨start, before, rest⟩ := Option.bind_eq_some_iff.mp selects
    obtain ⟨stop, upTo, same⟩ := Option.map_eq_some_iff.mp rest
    cases same
    have counted := charactersBefore?_le upTo
    have uncapped : min (a + s.length.toNat) 4294967295 = a + s.length.toNat := by omega
    rw [uncapped] at upTo
    exact ⟨(charactersBefore?_eq_self_iff inside).mp upTo, by omega⟩
  · rintro ⟨single, counted⟩
    have uncapped : min (a + s.length.toNat) 4294967295 = a + s.length.toNat := by omega
    have upTo : charactersBefore? (a + s.length.toNat) line = some (a + s.length.toNat) :=
      (charactersBefore?_eq_self_iff inside).mpr single
    have before : charactersBefore? a line = some a := by
      apply (charactersBefore?_eq_self_iff (by omega)).mpr
      intro c isIn
      apply single c
      have shorter : line.take a = (line.take (a + s.length.toNat)).take a := by
        rw [List.take_take, Nat.min_eq_left (Nat.le_add_right _ _)]
      rw [shorter] at isIn
      exact List.mem_of_mem_take isIn
    rw [uncapped, upTo, before]
    rfl

/-- A document whose first line has a character of two units. Its second line has none. -/
def twoLines : String := "p \"😀\"\r\nputs 'é'\n"

def offenseAt (s : Spot) : Offense := { Offense.empty with message := "Wrong quotes.", spot := some s }

theorem selected?_eq_some_iff_secondLine :
    (documentLines twoLines.toList)[1]? = some "puts 'é'".toList ∧
      selected? twoLines ((offenseAt ⟨2, 6, 3⟩).toDiagnostic .separate ⟨"/a.rb"⟩) = some ((1, 5), (1, 8)) := by
  have onLine : (documentLines twoLines.toList)[1]? = some "puts 'é'".toList := by decide
  have all : ("puts 'é'".toList.take 8).all (unitsOf · == 1) = true := by decide
  have single : ∀ c ∈ "puts 'é'".toList.take 8, unitsOf c = 1 := fun c isIn =>
    beq_iff_eq.mp (List.all_eq_true.mp all c isIn)
  have inside : (6 : UInt32).toNat - 1 + (3 : UInt32).toNat ≤ "puts 'é'".toList.length := by decide
  have selects := selected?_eq_some_iff .separate ⟨"/a.rb"⟩ twoLines (offenseAt ⟨2, 6, 3⟩) ⟨2, 6, 3⟩ "puts 'é'".toList
    rfl onLine inside
  exact ⟨onLine, selects.mpr ⟨single, by decide⟩⟩

/-- Of the three characters that a report means on the first line, the client selects two. -/
theorem selection_may_fall_short :
    selected? twoLines ((offenseAt ⟨1, 3, 3⟩).toDiagnostic .separate ⟨"/a.rb"⟩) = some ((0, 2), (0, 4)) ∧
      ¬ ∀ (style : MessageStyle) (file : Path) (document : String) (o : Offense) (s : Spot) (line : List Char),
        o.spot = some s → 1 ≤ s.line.toNat → 1 ≤ s.column.toNat →
        (documentLines document.toList)[s.line.toNat - 1]? = some line →
        s.column.toNat - 1 + s.length.toNat ≤ line.length →
        selected? document (o.toDiagnostic style file) =
          some ((s.line.toNat - 1, s.column.toNat - 1),
            (s.line.toNat - 1, s.column.toNat - 1 + s.length.toNat)) := by
  have short : selected? twoLines ((offenseAt ⟨1, 3, 3⟩).toDiagnostic .separate ⟨"/a.rb"⟩) =
      some ((0, 2), (0, 4)) := by decide
  refine ⟨short, ?_⟩
  intro exactly
  have three := exactly .separate ⟨"/a.rb"⟩ twoLines (offenseAt ⟨1, 3, 3⟩) ⟨1, 3, 3⟩ "p \"😀\"".toList rfl
    (by decide) (by decide) (by decide) (by decide)
  rw [short] at three
  exact absurd three (by decide)

end LintBridge.Server
