import LintBridge.Proofs.Offense.Annotations

/-!
Whether a message begins with the cop's name or not, the diagnostic is the same.

A text without an opening parenthesis can stand in front of another one and takes no part in its groups
(`lastGroup?_append_left`), unless the other one begins with the parenthesis that a final space of the first one would
make a group of. So taking annotations off leaves it in front (`peel_append_left`), and what the two styles put there
is the same.
-/

set_option autoImplicit false
set_option relaxedAutoImplicit false

namespace LintBridge

namespace Annotation

variable {cop front cs : List Char}

theorem lastGroup?_append_left (closed : '(' ∉ front) (unopened : cs.head? ≠ some '(') :
    lastGroup? (front ++ cs) = (lastGroup? cs).map fun found => (front ++ found.1, found.2) := by
  cases own : lastGroup? cs with
  | some found =>
    obtain ⟨before, inner⟩ := found
    obtain ⟨blanks, rfl, fits, blank⟩ := lastGroup?_eq_some_iff.mp own
    rw [← List.append_assoc]
    exact lastGroup?_group (front ++ before) fits blank
  | none =>
    cases whole : lastGroup? (front ++ cs) with
    | none => rfl
    | some found =>
      obtain ⟨before, inner⟩ := found
      obtain ⟨blanks, split, fits, blank⟩ := lastGroup?_eq_some_iff.mp whole
      have ungrouped : ∀ before', cs ≠ before' ++ group inner blanks := by
        rintro before' rfl
        rw [lastGroup?_group before' fits blank] at own
        cases own
      obtain ⟨before', -, behind⟩ | ⟨cut, ends, begins⟩ := List.append_eq_append_iff.mp split
      · exact absurd behind (ungrouped before')
      · match cut with
        | [] => exact absurd begins.symm (ungrouped [])
        | [c] =>
          obtain ⟨-, opened⟩ := List.cons.inj begins
          have opened : '(' :: (inner ++ ')' :: blanks) = cs := opened
          exact absurd (by rw [← opened]; rfl) unopened
        | c :: d :: cut =>
          obtain ⟨-, opened⟩ := List.cons.inj begins
          obtain ⟨opens, -⟩ := List.cons.inj opened
          exact absurd (by simp [ends, ← opens]) closed

/-- What stands in front of a text, without an opening parenthesis, stays there when annotations are taken off. -/
theorem peel_append_left (closed : '(' ∉ front) (n : Nat) {s : Split} (unopened : s.excerpt.head? ≠ some '(') :
    peel cop n ⟨front ++ s.excerpt, s.link⟩ =
      ⟨front ++ (peel cop n s).excerpt, (peel cop n s).link⟩ := by
  induction n generalizing s with
  | zero => rfl
  | succ n ih =>
    rw [peel, peel, lastGroup?_append_left closed unopened]
    cases last : lastGroup? s.excerpt with
    | none => rfl
    | some found =>
      obtain ⟨before, inner⟩ := found
      obtain ⟨blanks, whole, -⟩ := lastGroup?_eq_some_iff.mp last
      have unopened' : before.head? ≠ some '(' := by
        rw [whole] at unopened
        cases before with
        | nil => simp
        | cons c rest => exact unopened
      have further := fun link => ih (s := ⟨before, link⟩) unopened'
      simp only [Option.map_some]
      split
      · exact further _
      · split
        · exact further _
        · rfl

end Annotation

namespace Offense

open Annotation

/-- The offense as a release words it that writes the cop's name into its messages. -/
def named (o : Offense) : Offense := { o with message := o.cop ++ ": " ++ o.message }

@[simp] theorem cop_named (o : Offense) : o.named.cop = o.cop := rfl

@[simp] theorem severity_named (o : Offense) : o.named.severity = o.severity := rfl

@[simp] theorem range_named (o : Offense) : o.named.range = o.range := rfl

/-- The cop's name and the message can be told apart: there is a name, no parenthesis opens in it, and the message
does not begin with one. -/
structure Nameable (o : Offense) : Prop where
  someName : o.cop ≠ ""
  closed : '(' ∉ o.cop.toList
  unopened : o.message.toList.head? ≠ some '('

theorem split_named {o : Offense} (nameable : o.Nameable) :
    split o.cop.toList o.named.message.toList =
      ⟨(o.cop ++ ": ").toList ++ (split o.cop.toList o.message.toList).excerpt,
        (split o.cop.toList o.message.toList).link⟩ := by
  have closed : '(' ∉ (o.cop ++ ": ").toList := by simp [nameable.closed]
  rw [named, String.toList_append]
  exact peel_append_left closed 2 (s := ⟨o.message.toList, none⟩) nameable.unopened

theorem toDiagnostic_named {o : Offense} (nameable : o.Nameable) (file : Path) :
    o.named.toDiagnostic .embedded file = o.toDiagnostic .separate file := by
  have someName : o.cop.isEmpty = false := by simp [nameable.someName]
  simp only [toDiagnostic, cop_named, severity_named, range_named, split_named nameable, someName, String.ofList_append,
    String.ofList_toList, and_self, if_true, reduceCtorEq, false_and, if_false]

/-- The style of messages makes no difference: an offense that comes with the cop's name in its message is shown as it
is without. So two releases of different styles that find the same offenses, and differ only in that name, lead to
the same diagnostics, whichever of them is the newer one. -/
theorem style_leaves_diagnostics (file : Path) :
    (∀ o : Offense, o.Nameable → o.named.toDiagnostic .embedded file = o.toDiagnostic .separate file) ∧
      ∀ (naming bare : String) (offenses : List Offense), MessageStyle.ofVersion naming = .embedded →
        MessageStyle.ofVersion bare = .separate → (∀ o ∈ offenses, o.Nameable) →
        diagnosticsOf naming file (offenses.map named) = diagnosticsOf bare file offenses := by
  refine ⟨fun o nameable => toDiagnostic_named nameable file, ?_⟩
  intro naming bare offenses embedded separate nameable
  rw [diagnosticsOf, diagnosticsOf, embedded, separate, List.map_map]
  exact List.map_congr_left fun o isIn => toDiagnostic_named (nameable o isIn) file

/-- An offense whose message ends in both annotations, in the midst of other parentheses. -/
def crowded : Offense where
  message := "Use 2 (not\n4 (or so) spaces. (Style/A) (https://s.t#a) "
  spot := some ⟨2, 7, 14⟩
  severity := some "warning"
  cop := "Style/A"
  corrected := false

theorem style_leaves_diagnostics_crowded :
    crowded.Nameable ∧ crowded.named.toDiagnostic .embedded ⟨"/a.rb"⟩ = crowded.toDiagnostic .separate ⟨"/a.rb"⟩ ∧
      MessageStyle.ofVersion "0.67.2" = .embedded ∧ MessageStyle.ofVersion "0.68.0" = .separate ∧
      diagnosticsOf "0.67.2" ⟨"/a.rb"⟩ [crowded.named] = diagnosticsOf "0.68.0" ⟨"/a.rb"⟩ [crowded] := by
  have nameable : crowded.Nameable := ⟨by decide, by decide, by decide⟩
  have all : ∀ o ∈ [crowded], o.Nameable := List.forall_mem_singleton.mpr nameable
  have embedded : MessageStyle.ofVersion "0.67.2" = .embedded := by decide
  have separate : MessageStyle.ofVersion "0.68.0" = .separate := by decide
  obtain ⟨one, many⟩ := style_leaves_diagnostics ⟨"/a.rb"⟩
  exact ⟨nameable, one crowded nameable, embedded, separate, many _ _ [crowded] embedded separate all⟩

end Offense
end LintBridge
