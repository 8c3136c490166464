import LintBridge.Offense.Diagnostic

/-!
The range of an offense.

A report counts lines and columns from one, a range counts them from zero. Lowering a number stops at zero, so a lowered
number is never the largest one and can be raised again. The range of an offense stays on its line, where the order of
places is the order of columns.
-/

set_option autoImplicit false
set_option relaxedAutoImplicit false

namespace LintBridge

/-! ### Numbers of 32 bits -/

theorem toNat_lowered (n : UInt32) : (lowered n).toNat = n.toNat - 1 := by
  unfold lowered
  split
  · rename_i zero
    subst zero
    rfl
  · rename_i some
    have one : 1 ≤ n := by
      rw [UInt32.le_iff_toNat_le]
      have positive : n.toNat ≠ 0 := fun zero => some (UInt32.toNat_inj.mp zero)
      exact Nat.one_le_iff_ne_zero.mpr positive
    exact UInt32.toNat_sub_of_le n 1 one

theorem toNat_cappedSum (a b : UInt32) :
    (cappedSum a b).toNat = min (a.toNat + b.toNat) 4294967295 := by
  unfold cappedSum
  split
  · rename_i small
    rw [UInt32.toNat_add, Nat.mod_eq_of_lt small]
    omega
  · rename_i large
    show 4294967295 = _
    omega

/-- A lowered number can be raised again: the sum does not run over. -/
theorem toNat_lowered_add_one (n : UInt32) : (lowered n + 1).toNat = (lowered n).toNat + 1 := by
  have bound := n.toNat_lt
  have one : (1 : UInt32).toNat = 1 := rfl
  rw [UInt32.toNat_add, toNat_lowered, one, Nat.mod_eq_of_lt (by omega)]

theorem lowered_add_one (n : UInt32) : (lowered n).toNat + 1 = max n.toNat 1 := by
  rw [toNat_lowered]
  omega

/-! ### Places in a range -/

theorem Position.upTo_iff {p q : Position} :
    p.upTo q = true ↔ p.line < q.line ∨ p.line = q.line ∧ p.column ≤ q.column := by
  simp [Position.upTo]

theorem Range.contains_iff {r : Range} (oneLine : r.start.line = r.stop.line) {p : Position} :
    r.contains p = true ↔ p.line = r.start.line ∧ r.start.column ≤ p.column ∧ p.column ≤ r.stop.column := by
  rw [Range.contains, Bool.and_eq_true, Position.upTo_iff, Position.upTo_iff, ← oneLine]
  constructor
  · rintro ⟨below | ⟨same, left⟩, above | ⟨same', right⟩⟩
    · exact absurd above (UInt32.lt_asymm below)
    · exact absurd (same' ▸ below) (UInt32.lt_irrefl _)
    · exact absurd (same ▸ above) (UInt32.lt_irrefl _)
    · exact ⟨same', left, right⟩
  · rintro ⟨same, left, right⟩
    exact ⟨.inr ⟨same.symm, left⟩, .inr ⟨same, right⟩⟩

namespace Offense

variable (o : Offense)

/-- Where an offense is, line and column counted from one. An offense without a place is at the top of its file. -/
def place : Nat × Nat := o.spot.elim (1, 1) fun s => (max s.line.toNat 1, max s.column.toNat 1)

def width : Nat := o.spot.elim 1 fun s => s.length.toNat

theorem range_oneLine : o.range.start.line = o.range.stop.line := by
  rw [range]
  cases o.spot <;> rfl

theorem range_start :
    (o.range.start.line.toNat + 1, o.range.start.column.toNat + 1) = o.place := by
  rw [range, place]
  cases o.spot with
  | none => rfl
  | some s => exact Prod.ext (lowered_add_one s.line) (lowered_add_one s.column)

theorem range_start_add_one :
    (o.range.start.line + 1).toNat = o.range.start.line.toNat + 1 ∧
      (o.range.start.column + 1).toNat = o.range.start.column.toNat + 1 := by
  rw [range]
  cases o.spot with
  | none => exact ⟨rfl, rfl⟩
  | some s => exact ⟨toNat_lowered_add_one s.line, toNat_lowered_add_one s.column⟩

theorem range_stop : o.range.stop.column.toNat = min (o.range.start.column.toNat + o.width) 4294967295 := by
  rw [range, width]
  cases o.spot with
  | none => rfl
  | some s => exact toNat_cappedSum (lowered s.column) s.length

theorem range_start_le_stop : o.range.start.column ≤ o.range.stop.column := by
  have bound := o.range.start.column.toNat_lt
  rw [UInt32.le_iff_toNat_le, range_stop]
  omega

end Offense

end LintBridge
