import LintBridge.Server.Step

/-!
Which messages are served, and when.

What a message asks for says when the message is taken, and whether it is a request or a notification.
-/

set_option autoImplicit false
set_option relaxedAutoImplicit false

namespace LintBridge.Server

/-- When something can be asked for, and whether it takes a request. What the server does not do is asked for in
many ways. -/
def Demand.entrance? : Demand → Option (Gate × Bool)
  | .greet _ => some (.greeting, true)
  | .rest => some (.rest, true)
  | .exit => some (.parting, false)
  | .hover _ _ => some (.service, true)
  | .actions _ => some (.service, true)
  | .execute _ _ => some (.service, true)
  | .other => none
  | _ => some (.service, false)

theorem exists_of_required {α : Type} {shape : Json.Shape α} {make : α → Demand} {params : Option Json.Value}
    {d : Demand} (read : required shape make params = .ok d) : ∃ a, d = make a := by
  unfold required at read
  split at read
  · cases read
  · split at read
    · cases read
      exact ⟨_, rfl⟩
    · cases read

theorem eq_of_absent {d d' : Demand} {params : Option Json.Value} (read : absent d params = .ok d') : d' = d := by
  cases params with
  | none =>
    cases read
    rfl
  | some v => cases read

theorem handling_of_entrance? {method : String} {h : Handling} {params : Option Json.Value} {d : Demand}
    {gate : Gate} {isRequest : Bool} (known : handling? method = some h) (read : h.read params = .ok d)
    (entrance : d.entrance? = some (gate, isRequest)) : h.gate = gate ∧ h.isRequest = isRequest := by
  unfold handling? at known
  split at known
  case h_3 =>
    cases known
    obtain rfl := eq_of_absent read
    cases entrance
    exact ⟨rfl, rfl⟩
  case h_4 =>
    cases known
    cases read
    cases entrance
    exact ⟨rfl, rfl⟩
  case h_13 =>
    cases known
    cases read
    cases entrance
  case h_14 =>
    unfold unservedHandling? at known
    split at known
    · cases known
      obtain ⟨v, rfl⟩ := exists_of_required read
      cases entrance
    · split at known <;> cases known
      have read : required Json.Shape.value (fun _ => .other) params = .ok d := read
      obtain ⟨v, rfl⟩ := exists_of_required read
      cases entrance
  all_goals
    cases known
    obtain ⟨a, rfl⟩ := exists_of_required read
    cases entrance
    exact ⟨rfl, rfl⟩

/-- A message is taken in the phase for what it asks for. Only the end of the talk may come either way. -/
theorem intake_of_entrance? {p : Phase} {m : Message} {d : Demand} {gate : Gate} {isRequest : Bool}
    (taken : (p.intake m).1 = .taken d) (entrance : d.entrance? = some (gate, isRequest))
    (stays : gate ≠ .parting) :
    gate.isOpen p = true ∧ (p.intake m).2 = gate.phase p ∧ m.isRequest = isRequest := by
  unfold Phase.intake at taken ⊢
  cases known : handling? m.method with
  | none =>
    rw [known] at taken
    dsimp only at taken
    split at taken <;> cases taken
  | some h =>
    rw [known] at taken
    dsimp only at taken ⊢
    split at taken
    · rename_i isOpen
      have read : h.read m.params = .ok d ∧ m.isRequest = h.isRequest := by
        unfold Handling.intake at taken
        split at taken
        · cases taken
          cases entrance
          exact absurd rfl stays
        · split at taken
          · cases taken
          · rename_i asNotification
            split at taken
            · cases taken
            · rename_i asRequest
              split at taken
              · cases taken
              · rename_i read
                cases taken
                refine ⟨read, ?_⟩
                revert asNotification asRequest
                cases m.isRequest <;> cases h.isRequest <;> decide
      obtain ⟨rfl, rfl⟩ := handling_of_entrance? known read.1 entrance
      rw [if_pos isOpen]
      exact ⟨isOpen, rfl, read.2⟩
    · cases taken

theorem initialized_of_service {p : Phase} {m : Message} {d : Demand} {isRequest : Bool}
    (taken : (p.intake m).1 = .taken d) (entrance : d.entrance? = some (.service, isRequest)) :
    p = .initialized ∧ (p.intake m).2 = .initialized ∧ m.isRequest = isRequest := by
  obtain ⟨isOpen, phase, kind⟩ := intake_of_entrance? taken entrance (by decide)
  have initialized : p = .initialized := eq_of_beq isOpen
  exact ⟨initialized, phase.trans initialized, kind⟩

end LintBridge.Server
