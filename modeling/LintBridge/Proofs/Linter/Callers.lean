import LintBridge.Proofs.Linter.Takers

/-!
What a call may do about its key, from one event to the next.

`step_cases` says once what an event may do to the calls, and the rest follows from it: what a call seeks or holds
it has been called for (`Accounted`). None of this depends on how many calls there have been.
-/

set_option autoImplicit false
set_option relaxedAutoImplicit false

namespace LintBridge.Session

variable {s : Session} {known : List (Nat × Task)} {around : Surroundings} {e : SessionEvent} {n m : Nat}
  {k : String} {t : Ticket} {history : History}

/-- What each call seeks or holds, it has been called for. -/
structure Accounted (known : List (Nat × Task)) (s : Session) : Prop where
  called : ∀ n a, s.call? n = some a → n ∈ known.map Prod.fst
  seeks : ∀ n k, s.keyOf? n = some k → ∃ task, (n, task) ∈ known ∧ task.key? = some k
  holds : ∀ n t, s.ticketOf? n = some t → ∃ task, (n, task) ∈ known ∧ task.key? = some t.key

/-- What an event may do to the calls: one of them takes a step, or none does and all is as before. -/
theorem step_cases (around : Surroundings) (accounted : Accounted known s) (fits : s.Allows known e) :
    (∃ m p key file keys, m ∈ (begun e ++ known).map Prod.fst ∧ (s.step around e).1 = (s.settle m p).1 ∧
      Activity.Follows s.linter.registry (s.ticketOf? m) key file p.state p.linter.registry keys ∧
      s.claim? e = key.map (·, m)) ∨
    (∀ n a, (s.step around e).1.call? n = some a → s.call? n = some a) ∧
      (s.step around e).1.linter.registry = s.linter.registry := by
  cases e with
  | call m task =>
    obtain ⟨keys, follows⟩ := Activity.follows_start around task s.linter
    have idle : s.ticketOf? m = none := by rw [ticketOf?, absent_of_called accounted.called fits, Option.bind_none]
    exact .inl ⟨m, _, _, _, keys, List.mem_cons_self, rfl, idle ▸ follows, rfl⟩
  | signal m signal =>
    cases found : s.call? m with
    | none =>
      have stays : (s.step around (.signal m signal)).1 = s := by rw [step, ← call?, found]
      exact .inr ⟨fun n a after => stays ▸ after, by rw [stays]⟩
    | some a =>
      obtain ⟨keys, follows⟩ := Activity.follows_step around signal a s.linter
      have stepped : (s.step around (.signal m signal)).1 = (s.settle m (a.step around signal s.linter)).1 := by
        rw [step, ← call?, found]
      have ticket : s.ticketOf? m = a.ticket? := by rw [ticketOf?, found, Option.bind_some]
      have claim : s.claim? (.signal m signal) = a.key?.map (·, m) := by
        rw [claim?, keyOf?, found, Option.bind_some]
      exact .inl ⟨m, _, _, _, keys, accounted.called m a found, stepped, ticket ▸ follows, claim⟩
  | forget m =>
    refine .inr ⟨?_, rfl⟩
    intro n a after
    rw [call?_forget] at after
    split at after
    · cases after
    · exact after
  | configure c => exact .inr ⟨fun _ _ found => found, rfl⟩
  | setRoot root => exact .inr ⟨fun _ _ found => found, rfl⟩
  | remember dir bundled => exact .inr ⟨fun _ _ found => found, rfl⟩

theorem keyOf?_step (accounted : Accounted known s) (fits : s.Allows known e)
    (may : (s.step around e).1.keyOf? n = some k) : s.keyOf? n = some k ∨ s.claim? e = some (k, n) := by
  rcases step_cases around accounted fits with ⟨m, p, key, file, keys, -, stepped, follows, claim⟩ | ⟨calls, -⟩
  · rw [stepped, keyOf?_settle] at may
    split at may
    · rename_i same
      subst same
      rw [claim, (follows.asks k may).2]
      exact .inr rfl
    · exact .inl may
  · obtain ⟨a, found, may⟩ := Option.bind_eq_some_iff.mp may
    exact .inl (by rw [keyOf?, calls n a found, Option.bind_some, may])

theorem ticketOf?_step (accounted : Accounted known s) (fits : s.Allows known e)
    (holds : (s.step around e).1.ticketOf? n = some t) :
    s.ticketOf? n = some t ∨ s.claim? e = some (t.key, n) := by
  rcases step_cases around accounted fits with ⟨m, p, key, file, keys, -, stepped, follows, claim⟩ | ⟨calls, -⟩
  · rw [stepped, ticketOf?_settle] at holds
    split at holds
    · rename_i same
      subst same
      have deals := follows.deals
      rw [holds] at deals
      rcases deals.of_some with held | rfl
      · exact .inl held
      · rw [claim, follows.keyed t.key List.mem_cons_self]
        exact .inr rfl
    · exact .inl holds
  · obtain ⟨a, found, holds⟩ := Option.bind_eq_some_iff.mp holds
    exact .inl (by rw [ticketOf?, calls n a found, Option.bind_some, holds])

namespace Accounted

private theorem task_of_claim (accounted : Accounted known s) (claim : s.claim? e = some (k, n)) :
    ∃ task, (n, task) ∈ begun e ++ known ∧ task.key? = some k := by
  cases e with
  | call m task =>
    obtain ⟨k', asks, eq⟩ := Option.map_eq_some_iff.mp claim
    cases eq
    exact ⟨task, List.mem_cons_self, asks⟩
  | signal m signal =>
    obtain ⟨k', may, eq⟩ := Option.map_eq_some_iff.mp claim
    cases eq
    exact accounted.seeks n k may
  | _ => cases claim

theorem step (accounted : Accounted known s) (around : Surroundings) (fits : s.Allows known e) :
    Accounted (begun e ++ known) (s.step around e).1 where
  called n a found := by
    rcases step_cases around accounted fits with ⟨m, p, key, file, keys, isKnown, stepped, -⟩ | ⟨calls, -⟩
    · rw [stepped, call?_settle] at found
      split at found
      · rename_i same
        exact same ▸ isKnown
      · rw [List.map_append]
        exact List.mem_append_right _ (accounted.called n a found)
    · rw [List.map_append]
      exact List.mem_append_right _ (accounted.called n a (calls n a found))
  seeks n k may := by
    rcases keyOf?_step accounted fits may with may | claim
    · obtain ⟨task, isKnown, asks⟩ := accounted.seeks n k may
      exact ⟨task, List.mem_append_right _ isKnown, asks⟩
    · exact accounted.task_of_claim claim
  holds n t holds := by
    rcases ticketOf?_step accounted fits holds with held | claim
    · obtain ⟨task, isKnown, asks⟩ := accounted.holds n t held
      exact ⟨task, List.mem_append_right _ isKnown, asks⟩
    · exact accounted.task_of_claim claim

/-- What every event that fits preserves is preserved by a proper history. -/
theorem invariant {Inv : Session → Prop}
    (preserved : ∀ {known s} around e, Accounted known s → s.Allows known e → Inv s →
      Inv (s.step around e).1)
    (accounted : Accounted known s) (proper : s.Proper known history) (inv : Inv s) : Inv (s.after history) := by
  induction history generalizing s known with
  | nil => exact inv
  | cons moment rest ih =>
    obtain ⟨around, e⟩ := moment
    obtain ⟨fits, proper⟩ := proper
    exact ih (accounted.step around fits) proper (preserved around e accounted fits inv)

theorem after (accounted : Accounted known s) (proper : s.Proper known history) :
    Accounted ((allBegun history).reverse ++ known) (s.after history) := by
  induction history generalizing s known with
  | nil => exact accounted
  | cons moment rest ih =>
    obtain ⟨around, e⟩ := moment
    obtain ⟨fits, proper⟩ := proper
    have reversed : (begun e).reverse = begun e := by cases e <;> rfl
    have final := ih (accounted.step around fits) proper
    simp only [allBegun, List.flatMap_cons, List.reverse_append, reversed, List.append_assoc]
    exact final

end Accounted

theorem accounted_ofLinter (l : Linter) : Accounted [] (ofLinter l) where
  called n a found := by cases found
  seeks n k may := by cases may
  holds n t holds := by cases holds

end LintBridge.Session
