import LintBridge.Proofs.Server.Parts

/-!
What becomes of a piece of work while others take their steps.

A piece of work that a message has given rise to stays as it is until a signal for it comes. Only the end of the
talk may come before that: then a request is given up and answered so. `Numbered` is what every history keeps of
the numbers and the phase, and what that takes.
-/

set_option autoImplicit false
set_option relaxedAutoImplicit false

namespace LintBridge.Server

def Deed.reply? (n : Nat) : Deed → Option Reply
  | .answer m reply => if m = n then some reply else none
  | _ => none

/-- The answers to a message in what has been done. -/
def replies (n : Nat) (done : List (Nat × Deed)) : List Reply := done.filterMap fun p => p.2.reply? n

theorem replies_append (n : Nat) (first second : List (Nat × Deed)) :
    replies n (first ++ second) = replies n first ++ replies n second := List.filterMap_append

theorem replies_doneAt (n : Nat) (s : Server) (around : Surroundings) (e : Event) :
    replies n (s.doneAt around e) = (s.step around e).deeds.filterMap (Deed.reply? n) := by
  rw [replies, doneAt, List.filterMap_map]
  rfl

/-! ### Phases -/

section
variable {s : Server} {e : Event}

theorem Gate.speaks_phase {gate : Gate} {p : Phase} (isOpen : gate.isOpen p = true) (speaks : p.speaks = true) :
    (gate.phase p).speaks = true := by
  cases gate with
  | greeting =>
    rw [eq_of_beq isOpen] at speaks
    cases speaks
  | rest => rfl
  | _ => exact speaks

theorem speaks_phaseAt (speaks : s.phase.speaks = true) : (s.phaseAt e).speaks = true := by
  cases e with
  | message m =>
    have talking : s.phase ≠ .exited := by
      intro exited
      rw [exited] at speaks
      cases speaks
    have phase : s.phaseAt (.message m) = (s.phase.intake m).2 := if_neg talking
    rw [phase]
    unfold Phase.intake
    cases handling? m.method with
    | none => exact speaks
    | some h =>
      dsimp only
      split
      · rename_i isOpen
        exact Gate.speaks_phase isOpen speaks
      · exact speaks
  | _ => exact speaks

theorem speaks_step (around : Surroundings) (stays : s.demand? e ≠ some .exit)
    (speaks : (s.phaseAt e).speaks = true) : (s.step around e).server.phase.speaks = true := by
  rcases (part_step around stays).phase with same | ⟨greets, -⟩
  · rw [same]
    exact speaks
  · have greets : s.phaseAt e = .initializing := greets
    rw [greets] at speaks
    cases speaks

theorem unasked_of_exited (exited : s.phase = .exited) (e : Event) : s.demand? e = none := by
  cases e with
  | message m => exact if_pos exited
  | _ => rfl

theorem exited_step (around : Surroundings) (exited : s.phase = .exited) :
    (s.step around e).server.phase = .exited := by
  have unasked := unasked_of_exited exited e
  have phase : s.phaseAt e = .exited := by
    cases e with
    | message m => exact if_pos exited
    | _ => exact exited
  rcases (part_step around (by rw [unasked]; simp)).phase with same | ⟨greets, -⟩
  · exact same.trans phase
  · cases phase.symm.trans greets

theorem stays_of_talking {around : Surroundings} (talking : (s.step around e).server.phase ≠ .exited) :
    s.demand? e ≠ some .exit :=
  fun exits => talking (step_of_exit around exits).1

theorem speaks_of_opens {d : Demand} {u : Url} (asked : s.demand? e = some d) (opens : d.opens u = true) :
    (s.phaseAt e).speaks = true := by
  obtain ⟨m, rfl, talking, taken⟩ := taken_of_demand asked
  have entrance : d.entrance? = some (.service, false) := by
    cases d with
    | opened d => rfl
    | edited e => rfl
    | _ => cases opens
  have phase : s.phaseAt (.message m) = (s.phase.intake m).2 := if_neg talking
  rw [phase, (initialized_of_service taken entrance).2.1]
  rfl

end

/-! ### Numbers -/

/-- What every history keeps: timers have numbers that are given, no two pieces of work have the same one, and no
document is open before the client may be told about it. -/
structure Numbered (s : Server) : Prop where
  timers : ∀ n t, (n, t) ∈ s.timers → n < s.next
  once : (Keyed.keys s.jobs).Nodup
  opens : s.phase.speaks = true ∨ s.phase = .exited ∨ ∀ u, s.documents.isOpen u = false

section
variable {s : Server}

private theorem numbered_timers (numbered : Numbered s) (around : Surroundings) (e : Event) {n : Nat} {t : Timer}
    (isIn : (n, t) ∈ (s.step around e).server.timers) : n < (s.step around e).server.next := by
  have frame := (frame_step around s e).next
  have older : (n, t) ∈ s.timers → n < (s.step around e).server.next := fun isIn =>
    Nat.lt_of_lt_of_le (numbered.timers n t isIn) frame.1
  by_cases exits : s.demand? e = some .exit
  · rw [(step_of_exit around exits).2.2.1] at isIn
    exact older isIn
  · rw [(part_step around exits).timers] at isIn
    have isIn : (n, t) ∈ s.timersAt around e := isIn
    unfold timersAt at isIn
    split at isIn
    · exact older (Keyed.mem_of_mem_erase isIn)
    · cases asked : s.demand? e with
      | none =>
        rw [asked] at isIn
        exact older isIn
      | some d =>
        rw [asked, Option.elim_some] at isIn
        unfold Demand.timed at isIn
        split at isIn
        · split at isIn
          · exact older isIn
          · rcases List.mem_append.mp isIn with isIn | isIn
            · exact older isIn
            · cases List.mem_singleton.mp isIn
              exact frame.2 _ asked
        · exact older isIn

private theorem numbered_once (numbered : Numbered s) (around : Surroundings) (e : Event) :
    (Keyed.keys (s.step around e).server.jobs).Nodup := by
  by_cases exits : s.demand? e = some .exit
  · rw [(step_of_exit around exits).2.2.2.1]
    exact numbered.once.sublist (List.filter_sublist.map _)
  · exact (part_step around exits).once numbered.once

theorem Numbered.closed_of_silent (numbered : Numbered s) (around : Surroundings) {e : Event}
    (talking : s.phase ≠ .exited) (silent : (s.phaseAt e).speaks ≠ true) (u : Url) :
    (s.step around e).server.documents.isOpen u = false := by
  have isClosed : s.documents.isOpen u = false := by
    rcases numbered.opens with speaks | exited | isClosed
    · exact absurd (speaks_phaseAt speaks) silent
    · exact absurd exited talking
    · exact isClosed u
  rw [isOpen_step]
  cases asked : s.demand? e with
  | none => exact isClosed
  | some d =>
    have unopened : d.opens u = false := by
      cases opens : d.opens u with
      | false => rfl
      | true => exact absurd (speaks_of_opens asked opens) silent
    simp [unopened, isClosed]

private theorem numbered_opens (numbered : Numbered s) (around : Surroundings) (e : Event) :
    (s.step around e).server.phase.speaks = true ∨ (s.step around e).server.phase = .exited ∨
      ∀ u, (s.step around e).server.documents.isOpen u = false := by
  by_cases exits : s.demand? e = some .exit
  · exact .inr (.inl (step_of_exit around exits).1)
  · by_cases exited : s.phase = .exited
    · exact .inr (.inl (exited_step around exited))
    · by_cases speaks : (s.phaseAt e).speaks = true
      · exact .inl (speaks_step around exits speaks)
      · exact .inr (.inr (numbered.closed_of_silent around exited speaks))

theorem Numbered.step (numbered : Numbered s) (around : Surroundings) (e : Event) :
    Numbered (s.step around e).server where
  timers _ _ isIn := numbered_timers numbered around e isIn
  once := numbered_once numbered around e
  opens := numbered_opens numbered around e

theorem numbered_fresh : Numbered fresh where
  timers n t isIn := by cases isIn
  once := List.nodup_nil
  opens := .inr (.inr fun _ => rfl)

theorem numbered_after (history : History) : Numbered (fresh.after history) :=
  stays_after (fun numbered around e => numbered.step around e) history numbered_fresh

end

/-! ### Waiting -/

/-- The number of a message that has set no timer. -/
structure Untimed (n : Nat) (s : Server) : Prop where
  given : n < s.next
  timers : Keyed.get? n s.timers = none

section
variable {s : Server} {n : Nat} {e : Event}

theorem Untimed.step (untimed : Untimed n s) (around : Surroundings) (e : Event) :
    Untimed n (s.step around e).server where
  given := Nat.lt_of_lt_of_le untimed.given (frame_step around s e).next.1
  timers := by
    by_cases exits : s.demand? e = some .exit
    · rw [(step_of_exit around exits).2.2.1]
      exact untimed.timers
    · rw [(part_step around exits).timers]
      change Keyed.get? n (s.timersAt around e) = none
      unfold timersAt
      split
      · rw [Keyed.get?_erase, untimed.timers, ite_self]
      · cases s.demand? e with
        | none => exact untimed.timers
        | some d =>
          rw [Option.elim_some]
          unfold Demand.timed
          split
          · split
            · exact untimed.timers
            · have other : s.next ≠ n := (Nat.ne_of_lt untimed.given).symm
              rw [Keyed.get?_append, untimed.timers]
              simp [Keyed.get?, other]
          · exact untimed.timers

theorem untimed_of_demand (numbered : Numbered s) (around : Surroundings) {d : Demand} (asked : s.demand? e = some d)
    (setsNone : d.timed around s.next s.timers = s.timers) : Untimed s.next (s.step around e).server where
  given := (frame_step around s e).next.2 d asked
  timers := by
    have absent : Keyed.get? s.next s.timers = none :=
      Keyed.get?_eq_none_of_forall fun t isIn => Nat.lt_irrefl _ (numbered.timers s.next t isIn)
    by_cases exits : s.demand? e = some .exit
    · rw [(step_of_exit around exits).2.2.1]
      exact absent
    · obtain ⟨m, rfl, -⟩ := served_of_demand around asked
      rw [(part_step around exits).timers]
      change Keyed.get? s.next (s.timersAt around (.message m)) = none
      simp only [timersAt, asked, Option.elim_some, setsNone]
      exact absent

theorem Untimed.unworked (untimed : Untimed n s) (around : Surroundings)
    (unsignalled : ∀ signal, e ≠ .signal n signal) : s.worker e ≠ n ∨ s.step around e = .quiet s := by
  cases e with
  | message m => exact .inl (Nat.ne_of_lt untimed.given).symm
  | signal m signal =>
    refine .inl fun same => ?_
    have same : m = n := same
    exact unsignalled signal (same ▸ rfl)
  | elapse m =>
    by_cases same : m = n
    · subst same
      simp only [Server.step, elapse, untimed.timers]
      exact .inr trivial
    · exact .inl same

theorem Untimed.undone (untimed : Untimed n s) (around : Surroundings)
    (unsignalled : ∀ signal, e ≠ .signal n signal) (d : Deed) : (n, d) ∉ s.doneAt around e := by
  intro isIn
  obtain ⟨d', isDeed, eq⟩ := List.mem_map.mp isIn
  cases eq
  rcases untimed.unworked around unsignalled with other | quiet
  · exact other rfl
  · rw [quiet] at isDeed
    cases isDeed

private theorem given_up (around : Surroundings) (once : (Keyed.keys s.jobs).Nodup)
    (exits : s.demand? e = some .exit) (n : Nat) :
    Keyed.get? n (s.step around e).server.jobs = (Keyed.get? n s.jobs).filter (fun j => !j.isRequest) ∧
      replies n (s.doneAt around e) =
        (((Keyed.get? n s.jobs).filter Job.isRequest).map fun _ => .error .cancelled).toList := by
  obtain ⟨-, -, -, jobs, deeds⟩ := step_of_exit around exits
  rw [replies_doneAt, jobs, deeds]
  refine ⟨Keyed.get?_filter (fun j => !j.isRequest) n once, ?_⟩
  have waited : (Keyed.keys (s.jobs.filter fun p => p.2.isRequest)).Nodup :=
    once.sublist (List.filter_sublist.map _)
  rw [← Keyed.get?_filter Job.isRequest n once, ← Keyed.filterMap_key _ n waited, List.filterMap_map]
  rfl

/-- While others take their steps, a piece of work stays as it is, and is not answered; unless the talk ends, and
it is given up. -/
theorem Untimed.waits (untimed : Untimed n s) (once : (Keyed.keys s.jobs).Nodup) (around : Surroundings)
    (unsignalled : ∀ signal, e ≠ .signal n signal) :
    (Keyed.get? n (s.step around e).server.jobs = Keyed.get? n s.jobs ∧ replies n (s.doneAt around e) = []) ∨
      (∃ w, Keyed.get? n s.jobs = some ⟨true, w⟩) ∧ (s.step around e).server.phase = .exited ∧
        Keyed.get? n (s.step around e).server.jobs = none ∧
        replies n (s.doneAt around e) = [.error .cancelled] := by
  by_cases exits : s.demand? e = some .exit
  · obtain ⟨jobs, answers⟩ := given_up around once exits n
    cases found : Keyed.get? n s.jobs with
    | none =>
      rw [found] at jobs answers
      exact .inl ⟨jobs, answers⟩
    | some j =>
      obtain ⟨isRequest, w⟩ := j
      rw [found] at jobs answers
      cases isRequest with
      | false => exact .inl ⟨jobs, answers⟩
      | true => exact .inr ⟨⟨w, rfl⟩, (step_of_exit around exits).1, jobs, answers⟩
  · left
    have part := part_step around exits
    rcases untimed.unworked around unsignalled with other | quiet
    · refine ⟨part.jobs n (Ne.symm other), ?_⟩
      rw [replies_doneAt, List.filterMap_eq_nil_iff]
      intro d isIn
      cases d with
      | answer m reply =>
        have same := part.answers m reply isIn
        exact if_neg fun own => other (same ▸ own)
      | _ => rfl
    · rw [replies_doneAt, quiet]
      exact ⟨rfl, rfl⟩

end
end LintBridge.Server
