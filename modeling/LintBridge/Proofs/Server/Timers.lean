import LintBridge.Proofs.Server.Saves

/-!
What becomes of an edit until its time has come.

An edit is not linted at once. It sets a timer under its own number, and while that runs, nothing else touches
the timer, and the edit is no work that anything could signal to. `Awaits` says so; it is lost only when the timer
runs out, and then the document is linted if the edit's version is still the latest one, and else it is not.
-/

set_option autoImplicit false
set_option relaxedAutoImplicit false

namespace LintBridge.Server

/-! ### Numbers -/

/-- All work that there is, and all that has been done, has numbers that have been given. -/
structure Registered (done : List (Nat × Deed)) (s : Server) : Prop where
  numbered : Numbered s
  jobs : ∀ n j, (n, j) ∈ s.jobs → n < s.next
  done : ∀ n d, (n, d) ∈ done → n < s.next

section
variable {done : List (Nat × Deed)} {s : Server}

private theorem step_of_unasked (around : Surroundings) {m : Message} (talking : s.phase ≠ .exited)
    (unasked : s.demand? (.message m) = none) :
    (s.step around (.message m)).server.next = s.next + 1 := by
  rw [demand?, if_neg talking] at unasked
  rw [step, receive, if_neg talking]
  dsimp only
  unfold settle
  cases intake : (s.phase.intake m).1 with
  | dropped =>
    dsimp only
    split <;> rfl
  | refused r =>
    dsimp only
    split <;> rfl
  | taken d =>
    rw [intake] at unasked
    cases unasked

private theorem Registered.worker_lt (registered : Registered done s) (around : Surroundings) (e : Event) :
    s.worker e < (s.step around e).server.next ∨
      (s.step around e).deeds = [] ∧ (s.step around e).server.jobs = s.jobs := by
  have grows := (frame_step around s e).next
  cases e with
  | message m =>
    by_cases exited : s.phase = .exited
    · have stays : s.step around (.message m) = .quiet s := by rw [step, receive, if_pos exited]
      rw [stays]
      exact .inr ⟨rfl, rfl⟩
    · left
      cases asked : s.demand? (.message m) with
      | none =>
        rw [step_of_unasked around exited asked]
        exact Nat.lt_succ_self _
      | some d => exact grows.2 d asked
  | signal n signal =>
    cases found : Keyed.get? n s.jobs with
    | none =>
      have stays : s.step around (.signal n signal) = .quiet s := by simp only [step, found]
      rw [stays]
      exact .inr ⟨rfl, rfl⟩
    | some j => exact .inl (Nat.lt_of_lt_of_le (registered.jobs n j (Keyed.mem_of_get? found)) grows.1)
  | elapse n =>
    cases found : Keyed.get? n s.timers with
    | none =>
      have stays : s.step around (.elapse n) = .quiet s := by simp only [step, elapse, found]
      rw [stays]
      exact .inr ⟨rfl, rfl⟩
    | some t => exact .inl (Nat.lt_of_lt_of_le (registered.numbered.timers n t (Keyed.mem_of_get? found)) grows.1)

theorem Registered.step (registered : Registered done s) (around : Surroundings) (e : Event) :
    Registered (done ++ s.doneAt around e) (s.step around e).server where
  numbered := registered.numbered.step around e
  jobs := by
    intro n j isIn
    have frame := frame_step around s e
    have older : (n, j) ∈ s.jobs → n < (s.step around e).server.next := fun isIn =>
      Nat.lt_of_lt_of_le (registered.jobs n j isIn) frame.next.1
    rcases frame.jobs n j isIn with isOld | ⟨rfl, -⟩
    · exact older isOld
    · rcases registered.worker_lt around e with given | ⟨-, jobs⟩
      · exact given
      · rw [jobs] at isIn
        exact older isIn
  done := by
    intro n d isIn
    rcases List.mem_append.mp isIn with isOld | isNew
    · exact Nat.lt_of_lt_of_le (registered.done n d isOld) (frame_step around s e).next.1
    · obtain ⟨d', isDeed, eq⟩ := List.mem_map.mp isNew
      cases eq
      rcases registered.worker_lt around e with given | ⟨nothing, -⟩
      · exact given
      · rw [nothing] at isDeed
        cases isDeed

theorem registered_fresh : Registered [] fresh where
  numbered := numbered_fresh
  jobs n j isIn := by cases isIn
  done n d isIn := by cases isIn

theorem registered_after (history : History) : Registered (fresh.done history) (fresh.after history) :=
  @keeps_after fresh [] (fun _ done s => Registered done s) (fun registered around e => registered.step around e)
    history [] registered_fresh

theorem Registered.unstarted (registered : Registered done s) : Keyed.get? s.next s.jobs = none :=
  Keyed.get?_eq_none_of_forall fun j isIn => Nat.lt_irrefl _ (registered.jobs s.next j isIn)

theorem Registered.untimed (registered : Registered done s) : Keyed.get? s.next s.timers = none :=
  Keyed.get?_eq_none_of_forall fun t isIn => Nat.lt_irrefl _ (registered.numbered.timers s.next t isIn)

theorem Registered.undone (registered : Registered done s) : lintsOf s.next done = [] :=
  lintsOf_eq_nil fun d isIn => Nat.lt_irrefl _ (registered.done s.next d isIn)

end

/-! ### Waiting for the timer -/

/-- An edit that waits for its time. -/
structure Awaits (n : Nat) (t : Timer) (s : Server) : Prop where
  given : n < s.next
  timer : Keyed.get? n s.timers = some t
  unstarted : Keyed.get? n s.jobs = none

section
variable {s : Server} {n : Nat} {t : Timer} {e : Event}

private theorem Awaits.unworked (awaits : Awaits n t s) (around : Surroundings) (unfired : e ≠ .elapse n) :
    s.worker e ≠ n ∨ s.step around e = .quiet s := by
  cases e with
  | message m => exact .inl (Nat.ne_of_lt awaits.given).symm
  | signal m signal =>
    by_cases same : m = n
    · subst same
      refine .inr ?_
      simp only [Server.step, awaits.unstarted]
    · exact .inl same
  | elapse m =>
    refine .inl fun same => ?_
    have same : m = n := same
    exact unfired (congrArg Event.elapse same)

private theorem Awaits.get?_timersAt (awaits : Awaits n t s) (around : Surroundings) (unfired : e ≠ .elapse n) :
    Keyed.get? n (s.timersAt around e) = some t := by
  unfold timersAt
  split
  · rename_i m
    have other : m ≠ n := fun same => unfired (congrArg Event.elapse same)
    rw [Keyed.get?_erase, if_neg other]
    exact awaits.timer
  · cases s.demand? e with
    | none => exact awaits.timer
    | some d =>
      rw [Option.elim_some]
      unfold Demand.timed
      split
      · split
        · exact awaits.timer
        · rw [Keyed.get?_append, awaits.timer]
          rfl
      · exact awaits.timer

/-- Until its timer runs out, an edit waits, whatever else happens, and nothing is done for it. -/
theorem Awaits.step (awaits : Awaits n t s) (once : (Keyed.keys s.jobs).Nodup) (around : Surroundings)
    (unfired : e ≠ .elapse n) :
    Awaits n t (s.step around e).server ∧ lintsOf n (s.doneAt around e) = [] := by
  have given : n < (s.step around e).server.next := Nat.lt_of_lt_of_le awaits.given (frame_step around s e).next.1
  rcases awaits.unworked around unfired with other | quiet
  · -- Others do nothing under this number, and touch neither its timer nor its work.
    have noLint : lintsOf n (s.doneAt around e) = [] := by
      refine lintsOf_eq_nil fun d isIn => ?_
      obtain ⟨d', -, eq⟩ := List.mem_map.mp isIn
      cases eq
      exact other rfl
    refine ⟨?_, noLint⟩
    by_cases exits : s.demand? e = some .exit
    · obtain ⟨-, -, timers, jobs, -⟩ := step_of_exit around exits
      refine ⟨given, timers ▸ awaits.timer, ?_⟩
      rw [jobs]
      have kept := Keyed.get?_filter (fun j => !Job.isRequest j) n once
      rw [awaits.unstarted] at kept
      exact kept
    · have part := part_step around exits
      refine ⟨given, ?_, (part.jobs n other.symm).trans awaits.unstarted⟩
      rw [part.timers]
      exact awaits.get?_timersAt around unfired
  · rw [doneAt, quiet]
    exact ⟨awaits, rfl⟩

theorem Awaits.after (awaits : Awaits n t s) (numbered : Numbered s) (history : History)
    (unfired : ∀ p ∈ history, p.2 ≠ .elapse n) :
    Awaits n t (s.after history) ∧ lintsOf n (s.done history) = [] := by
  induction history generalizing s with
  | nil => exact ⟨awaits, rfl⟩
  | cons moment rest ih =>
    obtain ⟨around, e⟩ := moment
    obtain ⟨unfiredNow, unfiredLater⟩ := List.forall_mem_cons.mp unfired
    obtain ⟨awaits', noLint⟩ := awaits.step numbered.once around unfiredNow
    obtain ⟨awaits'', noLints⟩ := ih awaits' (numbered.step around e) unfiredLater
    refine ⟨awaits'', ?_⟩
    rw [done, lintsOf_append, noLint, noLints]
    rfl

/-! ### The timer runs out -/

private theorem lintVersion_last {around : Surroundings} {u : Url} {b : Buffer} (version : Int)
    (isBuffer : s.documents.buffer? u = some b) :
    let t := lintVersion around n u version s
    Settled n t.server ∧ lintsIn t.deeds = [(u, some version, b)] := by
  intro t
  have begins : t = (afterLint n false u (some version) [] (conclude n false (.ok .null))
      (Analysis.start around b s.linter) s).after (.lint u (some version) b) := by
    simp only [t, lintVersion, isBuffer, lint]
  obtain ⟨settled, noOther⟩ := afterLint_last n false (.ok .null) u (some version)
    (Analysis.start around b s.linter) s
  rw [begins]
  exact ⟨settled, congrArg ((u, some version, b) :: ·) noOther⟩

/-- When its timer runs out, an edit is linted if its version is the latest one, and never again. -/
theorem Awaits.elapse (awaits : Awaits n t s) (numbered : Numbered s) {b : Buffer}
    (isBuffer : s.documents.isLatest t.url t.version = true → s.documents.buffer? t.url = some b)
    (around : Surroundings) (rest : History) :
    lintsOf n (s.done ((around, .elapse n) :: rest)) =
      if s.documents.isLatest t.url t.version then [(t.url, some t.version, b)] else [] := by
  let next := (s.step around (.elapse n)).server
  have fired : s.step around (.elapse n) =
      if s.documents.isLatest t.url t.version then
        lintVersion around n t.url t.version { s with timers := Keyed.erase n s.timers }
      else .quiet { s with timers := Keyed.erase n s.timers } := by
    simp only [Server.step, Server.elapse, awaits.timer]
  -- Without its timer, the edit is like any work that has been begun: it is settled, and stays so.
  have untimed : Untimed n next := by
    refine ⟨Nat.lt_of_lt_of_le awaits.given (frame_step around s (.elapse n)).next.1, ?_⟩
    have timers : next.timers = Keyed.erase n s.timers := (part_step around (e := .elapse n) (by simp [demand?])).timers
    rw [timers, Keyed.get?_erase, if_pos rfl]
  have deeds : lintsOf n (s.doneAt around (.elapse n)) = lintsIn (s.step around (.elapse n)).deeds := lintsOf_map n _
  have begun : Settled n next ∧ lintsIn (s.step around (.elapse n)).deeds =
      if s.documents.isLatest t.url t.version then [(t.url, some t.version, b)] else [] := by
    simp only [next, fired]
    split
    · rename_i latest
      exact lintVersion_last t.version (isBuffer latest)
    · exact ⟨.inl awaits.unstarted, rfl⟩
  obtain ⟨settled, lints⟩ := begun
  obtain ⟨noLints, -⟩ := settled.after untimed (numbered.step around _) rest
  rw [done, lintsOf_append, noLints, List.append_nil, deeds, lints]

end
end LintBridge.Server
