import LintBridge.Proofs.Linter.Verdicts
import LintBridge.Scenario.Script

/-!
The two ways to wait for a program, side by side.

Who waits for the end and the output together is done when the time is up. Who looks for the end at intervals does
not look at the time again after that, and waits for the output even if somebody else holds it. The two come to the
same unless that happens, or the program ends after its time but before the last look.
-/

set_option autoImplicit false
set_option relaxedAutoImplicit false

namespace LintBridge

namespace Course

/-- One look after another: the program has ended, or its time is up, or it is looked at again after a while. -/
def poll (c : Course) (timeoutMs now : Nat) : Option Ending :=
  if c.endsAt.any (· ≤ now) then c.lingers.map fun _ => .output c.output
  else if timeoutMs ≤ now then some .timedOut
  else c.poll timeoutMs (now + pollInterval)
termination_by timeoutMs - now
decreasing_by
  simp only [pollInterval]
  omega

/-- The program ends after its time, but before it is looked at for the last time. -/
def EndsBetween (c : Course) (timeoutMs : Nat) : Prop :=
  ∃ t, c.endsAt = some t ∧ timeoutMs < t ∧ t ≤ lastLook timeoutMs

/-- The program ends in time, but its output is not complete in time. -/
def Lags (c : Course) (timeoutMs : Nat) : Prop :=
  ∃ t, c.endsAt = some t ∧ t ≤ timeoutMs ∧ ∀ u, c.completeAt = some u → timeoutMs < u

/-- The result and the notices of a run whose output is wanted in time. -/
def due (c : Course) (timeoutMs : Nat) : RunResult × List Notice :=
  if c.completeAt.any (· ≤ timeoutMs) then (.ok (some c.output), []) else (.ok none, [.timedOut])

theorem lastLook_bounds (timeoutMs : Nat) :
    timeoutMs ≤ lastLook timeoutMs ∧ lastLook timeoutMs < timeoutMs + pollInterval ∧
      lastLook timeoutMs % pollInterval = 0 := by
  simp only [lastLook, pollInterval]
  omega

private theorem poll_eq_of_le {c : Course} {timeoutMs now : Nat} (step : now % pollInterval = 0)
    (early : now ≤ lastLook timeoutMs) : c.poll timeoutMs now = c.polled timeoutMs := by
  obtain ⟨reaches, short, isLook⟩ := lastLook_bounds timeoutMs
  induction now using poll.induct c timeoutMs with
  | case1 now ended =>
    obtain ⟨t, endsAt, before⟩ : ∃ t, c.endsAt = some t ∧ t ≤ now := by simpa [Option.any_eq_true] using ended
    have inTime : t ≤ lastLook timeoutMs := Nat.le_trans before early
    rw [poll, if_pos ended, polled, endsAt]
    simp [inTime]
  | case2 now notEnded up =>
    have last : now = lastLook timeoutMs := by
      simp only [pollInterval] at step short isLook
      omega
    rw [poll, if_neg notEnded, if_pos up, polled]
    cases endsAt : c.endsAt with
    | none => rfl
    | some t =>
      have late : ¬ t ≤ lastLook timeoutMs := by simpa [endsAt, last] using notEnded
      simp [late]
  | case3 now notEnded left ih =>
    have next : now + pollInterval ≤ lastLook timeoutMs := by
      simp only [pollInterval] at step short isLook ⊢
      omega
    rw [poll, if_neg notEnded, if_neg left]
    exact ih (by rw [Nat.add_mod_right, step]) next

theorem poll_eq_polled (c : Course) (timeoutMs : Nat) : c.poll timeoutMs 0 = c.polled timeoutMs :=
  poll_eq_of_le (Nat.zero_mod _) (Nat.zero_le _)

variable {c : Course} {timeoutMs : Nat}

theorem awaited_due (c : Course) (timeoutMs : Nat) :
    ((c.awaited timeoutMs).result, (c.awaited timeoutMs).notices) = c.due timeoutMs := by
  unfold awaited due
  cases c.completeAt with
  | none => rfl
  | some t => by_cases inTime : t ≤ timeoutMs <;> simp [inTime, Ending.result, Ending.notices]

theorem polled_of_late (late : c.Lags timeoutMs ∨ c.EndsBetween timeoutMs) :
    c.polled timeoutMs = c.lingers.map fun _ => .output c.output := by
  obtain ⟨reaches, -⟩ := lastLook_bounds timeoutMs
  obtain ⟨t, endsAt, seen⟩ : ∃ t, c.endsAt = some t ∧ t ≤ lastLook timeoutMs := by
    rcases late with ⟨t, endsAt, inTime, -⟩ | ⟨t, endsAt, -, seen⟩
    · exact ⟨t, endsAt, by omega⟩
    · exact ⟨t, endsAt, seen⟩
  rw [polled, endsAt]
  simp [seen]

theorem due_of_lags (lags : c.Lags timeoutMs) : c.due timeoutMs = (.ok none, [.timedOut]) := by
  obtain ⟨t, -, -, late⟩ := lags
  rw [due, if_neg]
  intro inTime
  obtain ⟨u, complete, before⟩ : ∃ u, c.completeAt = some u ∧ u ≤ timeoutMs := by
    simpa [Option.any_eq_true] using inTime
  have after := late u complete
  omega

theorem polled_of_timely (apart : ¬ c.EndsBetween timeoutMs) (prompt : ¬ c.Lags timeoutMs) :
    (c.polled timeoutMs).map (fun e => (e.result, e.notices)) = some (c.due timeoutMs) := by
  obtain ⟨reaches, -⟩ := lastLook_bounds timeoutMs
  cases endsAt : c.endsAt with
  | none =>
    have never : c.completeAt = none := by simp [completeAt, endsAt]
    simp [polled, endsAt, due, never, Ending.result, Ending.notices]
  | some t =>
    by_cases inTime : t ≤ timeoutMs
    · have complete : ∃ u, c.completeAt = some u ∧ u ≤ timeoutMs := by
        refine Classical.byContradiction fun never => prompt ⟨t, endsAt, inTime, ?_⟩
        intro u complete
        have notBefore : ¬ u ≤ timeoutMs := fun before => never ⟨u, complete, before⟩
        omega
      obtain ⟨u, complete, before⟩ := complete
      obtain ⟨l, lingers⟩ : ∃ l, c.lingers = some l := by
        cases lingers : c.lingers with
        | none => simp [completeAt, endsAt, lingers] at complete
        | some l => exact ⟨l, rfl⟩
      have seen : t ≤ lastLook timeoutMs := by omega
      simp [polled, endsAt, seen, lingers, due, complete, before, Ending.result, Ending.notices]
    · have unseen : ¬ t ≤ lastLook timeoutMs := fun seen => apart ⟨t, endsAt, by omega, seen⟩
      have notComplete : ¬ c.completeAt.any (· ≤ timeoutMs) = true := by
        intro complete
        obtain ⟨u, complete, before⟩ : ∃ u, c.completeAt = some u ∧ u ≤ timeoutMs := by
          simpa [Option.any_eq_true] using complete
        cases lingers : c.lingers with
        | none => simp [completeAt, endsAt, lingers] at complete
        | some l =>
          have sum : t + l = u := by simpa [completeAt, endsAt, lingers] using complete
          omega
      simp [polled, endsAt, unseen, due, notComplete, Ending.result, Ending.notices]

end Course

/-- The result of a call that is a run, when it is over. -/
def Activity.runResult? : Activity → Option RunResult
  | .ran result => some result
  | _ => none

/-- What a call that is a run comes to, if its program takes the given course: its result and its notices. There is
nothing if the call never ends. The linter may be another when the program has ended. -/
def runOutcome (around : Surroundings) (first last : Linter) (c : Course) (t : Task) : Option (RunResult × List Notice) :=
  let begun := Activity.start around t first
  match begun.state.runResult?, begun.effects with
  | some result, effects => some (result, noticesIn effects)
  | none, [.start manner r] => do
    let signal ← c.signal manner r.timeoutMs.toNat
    let ended := begun.state.step around signal last
    let result ← ended.state.runResult?
    pure (result, noticesIn (begun.effects ++ ended.effects))
  | none, _ => none

section
variable {around : Surroundings} {first last : Linter} {c : Course} {r : Request}

private theorem start_run (keyless : r.key = none) :
    Activity.start around (.run r) first = Activity.startRun around .awaited r none first := by
  simp only [Activity.start, keyless]

private theorem runOutcome_fault {e : SystemError} {m : Manner} {t : Task} (fault : around.startFault r = some e)
    (start : Activity.start around t first = Activity.startRun around m r none first) :
    runOutcome around first last c t = some (.error (.spawn r.program e.message), []) := by
  simp [runOutcome, start, Activity.startRun, fault, Activity.concludeRun, Activity.runResult?, Ending.result,
    Ending.notices]

private theorem step_running {e : Ending} (going : e ≠ .stopped) :
    Activity.step around (.programEnded e) (.running none) last = ⟨last, .ran e.result, e.notices.map .notify⟩ := by
  simp [Activity.step, going, Activity.concludeRun]

theorem runOutcome_run (keyless : r.key = none) (started : around.startFault r = none) :
    runOutcome around first last c (.run r) = some (c.due r.timeoutMs.toNat) := by
  have going : c.awaited r.timeoutMs.toNat ≠ .stopped := by
    unfold Course.awaited
    split
    · simp
    · split <;> simp
  rw [← Course.awaited_due]
  simp [runOutcome, start_run keyless, Activity.startRun, started, Activity.runResult?, Course.signal,
    step_running going]

theorem runOutcome_runBlocking (started : around.startFault r = none) :
    runOutcome around first last c (.runBlocking r) =
      (c.poll r.timeoutMs.toNat 0).map fun e => (e.result, e.notices) := by
  have going : ∀ e, c.polled r.timeoutMs.toNat = some e → e ≠ .stopped := by
    rintro e polled rfl
    unfold Course.polled at polled
    split at polled
    · cases polled
    · split at polled <;> simp at polled
  rw [Course.poll_eq_polled]
  simp only [runOutcome, Activity.start, Activity.startRun, started, Activity.runResult?, Course.signal]
  cases polled : c.polled r.timeoutMs.toNat with
  | none => rfl
  | some e => simp [step_running (going e polled)]

end

/-- The two runners agree, but for one thing. A program that cannot be started gives both the same error. For any
other, the run that waits for end and output together returns the output if it is complete in time, and else nothing,
with one notice. So does the run that looks at intervals, unless the program ends less than an interval after its
time, or it ends in time and its output is not complete in time. Then this run brings the output whenever that is
complete, and never returns if it never is. -/
theorem runners_agree_unless_output_lags (around : Surroundings) (first last : Linter) (c : Course) (r : Request)
    (keyless : r.key = none) :
    let awaited := runOutcome around first last c (.run r)
    let polled := runOutcome around first last c (.runBlocking r)
    let timeoutMs := r.timeoutMs.toNat
    (∀ e, around.startFault r = some e →
      awaited = some (.error (.spawn r.program e.message), []) ∧ polled = awaited) ∧
    (around.startFault r = none →
      awaited = some (c.due timeoutMs) ∧
      (¬ c.EndsBetween timeoutMs → (polled = awaited ↔ ¬ c.Lags timeoutMs)) ∧
      (c.EndsBetween timeoutMs ∨ c.Lags timeoutMs →
        polled = c.lingers.map fun _ => (.ok (some c.output), []))) ∧
    ∀ t, timeoutMs + Course.pollInterval ≤ t → c.endsAt = some t → ¬ c.EndsBetween timeoutMs := by
  intro awaited polled timeoutMs
  have late : around.startFault r = none → c.EndsBetween timeoutMs ∨ c.Lags timeoutMs →
      polled = c.lingers.map fun _ => (.ok (some c.output), []) := by
    intro started late
    have looked : polled = (c.poll timeoutMs 0).map _ := runOutcome_runBlocking started
    rw [looked, Course.poll_eq_polled, Course.polled_of_late late.symm, Option.map_map]
    rfl
  refine ⟨?_, ?_, ?_⟩
  · intro e fault
    have failed : awaited = _ := runOutcome_fault fault (start_run keyless)
    have failed' : polled = _ := runOutcome_fault fault rfl
    exact ⟨failed, failed'.trans failed.symm⟩
  · intro started
    have waited : awaited = some (c.due timeoutMs) := runOutcome_run keyless started
    refine ⟨waited, ?_, late started⟩
    intro apart
    constructor
    · intro agree lags
      rw [waited, late started (.inr lags), Course.due_of_lags lags] at agree
      cases lingers : c.lingers with
      | none => simp [lingers] at agree
      | some l => simp [lingers] at agree
    · intro prompt
      have looked : polled = (c.poll timeoutMs 0).map _ := runOutcome_runBlocking started
      rw [looked, Course.poll_eq_polled, Course.polled_of_timely apart prompt, waited]
  · rintro t after endsAt ⟨u, endsAt', -, seen⟩
    rw [endsAt] at endsAt'
    cases endsAt'
    have short := (Course.lastLook_bounds timeoutMs).2.1
    omega

/-! ### A process that is left behind -/

private def bareYard : Surroundings := ⟨⟨.directory [], []⟩, fun _ => none, fun _ => .ok "", 0⟩

private def idleLinter : Linter := .ofConfig .default

/-- The program ends at once, and something that it has started holds its output for three seconds. -/
def leftBehind : Course := ⟨[], [], some 0, some 1, some 3000⟩

def secondLong : Request := ⟨"/bin/sh", ["-c", "/bin/sleep 3 &"], ⟨"."⟩, none, 1000, none⟩

theorem runners_agree_unless_output_lags_leftBehind :
    secondLong.key = none ∧
      runOutcome bareYard idleLinter idleLinter leftBehind (.run secondLong) = some (.ok none, [.timedOut]) ∧
      runOutcome bareYard idleLinter idleLinter leftBehind (.runBlocking secondLong) =
        some (.ok (some leftBehind.output), []) ∧
      ∃ c : Course, runOutcome bareYard idleLinter idleLinter c (.run secondLong) =
        runOutcome bareYard idleLinter idleLinter c (.runBlocking secondLong) := by
  obtain ⟨-, started, -⟩ :=
    runners_agree_unless_output_lags bareYard idleLinter idleLinter leftBehind secondLong rfl
  obtain ⟨waited, -, late⟩ := started rfl
  have lags : leftBehind.Lags secondLong.timeoutMs.toNat := by
    refine ⟨1, rfl, by decide, ?_⟩
    rintro u ⟨⟩
    decide
  obtain ⟨-, started', -⟩ := runners_agree_unless_output_lags bareYard idleLinter idleLinter
    { leftBehind with lingers := some 0 } secondLong rfl
  have prompt : ¬ { leftBehind with lingers := some 0 }.Lags secondLong.timeoutMs.toNat := by
    rintro ⟨t, -, -, late⟩
    exact absurd (late 1 rfl) (by decide)
  have apart : ¬ { leftBehind with lingers := some 0 }.EndsBetween secondLong.timeoutMs.toNat := by
    rintro ⟨t, ⟨⟩, late, -⟩
    exact absurd late (by decide)
  refine ⟨rfl, ?_, late (.inr lags), _, (((started' rfl).2.1 apart).mpr prompt).symm⟩
  rw [waited, Course.due_of_lags lags]

/-- That the two agree whenever the program does not end between its time and the last look is not so. -/
theorem runners_may_disagree :
    ¬ ∀ (around : Surroundings) (first last : Linter) (c : Course) (r : Request), r.key = none →
      ¬ c.EndsBetween r.timeoutMs.toNat →
      runOutcome around first last c (.runBlocking r) = runOutcome around first last c (.run r) := by
  intro agree
  have apart : ¬ leftBehind.EndsBetween secondLong.timeoutMs.toNat := by
    rintro ⟨t, ⟨⟩, late, -⟩
    exact absurd late (by decide)
  have same := agree bareYard idleLinter idleLinter leftBehind secondLong rfl apart
  rw [runOutcome_runBlocking rfl, runOutcome_run rfl rfl, Course.poll_eq_polled] at same
  have differ : ((leftBehind.polled 1000).map fun e => (e.result, e.notices)) ≠ some (leftBehind.due 1000) := by
    simp [Course.polled, leftBehind, Course.lastLook, Course.pollInterval, Course.due, Course.completeAt,
      Ending.result]
  exact differ same

end LintBridge
