import LintBridge.Linter.Correction
import LintBridge.Proofs.Command

/-!
What the calls on a linter start.

An analysis starts its tool for the buffer that it was begun with, whatever has happened since: on the text
itself if there were edits, and else on the stored file. A correction starts its tool on a stored file only,
and is begun for no buffer with edits.
-/

set_option autoImplicit false
set_option relaxedAutoImplicit false

namespace LintBridge

/-- The command line of a plan ends with the fixed arguments and the plan's own. -/
theorem Plan.args_of_request {p : Plan} {useBundler : Bool} {key : Option String} {r : Request}
    (made : p.request useBundler key = .ok r) :
    Command.fixedFlags p.config.useRubocopCache ++ p.extra <:+ r.args ∧ r.input = p.input := by
  unfold Plan.request at made
  cases resolved : Command.resolve p.config.command useBundler p.config.useRubocopCache p.extra with
  | error e =>
    rw [resolved] at made
    cases made
  | ok command =>
    obtain ⟨program, args, rfl, ends⟩ := Command.exists_cons_of_resolve resolved
    rw [resolved] at made
    cases made
    exact ⟨ends, rfl⟩

/-- A run that lints a buffer: if it has edits, on its text, which the tool is told to read and is given; and else on
its file, with nothing to read. -/
def Request.Lints (r : Request) (b : Buffer) : Prop :=
  ∃ file, b.path = some file ∧
    if b.modified then ["--stdin", file.text] <:+ r.args ∧ r.input = some b.text
    else [file.text] <:+ r.args ∧ ¬ ["--stdin", file.text] <:+ r.args ∧ r.input = none

def Plan.Lints (p : Plan) (b : Buffer) : Prop :=
  ∃ file, b.path = some file ∧ (p.extra, p.input) = Analysis.source b file

private theorem not_stdin_suffix {file : Path} {useCache : Bool} {args : List String}
    (ends : Command.fixedFlags useCache ++ [file.text] <:+ args) : ¬ ["--stdin", file.text] <:+ args := by
  obtain ⟨flag, other, before⟩ :
      ∃ flag, "--stdin" ≠ flag ∧ [flag, file.text] <:+ Command.fixedFlags useCache ++ [file.text] := by
    cases useCache with
    | false =>
      exact ⟨"false", by decide, Command.reportFlags ++ ["--cache"], rfl⟩
    | true =>
      exact ⟨"--display-style-guide", by decide, ["--force-exclusion", "--format", "json"], rfl⟩
  intro told
  have same := (List.suffix_of_suffix_length_le told (before.trans ends) (Nat.le_refl 2)).eq_of_length rfl
  exact other (List.cons.inj same).1

theorem Plan.Lints.request {p : Plan} {b : Buffer} {useBundler : Bool} {key : Option String} {r : Request}
    (lints : p.Lints b) (made : p.request useBundler key = .ok r) : r.Lints b := by
  obtain ⟨file, stored, source⟩ := lints
  obtain ⟨args, input⟩ := args_of_request made
  refine ⟨file, stored, ?_⟩
  rw [Analysis.source] at source
  split at source
  · rename_i edited
    obtain ⟨extra, given⟩ := Prod.mk.inj source
    rw [extra] at args
    rw [if_pos edited]
    exact ⟨(List.suffix_append _ _).trans args, input.trans given⟩
  · rename_i unedited
    obtain ⟨extra, nothing⟩ := Prod.mk.inj source
    rw [extra] at args
    rw [if_neg unedited]
    exact ⟨(List.suffix_append _ _).trans args, not_stdin_suffix args, input.trans nothing⟩

theorem Linter.extra_of_plan? {l : Linter} {t : FileTree} {file : Path} {extra : List String}
    {input : Option String} {p : Plan} (planned : l.plan? t file extra input = some p) :
    p.extra = extra ∧ p.input = input := by
  simp only [Linter.plan?] at planned
  split at planned <;> cases planned
  exact ⟨rfl, rfl⟩

private theorem probed_of_mem {probe : Option Request} {m : Manner} {r : Request}
    (isIn : Effect.start m r ∈ probe.toList.map (Effect.start .probed)) : m = .probed := by
  obtain ⟨r', -, eq⟩ := List.mem_map.mp isIn
  cases eq
  rfl

private theorem not_start_of_notify {notices : List Notice} {m : Manner} {r : Request}
    (isIn : Effect.start m r ∈ notices.map .notify) : False := by
  obtain ⟨notice, -, eq⟩ := List.mem_map.mp isIn
  cases eq

namespace Analysis

/-- What an analysis of a buffer starts, and with what plan it waits. -/
structure Serves (b : Buffer) (p : Progress Analysis) : Prop where
  starts : ∀ m r, .start m r ∈ p.effects → m = .probed ∨ m = .awaited ∧ r.Lints b
  waits : ∀ plan i, p.state = .asking plan i → plan.Lints b

variable {s : Surroundings} {b : Buffer} {p : Plan}

private theorem serves_finished (found : Option (List Diagnostic)) (notices : List Notice) (l : Linter) :
    Serves b ⟨l, finished found, notices.map .notify⟩ where
  starts m r isIn := (not_start_of_notify isIn).elim
  waits plan i waits := by cases waits

theorem serves_launch (lints : p.Lints b) (useBundler : Bool) (l : Linter) :
    Serves b (launch s p useBundler l) := by
  unfold launch
  split
  · exact serves_finished _ [] l
  · rename_i request made
    dsimp only
    split
    · exact serves_finished _ _ _
    · refine ⟨?_, fun plan i waits => by cases waits⟩
      intro m r isIn
      cases List.mem_singleton.mp isIn
      exact .inr ⟨rfl, lints.request made⟩

theorem serves_afterAsking (lints : p.Lints b) (i : Bundler.Inquiry) (probe : Option Request) (l : Linter) :
    Serves b (afterAsking s p i probe l) := by
  unfold afterAsking
  split
  · exact serves_launch lints _ l
  · refine ⟨fun m r isIn => .inl (probed_of_mem isIn), ?_⟩
    intro plan i waits
    cases waits
    exact lints

theorem serves_start (s : Surroundings) (b : Buffer) (l : Linter) : Serves b (start s b l) := by
  unfold start
  split
  · exact serves_finished _ [] l
  · rename_i file stored
    dsimp only
    split
    · exact serves_finished _ [] l
    · rename_i p planned
      obtain ⟨extra, input⟩ := Linter.extra_of_plan? planned
      have lints : p.Lints b := ⟨file, stored, by rw [extra, input]⟩
      split
      · exact serves_launch lints true l
      · split
        · exact serves_afterAsking lints _ _ _
        · exact serves_launch lints false l

theorem serves_step (s : Surroundings) (signal : Signal) {a : Analysis} (b : Buffer) (l : Linter)
    (waits : ∀ plan i, a = .asking plan i → plan.Lints b) : Serves b (a.step s signal l) := by
  have idle : Serves b ⟨l, a, []⟩ := ⟨fun m r isIn => (List.not_mem_nil isIn).elim, waits⟩
  unfold step
  split
  · exact serves_launch (waits _ _ rfl) _ _
  · split
    · exact serves_launch (waits _ _ rfl) _ l
    · exact idle
  · split
    · exact idle
    · exact serves_finished _ _ _
  · exact idle

end Analysis

namespace Correction

/-- What a correction of a file starts, and with what plan it waits. -/
structure Serves (file : Path) (p : Progress Correction) : Prop where
  starts : ∀ m r, .start m r ∈ p.effects →
    m = .probed ∨ m = .polled ∧ arguments file <:+ r.args
  waits : ∀ plan trigger i, p.state = .asking plan trigger i → plan.extra = arguments file

variable {s : Surroundings} {file : Path} {p : Plan}

private theorem serves_ended (summary : Option FixSummary) (notices : List Notice) (l : Linter) :
    Serves file ⟨l, finished summary, notices.map .notify⟩ where
  starts m r isIn := (not_start_of_notify isIn).elim
  waits plan trigger i waits := by cases waits

theorem serves_launch (corrects : p.extra = arguments file) (trigger : Trigger) (useBundler : Bool)
    (l : Linter) : Serves file (launch s p trigger useBundler l) := by
  unfold launch
  split
  · exact serves_ended _ _ l
  · rename_i request made
    split
    · exact serves_ended _ _ l
    · refine ⟨?_, fun plan trigger i waits => by cases waits⟩
      intro m r isIn
      cases List.mem_singleton.mp isIn
      rw [← corrects]
      exact .inr ⟨rfl, (List.suffix_append _ _).trans (Plan.args_of_request made).1⟩

theorem serves_afterAsking (corrects : p.extra = arguments file) (trigger : Trigger) (i : Bundler.Inquiry)
    (probe : Option Request) (l : Linter) : Serves file (afterAsking s p trigger i probe l) := by
  unfold afterAsking
  split
  · exact serves_launch corrects trigger _ l
  · refine ⟨fun m r isIn => .inl (probed_of_mem isIn), ?_⟩
    intro plan trigger i waits
    cases waits
    exact corrects

theorem serves_start (s : Surroundings) (b : Buffer) (trigger : Trigger) (l : Linter) (stored : b.path = some file) :
    Serves file (start s b trigger l) := by
  unfold start
  rw [stored]
  dsimp only
  split
  · exact serves_ended _ _ l
  · split
    · exact serves_ended _ _ l
    · rename_i p planned
      have corrects := (Linter.extra_of_plan? planned).1
      split
      · exact serves_launch corrects trigger true l
      · split
        · exact serves_afterAsking corrects trigger _ _ _
        · exact serves_launch corrects trigger false l

theorem serves_step (s : Surroundings) (signal : Signal) {c : Correction} (l : Linter)
    (waits : ∀ plan trigger i, c = .asking plan trigger i → plan.extra = arguments file) :
    Serves file (c.step s signal l) := by
  have idle : Serves file ⟨l, c, []⟩ := ⟨fun m r isIn => (List.not_mem_nil isIn).elim, waits⟩
  unfold step
  split
  · exact serves_launch (waits _ _ _ rfl) _ _ _
  · split
    · exact serves_launch (waits _ _ _ rfl) _ _ l
    · exact idle
  · split
    · exact idle
    · exact serves_ended _ _ l
  · exact idle

theorem start_modified (s : Surroundings) (b : Buffer) (trigger : Trigger) (l : Linter)
    (modified : b.modified = true) :
    (start s b trigger l).state = .finished none ∧ ∀ m r, .start m r ∉ (start s b trigger l).effects := by
  unfold start
  split
  · exact ⟨rfl, fun m r isIn => not_start_of_notify isIn⟩
  · rw [Buffer.refusal?, if_pos modified]
    exact ⟨rfl, fun m r isIn => not_start_of_notify isIn⟩

private theorem summary_launch (s : Surroundings) (p : Plan) (trigger : Trigger) (useBundler : Bool) (l : Linter)
    (summary : FixSummary) : (launch s p trigger useBundler l).state ≠ .finished (some summary) := by
  unfold launch
  split
  · simp [gaveUp]
  · split
    · simp [conclude, ofResult, Ending.result]
    · simp

private theorem summary_afterAsking (s : Surroundings) (p : Plan) (trigger : Trigger) (i : Bundler.Inquiry)
    (probe : Option Request) (l : Linter) (summary : FixSummary) :
    (afterAsking s p trigger i probe l).state ≠ .finished (some summary) := by
  unfold afterAsking
  split
  · exact summary_launch s p trigger _ l summary
  · simp

theorem summary_start (s : Surroundings) (b : Buffer) (trigger : Trigger) (l : Linter) (summary : FixSummary) :
    (start s b trigger l).state ≠ .finished (some summary) := by
  unfold start
  split
  · simp [gaveUp]
  · split
    · simp [gaveUp]
    · split
      · simp [gaveUp]
      · rename_i p _
        split
        · exact summary_launch s p trigger true l summary
        · split
          · exact summary_afterAsking s p trigger _ _ _ summary
          · exact summary_launch s p trigger false l summary

theorem running_of_summary {s : Surroundings} {signal : Signal} {c : Correction} {l : Linter}
    {summary : FixSummary} (unfinished : c.summary? = none)
    (finished : (c.step s signal l).state = .finished (some summary)) :
    ∃ trigger e, c = .running trigger ∧ signal = .programEnded e := by
  unfold step at finished
  split at finished
  · exact absurd finished (summary_launch _ _ _ _ _ _)
  · split at finished
    · exact absurd finished (summary_launch _ _ _ _ _ _)
    · cases finished
  · rename_i trigger e
    exact ⟨trigger, e, rfl, rfl⟩
  · dsimp only at finished
    rw [finished] at unfinished
    cases unfinished

/-- A correction gets a summary exactly if its tool has printed a report. -/
theorem finished_iff_report {s : Surroundings} {signal : Signal} {c : Correction} {l : Linter}
    (unfinished : c.summary? = none) :
    (∃ summary, (c.step s signal l).state = .finished (some summary)) ↔
      ∃ trigger o report, c = .running trigger ∧ signal = .programEnded (.output o) ∧
        Report.read o.stdout o.stderr = .ok report := by
  constructor
  · rintro ⟨summary, finished⟩
    obtain ⟨trigger, e, rfl, rfl⟩ := running_of_summary unfinished finished
    cases e with
    | output o =>
      cases read : Report.read o.stdout o.stderr with
      | error p => simp [step, conclude, ofResult, Ending.result, read] at finished
      | ok report => exact ⟨trigger, o, report, rfl, rfl, read⟩
    | stopped => cases finished
    | _ => simp [step, conclude, ofResult, Ending.result] at finished
  · rintro ⟨trigger, o, report, rfl, rfl, read⟩
    exact ⟨report.summary, by simp [step, conclude, ofResult, Ending.result, read]⟩

end Correction
end LintBridge
