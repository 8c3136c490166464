import LintBridge.Proofs.Linter.Classification
import LintBridge.Proofs.Linter.Outcomes

/-!
What every run of a correction comes to, whatever else happens on the linter.

Other calls may take their steps between those of a correction, also on the same file, and the configuration may
change. None of that touches the correction, which stands where `Correction.Stands` says.
-/

set_option autoImplicit false
set_option relaxedAutoImplicit false

namespace LintBridge.Session

open Correction (Stands StartsOnce Reported toolEnding?)

/-- What call `n` has heard after a history, if before it has done and heard what is given. -/
def hearingAfter (n : Nat) : Session → List Effect → Hearing → History → Hearing
  | _, _, h, [] => h
  | s, done, h, (around, e) :: rest =>
    hearingAfter n (s.step around e).1 (done ++ s.effectsAt n around e) (h.hear done (heardAt n around e)) rest

/-! ### One correction among other calls -/

section
variable {s : Session} {known : List (Nat × Task)} {around : Surroundings} {e : SessionEvent} {n : Nat}
  {since : History} {l : Linter} {b : Buffer} {trigger : Trigger} {h : Hearing} {c : Correction}
  {effects : List Effect}

theorem correction_step (moment : Surroundings) (accounted : Accounted known s) (fits : s.Allows known e)
    (found : s.call? n = some (.correction c)) (stands : Stands l around b trigger h c effects)
    (kept : e ≠ .forget n) :
    ∃ c', (s.step moment e).1.call? n = some (.correction c') ∧
      Stands l around b trigger (h.hear effects (heardAt n moment e)) c' (effects ++ s.effectsAt n moment e) := by
  by_cases moves : mover? e = some n
  · cases e with
    | call m task =>
      cases moves
      exact absurd (accounted.called n _ found) fits
    | signal m signal =>
      cases moves
      have found' : Keyed.get? n s.calls = some (.correction c) := found
      refine ⟨(c.step moment signal s.linter).state, ?_, ?_⟩
      · rw [step, found', call?_settle, if_pos rfl]
        rfl
      · have does : s.effectsAt n moment (.signal n signal) = (c.step moment signal s.linter).effects := by
          rw [effectsAt, mover?, if_pos rfl, step, found']
          rfl
        rw [does, heardAt, if_pos rfl]
        exact stands.step signal
    | _ => cases moves
  · have unheard : heardAt n moment e = [] := by
      cases e with
      | signal m signal => exact if_neg fun same : m = n => moves (same ▸ rfl)
      | _ => rfl
    refine ⟨c, by rw [call?_step moves kept, found], ?_⟩
    rw [unheard, effectsAt, if_neg moves, List.append_nil, Hearing.hear_nil]
    exact stands

/-- Whatever happens, a correction stands where it may. -/
theorem correction_after (accounted : Accounted known s) (proper : s.Proper known since)
    (found : s.call? n = some (.correction c)) (stands : Stands l around b trigger h c effects)
    (kept : ∀ moment, (moment, .forget n) ∉ since) :
    ∃ c', (s.after since).call? n = some (.correction c') ∧
      Stands l around b trigger (s.hearingAfter n effects h since) c' (effects ++ s.effectsOf n since) := by
  induction since generalizing s known h c effects with
  | nil => exact ⟨c, found, by simpa [hearingAfter, effectsOf] using stands⟩
  | cons head rest ih =>
    obtain ⟨moment, e⟩ := head
    obtain ⟨fits, proper⟩ := proper
    have keeps : e ≠ .forget n := by
      rintro rfl
      exact kept moment List.mem_cons_self
    obtain ⟨c', found', stands'⟩ := correction_step moment accounted fits found stands keeps
    have onward := ih (accounted.step moment fits) proper found' stands'
      fun m isIn => kept m (List.mem_cons_of_mem _ isIn)
    simpa only [hearingAfter, effectsOf, after, List.append_assoc] using onward

end

/-! ### Every run -/

/-- A correction is over, or a signal that it awaits may come, or another call is probing for the answer that it
waits for. -/
def Proceeds (s : Session) (n : Nat) (c : Correction) : Prop :=
  (∃ summary, c = .finished summary) ∨ (∃ signal, c.Awaits s.linter signal) ∨
    ∃ k m, s.inquiryOf? n = some (.waiting k) ∧ s.inquiryOf? m = some (.probing k)

theorem proceeds_of_stands {s : Session} {n : Nat} {c : Correction} {l : Linter} {around : Surroundings}
    {b : Buffer} {trigger : Trigger} {h : Hearing} {effects : List Effect} (sought : s.Sought)
    (call : s.call? n = some (.correction c)) (stands : Stands l around b trigger h c effects) :
    s.Proceeds n c := by
  cases c with
  | finished summary => exact .inl ⟨summary, rfl⟩
  | running trigger => exact .inr (.inl ⟨_, .ending trigger .timedOut (by simp)⟩)
  | asking p trigger i =>
    have inquiry : s.inquiryOf? n = some i := by
      rw [inquiryOf?, call]
      rfl
    cases i with
    | probing k => exact .inr (.inl ⟨_, .probe p trigger k true⟩)
    | waiting k =>
      rcases sought.of_waiting inquiry with ⟨bundled, known⟩ | ⟨m, probes⟩
      · exact .inr (.inl ⟨_, .answer p trigger k bundled known⟩)
      · exact .inr (.inr ⟨k, m, inquiry, probes⟩)
    | answered bundled =>
      cases stands with
      | asking _ _ _ _ _ unanswered _ => exact absurd rfl (unanswered bundled)

/-- Whatever else happens on a linter, a correction starts its tool once at most, and reports what has become of it
once.

It stands where `Stands` says: each way to end comes with what has been started and what the user has been told.
`StartsOnce` holds from the call on; when the correction is over, `Reported` says which summary and which kind of
notice there is, if there is any. If it is not over, it proceeds: with each signal that it awaits, one less is left
to wait for. -/
theorem correction_reports_every_run (config : Config) (root : Option Path) (bundles : Bundler.Memo)
    (before since : History) (around : Surroundings) (n : Nat) (b : Buffer) (trigger : Trigger)
    (proper : (ofLinter ⟨config, root, bundles, .empty⟩).Proper []
      (before ++ (around, .call n (.correct b trigger)) :: since))
    (unsought : ∀ k, bundles.answer k ≠ .sought) (kept : ∀ moment, (moment, .forget n) ∉ since) :
    let asked := (ofLinter ⟨config, root, bundles, .empty⟩).after before
    let run : History := (around, .call n (.correct b trigger)) :: since
    let now := asked.after run
    let effects := asked.effectsOf n run
    let hearing := asked.hearingAfter n [] .fresh run
    ∃ c, now.call? n = some (.correction c) ∧
      Stands asked.linter around b trigger hearing c effects ∧
      StartsOnce asked.linter around b (toolStarts effects) ∧
      (∀ summary, c = .finished summary →
        Reported asked.linter around b trigger (toolEnding? hearing effects) summary (noticesIn effects)) ∧
      now.Proceeds n c ∧
      ∀ moment signal, c.Awaits now.linter signal →
        ∃ c', (now.step moment (.signal n signal)).1.call? n = some (.correction c') ∧ c'.waits < c.waits := by
  intro asked run now effects hearing
  have sought : now.Sought := by
    have sought := (accounted_ofLinter ⟨config, root, bundles, .empty⟩).invariant
      (fun around e accounted fits sought => sought.step accounted fits) proper (sought_ofLinter unsought)
    rwa [after_append] at sought
  rw [proper_append, List.append_nil] at proper
  obtain ⟨earlier, fits, later⟩ := proper
  have accounted : Accounted (allBegun before).reverse asked := by
    have accounted := (accounted_ofLinter ⟨config, root, bundles, .empty⟩).after earlier
    rwa [List.append_nil] at accounted
  have found : (asked.step around (.call n (.correct b trigger))).1.call? n =
      some (.correction (Correction.start around b trigger asked.linter).state) := by
    rw [step, call?_settle, if_pos rfl]
    rfl
  have does : asked.effectsAt n around (.call n (.correct b trigger)) =
      (Correction.start around b trigger asked.linter).effects := by
    rw [effectsAt, mover?, if_pos rfl]
    rfl
  obtain ⟨c, call, stands⟩ := correction_after (accounted.step around fits) later found
    (Correction.stands_start asked.linter around b trigger) kept
  have stands : Stands asked.linter around b trigger hearing c effects := by
    have unheard : Hearing.hear .fresh [] (heardAt n around (.call n (.correct b trigger))) = .fresh :=
      Hearing.hear_nil _ _
    simpa only [hearing, effects, run, hearingAfter, effectsOf, does, unheard, List.nil_append] using stands
  refine ⟨c, call, stands, stands.startsOnce, ?_, proceeds_of_stands sought call stands, ?_⟩
  · rintro summary rfl
    exact stands.reported
  · intro moment signal awaits
    refine ⟨(c.step moment signal now.linter).state, ?_, c.waits_step moment awaits⟩
    have call' : Keyed.get? n now.calls = some (.correction c) := call
    rw [step, call', call?_settle, if_pos rfl]
    rfl

/-! ### A tool that corrects everything -/

/-- The tool has found one offense and corrected it. -/
def allFixed : Output :=
  ⟨"\x7b\"files\":[\x7b\"offenses\":[\x7b\"corrected\":true\x7d]\x7d],\"summary\":\x7b\"offense_count\":1\x7d\x7d",
    "", some 0⟩

def correctingFile : Request :=
  ⟨"rubocop",
    ["--force-exclusion", "--format", "json", "--display-style-guide", "--cache", "false", "--auto-correct", "/a.rb"],
    ⟨"/"⟩, none, defaultTimeoutMs, none⟩

/-- Somebody else has the same file corrected, a stop goes astray, and the tool corrects everything. -/
def fixing : History :=
  [(emptyYard, .call 2 (.correct (.saved ⟨"/a.rb"⟩ "puts") .save)),
    (emptyYard, .signal 1 (.programEnded .stopped)),
    (emptyYard, .signal 1 (.programEnded (.output allFixed)))]

private theorem ended_fixing :
    (((ofLinter ⟨Config.default, none, .empty, .empty⟩).after elsewhere).after
      ((emptyYard, .call 1 (.correct (.saved ⟨"/a.rb"⟩ "puts") .command)) :: fixing)).call? 1 =
        some (.correction (.finished (Correction.ofResult .command (.ok (some allFixed))).1)) := rfl

theorem correction_reports_every_run_corrected :
    let start := ofLinter ⟨Config.default, none, .empty, .empty⟩
    let asked := start.after elsewhere
    let b := Buffer.saved ⟨"/a.rb"⟩ "puts"
    let run : History := (emptyYard, .call 1 (.correct b .command)) :: fixing
    let effects := asked.effectsOf 1 run
    start.Proper [] (elsewhere ++ run) ∧ (∀ k, Bundler.Memo.empty.answer k ≠ .sought) ∧
      (∀ moment, (moment, .forget 1) ∉ fixing) ∧
      toolStarts effects = [correctingFile] ∧ StartsOnce asked.linter emptyYard b (toolStarts effects) ∧
      noticesIn effects = [.plain .success "Linter-Rubocop: Fixed 1 offense of 1"] ∧
      Reported asked.linter emptyYard b .command (some (.output allFixed)) (some ⟨1, 1⟩) (noticesIn effects) := by
  intro start asked b run effects
  have proper : start.Proper [] (elsewhere ++ run) :=
    ⟨List.not_mem_nil, (by decide : 1 ∉ [0]), (by decide : 2 ∉ [1, 0]), trivial, trivial, trivial⟩
  have unsought : ∀ k, Bundler.Memo.empty.answer k ≠ .sought := by
    simp [Bundler.Memo.answer, Bundler.Memo.empty]
  have kept : ∀ moment, (moment, SessionEvent.forget 1) ∉ fixing := by simp [fixing]
  have said : noticesIn effects = [.plain .success "Linter-Rubocop: Fixed 1 offense of 1"] := by decide +kernel
  have ending : toolEnding? (asked.hearingAfter 1 [] .fresh run) effects = some (.output allFixed) := by
    decide +kernel
  obtain ⟨c, call, -, once, reported, -⟩ := correction_reports_every_run Config.default none .empty elsewhere
    fixing emptyYard 1 b .command proper unsought kept
  have summary : (Correction.ofResult .command (.ok (some allFixed))).1 = some ⟨1, 1⟩ := by decide +kernel
  have ended := ended_fixing.symm.trans call
  rw [summary] at ended
  cases ended
  have reported := reported _ rfl
  rw [ending] at reported
  exact ⟨proper, unsought, kept, by decide +kernel, once, said, reported⟩

end LintBridge.Session
