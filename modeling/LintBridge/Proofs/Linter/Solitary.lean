import LintBridge.Proofs.Linter.Outcomes

/-!
A lint to which nobody else comes.

On a linter with no other calls nobody takes the key of a lint, and it ends as its own tool does. `Analysis.Stands` says
where it stands; `Ends` says beside that how its tool has ended, which counts from the moment at which the tool has
been started. Together with what it holds in the registry that is `Heeds`, which each signal keeps.
-/

set_option autoImplicit false
set_option relaxedAutoImplicit false

namespace LintBridge

open Analysis (Heard)
open Correction (ending?_append)

namespace Analysis

section
variable {l : Linter} {around : Surroundings} {b : Buffer}

theorem undismissed_take (key : String) :
    (Registry.empty.take key).2.isDismissed (Registry.empty.take key).1 = false := rfl

theorem launch_cases (s : Surroundings) (p : Plan) (through : Bool) (l : Linter) :
    (∃ found, (launch s p through l).state = finished found ∧ toolStarts (launch s p through l).effects = []) ∨
    ∃ r, launch s p through l =
      ⟨{ l with registry := (l.registry.take (key p.file)).2 }, running p.file (l.registry.take (key p.file)).1,
        [.start .awaited r]⟩ := by
  unfold launch
  split
  · exact .inl ⟨_, rfl, rfl⟩
  · rename_i r made
    dsimp only
    split
    · refine .inl ⟨_, rfl, ?_⟩
      simp [conclude]
    · exact .inr ⟨r, rfl⟩

theorem start_cases (s : Surroundings) (b : Buffer) (l : Linter) :
    (∃ found, start s b l = ⟨l, finished found, []⟩) ∨
    ∃ p bundles, (∃ through, start s b l = launch s p through { l with bundles := bundles }) ∨
      ∃ i, ∃ probe : Option Request, start s b l = ⟨{ l with bundles := bundles }, asking p i, probe.toList.map (.start .probed)⟩ := by
  unfold start
  split
  · exact .inl ⟨_, rfl⟩
  · dsimp only
    split
    · exact .inl ⟨_, rfl⟩
    · rename_i p planned
      split
      · exact .inr ⟨p, l.bundles, .inl ⟨true, rfl⟩⟩
      · split
        · unfold afterAsking
          split
          · exact .inr ⟨p, _, .inl ⟨_, rfl⟩⟩
          · exact .inr ⟨p, _, .inr ⟨_, _, rfl⟩⟩
        · exact .inr ⟨p, l.bundles, .inl ⟨false, rfl⟩⟩

theorem asking_step_cases (s : Surroundings) (signal : Signal) (p : Plan) (i : Bundler.Inquiry) (l : Linter) :
    (asking p i).step s signal l = ⟨l, asking p i, []⟩ ∨
    ∃ through bundles, (asking p i).step s signal l = launch s p through { l with bundles := bundles } := by
  unfold step
  split
  · rename_i same
    cases same
    exact .inr ⟨_, _, rfl⟩
  · rename_i same
    cases same
    split
    · exact .inr ⟨_, l.bundles, rfl⟩
    · exact .inl rfl
  · rename_i same
    cases same
  · exact .inl rfl

end

theorem Stands.stored {l : Linter} {around : Surroundings} {b : Buffer} {heard : Heard} {x : Analysis}
    {effects : List Effect} {file : Path} {t : Ticket} (stands : Stands l around b heard x effects)
    (isRunning : x = .running file t) : b.path = some file := by
  cases stands with
  | running waited since p r ordered =>
    cases isRunning
    exact ordered.stored
  | _ => cases isRunning

/-- How far the tool of a lint has come: whether it has been started, and how it has ended. -/
def Ends (b : Buffer) (h : Hearing) (effects : List Effect) : Analysis → Prop
  | asking _ _ => toolStarts effects = []
  | running file _ => b.path = some file ∧ toolStarts effects ≠ [] ∧ h.since.ending? = none
  | finished found => toolStarts effects ≠ [] → ∃ file e notices,
      b.path = some file ∧ h.since.ending? = some e ∧ Verdict file e found notices

/-- Where a lint stands to which nobody else comes: it owns its key from the start of its tool on. -/
structure Heeds (l : Linter) (around : Surroundings) (b : Buffer) (now : Linter) (heard : Heard) (h : Hearing)
    (x : Analysis) (effects : List Effect) : Prop where
  stands : Stands l around b heard x effects
  unowned : ∀ p i, x = asking p i → now.registry = .empty
  owned : ∀ t, x.ticket? = some t → now.registry.isCurrent t = true ∧ now.registry.isDismissed t = false
  parts : h.waited ++ h.since = heard
  unstarted : toolStarts effects = [] → h.since = []
  ends : Ends b h effects x

section
variable {l now : Linter} {around : Surroundings} {b : Buffer} {heard : Heard} {h : Hearing} {x : Analysis}
  {effects : List Effect}

private theorem heeds_launch {moment : Surroundings} {p : Plan} {through : Bool} (before : List Effect)
    (unowned : now.registry = .empty) (quiet : toolStarts before = [])
    (stands : Stands l around b heard (launch moment p through now).state
      (before ++ (launch moment p through now).effects)) :
    Heeds l around b (launch moment p through now).linter heard ⟨heard, []⟩ (launch moment p through now).state
      (before ++ (launch moment p through now).effects) := by
  rcases launch_cases moment p through now with ⟨found, refused, unstarted⟩ | ⟨r, started⟩
  · refine ⟨stands, ?_, ?_, List.append_nil _, fun _ => rfl, ?_⟩
    · rw [refused]
      rintro p i ⟨⟩
    · rw [refused]
      rintro t ⟨⟩
    · rw [refused]
      intro started
      simp [quiet, unstarted] at started
  · rw [started] at stands ⊢
    refine ⟨stands, ?_, ?_, List.append_nil _, fun _ => rfl, ?_⟩
    · rintro p i ⟨⟩
    · rintro t ⟨⟩
      rw [unowned]
      exact ⟨Registry.isCurrent_take _ _, undismissed_take _⟩
    · exact ⟨stands.stored rfl, by simp [quiet], rfl⟩

theorem heeds_start (around : Surroundings) (b : Buffer) (unowned : l.registry = .empty) :
    Heeds l around b (start around b l).linter [] .fresh (start around b l).state (start around b l).effects := by
  have stands := stands_start l around b
  rcases start_cases around b l with ⟨found, refused⟩ | ⟨p, bundles, ⟨through, tries⟩ | ⟨i, probe, asks⟩⟩
  · rw [refused] at stands ⊢
    exact ⟨stands, by rintro p i ⟨⟩, by rintro t ⟨⟩, rfl, fun _ => rfl, fun started => absurd rfl started⟩
  · rw [tries] at stands ⊢
    exact heeds_launch [] unowned rfl stands
  · rw [asks] at stands ⊢
    exact ⟨stands, fun _ _ _ => unowned, by rintro t ⟨⟩, rfl, fun _ => rfl, toolStarts_probe probe⟩

/-- With each signal a lint to which nobody else comes stands where it may stand next. -/
theorem Heeds.step (heeds : Heeds l around b now heard h x effects) (moment : Surroundings) (signal : Signal) :
    Heeds l around b (x.step moment signal now).linter (heard ++ [(moment, signal)])
      (h.hear effects [(moment, signal)]) (x.step moment signal now).state
      (effects ++ (x.step moment signal now).effects) := by
  have stands : Stands l around b (heard ++ [(moment, signal)]) (x.step moment signal now).state
      (effects ++ (x.step moment signal now).effects) :=
    heeds.stands.step signal (fun t holds => (heeds.owned t holds).1) fun _ t holds => (heeds.owned t holds).2
  have parts : (h.hear effects [(moment, signal)]).waited ++ (h.hear effects [(moment, signal)]).since =
      heard ++ [(moment, signal)] := by
    rw [← heeds.parts]
    by_cases quiet : toolStarts effects = []
    · rw [Hearing.hear, if_pos quiet, heeds.unstarted quiet]
      simp
    · rw [Hearing.hear, if_neg quiet]
      simp
  cases x with
  | asking p i =>
    have quiet : toolStarts effects = [] := heeds.ends
    have waiting : h.hear effects [(moment, signal)] = ⟨heard ++ [(moment, signal)], []⟩ := by
      rw [Hearing.hear, if_pos quiet, ← heeds.parts, heeds.unstarted quiet, List.append_nil]
    rw [waiting] at parts ⊢
    rcases asking_step_cases moment signal p i now with same | ⟨through, bundles, tries⟩
    · rw [same] at stands ⊢
      rw [List.append_nil] at stands ⊢
      exact ⟨stands, heeds.unowned, heeds.owned, parts, fun _ => rfl, quiet⟩
    · rw [tries] at stands ⊢
      exact heeds_launch _ (heeds.unowned p i rfl) quiet stands
  | running file t =>
    obtain ⟨stored, started, unended⟩ := heeds.ends
    have since : h.hear effects [(moment, signal)] = ⟨h.waited, h.since ++ [(moment, signal)]⟩ :=
      Hearing.hear_since started _ _ _
    have stillStarted (more : List Effect) : toolStarts (effects ++ more) ≠ [] := by simp [started]
    rw [since] at parts ⊢
    obtain ⟨current, undismissed⟩ := heeds.owned t rfl
    have waitsOn (unheard : Heard.ending? [(moment, signal)] = none)
        (idle : (running file t).step moment signal now = ⟨now, running file t, []⟩) :
        Heeds l around b ((running file t).step moment signal now).linter (heard ++ [(moment, signal)])
          ⟨h.waited, h.since ++ [(moment, signal)]⟩ ((running file t).step moment signal now).state
          (effects ++ ((running file t).step moment signal now).effects) := by
      rw [idle] at stands ⊢
      refine ⟨stands, heeds.unowned, heeds.owned, parts, fun quiet => absurd quiet (stillStarted _), ?_⟩
      exact ⟨stored, stillStarted _, by rw [ending?_append, unended, unheard, Option.or_none]⟩
    cases signal with
    | programEnded e =>
      by_cases stopped : e = .stopped
      · subst stopped
        exact waitsOn rfl (by rw [Analysis.step, if_pos ⟨rfl, undismissed⟩])
      · have ends : (running file t).step moment (.programEnded e) now = conclude file t e now := by
          rw [Analysis.step, if_neg fun both => stopped both.1]
        rw [ends] at stands ⊢
        refine ⟨stands, by rintro p i ⟨⟩, by rintro t ⟨⟩, parts, fun quiet => absurd quiet (stillStarted _), ?_⟩
        intro _
        refine ⟨file, e, e.notices ++ (ofResult file e.result).2, stored, ?_, ?_⟩
        · rw [ending?_append, unended, Option.none_or]
          cases e <;> first | rfl | exact absurd rfl stopped
        · simp only [current, RunResult.judged, if_true]
          exact verdict_of_ending file stopped
    | _ => exact waitsOn rfl rfl
  | finished found =>
    have idle : (finished found).step moment signal now = ⟨now, finished found, []⟩ := rfl
    rw [idle] at stands ⊢
    rw [List.append_nil] at stands ⊢
    have quiet_of : toolStarts effects = [] → (h.hear effects [(moment, signal)]).since = [] := by
      intro quiet
      rw [Hearing.hear, if_pos quiet]
      exact heeds.unstarted quiet
    refine ⟨stands, heeds.unowned, heeds.owned, parts, quiet_of, ?_⟩
    intro started
    obtain ⟨file, e, notices, stored, ending, verdict⟩ := heeds.ends started
    refine ⟨file, e, notices, stored, ?_, verdict⟩
    rw [Hearing.hear, if_neg started, ending?_append, ending, Option.some_or]

end

end Analysis
end LintBridge
