import LintBridge.Proofs.Bundler.Lookups
import LintBridge.Proofs.Server.Timers

/-!
Who seeks the answers that the server's linter looks up.

As long as the talk goes on, an answer that is sought is sought by some work that is not done yet: nothing else starts a
probe, and no work is given up (`Seeks`). So a server with no lint and no correction under way knows every answer that
it has begun to look for. A part of a step is taken from a state in which one piece of work is in the middle of it;
`SeeksWith` is the same, with the inquiry that this work has by then in the place of the one that is noted for it.
-/

set_option autoImplicit false
set_option relaxedAutoImplicit false

namespace LintBridge

open Bundler (Inquiry Memo Pursues)

/-! ### The linter after a step of a call -/

theorem Bundler.Memo.sound_empty : Memo.empty.Sound where
  bounded d k counts := by cases counts
  begun d k counts := by cases counts
  apart d d' k counts := by cases counts

/-- A call leaves the memo alone, asks it a question or puts the end of a probe into it. -/
inductive Bundler.Memo.Consulted (m : Memo) : Memo → Prop
  | silent : Consulted m m
  | asked (s : Surroundings) (dir : Path) : Consulted m (m.ask s dir).2.1
  | probed (n : Nat) (ok : Bool) : Consulted m (m.probed n ok)

theorem Bundler.Memo.Sound.consulted {m m' : Memo} (sound : m.Sound) (consulted : m.Consulted m') : m'.Sound := by
  cases consulted with
  | silent => exact sound
  | asked s dir => exact sound.ask s dir
  | probed n ok => exact sound.probed n ok

/-- What a step of a call makes of the linter, but for the registry. -/
structure Linter.Becomes (l l' : Linter) : Prop where
  config : l'.config = l.config
  bundles : l.bundles.Consulted l'.bundles

section
variable {l₀ l : Linter}

theorem Linter.becomes_itself (l : Linter) : l.Becomes l := ⟨rfl, .silent⟩

theorem Linter.becomes_asked (l : Linter) (s : Surroundings) (dir : Path) :
    l.Becomes { l with bundles := (l.bundles.ask s dir).2.1 } := ⟨rfl, .asked s dir⟩

theorem Linter.becomes_probed (l : Linter) (n : Nat) (ok : Bool) :
    l.Becomes { l with bundles := l.bundles.probed n ok } := ⟨rfl, .probed n ok⟩

theorem Analysis.becomes_launch (becomes : l₀.Becomes l) (s : Surroundings) (p : Plan) (through : Bool) :
    l₀.Becomes (launch s p through l).linter := by
  have config : (launch s p through l).linter.config = l.config := by
    unfold launch
    split
    · rfl
    · dsimp only
      split <;> rfl
  have bundles := (bundles_launch s p through l).1
  exact ⟨config.trans becomes.config, bundles ▸ becomes.bundles⟩

theorem Analysis.becomes_start (s : Surroundings) (b : Buffer) (l : Linter) : l.Becomes (start s b l).linter := by
  unfold start
  split
  · exact l.becomes_itself
  · dsimp only
    split
    · exact l.becomes_itself
    · rename_i p _
      split
      · exact becomes_launch l.becomes_itself s p true
      · split
        · have asked := l.becomes_asked s p.cwd
          unfold afterAsking
          split
          · exact becomes_launch asked s p _
          · exact asked
        · exact becomes_launch l.becomes_itself s p false

theorem Analysis.becomes_step (s : Surroundings) (signal : Signal) (a : Analysis) (l : Linter) :
    l.Becomes (a.step s signal l).linter := by
  unfold step
  split
  · rename_i p n ok
    exact becomes_launch (l.becomes_probed n ok) s p ok
  · rename_i p n
    split
    · exact becomes_launch l.becomes_itself s p _
    · exact l.becomes_itself
  · split
    · exact l.becomes_itself
    · exact ⟨rfl, .silent⟩
  · exact l.becomes_itself

theorem Correction.becomes_launch (becomes : l₀.Becomes l) (s : Surroundings) (p : Plan) (trigger : Trigger)
    (through : Bool) : l₀.Becomes (launch s p trigger through l).linter := by
  have config : (launch s p trigger through l).linter.config = l.config := by
    unfold launch
    split
    · rfl
    · split <;> rfl
  have bundles := (bundles_launch s p trigger through l).1
  exact ⟨config.trans becomes.config, bundles ▸ becomes.bundles⟩

theorem Correction.becomes_start (s : Surroundings) (b : Buffer) (trigger : Trigger) (l : Linter) :
    l.Becomes (start s b trigger l).linter := by
  unfold start
  split
  · exact l.becomes_itself
  · split
    · exact l.becomes_itself
    · split
      · exact l.becomes_itself
      · rename_i p _
        split
        · exact becomes_launch l.becomes_itself s p trigger true
        · split
          · have asked := l.becomes_asked s p.cwd
            unfold afterAsking
            dsimp only
            split
            · exact becomes_launch asked s p trigger _
            · exact asked
          · exact becomes_launch l.becomes_itself s p trigger false

theorem Correction.becomes_step (s : Surroundings) (signal : Signal) (c : Correction) (l : Linter) :
    l.Becomes (c.step s signal l).linter := by
  unfold step
  split
  · rename_i p trigger n ok
    exact becomes_launch (l.becomes_probed n ok) s p trigger ok
  · rename_i p trigger n
    split
    · exact becomes_launch l.becomes_itself s p trigger _
    · exact l.becomes_itself
  · split
    · exact l.becomes_itself
    · exact ⟨rfl, .silent⟩
  · exact l.becomes_itself

end

namespace Server

/-- The inquiry of a piece of work that waits for its answer. -/
def Work.inquiry? : Work → Option Inquiry
  | .linting _ _ a _ => a.inquiry?
  | .fixing _ c => c.inquiry?
  | _ => none

def inquiryOf? (s : Server) (n : Nat) : Option Inquiry := (Keyed.get? n s.jobs).bind fun j => j.work.inquiry?

/-- Directories and documents count once, and an answer that is sought is sought by some work. -/
structure Seeks (s : Server) : Prop where
  sound : s.linter.bundles.Sound
  prober : ∀ k, s.linter.bundles.answer k = .sought → ∃ m, s.inquiryOf? m = some (.probing k)
  distinct : (Keyed.keys s.documents).Nodup

/-- The same, if the work with the number `n` has the inquiry `i`. -/
structure SeeksWith (n : Nat) (i : Option Inquiry) (s : Server) : Prop where
  sound : s.linter.bundles.Sound
  prober : ∀ k, s.linter.bundles.answer k = .sought →
    i = some (.probing k) ∨ ∃ m, m ≠ n ∧ s.inquiryOf? m = some (.probing k)
  distinct : (Keyed.keys s.documents).Nodup

section
variable {around : Surroundings} {n : Nat} {i : Option Inquiry} {s : Server} {isRequest : Bool} {u : Url}
  {version : Option Int}

theorem Seeks.except (seeks : Seeks s) (n : Nat) : SeeksWith n (s.inquiryOf? n) s where
  sound := seeks.sound
  prober k sought := by
    obtain ⟨m, probes⟩ := seeks.prober k sought
    by_cases own : m = n
    · exact .inl (own ▸ probes)
    · exact .inr ⟨m, own, probes⟩
  distinct := seeks.distinct

theorem SeeksWith.moves (seeks : SeeksWith n i s) {after : Option Inquiry} {l : Linter}
    (pursues : Pursues s.linter.bundles i after l.bundles) (becomes : s.linter.Becomes l) :
    SeeksWith n after { s with linter := l } where
  sound := seeks.sound.consulted becomes.bundles
  prober k sought := by
    rcases pursues.sought k sought with own | ⟨was, other⟩
    · exact .inl own
    · rcases seeks.prober k was with own | elsewhere
      · exact absurd own other
      · exact .inr elsewhere
  distinct := seeks.distinct

theorem SeeksWith.of_eq {s' : Server} (seeks : SeeksWith n i s) (bundles : s'.linter.bundles = s.linter.bundles)
    (jobs : s'.jobs = s.jobs) (distinct : (Keyed.keys s'.documents).Nodup) : SeeksWith n i s' where
  sound := bundles ▸ seeks.sound
  prober k sought := by
    rw [bundles] at sought
    simpa only [inquiryOf?, jobs] using seeks.prober k sought
  distinct := distinct

/-! ### Parts of steps -/

theorem seeks_conclude (seeks : SeeksWith n none s) (isRequest : Bool) (reply : Reply) :
    Seeks (conclude n isRequest reply s).server where
  sound := seeks.sound
  prober k sought := by
    rcases seeks.prober k sought with own | ⟨m, other, probes⟩
    · cases own
    · refine ⟨m, ?_⟩
      rwa [inquiryOf?, (part_conclude n isRequest reply s).jobs m other]
  distinct := seeks.distinct

theorem seeks_keep {j : Job} (seeks : SeeksWith n j.work.inquiry? s) : Seeks (keep n j s).server where
  sound := seeks.sound
  prober k sought := by
    rcases seeks.prober k sought with own | ⟨m, other, probes⟩
    · refine ⟨n, ?_⟩
      have kept := Keyed.get?_put n n j s.jobs
      rw [if_pos rfl] at kept
      simpa only [inquiryOf?, keep, Turn.quiet, kept, Option.bind_some] using own
    · refine ⟨m, ?_⟩
      rwa [inquiryOf?, (part_keep j s).jobs m other]
  distinct := seeks.distinct

theorem seeks_present (seeks : SeeksWith n i s) (u : Url) (version : Option Int) (found : Option (List Diagnostic)) :
    SeeksWith n i (present u version found s).server := by
  unfold present
  split
  · exact seeks
  · split
    · refine seeks.of_eq rfl rfl ?_
      simp only [announce, Documents.showing]
      split
      · exact seeks.distinct
      · exact Keyed.nodup_keys_put _ _ seeks.distinct
    · exact seeks

/-! ### Lints -/

theorem seeks_afterLint {later : List Url} {goOn : Server → Turn} {p : Progress Analysis}
    (seeks : SeeksWith n p.state.inquiry? { s with linter := p.linter })
    (rest : ∀ s', SeeksWith n none s' → Seeks (goOn s').server) :
    Seeks (afterLint n isRequest u version later goOn p s).server := by
  simp only [afterLint, Turn.andThen, perform]
  split
  · rename_i found ended
    rw [ended] at seeks
    exact rest _ (seeks_present seeks u version found)
  · exact seeks_keep seeks

theorem seeks_lint {later : List Url} {goOn : Server → Turn} (seeks : SeeksWith n none s) (b : Buffer)
    (rest : ∀ s', SeeksWith n none s' → Seeks (goOn s').server) :
    Seeks (lint around n isRequest u version b later goOn s).server :=
  seeks_afterLint
    (seeks.moves (Analysis.pursues_start around b s.linter) (Analysis.becomes_start around b s.linter)) rest

theorem seeks_lintAll (urls : List Url) (seeks : SeeksWith n none s) :
    Seeks (lintAll around n isRequest urls s).server := by
  induction urls generalizing s with
  | nil => exact seeks_conclude seeks isRequest _
  | cons u later ih =>
    unfold lintAll
    split
    · exact ih seeks
    · exact seeks_lint seeks _ fun _ => ih

theorem seeks_lintVersion (seeks : SeeksWith n none s) (version : Int) :
    Seeks (lintVersion around n u version s).server := by
  unfold lintVersion
  split
  · exact seeks_conclude seeks false _
  · exact seeks_lint seeks _ fun _ seeks => seeks_conclude seeks false _

theorem seeks_lintStored (seeks : SeeksWith n none s) : Seeks (lintStored around n isRequest u s).server := by
  unfold lintStored
  split
  · exact seeks_conclude seeks isRequest _
  · exact seeks_lint seeks _ fun _ seeks => seeks_conclude seeks isRequest _

/-! ### Corrections -/

theorem seeks_afterFix {p : Progress Correction} (seeks : SeeksWith n p.state.inquiry? { s with linter := p.linter }) :
    Seeks (afterFix around n isRequest u p s).server := by
  simp only [afterFix, Turn.andThen, perform]
  split
  · rename_i ended
    rw [ended] at seeks
    exact seeks_conclude seeks isRequest _
  · rename_i ended
    rw [ended] at seeks
    exact seeks_lintStored seeks
  · exact seeks_keep seeks

theorem seeks_fixBuffer (seeks : SeeksWith n none s) (trigger : Trigger) (b : Buffer) :
    Seeks (fixBuffer around n isRequest u trigger b s).server :=
  seeks_afterFix
    (seeks.moves (Correction.pursues_start around b trigger s.linter)
      (Correction.becomes_start around b trigger s.linter))

theorem seeks_fix (seeks : SeeksWith n none s) (trigger : Trigger) :
    Seeks (fix around n isRequest u trigger s).server := by
  unfold fix
  split
  · exact seeks_fixBuffer seeks trigger _
  · split
    · exact seeks_conclude seeks isRequest _
    · exact seeks_keep seeks

/-! ### Hovers -/

theorem seeks_afterReading (seeks : SeeksWith n none s) (d : Diagnostic) (anchor : String) (r : StyleGuide.Reader) :
    Seeks (afterReading n isRequest d anchor r s).server := by
  unfold afterReading
  split
  · exact seeks_conclude seeks isRequest _
  · exact seeks_keep seeks

theorem seeks_hover (seeks : SeeksWith n none s) (p : Position) :
    Seeks (hover around n isRequest u p s).server := by
  unfold hover
  split
  · exact seeks_conclude seeks isRequest _
  · split
    · exact seeks_conclude seeks isRequest _
    · refine seeks_afterReading ?_ _ _ _
      exact seeks.of_eq rfl rfl seeks.distinct

/-! ### Events -/

theorem seeks_jobStep (seeks : Seeks s) (signal : Signal) {j : Job} (found : Keyed.get? n s.jobs = some j) :
    Seeks (j.step around n signal s).server := by
  have seeks' := seeks.except n
  rw [inquiryOf?, found, Option.bind_some] at seeks'
  obtain ⟨isRequest, work⟩ := j
  unfold Job.step
  dsimp only at seeks' ⊢
  split
  · rename_i u version a later
    exact seeks_afterLint
      (seeks'.moves (Analysis.pursues_step around signal a s.linter) (Analysis.becomes_step around signal a s.linter))
      fun _ => seeks_lintAll later
  · rename_i u c
    exact seeks_afterFix
      (seeks'.moves (Correction.pursues_step around signal c s.linter)
        (Correction.becomes_step around signal c s.linter))
  · split
    · exact seeks_conclude seeks' isRequest _
    · exact seeks_fixBuffer seeks' _ _
  · refine seeks_afterReading ?_ _ _ _
    exact seeks'.of_eq rfl rfl seeks.distinct
  · exact seeks

theorem configured?_eq_some_iff {settings : Json.Value} {s' : Server} :
    s.configured? settings = some s' ↔ ∃ c, configIn? settings = some c ∧ c ≠ s.linter.config ∧
      s' = { s with linter := { s.linter with config := c } } := by
  rw [configured?, Option.bind_eq_some_iff]
  refine exists_congr fun c => and_congr_right fun _ => ?_
  by_cases same : c = s.linter.config
  · simp [same]
  · simp [same, eq_comm]

theorem bundles_greeted (g : Greeting) (s : Server) : (s.greeted g).linter.bundles = s.linter.bundles := by
  have configured : ∀ s₁ : Server,
      ((g.options.bind fun options => s₁.configured? options).getD s₁).linter.bundles = s₁.linter.bundles := by
    intro s₁
    cases changed : g.options.bind fun options => s₁.configured? options with
    | none => rfl
    | some s₂ =>
      obtain ⟨options, -, changed⟩ := Option.bind_eq_some_iff.mp changed
      obtain ⟨c, -, -, rfl⟩ := configured?_eq_some_iff.mp changed
      rfl
  unfold greeted
  dsimp only
  split
  · exact configured s
  · exact configured _

theorem distinct_amend (distinct : (Keyed.keys s.documents).Nodup) (d : Demand) :
    (Keyed.keys (d.amend s.documents)).Nodup := by
  cases d with
  | opened d => exact Keyed.nodup_keys_put _ _ distinct
  | edited e =>
    simp only [Demand.amend, Documents.edited]
    split
    · exact distinct
    · exact Keyed.nodup_keys_put _ _ distinct
  | saved u text =>
    simp only [Demand.amend, Documents.saved]
    split
    · exact distinct
    · exact Keyed.nodup_keys_put _ _ distinct
  | closed u => exact Keyed.nodup_keys_erase _ distinct
  | _ => exact distinct

theorem seeks_serve (seeks : Seeks s) (unstarted : Keyed.get? n s.jobs = none) (isRequest : Bool) {d : Demand}
    (stays : d ≠ .exit) : Seeks (serve around n isRequest d s).server := by
  have seeks' : SeeksWith n none s := by
    have own := seeks.except n
    rwa [inquiryOf?, unstarted, Option.bind_none] at own
  have amended : SeeksWith n none { s with documents := d.amend s.documents } :=
    seeks'.of_eq rfl rfl (distinct_amend seeks.distinct d)
  cases d with
  | greet g =>
    obtain ⟨l, greeted⟩ := greeted_eq g s
    have same := bundles_greeted g s
    simp only [serve]
    rw [greeted] at same ⊢
    refine seeks_conclude ?_ isRequest _
    exact seeks'.of_eq same rfl seeks.distinct
  | welcome => exact seeks_conclude seeks' isRequest (.ok .null)
  | rest => exact seeks_conclude seeks' isRequest _
  | exit => exact absurd rfl stays
  | opened d => exact seeks_lintVersion amended d.version
  | edited e =>
    simp only [serve]
    split
    · exact seeks_conclude seeks' isRequest _
    · exact ⟨seeks.sound, seeks.prober, amended.distinct⟩
  | saved u text =>
    simp only [serve]
    split
    · exact seeks_fix amended .save
    · exact seeks_lintStored amended
  | closed u => exact seeks_conclude amended isRequest (.ok .null)
  | configured settings =>
    simp only [serve]
    split
    · exact seeks_conclude seeks' isRequest _
    · rename_i s' changed
      obtain ⟨c, -, -, rfl⟩ := configured?_eq_some_iff.mp changed
      refine seeks_lintAll _ ?_
      exact seeks'.of_eq rfl rfl seeks.distinct
  | hover u p => exact seeks_hover seeks' p
  | actions q => exact seeks_conclude seeks' isRequest _
  | execute command arguments =>
    simp only [serve]
    split
    · exact seeks_conclude seeks' isRequest _
    · exact seeks_fix seeks' .command
  | other => exact seeks_conclude seeks' isRequest _

theorem seeks_message (seeks : Seeks s) (unstarted : Keyed.get? s.next s.jobs = none) (around : Surroundings)
    {m : Message} (stays : s.demand? (.message m) ≠ some .exit) : Seeks (s.step around (.message m)).server := by
  by_cases exited : s.phase = .exited
  · rwa [step, receive, if_pos exited]
  · have back : ∀ phase next, SeeksWith s.next none { s with phase := phase, next := next } := by
      intro phase next
      have own := seeks.except s.next
      rw [inquiryOf?, unstarted, Option.bind_none] at own
      exact own.of_eq rfl rfl seeks.distinct
    have quiet : ∀ phase next, Seeks { s with phase := phase, next := next } := fun _ _ =>
      ⟨seeks.sound, seeks.prober, seeks.distinct⟩
    rw [step, receive, if_neg exited]
    simp only [settle]
    cases intake : (s.phase.intake m).1 with
    | dropped =>
      dsimp only
      split
      · exact quiet _ _
      · exact quiet _ _
    | refused r =>
      dsimp only
      split
      · exact seeks_conclude (back _ _) m.isRequest _
      · exact seeks_conclude (back _ _) m.isRequest _
    | taken d =>
      have asked : s.demand? (.message m) = some d := by rw [demand?, if_neg exited, intake]
      have taken : Seeks { s with phase := (s.phase.intake m).2, next := s.next + 1 } := quiet _ _
      exact seeks_serve taken unstarted m.isRequest fun exits => stays (exits ▸ asked)

/-- What every history keeps: an edit that waits for its time is no work yet, and until the end of the talk what is
sought is sought by some work. -/
structure Orderly (done : List (Nat × Deed)) (s : Server) : Prop where
  registered : Registered done s
  waiting : ∀ n t, Keyed.get? n s.timers = some t → Keyed.get? n s.jobs = none
  seeks : s.phase ≠ .exited → Seeks s

private theorem edited_of_timed (around : Surroundings) {e : Event} {m : Nat} {t : Timer}
    (untimed : Keyed.get? m s.timers = none) (timed : Keyed.get? m (s.timersAt around e) = some t) :
    ∃ edit, s.demand? e = some (.edited edit) ∧ edit.texts.isEmpty = false ∧ m = s.next := by
  unfold timersAt at timed
  split at timed
  · rw [Keyed.get?_erase, untimed, ite_self] at timed
    cases timed
  · cases asked : s.demand? e with
    | none =>
      rw [asked, Option.elim_none, untimed] at timed
      cases timed
    | some d =>
      rw [asked, Option.elim_some] at timed
      unfold Demand.timed at timed
      split at timed
      · rename_i edit
        by_cases textless : edit.texts.isEmpty = true
        · rw [if_pos textless, untimed] at timed
          cases timed
        · rw [if_neg textless, Keyed.get?_append, untimed, Option.none_or] at timed
          by_cases own : s.next = m
          · exact ⟨edit, rfl, Bool.eq_false_iff.mpr textless, own.symm⟩
          · rw [Keyed.get?, if_neg own] at timed
            cases timed
      · rw [untimed] at timed
        cases timed

variable {done : List (Nat × Deed)}

private theorem Orderly.waits (orderly : Orderly done s) (around : Surroundings) (e : Event) {m : Nat} {t : Timer}
    (timed : Keyed.get? m (s.step around e).server.timers = some t) :
    Keyed.get? m (s.step around e).server.jobs = none := by
  have numbered := orderly.registered.numbered
  by_cases exits : s.demand? e = some .exit
  · obtain ⟨-, -, timers, jobs, -⟩ := step_of_exit around exits
    rw [timers] at timed
    rw [jobs]
    have kept := Keyed.get?_filter (fun j => !Job.isRequest j) m numbered.once
    rwa [orderly.waiting m t timed] at kept
  rw [(part_step around exits).timers] at timed
  have timed : Keyed.get? m (s.timersAt around e) = some t := timed
  -- Either the edit was waiting before, and the step is of something else, or it has just come and is no work yet.
  cases before : Keyed.get? m s.timers with
  | some t' =>
    have awaits : Awaits m t' s :=
      ⟨numbered.timers m t' (Keyed.mem_of_get? before), before, orderly.waiting m t' before⟩
    by_cases fired : e = .elapse m
    · subst fired
      rw [timersAt, Keyed.get?_erase, if_pos rfl] at timed
      cases timed
    · exact (awaits.step numbered.once around fired).1.unstarted
  | none =>
    obtain ⟨edit, asked, some, rfl⟩ := edited_of_timed around before timed
    obtain ⟨msg, rfl, -, served⟩ := served_of_demand around asked
    rw [served]
    simp only [serve, some]
    exact orderly.registered.unstarted

private theorem Orderly.seeks_step (orderly : Orderly done s) (around : Surroundings) (e : Event)
    (talking : (s.step around e).server.phase ≠ .exited) : Seeks (s.step around e).server := by
  have stays := stays_of_talking talking
  have seeks : Seeks s := orderly.seeks fun exited => talking (exited_step around exited)
  cases e with
  | message m => exact seeks_message seeks orderly.registered.unstarted around stays
  | signal n signal =>
    simp only [step]
    split
    · exact seeks
    · rename_i j found
      exact seeks_jobStep seeks signal found
  | elapse n =>
    simp only [step, elapse]
    split
    · exact seeks
    · rename_i t timed
      have own := seeks.except n
      rw [inquiryOf?, orderly.waiting n t timed, Option.bind_none] at own
      split
      · refine seeks_lintVersion ?_ t.version
        exact own.of_eq rfl rfl seeks.distinct
      · exact ⟨seeks.sound, seeks.prober, seeks.distinct⟩

theorem Orderly.step (orderly : Orderly done s) (around : Surroundings) (e : Event) :
    Orderly (done ++ s.doneAt around e) (s.step around e).server where
  registered := orderly.registered.step around e
  waiting _ _ timed := orderly.waits around e timed
  seeks talking := orderly.seeks_step around e talking

theorem orderly_fresh : Orderly [] fresh where
  registered := registered_fresh
  waiting n t timed := by cases timed
  seeks _ :=
    { sound := Memo.sound_empty
      prober := fun k sought => by
        have begun := Memo.lt_of_answer_ne_missing (m := fresh.linter.bundles) (k := k) (by rw [sought]; simp)
        exact absurd begun (Nat.not_lt_zero k)
      distinct := List.nodup_nil }

theorem orderly_after (history : History) : Orderly (fresh.done history) (fresh.after history) :=
  @keeps_after fresh [] (fun _ done s => Orderly done s) (fun orderly around e => orderly.step around e)
    history [] orderly_fresh

theorem Seeks.unsought (seeks : Seeks s) (idle : ∀ m, s.inquiryOf? m = none) (k : Nat) :
    s.linter.bundles.answer k ≠ .sought := by
  intro sought
  obtain ⟨m, probes⟩ := seeks.prober k sought
  rw [idle m] at probes
  cases probes

end
end Server
end LintBridge
