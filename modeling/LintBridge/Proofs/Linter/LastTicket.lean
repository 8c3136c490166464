import LintBridge.Proofs.Linter.Takers
import Mathlib.Data.List.Nodup

/-!
Which analyses of a file have something to show.

Among the analyses of one file, the last to take the file's key wins. That need not be the last to be called:
an analysis takes the key when its tool is to be started, after it has waited for Bundler, and one that needs
no tool never takes it.
-/

set_option autoImplicit false
set_option relaxedAutoImplicit false

namespace LintBridge.Session

/-- A history in which two analyses of a file are called, the one before the other. -/
def CalledBefore (history : History) (file : Path) (first second : Nat) : Prop :=
  ∃ b₁ b₂, [(first, Task.analyze b₁), (second, .analyze b₂)].Sublist (allBegun history) ∧
    b₁.path = some file ∧ b₂.path = some file

/-- With the event, the analysis with the number is over, and has found this. -/
def Ends (s : Session) (around : Surroundings) (e : SessionEvent) (n : Nat)
    (found : Option (List Diagnostic)) : Prop :=
  ∃ x, s.call? n = some (.analysis x) ∧ x.found? = none ∧
    (s.step around e).1.call? n = some (.analysis (.finished found))

/-- In a history, the second call takes the key of the file after the first has. -/
def TakesAfter (s : Session) (history : History) (file : Path) (first second : Nat) : Prop :=
  Keyed.Later (Analysis.key file) first second (s.entries history)

section
variable {s : Session} {known : List (Nat × Task)} {log : List (String × Nat)} {around : Surroundings}
  {e : SessionEvent} {n : Nat} {found : Option (List Diagnostic)} {s₀ : Session} {history : History}

private theorem signal_of_ends (orderly : Orderly known log s) (fits : s.Allows known e)
    (ends : s.Ends around e n found) :
    ∃ signal x, e = .signal n signal ∧ s.call? n = some (.analysis x) ∧ x.found? = none ∧
      (x.step around signal s.linter).state = .finished found := by
  obtain ⟨x, before, unfinished, finished⟩ := ends
  have changed : (s.step around e).1.call? n ≠ s.call? n := by
    intro same
    rw [finished, before] at same
    cases same
    cases unfinished
  cases e with
  | call m task =>
    by_cases same : m = n
    · subst same
      exact absurd (orderly.called m _ before) fits
    · refine absurd ?_ changed
      rw [step, call?_settle, if_neg same]
  | signal m signal =>
    by_cases same : m = n
    · subst same
      have before' : Keyed.get? m s.calls = some (.analysis x) := before
      rw [step, before', call?_settle, if_pos rfl] at finished
      exact ⟨signal, x, rfl, before, unfinished, Activity.analysis.inj (Option.some.inj finished)⟩
    · refine absurd ?_ changed
      unfold step
      dsimp only
      split
      · rfl
      · rw [call?_settle, if_neg same]
  | forget m =>
    rw [call?_forget] at finished changed
    split at finished
    · cases finished
    · rename_i other
      rw [if_neg other] at changed
      exact absurd rfl changed
  | configure c => exact absurd rfl changed
  | setRoot root => exact absurd rfl changed
  | remember dir bundled => exact absurd rfl changed

/-- How an analysis can end: without its program having run, or with the end of its program. Only in the first
case it may take its key with this very step, and then it has nothing to show. -/
private theorem outcome (orderly : Orderly known log s) (fits : s.Allows known e)
    (ends : s.Ends around e n found) :
    ((∀ ending, e ≠ .signal n (.programEnded ending)) ∧ n ∉ log.map Prod.snd ∧
      (s.entry around e = [] ∧ found.isSome = true ∨ n ∈ (s.entry around e).map Prod.snd ∧ found = none)) ∨
    ∃ t file ending, e = .signal n (.programEnded ending) ∧ s.ticketOf? n = some t ∧
      s.fileOf? n = some file ∧ s.entry around e = [] ∧
      found = (Analysis.ofResult file (RunResult.judged (s.linter.registry.isCurrent t) ending)).1 ∧
      (ending = .stopped → s.linter.registry.isDismissed t = true) := by
  obtain ⟨signal, x, rfl, before, unfinished, finished⟩ := signal_of_ends orderly fits ends
  obtain ⟨keys, advance⟩ := Analysis.advance_step around signal x s.linter
  have follows := Activity.Follows.of_advance advance
  rw [← Activity.ticket?_analysis] at follows
  have entry : s.entry around (.signal n signal) = keys.map (·, n) := entry_signal before follows
  have unlogged : ∀ k, x.key? = some k → n ∉ log.map Prod.snd := by
    intro k may
    exact orderly.unlogged n k (by rw [keyOf?, before, Option.bind_some, Activity.key?, may])
  rw [entry]
  generalize state : (x.step around signal s.linter).state = x' at advance finished
  generalize (x.step around signal s.linter).linter.registry = r' at advance
  cases advance with
  | idle =>
    subst finished
    cases unfinished
  | sets p i x' r' keys asked set =>
    left
    refine ⟨?_, unlogged _ rfl, ?_⟩
    · rintro ending eq
      cases eq
      exact asked ending rfl
    subst finished
    cases set with
    | spares ds => exact .inl ⟨rfl, rfl⟩
    | fails => exact .inr ⟨List.mem_cons_self, rfl⟩
  | ends file t ending ended told =>
    right
    subst ended
    refine ⟨t, file, ending, rfl, ?_, ?_, rfl, ?_, told⟩
    · rw [ticketOf?, before, Option.bind_some, Activity.ticket?_analysis]
      rfl
    · rw [fileOf?, before, Option.bind_some]
      rfl
    · cases finished
      rfl

private theorem isSome_ofResult (file : Path) (current : Bool) (ending : Ending) :
    (Analysis.ofResult file (RunResult.judged current ending)).1.isSome = true ↔
      current = true ∧ ∃ o, ending = .output o := by
  cases current <;> cases ending <;> simp [Analysis.ofResult, RunResult.judged, Ending.result]

private theorem isCurrent_iff_last {t : Ticket} {file : Path}
    (orderly : Orderly known (s₀.entries history).reverse s) (holds : s.ticketOf? n = some t)
    (sameKey : t.key = Analysis.key file) :
    (n ∈ (s₀.entries history).map Prod.snd) ∧
      (s.linter.registry.isCurrent t = true ↔ ∀ m, ¬ s₀.TakesAfter history file n m) := by
  have logged := orderly.logged n t holds
  refine ⟨List.mem_map_of_mem (List.mem_reverse.mp logged), ?_⟩
  rw [orderly.ledger.isCurrent_iff_last orderly.once holds logged, sameKey]
  rfl

private theorem file_eq {b : Buffer} {file f : Path} (orderly : Orderly known log s)
    (has : s.fileOf? n = some f) (isKnown : (n, .analyze b) ∈ known) (stored : b.path = some file) :
    f = file := by
  obtain ⟨b', isKnown', stored'⟩ := orderly.filed n f has
  have same := List.inj_on_of_nodup_map orderly.distinct isKnown isKnown' rfl
  cases same
  rw [stored] at stored'
  cases stored'
  rfl

private theorem mem_of_takesAfter {file : Path} {m : Nat} (later : s₀.TakesAfter history file n m) :
    n ∈ (s₀.entries history).map Prod.snd := by
  obtain ⟨front, back, split, -⟩ := later
  rw [split, List.map_append, List.map_cons]
  exact List.mem_append_right _ List.mem_cons_self

private theorem caller_of_takesAfter {file : Path} {m : Nat}
    (orderly : Orderly known (s₀.entries history).reverse s) (later : s₀.TakesAfter history file n m) :
    m ≠ n ∧ ∃ task, (m, task) ∈ known ∧ task.key? = some (Analysis.key file) := by
  obtain ⟨front, back, split, isLater⟩ := later
  constructor
  · rintro rfl
    have once := orderly.once
    rw [split, List.map_reverse, List.nodup_reverse, List.map_append, List.map_cons] at once
    exact (List.nodup_cons.mp (List.nodup_append.mp once).2.1).1 (List.mem_map_of_mem isLater)
  · have isIn : (Analysis.key file, m) ∈ s₀.entries history := by
      rw [split]
      exact List.mem_append_right _ (List.mem_cons_of_mem _ isLater)
    exact orderly.keyed _ m (List.mem_reverse.mpr isIn)

private theorem isSome_iff_of_ends {b : Buffer} {file : Path}
    (orderly : Orderly known (s₀.entries history).reverse s) (fits : s.Allows known e)
    (isKnown : (n, .analyze b) ∈ known) (stored : b.path = some file) (ends : s.Ends around e n found) :
    found.isSome = true ↔
      n ∉ (s₀.entries history ++ s.entry around e).map Prod.snd ∨
      n ∈ (s₀.entries history).map Prod.snd ∧ (∃ o, e = .signal n (.programEnded (.output o))) ∧
        ∀ m, ¬ s₀.TakesAfter history file n m := by
  rw [List.map_append, List.mem_append]
  rcases outcome orderly fits ends with ⟨-, notBefore, how⟩ | ⟨t, f, ending, rfl, holds, has, none, rfl, -⟩
  · rw [List.map_reverse, List.mem_reverse] at notBefore
    rcases how with ⟨none, some⟩ | ⟨taken, rfl⟩
    · simp [none, notBefore, some]
    · simp [taken, notBefore]
  · have same := file_eq orderly has isKnown stored
    subst same
    obtain ⟨taken, current⟩ := isCurrent_iff_last orderly holds (orderly.sealed n t f holds has)
    rw [isSome_ofResult, current]
    constructor
    · rintro ⟨last, o, rfl⟩
      exact .inr ⟨taken, ⟨o, rfl⟩, last⟩
    · rintro (never | ⟨-, ⟨o, eq⟩, last⟩)
      · exact absurd (.inl taken) never
      · cases eq
        exact ⟨last, o, rfl⟩

private theorem none_iff_of_ends {b : Buffer} {file : Path} {ending : Ending}
    (orderly : Orderly known (s₀.entries history).reverse s)
    (fits : s.Allows known (.signal n (.programEnded ending))) (isKnown : (n, .analyze b) ∈ known)
    (stored : b.path = some file) (ends : s.Ends around (.signal n (.programEnded ending)) n found)
    (howEnded : ending = .stopped ∨ ∃ o, ending = .output o) :
    found = none ↔ ∃ m, s₀.TakesAfter history file n m := by
  rcases outcome orderly fits ends with ⟨unasked, -⟩ | ⟨t, f, ending', eq, holds, has, -, rfl, told⟩
  · exact absurd rfl (unasked ending)
  · cases eq
    have same := file_eq orderly has isKnown stored
    subst same
    obtain ⟨-, current⟩ := isCurrent_iff_last orderly holds (orderly.sealed n t f holds has)
    have shown := isSome_ofResult f (s.linter.registry.isCurrent t) ending
    have stale : s.linter.registry.isCurrent t ≠ true ↔ ∃ m, s₀.TakesAfter history f n m := by
      rw [Ne, current, not_forall_not]
    rw [← stale, ← Option.not_isSome_iff_eq_none, shown]
    rcases howEnded with rfl | ⟨o, rfl⟩
    · -- Only who has been replaced is told to stop.
      have notCurrent : s.linter.registry.isCurrent t ≠ true := by
        intro isCurrent
        obtain ⟨t', holds', notNewest⟩ := orderly.ledger.replaced_of_dismissed holds (told rfl)
        rw [holds] at holds'
        cases holds'
        exact notNewest ((orderly.ledger.isCurrent_iff_newest holds).mp isCurrent)
      exact ⟨fun _ => notCurrent, fun _ both => notCurrent both.1⟩
    · constructor
      · exact fun neither isCurrent => neither ⟨isCurrent, o, rfl⟩
      · exact fun notCurrent both => notCurrent both.1

end

/-- The last analysis to take a file's key wins, whichever was called last.

Take an analysis that ends after another one of its file, called later, is over. It has something to show
exactly if it has not needed the key at all, or if its tool has printed something and nobody has taken the key
after it; so it has nothing if the other has. And take an analysis whose tool has printed something, or that
has been told to stop: it has nothing to show exactly if another call has taken the key after it, and that call
may have been called before. -/
theorem last_ticket_wins (config : Config) (root : Option Path) (bundles : Bundler.Memo) (history : History)
    (around : Surroundings) (e : SessionEvent) (file : Path)
    (proper : (ofLinter ⟨config, root, bundles, .empty⟩).Proper [] (history ++ [(around, e)]))
    (few : (allBegun (history ++ [(around, e)])).length < UInt64.size) :
    let start := ofLinter ⟨config, root, bundles, .empty⟩
    let now := start.after history
    (∀ a b found, CalledBefore history file a b → now.IsOver b → now.Ends around e a found →
      (found.isSome = true ↔
        a ∉ (start.entries (history ++ [(around, e)])).map Prod.snd ∨
        a ∈ (start.entries history).map Prod.snd ∧ (∃ o, e = .signal a (.programEnded (.output o))) ∧
          ∀ m, ¬ start.TakesAfter history file a m) ∧
      (start.TakesAfter history file a b → found = none)) ∧
    (∀ b buffer ending found, (b, .analyze buffer) ∈ allBegun history → buffer.path = some file →
      e = .signal b (.programEnded ending) → ending = .stopped ∨ (∃ o, ending = .output o) →
      now.Ends around e b found →
      (found = none ↔ ∃ m task, m ≠ b ∧ (m, task) ∈ allBegun history ∧
        task.key? = some (Analysis.key file) ∧ start.TakesAfter history file b m)) := by
  intro start now
  rw [proper_append] at proper
  obtain ⟨proper, fits, -⟩ := proper
  rw [allBegun_append, List.length_append] at few
  have orderly : Orderly (allBegun history).reverse (start.entries history).reverse now := by
    have orderly := (orderly_ofLinter config root bundles).after proper
      (by rw [List.length_nil]; omega)
    rwa [List.append_nil, List.append_nil] at orderly
  have fits : now.Allows (allBegun history).reverse e := by rwa [List.append_nil] at fits
  have entries : start.entries (history ++ [(around, e)]) = start.entries history ++ now.entry around e := by
    rw [entries_append, Session.entries, Session.entries, List.append_nil]
  constructor
  · rintro a b found ⟨b₁, b₂, called, stored, -⟩ - ends
    have isKnown : (a, Task.analyze b₁) ∈ (allBegun history).reverse :=
      List.mem_reverse.mpr (called.subset List.mem_cons_self)
    have shown := isSome_iff_of_ends orderly fits isKnown stored ends
    rw [entries]
    refine ⟨shown, ?_⟩
    intro later
    rw [← Option.not_isSome_iff_eq_none, shown, List.map_append]
    rintro (never | ⟨-, -, last⟩)
    · exact never (List.mem_append_left _ (mem_of_takesAfter later))
    · exact last b later
  · rintro b buffer ending found called stored rfl howEnded ends
    have isKnown : (b, Task.analyze buffer) ∈ (allBegun history).reverse := List.mem_reverse.mpr called
    rw [none_iff_of_ends orderly fits isKnown stored ends howEnded]
    constructor
    · rintro ⟨m, later⟩
      obtain ⟨other, task, wasCalled, key⟩ := caller_of_takesAfter orderly later
      exact ⟨m, task, other, List.mem_reverse.mp wasCalled, key, later⟩
    · rintro ⟨m, task, -, -, -, later⟩
      exact ⟨m, later⟩

/-! ### Where the last call loses -/

/-- A directory with these entries, where every program can be started. -/
def workshop (entries : List (String × Entry)) : Surroundings :=
  ⟨⟨.directory entries, []⟩, fun _ => none, fun _ => .ok "", 0⟩

def stored : Buffer := .saved ⟨"/a.rb"⟩ ""

/-- The tool of the first analysis is running when files without a configuration are to be left alone. The second
analysis has nothing to do and is over at once, without the key. -/
def leftAlone : History :=
  [(workshop [], .call 0 (.analyze stored)),
    (workshop [], .configure { Config.default with disableWhenNoConfigFile := true }),
    (workshop [], .call 1 (.analyze stored))]

/-- The first analysis waits for Bundler when the command is to go through Bundler always. The second one starts
its tool at once, and the first one after it. -/
def outwaited : History :=
  [(workshop [("Gemfile", .file [] false)], .call 0 (.analyze stored)),
    (workshop [], .configure { Config.default with useBundler := true }),
    (workshop [], .call 1 (.analyze stored)),
    (workshop [], .signal 0 (.probeEnded false))]

private theorem proper_leftAlone (e : Ending) :
    (ofLinter ⟨Config.default, none, .empty, .empty⟩).Proper []
      (leftAlone ++ [(workshop [], .signal 0 (.programEnded e))]) :=
  ⟨List.not_mem_nil, trivial, (by decide : 1 ∉ [0]), trivial, trivial⟩

private theorem proper_outwaited (e : Ending) :
    (ofLinter ⟨Config.default, none, .empty, .empty⟩).Proper []
      (outwaited ++ [(workshop [], .signal 1 (.programEnded e))]) :=
  ⟨List.not_mem_nil, trivial, (by decide : 1 ∉ [0]), trivial, trivial, trivial⟩

private theorem ends_leftAlone (o : Output) :
    ((ofLinter ⟨Config.default, none, .empty, .empty⟩).after leftAlone).Ends (workshop [])
      (.signal 0 (.programEnded (.output o))) 0 (some (Analysis.ofOutput ⟨"/a.rb"⟩ o)) :=
  ⟨.running ⟨"/a.rb"⟩ ⟨Analysis.key ⟨"/a.rb"⟩, 0⟩, rfl, rfl, rfl⟩

private theorem ends_outwaited (o : Output) :
    ((ofLinter ⟨Config.default, none, .empty, .empty⟩).after outwaited).Ends (workshop [])
      (.signal 1 (.programEnded (.output o))) 1 none :=
  ⟨.running ⟨"/a.rb"⟩ ⟨Analysis.key ⟨"/a.rb"⟩, 0⟩, rfl, rfl, rfl⟩

private theorem calledBefore_leftAlone : CalledBefore leftAlone ⟨"/a.rb"⟩ 0 1 :=
  ⟨stored, stored, .refl _, rfl, rfl⟩

private theorem isOver_leftAlone :
    ((ofLinter ⟨Config.default, none, .empty, .empty⟩).after leftAlone).IsOver 1 := by
  intro a found
  have finished : ((ofLinter ⟨Config.default, none, .empty, .empty⟩).after leftAlone).call? 1 =
      some (.analysis (.finished (some []))) := rfl
  rw [finished] at found
  cases found
  rfl

theorem last_ticket_wins_leftAlone :
    let start := ofLinter ⟨Config.default, none, .empty, .empty⟩
    let event := SessionEvent.signal 0 (.programEnded (.output ⟨"", "", some 0⟩))
    start.Proper [] (leftAlone ++ [(workshop [], event)]) ∧
      (allBegun (leftAlone ++ [(workshop [], event)])).length < UInt64.size ∧
      (start.after leftAlone).Ends (workshop []) event 0 (some (Analysis.ofOutput ⟨"/a.rb"⟩ ⟨"", "", some 0⟩)) ∧
      ¬ start.TakesAfter leftAlone ⟨"/a.rb"⟩ 0 1 := by
  intro start event
  have few : (allBegun (leftAlone ++ [(workshop [], event)])).length < UInt64.size := by decide
  have proper := proper_leftAlone (.output ⟨"", "", some 0⟩)
  have ends := ends_leftAlone ⟨"", "", some 0⟩
  refine ⟨proper, few, ends, ?_⟩
  intro later
  have shown := (last_ticket_wins Config.default none .empty leftAlone (workshop []) event ⟨"/a.rb"⟩ proper
    few).1 0 1 _ calledBefore_leftAlone isOver_leftAlone ends
  cases shown.2 later

/-- The last call need not win. An analysis can have something to show after one that was called later is over;
and one can lose its key though no analysis of its file was called after it. -/
theorem last_call_may_lose :
    ¬ (∀ (config : Config) (root : Option Path) (bundles : Bundler.Memo) (history : History)
        (around : Surroundings) (e : SessionEvent) (file : Path) (a b : Nat) (found : Option (List Diagnostic)),
        (ofLinter ⟨config, root, bundles, .empty⟩).Proper [] (history ++ [(around, e)]) →
        CalledBefore history file a b →
        ((ofLinter ⟨config, root, bundles, .empty⟩).after history).IsOver b →
        ((ofLinter ⟨config, root, bundles, .empty⟩).after history).Ends around e a found → found = none) ∧
      ¬ (∀ (config : Config) (root : Option Path) (bundles : Bundler.Memo) (history : History)
        (around : Surroundings) (file : Path) (b : Nat) (buffer : Buffer) (o : Output),
        (ofLinter ⟨config, root, bundles, .empty⟩).Proper []
          (history ++ [(around, .signal b (.programEnded (.output o)))]) →
        (b, .analyze buffer) ∈ allBegun history → buffer.path = some file →
        ((ofLinter ⟨config, root, bundles, .empty⟩).after history).Ends around
          (.signal b (.programEnded (.output o))) b none →
        ∃ c, CalledBefore history file b c) := by
  constructor
  · intro wins
    have gone := wins Config.default none .empty leftAlone (workshop []) _ ⟨"/a.rb"⟩ 0 1 _
      (proper_leftAlone (.output ⟨"", "", some 0⟩)) calledBefore_leftAlone isOver_leftAlone
      (ends_leftAlone ⟨"", "", some 0⟩)
    cases gone
  · intro keeps
    obtain ⟨c, b₁, b₂, called, -⟩ := keeps Config.default none .empty outwaited (workshop []) ⟨"/a.rb"⟩ 1 stored
      ⟨"", "", some 0⟩ (proper_outwaited _) (by simp [allBegun, outwaited, begun]) rfl (ends_outwaited _)
    have all : allBegun outwaited = [(0, .analyze stored), (1, .analyze stored)] := rfl
    rw [all] at called
    cases called with
    | cons _ called =>
      have tooMany := called.length_le
      simp at tooMany

end LintBridge.Session
