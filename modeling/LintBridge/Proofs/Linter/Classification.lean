import LintBridge.Proofs.Linter.Inquiries
import LintBridge.Proofs.Linter.Verdicts

/-!
What every run of an analysis comes to, whatever else happens on the linter.

Other calls may take their steps between those of an analysis, and the configuration may change. As long as none
of them works on the same file, the analysis keeps its key to the end (`Sole`), and so it stands where
`Analysis.Stands` says, which knows nothing about other calls.
-/

set_option autoImplicit false
set_option relaxedAutoImplicit false

namespace LintBridge.Session

open Analysis (Heard Stands Told)

/-! ### What one call does and hears -/

def mover? : SessionEvent → Option Nat
  | .call n _ => some n
  | .signal n _ => some n
  | _ => none

def effectsAt (n : Nat) (s : Session) (around : Surroundings) (e : SessionEvent) : List Effect :=
  if mover? e = some n then (s.step around e).2 else []

def effectsOf (n : Nat) : Session → History → List Effect
  | _, [] => []
  | s, (around, e) :: rest => s.effectsAt n around e ++ effectsOf n (s.step around e).1 rest

def heardAt (n : Nat) (around : Surroundings) : SessionEvent → Heard
  | .signal m signal => if m = n then [(around, signal)] else []
  | _ => []

def heardIn (n : Nat) (history : History) : Heard := history.flatMap fun moment => heardAt n moment.1 moment.2

/-! ### Who has the key -/

section
variable {s : Session} {known : List (Nat × Task)} {moment : Surroundings}
  {e : SessionEvent} {n m : Nat} {k key : String} {t : Ticket}

/-- Call `n` is the only one that may take the key or holds it, and owns it if it does. -/
structure Sole (n : Nat) (key : String) (s : Session) : Prop where
  seeker : ∀ m, s.keyOf? m = some key → m = n
  seeks : ∀ k, s.keyOf? n = some k → k = key
  holder : ∀ m t, s.ticketOf? m = some t → t.key = key → m = n
  holds : ∀ t, s.ticketOf? n = some t → t.key = key ∧ s.linter.registry.isCurrent t = true

private theorem Sole.holds_of_deals (sole : Sole n key s) {r : Registry} {keys : List String}
    (deals : Registry.Deals s.linter.registry (s.ticketOf? n) (some t) r keys) (own : ∀ k ∈ keys, k = key) :
    t.key = key ∧ r.isCurrent t = true := by
  generalize held : s.ticketOf? n = before at deals
  cases deals with
  | idle => exact sole.holds t held
  | takes k => exact ⟨own k List.mem_cons_self, Registry.isCurrent_take _ k⟩

private theorem Sole.step (sole : Sole n key s) (accounted : Accounted known s) (fits : s.Allows known e)
    (claims : ∀ k m, s.claim? e = some (k, m) → (k = key ↔ m = n)) : Sole n key (s.step moment e).1 where
  seeker m may := by
    rcases keyOf?_step accounted fits may with may | claim
    · exact sole.seeker m may
    · exact (claims key m claim).mp rfl
  seeks k may := by
    rcases keyOf?_step accounted fits may with may | claim
    · exact sole.seeks k may
    · exact (claims k n claim).mpr rfl
  holder m t holds isKey := by
    rcases ticketOf?_step accounted fits holds with held | claim
    · exact sole.holder m t held isKey
    · exact (claims t.key m claim).mp isKey
  holds t holds := by
    rcases step_cases moment accounted fits with
      ⟨m, p, k, file, keys, -, stepped, follows, claim⟩ | ⟨calls, same⟩
    · rw [stepped, ticketOf?_settle] at holds
      have takes : ∀ k' ∈ keys, s.claim? e = some (k', m) := by
        intro k' isIn
        rw [claim, follows.keyed k' isIn]
        rfl
      have deals := follows.deals
      rw [stepped]
      split at holds
      · rename_i own
        subst own
        rw [holds] at deals
        exact sole.holds_of_deals deals fun k' isIn => (claims k' m (takes k' isIn)).mpr rfl
      · rename_i other
        obtain ⟨isKey, current⟩ := sole.holds t holds
        have untaken : key ∉ keys := fun isIn => other ((claims key m (takes key isIn)).mp rfl)
        have unheld : ∀ t', s.ticketOf? m = some t' → t'.key ≠ key :=
          fun t' held itsKey => other (sole.holder m t' held itsKey)
        refine ⟨isKey, ?_⟩
        rw [Registry.isCurrent_iff, isKey] at current ⊢
        exact (deals.owner?_eq untaken unheld).trans current
    · obtain ⟨a, found, holds⟩ := Option.bind_eq_some_iff.mp holds
      rw [same]
      exact sole.holds t (by rw [ticketOf?, calls n a found, Option.bind_some, holds])

end

/-! ### One analysis among other calls -/

section
variable {s : Session} {known : List (Nat × Task)} {moment around : Surroundings}
  {e : SessionEvent} {n : Nat} {key : String} {since : History} {l : Linter} {b : Buffer} {heard : Heard}
  {x : Analysis} {effects : List Effect}

theorem call?_step (stays : mover? e ≠ some n) (kept : e ≠ .forget n) :
    (s.step moment e).1.call? n = s.call? n := by
  cases e with
  | call m task =>
    have other : m ≠ n := fun same => stays (same ▸ rfl)
    rw [step, call?_settle, if_neg other]
  | signal m signal =>
    have other : m ≠ n := fun same => stays (same ▸ rfl)
    rw [step]
    split
    · rfl
    · rw [call?_settle, if_neg other]
  | forget m =>
    have other : m ≠ n := fun same => kept (same ▸ rfl)
    rw [call?_forget, if_neg other]
  | configure c => rfl
  | setRoot root => rfl
  | remember dir bundled => rfl

private theorem stands_step (accounted : Accounted known s) (fits : s.Allows known e)
    (found : s.call? n = some (.analysis x)) (stands : Stands l around b heard x effects)
    (kept : e ≠ .forget n) (sole : x.found? = none → Sole n key s)
    (undismissed : e = .signal n (.programEnded .stopped) → ∀ t, s.ticketOf? n = some t →
      s.linter.registry.isCurrent t = true → s.linter.registry.isDismissed t = false) :
    ∃ x', (s.step moment e).1.call? n = some (.analysis x') ∧ (x'.found? = none → x.found? = none) ∧
      Stands l around b (heard ++ heardAt n moment e) x' (effects ++ s.effectsAt n moment e) := by
  by_cases moves : mover? e = some n
  · cases e with
    | call m task =>
      cases moves
      exact absurd (accounted.called n _ found) fits
    | signal m signal =>
      cases moves
      have found' : Keyed.get? n s.calls = some (.analysis x) := found
      refine ⟨(x.step moment signal s.linter).state, ?_, ?_, ?_⟩
      · rw [step, found', call?_settle, if_pos rfl]
        rfl
      · intro unfinished
        cases x with
        | finished found => exact unfinished
        | _ => rfl
      · have does : s.effectsAt n moment (.signal n signal) = (x.step moment signal s.linter).effects := by
          rw [effectsAt, mover?, if_pos rfl, step, found']
          rfl
        have ticket : s.ticketOf? n = x.ticket? := by
          rw [ticketOf?, found, Option.bind_some, Activity.ticket?_analysis]
        have current : ∀ t, x.ticket? = some t → s.linter.registry.isCurrent t = true := by
          intro t holds
          have unfinished : x.found? = none := by cases x <;> first | rfl | cases holds
          exact ((sole unfinished).holds t (ticket.trans holds)).2
        rw [does, heardAt, if_pos rfl]
        refine stands.step signal current ?_
        rintro rfl t holds
        exact undismissed rfl t (ticket.trans holds) (current t holds)
    | _ => cases moves
  · have unheard : heardAt n moment e = [] := by
      cases e with
      | signal m signal => exact if_neg fun same : m = n => moves (same ▸ rfl)
      | _ => rfl
    refine ⟨x, by rw [call?_step moves kept, found], id, ?_⟩
    rw [unheard, effectsAt, if_neg moves, List.append_nil, List.append_nil]
    exact stands

private theorem claims_of_sole (accounted : Accounted known s) (fits : s.Allows known e)
    (found : s.call? n = some (.analysis x)) (sole : Sole n key s)
    (uncalled : ∀ m task, e = .call m task → task.key? ≠ some key) (k : String) (m : Nat)
    (claim : s.claim? e = some (k, m)) : k = key ↔ m = n := by
  cases e with
  | call m' task =>
    obtain ⟨k', asks, eq⟩ := Option.map_eq_some_iff.mp claim
    cases eq
    constructor
    · rintro rfl
      exact absurd asks (uncalled m task rfl)
    · rintro rfl
      exact absurd (accounted.called m _ found) fits
  | signal m' signal =>
    obtain ⟨k', may, eq⟩ := Option.map_eq_some_iff.mp claim
    cases eq
    constructor
    · rintro rfl
      exact sole.seeker m may
    · rintro rfl
      exact sole.seeks k may
  | _ => cases claim

/-- Call `n` is told to stop in a history only when its ticket does not count any more. -/
def Undisturbed (n : Nat) (s : Session) (history : History) : Prop :=
  ∀ front moment back, history = front ++ (moment, .signal n (.programEnded .stopped)) :: back →
    ∀ t, (s.after front).ticketOf? n = some t → (s.after front).linter.registry.isCurrent t = true →
      (s.after front).linter.registry.isDismissed t = false

private theorem stands_after (key : String) (accounted : Accounted known s) (proper : s.Proper known since)
    (found : s.call? n = some (.analysis x)) (stands : Stands l around b heard x effects)
    (kept : ∀ moment, (moment, .forget n) ∉ since) (sole : x.found? = none → Sole n key s)
    (uncalled : x.found? = none → ∀ front moment m task back,
      since = front ++ (moment, .call m task) :: back → task.key? = some key → (s.after front).IsOver n)
    (undisturbed : Undisturbed n s since) :
    ∃ x', (s.after since).call? n = some (.analysis x') ∧
      Stands l around b (heard ++ heardIn n since) x' (effects ++ s.effectsOf n since) := by
  induction since generalizing s known heard x effects with
  | nil => exact ⟨x, found, by simpa [heardIn, effectsOf] using stands⟩
  | cons head rest ih =>
    obtain ⟨moment, e⟩ := head
    obtain ⟨fits, proper⟩ := proper
    have keeps : e ≠ .forget n := by
      rintro rfl
      exact kept moment List.mem_cons_self
    have undismissed : e = .signal n (.programEnded .stopped) → ∀ t, s.ticketOf? n = some t →
        s.linter.registry.isCurrent t = true → s.linter.registry.isDismissed t = false := by
      rintro rfl
      exact undisturbed [] moment rest rfl
    obtain ⟨x', found', wasUnfinished, stands'⟩ :=
      stands_step accounted fits found stands keeps sole undismissed
    have sole' : x'.found? = none → Sole n key (s.step moment e).1 := by
      intro unfinished'
      have unfinished := wasUnfinished unfinished'
      refine (sole unfinished).step accounted fits (claims_of_sole accounted fits found (sole unfinished) ?_)
      rintro m task rfl asks
      have isOver := uncalled unfinished [] moment m task rest rfl asks _ found
      cases x <;> cases isOver
      cases unfinished
    have kept' : ∀ moment, (moment, .forget n) ∉ rest := fun m isIn => kept m (List.mem_cons_of_mem _ isIn)
    have uncalled' : x'.found? = none → ∀ front moment' m task back,
        rest = front ++ (moment', .call m task) :: back → task.key? = some key →
          ((s.step moment e).1.after front).IsOver n := by
      rintro unfinished' front moment' m task back rfl asks
      exact uncalled (wasUnfinished unfinished') ((moment, e) :: front) moment' m task back rfl asks
    have undisturbed' : Undisturbed n (s.step moment e).1 rest := by
      rintro front moment' back rfl
      exact undisturbed ((moment, e) :: front) moment' back rfl
    have onward := ih (accounted.step moment fits) proper found' stands' kept' sole' uncalled' undisturbed'
    simpa only [heardIn, List.flatMap_cons, effectsOf, after, List.append_assoc] using onward

end

/-! ### Every run -/

/-- Nobody else works on a file while call `n` does: who has been called for it before is over when the call
begins, and who is called for it later finds the call over. -/
structure Alone (asked called : Session) (known : List (Nat × Task)) (n : Nat) (file : Path)
    (since : History) : Prop where
  before : ∀ m task, (m, task) ∈ known → task.key? = some (Analysis.key file) → asked.IsOver m
  later : ∀ front moment m task back, since = front ++ (moment, .call m task) :: back →
    task.key? = some (Analysis.key file) → (called.after front).IsOver n

/-- An analysis is over, or a signal that it awaits may come, or another call is probing for the answer that it
waits for. -/
def GoesOn (s : Session) (n : Nat) (x : Analysis) : Prop :=
  (∃ found, x = .finished found) ∨ (∃ signal, x.Awaits s.linter signal) ∨
    ∃ k m, s.inquiryOf? n = some (.waiting k) ∧ s.inquiryOf? m = some (.probing k)

theorem goesOn_of_stands {s : Session} {n : Nat} {x : Analysis} {l : Linter} {around : Surroundings}
    {b : Buffer} {heard : Heard} {effects : List Effect} (sought : s.Sought)
    (call : s.call? n = some (.analysis x)) (stands : Stands l around b heard x effects) : s.GoesOn n x := by
  cases x with
  | finished found => exact .inl ⟨found, rfl⟩
  | running file t => exact .inr (.inl ⟨_, .ending file t .timedOut (by simp)⟩)
  | asking p i =>
    have inquiry : s.inquiryOf? n = some i := by
      rw [inquiryOf?, call]
      rfl
    cases i with
    | probing k => exact .inr (.inl ⟨_, .probe p k true⟩)
    | waiting k =>
      rcases sought.of_waiting inquiry with ⟨bundled, known⟩ | ⟨m, probes⟩
      · exact .inr (.inl ⟨_, .answer p k bundled known⟩)
      · exact .inr (.inr ⟨k, m, inquiry, probes⟩)
    | answered bundled =>
      cases stands with
      | asking _ _ _ _ _ unanswered _ => exact absurd rfl (unanswered bundled)

private theorem sole_asked {s : Session} {known : List (Nat × Task)} {n : Nat} {key : String}
    (accounted : Accounted known s) (isNew : n ∉ known.map Prod.fst)
    (alone : ∀ m task, (m, task) ∈ known → task.key? = some key → s.IsOver m) : Sole n key s where
  seeker m may := by
    obtain ⟨task, isKnown, asks⟩ := accounted.seeks m key may
    obtain ⟨a, found, may⟩ := Option.bind_eq_some_iff.mp may
    have isOver := alone m task isKnown asks a found
    cases a with
    | analysis x =>
      cases x <;> cases may
      cases isOver
    | _ => cases may
  seeks k may := by
    rw [keyOf?, absent_of_called accounted.called isNew] at may
    cases may
  holder m t holds isKey := by
    obtain ⟨task, isKnown, asks⟩ := accounted.holds m t holds
    obtain ⟨a, found, holds⟩ := Option.bind_eq_some_iff.mp holds
    have isOver := alone m task isKnown (isKey ▸ asks) a found
    rw [ticket?_of_isOver isOver] at holds
    cases holds
  holds t holds := by
    rw [ticketOf?, absent_of_called accounted.called isNew] at holds
    cases holds

private theorem stands_called {s : Session} {known : List (Nat × Task)} {n : Nat} {around : Surroundings}
    {b : Buffer} {since : History} (accounted : Accounted known s)
    (proper : s.Proper known ((around, .call n (.analyze b)) :: since))
    (kept : ∀ moment, (moment, .forget n) ∉ since)
    (alone : ∀ file, b.path = some file →
      Alone s (s.step around (.call n (.analyze b))).1 known n file since)
    (undisturbed : Undisturbed n (s.step around (.call n (.analyze b))).1 since) :
    ∃ x, (s.after ((around, .call n (.analyze b)) :: since)).call? n = some (.analysis x) ∧
      Stands s.linter around b (heardIn n since) x (s.effectsOf n ((around, .call n (.analyze b)) :: since)) := by
  obtain ⟨fits, proper⟩ := proper
  have accountedCalled := accounted.step around fits
  have found : (s.step around (.call n (.analyze b))).1.call? n =
      some (.analysis (Analysis.start around b s.linter).state) := by
    rw [step, call?_settle, if_pos rfl]
    rfl
  have does : s.effectsOf n ((around, .call n (.analyze b)) :: since) =
      (Analysis.start around b s.linter).effects ++
        (s.step around (.call n (.analyze b))).1.effectsOf n since := by
    rw [effectsOf, effectsAt, mover?, if_pos rfl]
    rfl
  have stands := Analysis.stands_start s.linter around b
  rw [does]
  cases stored : b.path with
  | none =>
    have isOver : (Analysis.start around b s.linter).state.found? = some none := by
      rw [Analysis.start_pathless around b s.linter stored]
      rfl
    refine stands_after "" accountedCalled proper found stands kept ?_ ?_ undisturbed <;>
    · intro unfinished
      rw [isOver] at unfinished
      cases unfinished
  | some file =>
    have key : (Task.analyze b).key? = some (Analysis.key file) := by rw [Task.key?, stored, Option.map_some]
    have sole : Sole n (Analysis.key file) (s.step around (.call n (.analyze b))).1 := by
      refine (sole_asked accounted fits (alone file stored).before).step accounted fits ?_
      intro k m claim
      rw [claim?, key] at claim
      cases claim
      exact ⟨fun _ => rfl, fun _ => rfl⟩
    exact stands_after (Analysis.key file) accountedCalled proper found stands kept (fun _ => sole)
      (fun _ => (alone file stored).later) undisturbed

private theorem undisturbed_of_few {s : Session} {front back : History} {n : Nat}
    (orderly : Orderly [] [] s) (proper : s.Proper [] (front ++ back))
    (few : (allBegun (front ++ back)).length < UInt64.size) : Undisturbed n (s.after front) back := by
  rintro before moment rest rfl t holds current
  rw [← List.append_assoc, proper_append] at proper
  rw [← List.append_assoc, allBegun_append, List.length_append] at few
  have orderly := orderly.after proper.1 (by rw [List.length_nil]; omega)
  rw [after_append] at orderly
  rw [← Bool.not_eq_true]
  intro told
  obtain ⟨t', holds', notNewest⟩ := orderly.ledger.replaced_of_dismissed holds told
  rw [holds] at holds'
  cases holds'
  exact notNewest ((orderly.ledger.isCurrent_iff_newest holds).mp current)

/-- Whatever else happens on a linter, an analysis that is alone with its file comes to what its own tool, its own
buffer and the files and the configuration at its call make of it.

It stands where `Stands` says: each way to end comes with what is found, what has been started and what the user
has been told. If it is over, it has found nothing exactly if there is no file or the user has been told why, once.
If it is not, it goes on: with each signal that it awaits, one less is left to wait for.

A call that nobody has replaced is not told to stop as long as there are tokens for all calls. When there are more
calls than that, it has to be said. -/
theorem analysis_classifies_every_run (config : Config) (root : Option Path) (bundles : Bundler.Memo)
    (before since : History) (around : Surroundings) (n : Nat) (b : Buffer)
    (proper : (ofLinter ⟨config, root, bundles, .empty⟩).Proper []
      (before ++ (around, .call n (.analyze b)) :: since))
    (unsought : ∀ k, bundles.answer k ≠ .sought) (kept : ∀ moment, (moment, .forget n) ∉ since)
    (unstopped : (allBegun (before ++ (around, .call n (.analyze b)) :: since)).length < UInt64.size ∨
      ∀ moment, (moment, .signal n (.programEnded .stopped)) ∉ since) :
    let start := ofLinter ⟨config, root, bundles, .empty⟩
    let asked := start.after before
    let called := (asked.step around (.call n (.analyze b))).1
    let now := called.after since
    let effects := asked.effectsOf n ((around, .call n (.analyze b)) :: since)
    (∀ file, b.path = some file → Alone asked called (allBegun before) n file since) →
    ∃ x, now.call? n = some (.analysis x) ∧
      Stands asked.linter around b (heardIn n since) x effects ∧
      (∀ found, x = .finished found → Told b found (noticesIn effects)) ∧
      now.GoesOn n x ∧
      ∀ moment signal, x.Awaits now.linter signal →
        ∃ x', (now.step moment (.signal n signal)).1.call? n = some (.analysis x') ∧ x'.waits < x.waits := by
  intro start asked called now effects alone
  have sought : now.Sought := by
    have sought := (accounted_ofLinter ⟨config, root, bundles, .empty⟩).invariant
      (fun around e accounted fits sought => sought.step accounted fits) proper (sought_ofLinter unsought)
    rwa [after_append] at sought
  have undisturbed : Undisturbed n called since := by
    rcases unstopped with few | unstopped
    · have apart : before ++ (around, .call n (.analyze b)) :: since =
          (before ++ [(around, .call n (.analyze b))]) ++ since := by
        rw [List.append_assoc, List.singleton_append]
      rw [apart] at proper few
      have undisturbed := undisturbed_of_few (n := n) (orderly_ofLinter config root bundles) proper few
      rwa [after_append] at undisturbed
    · rintro front moment back rfl
      exact absurd (List.mem_append_right _ List.mem_cons_self) (unstopped moment)
  rw [proper_append, List.append_nil] at proper
  have accounted : Accounted (allBegun before).reverse asked := by
    have accounted := (accounted_ofLinter ⟨config, root, bundles, .empty⟩).after proper.1
    rwa [List.append_nil] at accounted
  obtain ⟨x, call, stands⟩ := stands_called accounted proper.2 kept
    (fun file stored => ⟨fun m task isIn => (alone file stored).before m task (List.mem_reverse.mp isIn),
      (alone file stored).later⟩) undisturbed
  refine ⟨x, call, stands, ?_, goesOn_of_stands sought call stands, ?_⟩
  · rintro found rfl
    exact stands.told
  · intro moment signal awaits
    refine ⟨(x.step moment signal now.linter).state, ?_, x.waits_step moment awaits⟩
    have call' : Keyed.get? n now.calls = some (.analysis x) := call
    rw [step, call', call?_settle, if_pos rfl]
    rfl

/-! ### A tool that complains -/

/-- An empty directory, where every program can be started. -/
def emptyYard : Surroundings := ⟨⟨.directory [], []⟩, fun _ => none, fun _ => .ok "", 0⟩

def elsewhere : History := [(emptyYard, .call 0 (.correct (.saved ⟨"/b.rb"⟩ "puts") .command))]

/-- The configuration changes, the correction takes too long, and the tool only complains. -/
def complained : History :=
  [(emptyYard, .configure { Config.default with disableWhenNoConfigFile := true }),
    (emptyYard, .signal 0 (.programEnded .timedOut)),
    (emptyYard, .signal 1 (.programEnded (.output ⟨"no", "boom", some 1⟩)))]

private theorem ended_complained :
    ((((ofLinter ⟨Config.default, none, .empty, .empty⟩).after elsewhere).step emptyYard
      (.call 1 (.analyze (.saved ⟨"/a.rb"⟩ "")))).1.after complained).call? 1 =
        some (.analysis (.finished (some (Analysis.ofOutput ⟨"/a.rb"⟩ ⟨"no", "boom", some 1⟩)))) := rfl

theorem analysis_classifies_every_run_complained :
    let start := ofLinter ⟨Config.default, none, .empty, .empty⟩
    let asked := start.after elsewhere
    let b := Buffer.saved ⟨"/a.rb"⟩ ""
    let called := (asked.step emptyYard (.call 1 (.analyze b))).1
    let effects := asked.effectsOf 1 ((emptyYard, .call 1 (.analyze b)) :: complained)
    start.Proper [] (elsewhere ++ (emptyYard, .call 1 (.analyze b)) :: complained) ∧
      (∀ k, Bundler.Memo.empty.answer k ≠ .sought) ∧ (∀ moment, (moment, .forget 1) ∉ complained) ∧
      (allBegun (elsewhere ++ (emptyYard, .call 1 (.analyze b)) :: complained)).length < UInt64.size ∧
      (∀ file, b.path = some file → Alone asked called (allBegun elsewhere) 1 file complained) ∧
      Stands asked.linter emptyYard b (heardIn 1 complained)
        (.finished (some [⟨none, none, "boom", .error, ⟨"/a.rb"⟩, ⟨⟨0, 0⟩, ⟨0, 1⟩⟩⟩])) effects ∧
      Told b (some [⟨none, none, "boom", .error, ⟨"/a.rb"⟩, ⟨⟨0, 0⟩, ⟨0, 1⟩⟩⟩]) (noticesIn effects) := by
  intro start asked b called effects
  have proper : start.Proper [] (elsewhere ++ (emptyYard, .call 1 (.analyze b)) :: complained) :=
    ⟨List.not_mem_nil, (by decide : 1 ∉ [0]), trivial, trivial, trivial, trivial⟩
  have few : (allBegun (elsewhere ++ (emptyYard, .call 1 (.analyze b)) :: complained)).length < UInt64.size := by
    decide
  have unsought : ∀ k, Bundler.Memo.empty.answer k ≠ .sought := by
    simp [Bundler.Memo.answer, Bundler.Memo.empty]
  have kept : ∀ moment, (moment, SessionEvent.forget 1) ∉ complained := by simp [complained]
  have alone : ∀ file, b.path = some file → Alone asked called (allBegun elsewhere) 1 file complained := by
    rintro file stored
    cases stored
    constructor
    · intro m task isIn asks
      cases List.mem_singleton.mp isIn
      exact absurd asks (by decide)
    · intro front moment m task back split
      have isIn : (moment, SessionEvent.call m task) ∈ complained := by
        rw [split]
        exact List.mem_append_right _ List.mem_cons_self
      simp [complained] at isIn
  obtain ⟨x, call, stands, told, -⟩ := analysis_classifies_every_run Config.default none .empty elsewhere
    complained emptyYard 1 b proper unsought kept (.inl few) alone
  have complaint : Analysis.ofOutput ⟨"/a.rb"⟩ ⟨"no", "boom", some 1⟩ =
      [⟨none, none, "boom", .error, ⟨"/a.rb"⟩, ⟨⟨0, 0⟩, ⟨0, 1⟩⟩⟩] := by
    decide +kernel
  have ended := ended_complained.symm.trans call
  rw [complaint] at ended
  cases ended
  exact ⟨proper, unsought, kept, few, alone, stands, told _ rfl⟩

end LintBridge.Session
