import LintBridge.Proofs.Linter.Callers

/-!
Who finds out whether a directory's bundle has RuboCop.

A call that waits for an answer waits for the probe of another call. `Bundler.Pursues` says what a step of one
call may do about the answers, and each function of the linter is placed in it once. It follows that the answer
that a call waits for is known, or that a call under way is probing for it.
-/

set_option autoImplicit false
set_option relaxedAutoImplicit false

namespace LintBridge

namespace Bundler

namespace Memo

variable {m : Memo} {n k : Nat} {a : Answer}

theorem answer_numberOf (m : Memo) (dir : Path) (k : Nat) : (m.numberOf dir).2.answer k = m.answer k := by
  unfold numberOf
  split
  · rfl
  · simp only [answer, List.getD_eq_getElem?_getD, List.getElem?_append]
    split
    · rfl
    · rename_i beyond
      rw [List.getElem?_eq_none (Nat.le_of_not_lt beyond)]
      cases k - m.answers.length <;> rfl

theorem lt_of_answer_ne_missing (begun : m.answer k ≠ .missing) : k < m.answers.length := by
  refine Nat.lt_of_not_le fun beyond => begun ?_
  rw [answer, List.getD_eq_getElem?_getD, List.getElem?_eq_none beyond]
  rfl

theorem answer_setAnswer_cases (m : Memo) (n k : Nat) (a : Answer) :
    (m.setAnswer n a).answer k = m.answer k ∨ n = k ∧ (m.setAnswer n a).answer k = a := by
  by_cases bounded : n < m.answers.length
  · rw [answer_setAnswer m n k a bounded]
    split
    · rename_i same
      exact .inr ⟨same, rfl⟩
    · exact .inl rfl
  · exact .inl (by rw [setAnswer, List.set_eq_of_length_le (Nat.le_of_not_lt bounded)])

end Memo

/-- What a step of a call that has the first inquiry, and then the second, may do about the answers. -/
structure Pursues (m : Memo) (before after : Option Inquiry) (m' : Memo) : Prop where
  /-- An answer that is sought is sought by the call itself, or has been by another one. -/
  sought : ∀ k, m'.answer k = .sought →
    after = some (.probing k) ∨ m.answer k = .sought ∧ before ≠ some (.probing k)
  kept : ∀ k, m.answer k ≠ .missing → m'.answer k ≠ .missing
  waited : ∀ k, after = some (.waiting k) → m'.answer k ≠ .missing ∨ before = some (.waiting k)

namespace Pursues

variable {m m' : Memo} {before after : Option Inquiry}

theorem idle (m : Memo) (i : Option Inquiry) : Pursues m i i m where
  sought k sought := by
    by_cases own : i = some (.probing k)
    · exact .inl own
    · exact .inr ⟨sought, own⟩
  kept k begun := begun
  waited k waits := .inr waits

theorem leaves (m : Memo) (unprobing : ∀ k, before ≠ some (.probing k)) : Pursues m before none m where
  sought k sought := .inr ⟨sought, unprobing k⟩
  kept k begun := begun
  waited k waits := by cases waits

theorem answered_iff (bundled : Bool) :
    Pursues m before (some (.answered bundled)) m' ↔ Pursues m before none m' := by
  constructor
  · intro pursues
    exact
      { sought := fun k sought => (pursues.sought k sought).imp_left fun own => by cases own
        kept := pursues.kept
        waited := fun k waits => by cases waits }
  · intro pursues
    exact
      { sought := fun k sought => (pursues.sought k sought).imp_left fun own => by cases own
        kept := pursues.kept
        waited := fun k waits => by cases waits }

private theorem sets (m : Memo) (n : Nat) {a : Answer} (begins : a ≠ .missing)
    (seeks : a = .sought → after = some (.probing n)) (unwaiting : ∀ k, after ≠ some (.waiting k)) :
    Pursues m none after (m.setAnswer n a) where
  sought k sought := by
    rcases m.answer_setAnswer_cases n k a with same | ⟨rfl, set⟩
    · exact .inr ⟨same ▸ sought, by simp⟩
    · exact .inl (seeks (set ▸ sought))
  kept k begun := by
    rcases m.answer_setAnswer_cases n k a with same | ⟨-, set⟩
    · rwa [same]
    · rwa [set]
  waited k waits := absurd waits (unwaiting k)

private theorem congr {m₁ : Memo} (same : ∀ k, m₁.answer k = m.answer k)
    (pursues : Pursues m₁ before after m') : Pursues m before after m' where
  sought k sought := by
    rw [← same]
    exact pursues.sought k sought
  kept k begun := pursues.kept k (by rwa [same])
  waited := pursues.waited

theorem asks (s : Surroundings) (dir : Path) (m : Memo) :
    Pursues m none (some (m.ask s dir).1) (m.ask s dir).2.1 := by
  have same := m.answer_numberOf dir
  unfold Memo.ask
  rcases numbered : m.numberOf dir with ⟨n, m₁⟩
  rw [numbered] at same
  refine congr same ?_
  dsimp only
  split
  · exact { idle m₁ none with
      sought := fun k sought => .inr ⟨sought, by simp⟩
      waited := fun k waits => by cases waits }
  · rename_i sought
    exact
      { sought := fun k sought => .inr ⟨sought, by simp⟩
        kept := fun k begun => begun
        waited := fun k waits => by
          cases waits
          exact .inl (by simp [sought]) }
  · split
    · exact sets (a := .sought) m₁ n (by simp) (fun _ => rfl) (by simp)
    · exact sets (a := .known false) m₁ n (by simp) (by simp) (by simp)

theorem probed (n : Nat) (ok : Bool) (m : Memo) : Pursues m (some (.probing n)) none (m.probed n ok) where
  sought k sought := by
    have bounded : k < (m.probed n ok).answers.length := Memo.lt_of_answer_ne_missing (by simp [sought])
    rw [Memo.probed, Memo.setAnswer, List.length_set] at bounded
    rcases m.answer_setAnswer_cases n k (.known ok) with same | ⟨-, set⟩
    · refine .inr ⟨same ▸ sought, ?_⟩
      rintro own
      cases own
      rw [Memo.probed, Memo.answer_setAnswer _ _ _ _ bounded, if_pos rfl] at sought
      cases sought
    · rw [Memo.probed, set] at sought
      cases sought
  kept k begun := by
    rcases m.answer_setAnswer_cases n k (.known ok) with same | ⟨-, set⟩
    · rwa [Memo.probed, same]
    · simp [Memo.probed, set]
  waited k waits := by cases waits

theorem remembers (dir : Path) (bundled : Bool) (m : Memo) : Pursues m none none (m.remember dir bundled) := by
  have given : ∀ k, (m.remember dir bundled).answer k = m.answer k ∨
      (m.remember dir bundled).answer k = .known bundled := by
    intro k
    simp only [Memo.answer, Memo.remember, List.getD_eq_getElem?_getD, List.getElem?_append]
    split
    · exact .inl rfl
    · rename_i beyond
      rw [List.getElem?_eq_none (Nat.le_of_not_lt beyond)]
      cases k - m.answers.length with
      | zero => exact .inr rfl
      | succ _ => exact .inl rfl
  constructor
  · intro k sought
    rcases given k with same | set
    · exact .inr ⟨same ▸ sought, by simp⟩
    · rw [set] at sought
      cases sought
  · intro k begun
    rcases given k with same | set
    · rwa [same]
    · simp [set]
  · intro k waits
    cases waits

end Pursues
end Bundler

open Bundler (Inquiry Memo Pursues)

/-! ### Each step of a call -/

namespace Analysis

/-- The inquiry of an analysis that waits for its answer. -/
def inquiry? : Analysis → Option Inquiry
  | asking _ i => some i
  | _ => none

theorem bundles_launch (s : Surroundings) (p : Plan) (through : Bool) (l : Linter) :
    (launch s p through l).linter.bundles = l.bundles ∧ (launch s p through l).state.inquiry? = none := by
  unfold launch
  split
  · exact ⟨rfl, rfl⟩
  · dsimp only
    split <;> exact ⟨rfl, rfl⟩

theorem pursues_launch {m : Memo} {before : Option Inquiry} {l : Linter}
    (pursues : Pursues m before none l.bundles) (s : Surroundings) (p : Plan) (through : Bool) :
    Pursues m before (launch s p through l).state.inquiry? (launch s p through l).linter.bundles := by
  obtain ⟨bundles, isOver⟩ := bundles_launch s p through l
  rwa [bundles, isOver]

theorem pursues_start (s : Surroundings) (b : Buffer) (l : Linter) :
    Pursues l.bundles none (start s b l).state.inquiry? (start s b l).linter.bundles := by
  unfold start
  split
  · exact .idle _ _
  · dsimp only
    split
    · exact .idle _ _
    · rename_i p _
      split
      · exact pursues_launch (.idle _ _) s p true
      · split
        · have asks := Pursues.asks s p.cwd l.bundles
          unfold afterAsking
          split
          · rename_i bundled answer
            rw [answer, Pursues.answered_iff] at asks
            exact pursues_launch (l := ⟨l.config, l.root, _, l.registry⟩) asks s p bundled
          · exact asks
        · exact pursues_launch (.idle _ _) s p false

theorem pursues_step (s : Surroundings) (signal : Signal) (a : Analysis) (l : Linter) :
    Pursues l.bundles a.inquiry? (a.step s signal l).state.inquiry? (a.step s signal l).linter.bundles := by
  unfold step
  split
  · rename_i p n ok
    exact pursues_launch (l := ⟨l.config, l.root, _, l.registry⟩) (.probed n ok l.bundles) s p ok
  · rename_i p n
    split
    · exact pursues_launch (.leaves _ (by simp [inquiry?])) s p _
    · exact .idle _ _
  · split
    · exact .idle _ _
    · exact .leaves _ (by simp [inquiry?])
  · exact .idle _ _

end Analysis

namespace Correction

/-- The inquiry of a correction that waits for its answer. -/
def inquiry? : Correction → Option Inquiry
  | asking _ _ i => some i
  | _ => none

theorem bundles_launch (s : Surroundings) (p : Plan) (trigger : Trigger) (through : Bool) (l : Linter) :
    (launch s p trigger through l).linter.bundles = l.bundles ∧
      (launch s p trigger through l).state.inquiry? = none := by
  unfold launch
  split
  · exact ⟨rfl, rfl⟩
  · split <;> exact ⟨rfl, rfl⟩

theorem pursues_launch {m : Memo} {before : Option Inquiry} {l : Linter}
    (pursues : Pursues m before none l.bundles) (s : Surroundings) (p : Plan) (trigger : Trigger)
    (through : Bool) :
    Pursues m before (launch s p trigger through l).state.inquiry?
      (launch s p trigger through l).linter.bundles := by
  obtain ⟨bundles, isOver⟩ := bundles_launch s p trigger through l
  rwa [bundles, isOver]

theorem pursues_start (s : Surroundings) (b : Buffer) (trigger : Trigger) (l : Linter) :
    Pursues l.bundles none (start s b trigger l).state.inquiry? (start s b trigger l).linter.bundles := by
  unfold start
  split
  · exact .idle _ _
  · split
    · exact .idle _ _
    · split
      · exact .idle _ _
      · rename_i p _
        split
        · exact pursues_launch (.idle _ _) s p trigger true
        · split
          · have asks := Pursues.asks s p.cwd l.bundles
            unfold afterAsking
            dsimp only
            split
            · rename_i bundled answer
              rw [answer, Pursues.answered_iff] at asks
              exact pursues_launch (l := ⟨l.config, l.root, _, l.registry⟩) asks s p trigger bundled
            · exact asks
          · exact pursues_launch (.idle _ _) s p trigger false

theorem pursues_step (s : Surroundings) (signal : Signal) (c : Correction) (l : Linter) :
    Pursues l.bundles c.inquiry? (c.step s signal l).state.inquiry? (c.step s signal l).linter.bundles := by
  unfold step
  split
  · rename_i p trigger n ok
    exact pursues_launch (l := ⟨l.config, l.root, _, l.registry⟩) (.probed n ok l.bundles) s p trigger ok
  · rename_i p trigger n
    split
    · exact pursues_launch (.leaves _ (by simp [inquiry?])) s p trigger _
    · exact .idle _ _
  · split
    · exact .idle _ _
    · exact .leaves _ (by simp [inquiry?])
  · exact .idle _ _

end Correction

namespace Activity

def inquiry? : Activity → Option Inquiry
  | lookup i => some i
  | analysis a => a.inquiry?
  | correction c => c.inquiry?
  | _ => none

private theorem bundles_startRun (s : Surroundings) (manner : Manner) (r : Request) (ticket : Option Ticket)
    (l : Linter) :
    (startRun s manner r ticket l).linter.bundles = l.bundles ∧
      (startRun s manner r ticket l).state.inquiry? = none := by
  unfold startRun concludeRun
  split
  · split <;> exact ⟨rfl, rfl⟩
  · exact ⟨rfl, rfl⟩

theorem pursues_start (s : Surroundings) (t : Task) (l : Linter) :
    Pursues l.bundles none (start s t l).state.inquiry? (start s t l).linter.bundles := by
  have runs : ∀ manner r ticket registry, Pursues l.bundles none
      (startRun s manner r ticket ⟨l.config, l.root, l.bundles, registry⟩).state.inquiry?
      (startRun s manner r ticket ⟨l.config, l.root, l.bundles, registry⟩).linter.bundles := by
    intro manner r ticket registry
    obtain ⟨bundles, plain⟩ := bundles_startRun s manner r ticket ⟨l.config, l.root, l.bundles, registry⟩
    rw [bundles, plain]
    exact .idle _ _
  unfold start
  split
  · exact .asks s _ l.bundles
  · split
    · exact runs _ _ _ _
    · exact runs _ _ _ _
  · exact runs _ _ _ _
  · exact Analysis.pursues_start s _ l
  · exact Correction.pursues_start s _ _ l

theorem pursues_step (s : Surroundings) (signal : Signal) (a : Activity) (l : Linter) :
    Pursues l.bundles a.inquiry? (a.step s signal l).state.inquiry? (a.step s signal l).linter.bundles := by
  unfold step
  split
  · rename_i n ok
    exact (Pursues.answered_iff ok).mpr (.probed n ok l.bundles)
  · split
    · exact (Pursues.answered_iff _).mpr (.leaves _ (by simp [inquiry?]))
    · exact .idle _ _
  · split
    · exact .idle _ _
    · unfold concludeRun
      split <;> exact .idle _ _
  · exact Analysis.pursues_step s signal _ l
  · exact Correction.pursues_step s signal _ l
  · exact .idle _ _

end Activity

namespace Session

def inquiryOf? (s : Session) (n : Nat) : Option Inquiry := (s.call? n).bind Activity.inquiry?

/-- An answer that is sought is sought by a call, and nobody waits for an answer that nobody has sought. -/
structure Sought (s : Session) : Prop where
  prober : ∀ k, s.linter.bundles.answer k = .sought → ∃ n, s.inquiryOf? n = some (.probing k)
  begun : ∀ n k, s.inquiryOf? n = some (.waiting k) → s.linter.bundles.answer k ≠ .missing

theorem inquiryOf?_settle (s : Session) (n m : Nat) (p : Progress Activity) :
    (s.settle n p).1.inquiryOf? m = if n = m then p.state.inquiry? else s.inquiryOf? m := by
  rw [inquiryOf?, call?_settle]
  split <;> rfl

variable {s : Session} {known : List (Nat × Task)} {around : Surroundings}
  {e : SessionEvent} {history : History} {n : Nat}

private theorem Sought.settle (sought : s.Sought) {p : Progress Activity}
    (pursues : Pursues s.linter.bundles (s.inquiryOf? n) p.state.inquiry? p.linter.bundles) :
    (s.settle n p).1.Sought where
  prober k isSought := by
    rcases pursues.sought k isSought with own | ⟨was, other⟩
    · exact ⟨n, by rw [inquiryOf?_settle, if_pos rfl, own]⟩
    · obtain ⟨m, probes⟩ := sought.prober k was
      refine ⟨m, ?_⟩
      rw [inquiryOf?_settle, if_neg, probes]
      rintro rfl
      exact other probes
  begun m k waits := by
    rw [inquiryOf?_settle] at waits
    split at waits
    · rcases pursues.waited k waits with begun | waited
      · exact begun
      · exact pursues.kept k (sought.begun n k waited)
    · exact pursues.kept k (sought.begun m k waits)

private theorem Sought.outside {s' : Session} (sought : s.Sought) (same : ∀ m, s'.inquiryOf? m = s.inquiryOf? m)
    (pursues : Pursues s.linter.bundles none none s'.linter.bundles) : s'.Sought where
  prober k isSought := by
    rcases pursues.sought k isSought with own | ⟨was, -⟩
    · cases own
    · obtain ⟨m, probes⟩ := sought.prober k was
      exact ⟨m, by rw [same, probes]⟩
  begun m k waits := pursues.kept k (sought.begun m k (by rwa [same] at waits))

theorem Sought.step (sought : s.Sought) (accounted : Accounted known s) (fits : s.Allows known e) :
    (s.step around e).1.Sought := by
  cases e with
  | call n task =>
    have pursues := Activity.pursues_start around task s.linter
    have idle : s.inquiryOf? n = none := by rw [inquiryOf?, absent_of_called accounted.called fits, Option.bind_none]
    rw [← idle] at pursues
    exact sought.settle pursues
  | signal n signal =>
    cases found : Keyed.get? n s.calls with
    | none =>
      rw [Session.step, found]
      exact sought
    | some a =>
      have pursues := Activity.pursues_step around signal a s.linter
      have inquiry : s.inquiryOf? n = a.inquiry? := by rw [inquiryOf?, call?, found, Option.bind_some]
      rw [← inquiry] at pursues
      rw [Session.step, found]
      exact sought.settle pursues
  | forget n =>
    have unprobing : ∀ k, s.inquiryOf? n ≠ some (.probing k) := by
      intro k probes
      obtain ⟨a, found, probes⟩ := Option.bind_eq_some_iff.mp probes
      have isOver := fits a found
      cases a with
      | lookup i =>
        cases probes
        cases isOver
      | analysis x =>
        cases x <;> cases probes
        cases isOver
      | correction c =>
        cases c <;> cases probes
        cases isOver
      | _ => cases probes
    constructor
    · intro k isSought
      obtain ⟨m, probes⟩ := sought.prober k isSought
      refine ⟨m, ?_⟩
      rw [inquiryOf?, call?_forget, if_neg, ← inquiryOf?, probes]
      rintro rfl
      exact unprobing k probes
    · intro m k waits
      rw [inquiryOf?, call?_forget] at waits
      split at waits
      · cases waits
      · exact sought.begun m k waits
  | configure c => exact ⟨sought.prober, sought.begun⟩
  | setRoot root => exact ⟨sought.prober, sought.begun⟩
  | remember dir bundled => exact sought.outside (fun _ => rfl) (.remembers dir bundled s.linter.bundles)

theorem sought_ofLinter {l : Linter} (unsought : ∀ k, l.bundles.answer k ≠ .sought) : (ofLinter l).Sought where
  prober k isSought := absurd isSought (unsought k)
  begun n k waits := by cases waits

/-- A call that waits for an answer can go on, or another call is probing for the answer. -/
theorem Sought.of_waiting (sought : s.Sought) {k : Nat} (waits : s.inquiryOf? n = some (.waiting k)) :
    (∃ bundled, s.linter.bundles.awaited? k = some bundled) ∨ ∃ m, s.inquiryOf? m = some (.probing k) := by
  cases answer : s.linter.bundles.answer k with
  | missing => exact absurd answer (sought.begun n k waits)
  | sought => exact .inr (sought.prober k answer)
  | known bundled => exact .inl ⟨bundled, by rw [Memo.awaited?, answer]⟩

end Session
end LintBridge
