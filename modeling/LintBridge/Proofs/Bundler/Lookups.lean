import LintBridge.Proofs.Linter.Inquiries

/-!
Lookups of directories, step by step.

`Session.Happens` lists what an event can do in a session on which directories are looked up and answers are
remembered, and nothing else. An answer that somebody probes for is sought until that probe ends, and belongs to no
second one (`Session.Desk`), so that an answer that is known stays as it is.
-/

set_option autoImplicit false
set_option relaxedAutoImplicit false

namespace LintBridge

namespace Bundler.Memo

variable {m : Memo} {dir : Path} {d d' : List Component} {a : Answer} {k : Nat} {ok : Bool}

/-- The number of the answer that counts for a directory. -/
def number? (m : Memo) (d : List Component) : Option Nat := Keyed.get? d m.index

/-- A new answer, which counts for the directory from now on. -/
def add (dir : Path) (a : Answer) (m : Memo) : Memo :=
  { m with
    answers := m.answers ++ [a]
    index := Keyed.put dir.components m.answers.length m.index }

/-- Whether a lookup that has to find the answer starts a probe for it. -/
def isProbed (around : Surroundings) (dir : Path) (m : Memo) : Bool :=
  around.files.isFile (dir.join ⟨gemfile⟩) && (around.startFault (m.probe dir)).isNone

theorem number?_add (m : Memo) (dir : Path) (a : Answer) (d : List Component) :
    (m.add dir a).number? d = if dir.components = d then some m.answers.length else m.number? d :=
  Keyed.get?_put dir.components d m.answers.length m.index

theorem answer_add (m : Memo) (dir : Path) (a : Answer) (k : Nat) :
    (m.add dir a).answer k = if k = m.answers.length then a else m.answer k := by
  simp only [answer, add, List.getD_eq_getElem?_getD, List.getElem?_append]
  by_cases below : k < m.answers.length
  · have other : k ≠ m.answers.length := by omega
    simp [below, other]
  · by_cases new : k = m.answers.length
    · simp [new]
    · have beyond : ¬ k - m.answers.length < 1 := by omega
      simp [below, new, beyond]

theorem answer_add_of_lt (below : k < m.answers.length) : (m.add dir a).answer k = m.answer k := by
  have other : k ≠ m.answers.length := by omega
  rw [answer_add, if_neg other]

theorem length_add (m : Memo) (dir : Path) (a : Answer) : (m.add dir a).answers.length = m.answers.length + 1 := by
  simp [add]

theorem answer_probed (sought : m.answer k = .sought) (j : Nat) :
    (m.probed k ok).answer j = if k = j then .known ok else m.answer j :=
  answer_setAnswer m k j (.known ok) (lt_of_answer_ne_missing (by simp [sought]))

theorem length_probed : (m.probed k ok).answers.length = m.answers.length := by simp [probed, setAnswer]

/-- The answers that count are there, are begun, and count for one directory each. -/
structure Sound (m : Memo) : Prop where
  bounded : ∀ d k, m.number? d = some k → k < m.answers.length
  begun : ∀ d k, m.number? d = some k → m.answer k ≠ .missing
  apart : ∀ d d' k, m.number? d = some k → m.number? d' = some k → d = d'

theorem Sound.add (sound : m.Sound) (dir : Path) (begins : a ≠ .missing) : (m.add dir a).Sound where
  bounded d k counts := by
    rw [number?_add] at counts
    rw [length_add]
    split at counts
    · cases counts
      omega
    · have below := sound.bounded d k counts
      omega
  begun d k counts := by
    rw [number?_add] at counts
    split at counts
    · cases counts
      rw [answer_add, if_pos rfl]
      exact begins
    · rw [answer_add_of_lt (sound.bounded d k counts)]
      exact sound.begun d k counts
  apart d d' k counts counts' := by
    rw [number?_add] at counts counts'
    split at counts <;> split at counts'
    · rename_i same same'
      exact same.symm.trans same'
    · cases counts
      exact absurd (sound.bounded d' _ counts') (Nat.lt_irrefl _)
    · cases counts'
      exact absurd (sound.bounded d _ counts) (Nat.lt_irrefl _)
    · exact sound.apart d d' k counts counts'

theorem Sound.probed (sound : m.Sound) (k : Nat) (ok : Bool) : (m.probed k ok).Sound where
  bounded d j counts := by
    rw [length_probed]
    exact sound.bounded d j counts
  begun d j counts := by
    rcases m.answer_setAnswer_cases k j (.known ok) with same | ⟨-, set⟩
    · rw [Memo.probed, same]
      exact sound.begun d j counts
    · simp [Memo.probed, set]
  apart := sound.apart

/-! ### Lookups -/

theorem ask_add (around : Surroundings) (absent : m.number? dir.components = none) :
    m.ask around dir = if m.isProbed around dir
      then (.probing m.answers.length, m.add dir .sought, some (m.probe dir))
      else (.answered false, m.add dir (.known false), none) := by
  have absent : Keyed.get? dir.components m.index = none := absent
  have missing : (m.add dir .missing).answer m.answers.length = .missing := by rw [answer_add, if_pos rfl]
  have set : ∀ a, (m.add dir .missing).setAnswer m.answers.length a = m.add dir a := by
    intro a
    simp [setAnswer, add]
  have number : m.numberOf dir = (m.answers.length, m.add dir .missing) := by rw [numberOf, absent]; rfl
  have probe : (m.add dir .missing).probe dir = m.probe dir := rfl
  simp only [ask, number, missing, set, probe, isProbed]
  rfl

theorem ask_of_number? (around : Surroundings) (counts : m.number? dir.components = some k) :
    (∀ b, m.answer k = .known b → m.ask around dir = (.answered b, m, none)) ∧
      (m.answer k = .sought → m.ask around dir = (.waiting k, m, none)) := by
  have counts : Keyed.get? dir.components m.index = some k := counts
  have number : m.numberOf dir = (k, m) := by rw [numberOf, counts]
  constructor
  · intro b known
    simp only [ask, number, known]
  · intro sought
    simp only [ask, number, sought]

theorem Sound.ask (sound : m.Sound) (around : Surroundings) (dir : Path) : (m.ask around dir).2.1.Sound := by
  cases counts : m.number? dir.components with
  | none =>
    rw [ask_add around counts]
    split
    · exact sound.add dir (by simp)
    · exact sound.add dir (by simp)
  | some k =>
    obtain ⟨known, sought⟩ := ask_of_number? around counts
    cases answer : m.answer k with
    | missing => exact absurd answer (sound.begun _ k counts)
    | sought =>
      rw [sought answer]
      exact sound
    | known b =>
      rw [known b answer]
      exact sound

end Bundler.Memo

open Bundler (Inquiry Memo)

/-- Whether an event looks a directory up, goes on with that, or remembers an answer. -/
def SessionEvent.isLookup : SessionEvent → Bool
  | .call _ (.lookUp _) => true
  | .signal _ _ => true
  | .remember _ _ => true
  | _ => false

namespace Session

def turn (s : Session) (m : Memo) (n : Nat) (i : Inquiry) : Session :=
  ⟨{ s.linter with bundles := m }, Keyed.put n (.lookup i) s.calls⟩

theorem call?_turn (s : Session) (m : Memo) (n : Nat) (i : Inquiry) (k : Nat) :
    (s.turn m n i).call? k = if n = k then some (.lookup i) else s.call? k :=
  Keyed.get?_put n k (Activity.lookup i) s.calls

/-- A signal for a lookup that does not wait for it, or for nobody. -/
def Passes (s : Session) (n : Nat) (signal : Signal) : Prop :=
  (∀ a, s.call? n = some a → ∃ i, a = .lookup i) ∧
  (∀ k ok, s.call? n = some (.lookup (.probing k)) → signal ≠ .probeEnded ok) ∧
  ∀ k b, s.call? n = some (.lookup (.waiting k)) → s.linter.bundles.answer k = .known b → signal ≠ .answerKnown

/-- What an event can do to lookups. -/
inductive Happens (around : Surroundings) (s : Session) : SessionEvent → Session → List Effect → Prop
  | finds (n : Nat) (dir : Path) (k : Nat) (b : Bool) (counts : s.linter.bundles.number? dir.components = some k)
      (known : s.linter.bundles.answer k = .known b) :
      Happens around s (.call n (.lookUp dir)) (s.turn s.linter.bundles n (.answered b)) []
  | waits (n : Nat) (dir : Path) (k : Nat) (counts : s.linter.bundles.number? dir.components = some k)
      (sought : s.linter.bundles.answer k = .sought) :
      Happens around s (.call n (.lookUp dir)) (s.turn s.linter.bundles n (.waiting k)) []
  | seeks (n : Nat) (dir : Path) (absent : s.linter.bundles.number? dir.components = none)
      (probes : s.linter.bundles.isProbed around dir = true) :
      Happens around s (.call n (.lookUp dir))
        (s.turn (s.linter.bundles.add dir .sought) n (.probing s.linter.bundles.answers.length))
        [.start .probed (s.linter.bundles.probe dir)]
  | lacks (n : Nat) (dir : Path) (absent : s.linter.bundles.number? dir.components = none)
      (unprobed : s.linter.bundles.isProbed around dir = false) :
      Happens around s (.call n (.lookUp dir)) (s.turn (s.linter.bundles.add dir (.known false)) n (.answered false)) []
  | ends (n k : Nat) (ok : Bool) (probing : s.call? n = some (.lookup (.probing k))) :
      Happens around s (.signal n (.probeEnded ok)) (s.turn (s.linter.bundles.probed k ok) n (.answered ok)) []
  | learns (n k : Nat) (b : Bool) (waiting : s.call? n = some (.lookup (.waiting k)))
      (known : s.linter.bundles.answer k = .known b) :
      Happens around s (.signal n .answerKnown) (s.turn s.linter.bundles n (.answered b)) []
  | idle (n : Nat) (signal : Signal) (passes : s.Passes n signal) : Happens around s (.signal n signal) s []
  | remembers (dir : Path) (b : Bool) :
      Happens around s (.remember dir b)
        ⟨{ s.linter with bundles := s.linter.bundles.add dir (.known b) }, s.calls⟩ []

/-- All calls are lookups, and each probe is for an answer of its own. -/
structure Desk (known : List (Nat × Task)) (s : Session) : Prop where
  sound : s.linter.bundles.Sound
  called : ∀ n a, s.call? n = some a → n ∈ known.map Prod.fst
  lookups : ∀ n a, s.call? n = some a → ∃ i, a = .lookup i
  sought : ∀ n k, s.call? n = some (.lookup (.probing k)) → s.linter.bundles.answer k = .sought
  alone : ∀ m n k, s.call? m = some (.lookup (.probing k)) → s.call? n = some (.lookup (.probing k)) → m = n

variable {around : Surroundings} {s s' : Session} {known : List (Nat × Task)} {e : SessionEvent} {effects : List Effect}
  {n k : Nat} {dir : Path} {d : List Component} {signal : Signal}

theorem Happens.step_eq (happens : Happens around s e s' effects) : s.step around e = (s', effects) := by
  cases happens with
  | finds n dir k b counts known =>
    have asked := (Memo.ask_of_number? around counts).1 b known
    simp [step, settle, Activity.start, asked, turn]
  | waits n dir k counts sought =>
    have asked := (Memo.ask_of_number? around counts).2 sought
    simp [step, settle, Activity.start, asked, turn]
  | seeks n dir absent probes =>
    have asked := Memo.ask_add around absent
    simp [step, settle, Activity.start, asked, probes, turn]
  | lacks n dir absent unprobed =>
    have asked := Memo.ask_add around absent
    simp [step, settle, Activity.start, asked, unprobed, turn]
  | ends n k ok probing =>
    have found : Keyed.get? n s.calls = some _ := probing
    simp [step, found, settle, Activity.step, turn]
  | learns n k b waiting known =>
    have found : Keyed.get? n s.calls = some _ := waiting
    have awaited : s.linter.bundles.awaited? k = some b := by rw [Memo.awaited?, known]
    simp [step, found, settle, Activity.step, awaited, turn]
  | idle n signal passes =>
    obtain ⟨lookups, unended, unknown⟩ := passes
    have stays : ∀ a, Keyed.get? n s.calls = some a → s.settle n ⟨s.linter, a, []⟩ = (s, []) := by
      intro a found
      rw [settle, Keyed.put_of_get? found]
    cases found : Keyed.get? n s.calls with
    | none => simp only [step, found]
    | some a =>
      obtain ⟨i, rfl⟩ := lookups a found
      rw [step, found, ← stays _ found]
      dsimp only
      congr 1
      cases i with
      | probing k =>
        cases signal with
        | probeEnded ok => exact absurd rfl (unended k ok found)
        | _ => rfl
      | waiting k =>
        cases signal with
        | answerKnown =>
          cases answer : s.linter.bundles.answer k with
          | known b => exact absurd rfl (unknown k b found answer)
          | _ => simp [Activity.step, Memo.awaited?, answer]
        | _ => rfl
      | answered b => cases signal <;> rfl
  | remembers dir b => rfl

/-- Each event does one of these things. -/
theorem Desk.happens (desk : Desk known s) (around : Surroundings) (looks : e.isLookup = true) :
    Happens around s e (s.step around e).1 (s.step around e).2 := by
  have done : ∀ {s' effects}, Happens around s e s' effects →
      Happens around s e (s.step around e).1 (s.step around e).2 := by
    intro s' effects happens
    rw [happens.step_eq]
    exact happens
  cases e with
  | call n task =>
    cases task with
    | lookUp dir =>
      cases counts : s.linter.bundles.number? dir.components with
      | some k =>
        cases answer : s.linter.bundles.answer k with
        | missing => exact absurd answer (desk.sound.begun _ k counts)
        | sought => exact done (.waits n dir k counts answer)
        | known b => exact done (.finds n dir k b counts answer)
      | none =>
        cases probes : s.linter.bundles.isProbed around dir with
        | true => exact done (.seeks n dir counts probes)
        | false => exact done (.lacks n dir counts probes)
    | _ => cases looks
  | signal n signal =>
    by_cases probing : ∃ k ok, s.call? n = some (.lookup (.probing k)) ∧ signal = .probeEnded ok
    · obtain ⟨k, ok, found, rfl⟩ := probing
      exact done (.ends n k ok found)
    · by_cases waiting : ∃ k b, s.call? n = some (.lookup (.waiting k)) ∧ s.linter.bundles.answer k = .known b ∧
          signal = .answerKnown
      · obtain ⟨k, b, found, known, rfl⟩ := waiting
        exact done (.learns n k b found known)
      · refine done (.idle n signal ⟨desk.lookups n, ?_, ?_⟩)
        · intro k ok found same
          exact probing ⟨k, ok, found, same⟩
        · intro k b found known same
          exact waiting ⟨k, b, found, known, same⟩
  | remember dir b => exact done (.remembers dir b)
  | _ => cases looks

/-! ### What every lookup keeps -/

private theorem Desk.turn (desk : Desk known s) {m : Memo} {i : Inquiry} (sound : m.Sound)
    (isKnown : n ∈ known.map Prod.fst)
    (stays : ∀ j k, n ≠ j → s.call? j = some (.lookup (.probing k)) → m.answer k = .sought)
    (own : ∀ k, i = .probing k → m.answer k = .sought ∧ ∀ j, n ≠ j → s.call? j ≠ some (.lookup (.probing k))) :
    Desk known (s.turn m n i) where
  sound := sound
  called j a found := by
    rw [call?_turn] at found
    split at found
    · rename_i same
      exact same ▸ isKnown
    · exact desk.called j a found
  lookups j a found := by
    rw [call?_turn] at found
    split at found
    · cases found
      exact ⟨i, rfl⟩
    · exact desk.lookups j a found
  sought j k found := by
    rw [call?_turn] at found
    split at found
    · cases found
      exact (own k rfl).1
    · rename_i other
      exact stays j k other found
  alone j l k found found' := by
    rw [call?_turn] at found found'
    split at found <;> split at found'
    · rename_i same same'
      exact same.symm.trans same'
    · rename_i other
      cases found
      exact absurd found' ((own k rfl).2 l other)
    · rename_i other _
      cases found'
      exact absurd found ((own k rfl).2 j other)
    · exact desk.alone j l k found found'

theorem Desk.step (desk : Desk known s) (happens : Happens around s e s' effects) :
    Desk (begun e ++ known) s' := by
  have below : ∀ j k, s.call? j = some (.lookup (.probing k)) → k < s.linter.bundles.answers.length := by
    intro j k probing
    exact Memo.lt_of_answer_ne_missing (by simp [desk.sought j k probing])
  -- Who probes has an answer of its own, so a new one does not touch it.
  have added : ∀ (dir : Path) (a : Bundler.Answer) j k, s.call? j = some (.lookup (.probing k)) →
      (s.linter.bundles.add dir a).answer k = .sought := by
    intro dir a j k probing
    rw [Memo.answer_add_of_lt (below j k probing)]
    exact desk.sought j k probing
  have more : ∀ (n : Nat) (task : Task), Desk ((n, task) :: known) s := by
    intro n task
    exact { desk with called := fun j a found => List.mem_cons_of_mem _ (desk.called j a found) }
  cases happens with
  | finds n dir k b counts known =>
    exact (more n _).turn desk.sound List.mem_cons_self (fun j k _ => desk.sought j k) (by simp)
  | waits n dir k counts sought =>
    exact (more n _).turn desk.sound List.mem_cons_self (fun j k _ => desk.sought j k) (by simp)
  | seeks n dir absent probes =>
    refine (more n _).turn (desk.sound.add dir (by simp)) List.mem_cons_self (fun j k _ => added dir _ j k) ?_
    rintro k ⟨⟩
    refine ⟨by rw [Memo.answer_add, if_pos rfl], ?_⟩
    intro j _ probing
    exact absurd (below j _ probing) (Nat.lt_irrefl _)
  | lacks n dir absent unprobed =>
    exact (more n _).turn (desk.sound.add dir (by simp)) List.mem_cons_self (fun j k _ => added dir _ j k) (by simp)
  | ends n k ok probing =>
    refine desk.turn (desk.sound.probed k ok) (desk.called n _ probing) ?_ (by simp)
    intro j k' other probing'
    have apart : k ≠ k' := by
      rintro rfl
      exact other (desk.alone n j k probing probing')
    rw [Memo.answer_probed (desk.sought n k probing), if_neg apart]
    exact desk.sought j k' probing'
  | learns n k b waiting known =>
    exact desk.turn desk.sound (desk.called n _ waiting) (fun j k _ => desk.sought j k) (by simp)
  | idle n signal passes => exact desk
  | remembers dir b => exact { desk with sound := desk.sound.add dir (by simp), sought := added dir _ }

theorem desk_ofLinter {l : Linter} (sound : l.bundles.Sound) : Desk [] (ofLinter l) where
  sound := sound
  called n a found := by cases found
  lookups n a found := by cases found
  sought n k found := by cases found
  alone m n k found := by cases found

end Session
end LintBridge
