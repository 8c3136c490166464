import LintBridge.Proofs.Bundler.Lookups

/-!
What lookups of one directory come to.

A directory that has an answer, or one that is sought, is not probed again. Without anything remembered all its lookups
look at one answer (`Session.Agreed`); once an answer is remembered, later lookups find that one (`Session.Rests`), and
a probe that has begun before writes somewhere else.
-/

set_option autoImplicit false
set_option relaxedAutoImplicit false

namespace LintBridge

open Bundler (Inquiry Memo)

def Effect.isProbeOf (d : List Component) : Effect → Bool
  | .start .probed r => r.cwd.components == d
  | _ => false

namespace SessionEvent

/-- Whether an event gives a directory an answer from outside. -/
def remembers (d : List Component) : SessionEvent → Bool
  | .remember dir _ => dir.components == d
  | _ => false

/-- Whether an event looks a directory up, or gives it an answer. -/
def touches (d : List Component) : SessionEvent → Bool
  | .call _ (.lookUp dir) => dir.components == d
  | e => e.remembers d

end SessionEvent

namespace Session

def answer? (s : Session) (n : Nat) : Option Bool :=
  match s.call? n with
  | some (.lookup (.answered b)) => some b
  | _ => none

/-- How many probes of a directory a history starts. -/
def probes (s : Session) (d : List Component) : History → Nat
  | [] => 0
  | (around, e) :: rest => (s.step around e).2.countP (Effect.isProbeOf d) + (s.step around e).1.probes d rest

/-- A proper history of lookups. -/
structure Lookups (known : List (Nat × Task)) (s : Session) (history : History) : Prop where
  desk : Desk known s
  proper : s.Proper known history
  looks : ∀ moment ∈ history, moment.2.isLookup = true

variable {around : Surroundings} {s s' : Session} {known : List (Nat × Task)} {e : SessionEvent} {effects : List Effect}
  {n k : Nat} {b : Bool} {d : List Component} {history front back : History}

theorem probes_append (s : Session) (d : List Component) (front back : History) :
    s.probes d (front ++ back) = s.probes d front + (s.after front).probes d back := by
  induction front generalizing s with
  | nil => simp [probes, after]
  | cons moment rest ih =>
    obtain ⟨around, e⟩ := moment
    simp only [List.cons_append, probes, after, ih]
    omega

theorem Lookups.cons (lookups : Lookups known s ((around, e) :: history)) :
    s.Allows known e ∧ Happens around s e (s.step around e).1 (s.step around e).2 ∧
      Lookups (begun e ++ known) (s.step around e).1 history := by
  obtain ⟨desk, ⟨fits, proper⟩, looks⟩ := lookups
  have happens := desk.happens around (looks _ List.mem_cons_self)
  exact ⟨fits, happens, desk.step happens, proper, fun moment isIn => looks moment (List.mem_cons_of_mem _ isIn)⟩

theorem Lookups.append (lookups : Lookups known s (front ++ back)) :
    Lookups known s front ∧ Lookups ((allBegun front).reverse ++ known) (s.after front) back := by
  have proper := (proper_append front back).mp lookups.proper
  have first : Lookups known s front :=
    ⟨lookups.desk, proper.1, fun moment isIn => lookups.looks moment (List.mem_append_left _ isIn)⟩
  refine ⟨first, ?_, proper.2, fun moment isIn => lookups.looks moment (List.mem_append_right _ isIn)⟩
  clear proper lookups
  induction front generalizing s known with
  | nil => exact first.desk
  | cons moment rest ih =>
    obtain ⟨around, e⟩ := moment
    have reversed : (begun e).reverse = begun e := by cases e <;> rfl
    have later := ih first.cons.2.2
    simpa only [allBegun, List.flatMap_cons, List.reverse_append, reversed, List.append_assoc, after] using later

theorem Lookups.after (lookups : Lookups known s history) :
    Desk ((allBegun history).reverse ++ known) (s.after history) := by
  have whole : Lookups known s (history ++ []) := by rwa [List.append_nil]
  exact whole.append.2.desk

/-! ### One event -/

private theorem Happens.probes (happens : Happens around s e s' effects) (d : List Component) :
    effects.countP (Effect.isProbeOf d) = 0 ∨
      effects.countP (Effect.isProbeOf d) = 1 ∧ s.linter.bundles.number? d = none ∧
        ∃ k, s'.linter.bundles.number? d = some k := by
  cases happens with
  | seeks n dir absent probes =>
    by_cases same : dir.components = d
    · right
      refine ⟨by simp [Effect.isProbeOf, Memo.probe, same], same ▸ absent, s.linter.bundles.answers.length, ?_⟩
      exact (Memo.number?_add _ _ _ _).trans (if_pos same)
    · left
      simp [Effect.isProbeOf, Memo.probe, same]
  | _ => exact .inl rfl

private theorem Happens.number? (happens : Happens around s e s' effects) (d : List Component) :
    s'.linter.bundles.number? d = s.linter.bundles.number? d ∨
      e.touches d = true ∧ (∃ k, s'.linter.bundles.number? d = some k) ∧
        (e.remembers d = true ∨ s.linter.bundles.number? d = none) := by
  have added : ∀ (dir : Path) (a : Bundler.Answer), (s.linter.bundles.add dir a).number? d =
      if dir.components = d then some s.linter.bundles.answers.length else s.linter.bundles.number? d :=
    fun dir a => Memo.number?_add _ dir a d
  cases happens with
  | seeks n dir absent probes =>
    by_cases same : dir.components = d
    · exact .inr ⟨by simp [SessionEvent.touches, same], ⟨_, (added dir _).trans (if_pos same)⟩, .inr (same ▸ absent)⟩
    · exact .inl ((added dir _).trans (if_neg same))
  | lacks n dir absent unprobed =>
    by_cases same : dir.components = d
    · exact .inr ⟨by simp [SessionEvent.touches, same], ⟨_, (added dir _).trans (if_pos same)⟩, .inr (same ▸ absent)⟩
    · exact .inl ((added dir _).trans (if_neg same))
  | remembers dir b =>
    by_cases same : dir.components = d
    · have remembers : (SessionEvent.remember dir b).remembers d = true := by simp [SessionEvent.remembers, same]
      exact .inr ⟨remembers, ⟨_, (added dir _).trans (if_pos same)⟩, .inl remembers⟩
    · exact .inl ((added dir _).trans (if_neg same))
  | _ => exact .inl rfl

private theorem Happens.stays_known (happens : Happens around s e s' effects) (desk : Desk known s)
    (answer : s.linter.bundles.answer k = .known b) : s'.linter.bundles.answer k = .known b := by
  have below : k < s.linter.bundles.answers.length := Memo.lt_of_answer_ne_missing (by simp [answer])
  have added : ∀ (dir : Path) (a : Bundler.Answer), (s.linter.bundles.add dir a).answer k = .known b := by
    intro dir a
    rw [Memo.answer_add_of_lt below, answer]
  cases happens with
  | seeks n dir absent probes => exact added dir _
  | lacks n dir absent unprobed => exact added dir _
  | remembers dir b => exact added dir _
  | ends n j ok probing =>
    have sought := desk.sought n j probing
    have apart : j ≠ k := by
      rintro rfl
      rw [answer] at sought
      cases sought
    have stays : (s.linter.bundles.probed j ok).answer k = if j = k then .known ok else s.linter.bundles.answer k :=
      Memo.answer_probed sought k
    rw [if_neg apart, answer] at stays
    exact stays
  | _ => exact answer

private theorem Happens.answered (happens : Happens around s e s' effects) (desk : Desk known s)
    (fits : s.Allows known e) (found : s.call? n = some (.lookup (.answered b))) :
    s'.call? n = some (.lookup (.answered b)) := by
  have other : ∀ {m : Nat} {dir : Path} (memo : Memo) (i : Inquiry), e = .call m (.lookUp dir) →
      (s.turn memo m i).call? n = some (.lookup (.answered b)) := by
    rintro m dir memo i rfl
    have apart : m ≠ n := by
      rintro rfl
      exact fits (desk.called m _ found)
    rw [call?_turn, if_neg apart, found]
  have goesOn : ∀ {m : Nat} {i : Inquiry} (memo : Memo) (i' : Inquiry), s.call? m = some (.lookup i) →
      (∀ b, i ≠ .answered b) → (s.turn memo m i').call? n = some (.lookup (.answered b)) := by
    intro m i memo i' found' under
    have apart : m ≠ n := by
      rintro rfl
      rw [found] at found'
      cases found'
      exact under b rfl
    rw [call?_turn, if_neg apart, found]
  cases happens with
  | finds => exact other _ _ rfl
  | waits => exact other _ _ rfl
  | seeks => exact other _ _ rfl
  | lacks => exact other _ _ rfl
  | ends m k ok probing => exact goesOn _ _ probing (by simp)
  | learns m k b waiting known => exact goesOn _ _ waiting (by simp)
  | idle => exact found
  | remembers => exact found

/-! ### Probes -/

private theorem probes_of_number? (lookups : Lookups known s history) (counts : s.linter.bundles.number? d = some k) :
    s.probes d history = 0 := by
  induction history generalizing s known k with
  | nil => rfl
  | cons moment rest ih =>
    obtain ⟨around, e⟩ := moment
    obtain ⟨-, happens, later⟩ := lookups.cons
    have unprobed : (s.step around e).2.countP (Effect.isProbeOf d) = 0 := by
      rcases happens.probes d with none | ⟨-, absent, -⟩
      · exact none
      · rw [counts] at absent
        cases absent
    obtain ⟨k', counts'⟩ : ∃ k', (s.step around e).1.linter.bundles.number? d = some k' := by
      rcases happens.number? d with same | ⟨-, new, -⟩
      · exact ⟨k, same.trans counts⟩
      · exact new
    have rest := ih later counts'
    rw [probes]
    omega

/-- A directory is probed at most once. -/
theorem probes_le_one (lookups : Lookups known s history) (d : List Component) : s.probes d history ≤ 1 := by
  induction history generalizing s known with
  | nil => exact Nat.zero_le 1
  | cons moment rest ih =>
    obtain ⟨around, e⟩ := moment
    obtain ⟨-, happens, later⟩ := lookups.cons
    rw [probes]
    rcases happens.probes d with none | ⟨one, -, k, counts⟩
    · have rest := ih later
      omega
    · have rest := probes_of_number? later counts
      omega

private theorem untouched (lookups : Lookups known s history) (absent : s.linter.bundles.number? d = none)
    (away : ∀ moment ∈ history, moment.2.touches d = false) :
    s.probes d history = 0 ∧ (s.after history).linter.bundles.number? d = none := by
  induction history generalizing s known with
  | nil => exact ⟨rfl, absent⟩
  | cons moment rest ih =>
    obtain ⟨around, e⟩ := moment
    obtain ⟨-, happens, later⟩ := lookups.cons
    have absent' : (s.step around e).1.linter.bundles.number? d = none := by
      rcases happens.number? d with same | ⟨touches, -⟩
      · exact same.trans absent
      · rw [away _ List.mem_cons_self] at touches
        cases touches
    have unprobed : (s.step around e).2.countP (Effect.isProbeOf d) = 0 := by
      rcases happens.probes d with none | ⟨-, -, k, counts⟩
      · exact none
      · rw [absent'] at counts
        cases counts
    obtain ⟨rest, stays⟩ := ih later absent' fun moment isIn => away moment (List.mem_cons_of_mem _ isIn)
    refine ⟨?_, stays⟩
    rw [probes]
    omega

/-- An event that gives a directory an answer without a probe: it is remembered, or there is no bundle. -/
def Spares (around : Surroundings) (d : List Component) (e : SessionEvent) : Prop :=
  (∃ dir b, e = .remember dir b ∧ dir.components = d) ∨
    ∃ n dir, e = .call n (.lookUp dir) ∧ dir.components = d ∧
      around.files.isFile (dir.join ⟨Bundler.gemfile⟩) = false

theorem probes_of_spared (lookups : Lookups known s (front ++ (around, e) :: back))
    (absent : s.linter.bundles.number? d = none) (away : ∀ moment ∈ front, moment.2.touches d = false)
    (spares : Spares around d e) : s.probes d (front ++ (around, e) :: back) = 0 := by
  obtain ⟨first, second⟩ := lookups.append
  obtain ⟨none, absent'⟩ := untouched first absent away
  obtain ⟨-, happens, later⟩ := second.cons
  obtain ⟨unprobed, k, counts⟩ : ((s.after front).step around e).2.countP (Effect.isProbeOf d) = 0 ∧
      ∃ k, ((s.after front).step around e).1.linter.bundles.number? d = some k := by
    generalize ((s.after front).step around e).1 = s' at happens
    generalize ((s.after front).step around e).2 = effects at happens
    rcases spares with ⟨dir, b, rfl, rfl⟩ | ⟨n, dir, rfl, rfl, noBundle⟩
    · cases happens
      exact ⟨rfl, _, (Memo.number?_add _ _ _ _).trans (if_pos rfl)⟩
    · cases happens with
      | lacks n dir absent unprobed => exact ⟨rfl, _, (Memo.number?_add _ _ _ _).trans (if_pos rfl)⟩
      | seeks n dir absent probes => simp [Memo.isProbed, noBundle] at probes
      | finds n dir k b counts => rw [absent'] at counts; cases counts
      | waits n dir k counts => rw [absent'] at counts; cases counts
  have rest := probes_of_number? later counts
  rw [probes_append, probes]
  omega

/-! ### Answers -/

/-- A lookup whose answer is, or is going to be, the one with the given number. -/
def LooksAt (s : Session) (k n : Nat) : Prop :=
  ∃ i, s.call? n = some (.lookup i) ∧
    (i = .probing k ∨ i = .waiting k ∨ ∃ b, i = .answered b ∧ s.linter.bundles.answer k = .known b)

private theorem Happens.looksAt (happens : Happens around s e s' effects) (desk : Desk known s)
    (fits : s.Allows known e) (looksAt : s.LooksAt k n) : s'.LooksAt k n := by
  obtain ⟨i, found, answer⟩ := looksAt
  have isKnown := desk.called n _ found
  have apart : ∀ {m : Nat} {memo : Memo} {i' : Inquiry}, s' = s.turn memo m i' → m ≠ n → s'.LooksAt k n := by
    rintro m memo i' rfl other
    refine ⟨i, by rw [call?_turn, if_neg other, found], ?_⟩
    exact answer.imp_right fun answer => answer.imp_right fun ⟨b, eq, known⟩ => ⟨b, eq, happens.stays_known desk known⟩
  cases happens with
  | finds m dir j b counts known => exact apart rfl fun same => fits (same ▸ isKnown)
  | waits m dir j counts sought => exact apart rfl fun same => fits (same ▸ isKnown)
  | seeks m dir absent probes => exact apart rfl fun same => fits (same ▸ isKnown)
  | lacks m dir absent unprobed => exact apart rfl fun same => fits (same ▸ isKnown)
  | ends m j ok probing =>
    by_cases same : m = n
    · subst same
      rw [found] at probing
      cases probing
      obtain rfl : j = k := by simpa using answer
      refine ⟨.answered ok, by rw [call?_turn, if_pos rfl], .inr (.inr ⟨ok, rfl, ?_⟩)⟩
      exact (Memo.answer_probed (desk.sought m j found) j).trans (if_pos rfl)
    · exact apart rfl same
  | learns m j b waiting known =>
    by_cases same : m = n
    · subst same
      rw [found] at waiting
      cases waiting
      obtain rfl : j = k := by simpa using answer
      exact ⟨.answered b, by rw [call?_turn, if_pos rfl], .inr (.inr ⟨b, rfl, known⟩)⟩
    · exact apart rfl same
  | idle m signal passes => exact ⟨i, found, answer⟩
  | remembers dir b =>
    exact ⟨i, found, answer.imp_right fun answer => answer.imp_right fun ⟨b', eq, known⟩ => ⟨b', eq, by
      rw [Memo.answer_add_of_lt (Memo.lt_of_answer_ne_missing (by simp [known])), known]⟩⟩

/-- All lookups of a directory look at the answer that counts for it. -/
def Agreed (known : List (Nat × Task)) (s : Session) (d : List Component) : Prop :=
  ∀ n dir, (n, .lookUp dir) ∈ known → dir.components = d →
    ∃ k, s.linter.bundles.number? d = some k ∧ s.LooksAt k n

private theorem Agreed.step (agreed : Agreed known s d) (desk : Desk known s) (fits : s.Allows known e)
    (happens : Happens around s e s' effects) (unremembered : e.remembers d = false) :
    Agreed (begun e ++ known) s' d := by
  have old : ∀ n dir, (n, .lookUp dir) ∈ known → dir.components = d →
      ∃ k, s'.linter.bundles.number? d = some k ∧ s'.LooksAt k n := by
    intro n dir isKnown same
    obtain ⟨k, counts, looksAt⟩ := agreed n dir isKnown same
    refine ⟨k, ?_, happens.looksAt desk fits looksAt⟩
    rcases happens.number? d with same | ⟨-, -, remembers | absent⟩
    · exact same.trans counts
    · rw [unremembered] at remembers
      cases remembers
    · rw [counts] at absent
      cases absent
  have new : ∀ n dir, e = .call n (.lookUp dir) → dir.components = d →
      ∃ k, s'.linter.bundles.number? d = some k ∧ s'.LooksAt k n := by
    rintro n dir rfl rfl
    have found : ∀ (memo : Memo) (i : Inquiry), (s.turn memo n i).call? n = some (.lookup i) := by
      intro memo i
      rw [call?_turn, if_pos rfl]
    have counted : ∀ (a : Bundler.Answer), (s.linter.bundles.add dir a).number? dir.components =
        some s.linter.bundles.answers.length := fun a => (Memo.number?_add _ _ _ _).trans (if_pos rfl)
    cases happens with
    | finds n dir k b counts known => exact ⟨k, counts, _, found _ _, .inr (.inr ⟨b, rfl, known⟩)⟩
    | waits n dir k counts sought => exact ⟨k, counts, _, found _ _, .inr (.inl rfl)⟩
    | seeks n dir absent probes => exact ⟨_, counted _, _, found _ _, .inl rfl⟩
    | lacks n dir absent unprobed =>
      exact ⟨_, counted _, _, found _ _, .inr (.inr ⟨false, rfl, (Memo.answer_add _ _ _ _).trans (if_pos rfl)⟩)⟩
  intro n dir isKnown same
  rcases List.mem_append.mp isKnown with isNew | isKnown
  · cases e with
    | call m task =>
      cases List.mem_singleton.mp isNew
      exact new n dir rfl same
    | _ => cases isNew
  · exact old n dir isKnown same

/-- As long as no answer is remembered for a directory, its lookups agree. -/
theorem Agreed.after (agreed : Agreed known s d) (lookups : Lookups known s history)
    (unremembered : ∀ moment ∈ history, moment.2.remembers d = false) :
    Agreed ((allBegun history).reverse ++ known) (s.after history) d := by
  induction history generalizing s known with
  | nil => exact agreed
  | cons moment rest ih =>
    obtain ⟨around, e⟩ := moment
    obtain ⟨fits, happens, later⟩ := lookups.cons
    have now := agreed.step lookups.desk fits happens (unremembered _ List.mem_cons_self)
    have reversed : (begun e).reverse = begun e := by cases e <;> rfl
    have final := ih now later fun moment isIn => unremembered moment (List.mem_cons_of_mem _ isIn)
    simpa only [allBegun, List.flatMap_cons, List.reverse_append, reversed, List.append_assoc, Session.after] using final

theorem Agreed.answers_eq {m n : Nat} {dir dir' : Path} {b b' : Bool} (agreed : Agreed known s d)
    (isKnown : (m, .lookUp dir) ∈ known) (same : dir.components = d) (isKnown' : (n, .lookUp dir') ∈ known)
    (same' : dir'.components = d) (answered : s.answer? m = some b) (answered' : s.answer? n = some b') : b = b' := by
  have found : ∀ n dir b, (n, .lookUp dir) ∈ known → dir.components = d → s.answer? n = some b →
      ∃ k, s.linter.bundles.number? d = some k ∧ s.linter.bundles.answer k = .known b := by
    intro n dir b isKnown same answered
    obtain ⟨k, counts, i, found, answer⟩ := agreed n dir isKnown same
    rw [answer?, found] at answered
    rcases answer with rfl | rfl | ⟨b', rfl, known⟩
    · cases answered
    · cases answered
    · cases answered
      exact ⟨k, counts, known⟩
  obtain ⟨k, counts, known⟩ := found m dir b isKnown same answered
  obtain ⟨k', counts', known'⟩ := found n dir' b' isKnown' same' answered'
  rw [counts] at counts'
  cases counts'
  rw [known] at known'
  cases known'
  rfl

/-- The answer that counts for a directory is known. -/
def Rests (s : Session) (d : List Component) (b : Bool) : Prop :=
  ∃ k, s.linter.bundles.number? d = some k ∧ s.linter.bundles.answer k = .known b

private theorem Rests.after (rests : s.Rests d b) (lookups : Lookups known s history)
    (unremembered : ∀ moment ∈ history, moment.2.remembers d = false) : (s.after history).Rests d b := by
  induction history generalizing s known with
  | nil => exact rests
  | cons moment rest ih =>
    obtain ⟨around, e⟩ := moment
    obtain ⟨-, happens, later⟩ := lookups.cons
    obtain ⟨k, counts, answer⟩ := rests
    refine ih ⟨k, ?_, happens.stays_known lookups.desk answer⟩ later
      fun moment isIn => unremembered moment (List.mem_cons_of_mem _ isIn)
    rcases happens.number? d with same | ⟨-, -, remembers | absent⟩
    · exact same.trans counts
    · rw [unremembered _ List.mem_cons_self] at remembers
      cases remembers
    · rw [counts] at absent
      cases absent

private theorem answered_after (found : s.call? n = some (.lookup (.answered b)))
    (lookups : Lookups known s history) : (s.after history).call? n = some (.lookup (.answered b)) := by
  induction history generalizing s known with
  | nil => exact found
  | cons moment rest ih =>
    obtain ⟨around, e⟩ := moment
    obtain ⟨fits, happens, later⟩ := lookups.cons
    exact ih (happens.answered lookups.desk fits found) later

/-- From when an answer is remembered until another one is, lookups return it at once. -/
theorem answer?_of_remembered {around' : Surroundings} {dir dir' : Path} {between : History}
    (lookups : Lookups known s
      (front ++ (around, .remember dir b) :: between ++ (around', .call n (.lookUp dir')) :: back))
    (same : dir'.components = dir.components)
    (unremembered : ∀ moment ∈ between, moment.2.remembers dir.components = false) :
    (s.after (front ++ (around, .remember dir b) :: between ++ [(around', .call n (.lookUp dir'))])).answer? n =
        some b ∧
      (s.after (front ++ (around, .remember dir b) :: between ++ (around', .call n (.lookUp dir')) :: back)).answer? n =
        some b := by
  obtain ⟨first, second⟩ := lookups.append
  obtain ⟨-, given⟩ := first.append
  obtain ⟨-, remembers, later⟩ := given.cons
  obtain ⟨-, asked, rest⟩ := second.cons
  rw [after_append] at asked rest
  have rests : (((s.after front).step around (.remember dir b)).1).Rests dir.components b := by
    refine ⟨_, (Memo.number?_add _ _ _ _).trans (if_pos rfl), ?_⟩
    exact (Memo.answer_add _ _ _ _).trans (if_pos rfl)
  obtain ⟨k, counts, known⟩ := rests.after later unremembered
  have found : (((s.after front).after ((around, .remember dir b) :: between)).step around'
      (.call n (.lookUp dir'))).1.call? n = some (.lookup (.answered b)) := by
    have finds : Happens around' ((s.after front).after ((around, .remember dir b) :: between))
        (.call n (.lookUp dir')) _ [] := .finds n dir' k b (same ▸ counts) known
    rw [finds.step_eq, call?_turn, if_pos rfl]
  constructor
  · rw [after_append, after_append, after, after, answer?, found]
  · rw [after_append, after_append, after, answer?, answered_after found rest]

/-! ### Waiting -/

/-- A lookup has returned, or what it waits for makes it return: its own probe, or an answer that is known already or
that another lookup's probe is for. -/
def ReturnsInTurn (s : Session) (n : Nat) : Prop :=
  (∃ b, s.answer? n = some b) ∨
  (∃ k, s.call? n = some (.lookup (.probing k)) ∧
    ∀ around ok, (s.step around (.signal n (.probeEnded ok))).1.answer? n = some ok) ∨
  ∃ k, s.call? n = some (.lookup (.waiting k)) ∧
    ((∃ b, ∀ around, (s.step around (.signal n .answerKnown)).1.answer? n = some b) ∨
      ∃ m, s.call? m = some (.lookup (.probing k)))

theorem returnsInTurn (desk : Desk known s) (sought : s.Sought) {i : Inquiry} (found : s.call? n = some (.lookup i)) :
    s.ReturnsInTurn n := by
  cases i with
  | answered b => exact .inl ⟨b, by rw [answer?, found]⟩
  | probing k =>
    refine .inr (.inl ⟨k, found, ?_⟩)
    intro around ok
    have ends : Happens around s (.signal n (.probeEnded ok)) _ [] := .ends n k ok found
    rw [ends.step_eq, answer?, call?_turn, if_pos rfl]
  | waiting k =>
    refine .inr (.inr ⟨k, found, ?_⟩)
    have waits : s.inquiryOf? n = some (.waiting k) := by rw [inquiryOf?, found]; rfl
    rcases sought.of_waiting waits with ⟨b, awaited⟩ | ⟨m, probing⟩
    · left
      refine ⟨b, fun around => ?_⟩
      have known : s.linter.bundles.answer k = .known b := by
        unfold Memo.awaited? at awaited
        split at awaited
        · rename_i answer
          cases awaited
          exact answer
        · cases awaited
      have learns : Happens around s (.signal n .answerKnown) _ [] := .learns n k b found known
      rw [learns.step_eq, answer?, call?_turn, if_pos rfl]
    · right
      obtain ⟨a, found', inquiry⟩ := Option.bind_eq_some_iff.mp probing
      obtain ⟨i, rfl⟩ := desk.lookups m a found'
      cases inquiry
      exact ⟨m, found'⟩

end Session
end LintBridge
