import LintBridge.Proofs.Bundler.Answers
import Mathlib.Logic.Function.Basic

/-!
What the lookups of one directory notice of all others: nothing.

Answers are numbered for all directories together. A history from which everything about other directories is taken
out numbers them otherwise, and comes to the same for the one that is left: `Session.Shows` relates the two sessions,
event by event.
-/

set_option autoImplicit false
set_option relaxedAutoImplicit false

namespace LintBridge

namespace Bundler

namespace Inquiry

def renumber (f : Nat → Nat) : Inquiry → Inquiry
  | probing k => probing (f k)
  | waiting k => waiting (f k)
  | answered b => answered b

/-- The number of the answer that a lookup waits for. -/
def number? : Inquiry → Option Nat
  | probing k => some k
  | waiting k => some k
  | answered _ => none

end Inquiry

namespace Memo

/-- What `m` knows of a directory, and of the answers for it, `q` knows by their other numbers. -/
structure Shows (d : List Component) (mine : Nat → Prop) (f : Nat → Nat) (m q : Memo) : Prop where
  counts : q.number? d = (m.number? d).map f
  owners : ∀ d' k, m.number? d' = some k → k < m.answers.length ∧ (mine k ↔ d' = d)
  answers : ∀ k, mine k → q.answer (f k) = m.answer k
  below : ∀ k, mine k → k < m.answers.length ∧ f k < q.answers.length
  injective : ∀ j k, mine j → mine k → f j = f k → j = k
  probe : ∀ dir, q.probe dir = m.probe dir

namespace Shows

variable {d : List Component} {mine : Nat → Prop} {f : Nat → Nat} {m q : Memo} {dir : Path} {k : Nat} {ok : Bool}

theorem add_other (shows : Shows d mine f m q) (other : dir.components ≠ d) (a : Answer) :
    Shows d mine f (m.add dir a) q where
  counts := by rw [number?_add, if_neg other, shows.counts]
  owners d' k counts := by
    rw [number?_add] at counts
    rw [length_add]
    split at counts
    · rename_i same
      cases counts
      have notMine : ¬ mine m.answers.length := fun h => Nat.lt_irrefl _ (shows.below _ h).1
      have notHere : d' ≠ d := fun eq => other (same.trans eq)
      exact ⟨by omega, by simp [notMine, notHere]⟩
    · obtain ⟨below, iff⟩ := shows.owners d' k counts
      exact ⟨by omega, iff⟩
  answers k h := by rw [answer_add_of_lt (shows.below k h).1, shows.answers k h]
  below k h := by
    obtain ⟨below, below'⟩ := shows.below k h
    rw [length_add]
    exact ⟨by omega, below'⟩
  injective := shows.injective
  probe := shows.probe

theorem add_own (shows : Shows d mine f m q) (same : dir.components = d) (a : Answer) :
    Shows d (fun k => mine k ∨ k = m.answers.length) (Function.update f m.answers.length q.answers.length)
      (m.add dir a) (q.add dir a) := by
  have old : ∀ k, mine k → Function.update f m.answers.length q.answers.length k = f k := by
    intro k h
    have below := (shows.below k h).1
    have other : k ≠ m.answers.length := by omega
    exact Function.update_of_ne other _ _
  have new : Function.update f m.answers.length q.answers.length m.answers.length = q.answers.length :=
    Function.update_self _ _ _
  constructor
  · simp [number?_add, same]
  · intro d' k counts
    rw [number?_add] at counts
    rw [length_add]
    split at counts
    · rename_i here
      cases counts
      exact ⟨by omega, by simp [← here, same]⟩
    · obtain ⟨below, iff⟩ := shows.owners d' k counts
      have other : k ≠ m.answers.length := by omega
      exact ⟨by omega, by simp [other, iff]⟩
  · rintro k (h | rfl)
    · obtain ⟨below, below'⟩ := shows.below k h
      rw [old k h, answer_add_of_lt below, answer_add_of_lt below', shows.answers k h]
    · rw [new, answer_add, answer_add, if_pos rfl, if_pos rfl]
  · rintro k (h | rfl)
    · obtain ⟨below, below'⟩ := shows.below k h
      rw [old k h, length_add, length_add]
      omega
    · rw [new, length_add, length_add]
      omega
  · rintro j k (hj | rfl) (hk | rfl) eq
    · rw [old j hj, old k hk] at eq
      exact shows.injective j k hj hk eq
    · have below' := (shows.below j hj).2
      rw [old j hj, new] at eq
      omega
    · have below' := (shows.below k hk).2
      rw [old k hk, new] at eq
      omega
    · rfl
  · exact shows.probe

theorem probed_other (shows : Shows d mine f m q) (sought : m.answer k = .sought) (foreign : ¬ mine k) :
    Shows d mine f (m.probed k ok) q where
  counts := shows.counts
  owners d' j counts := by
    rw [length_probed]
    exact shows.owners d' j counts
  answers j h := by
    have other : k ≠ j := fun same => foreign (same ▸ h)
    rw [answer_probed sought, if_neg other, shows.answers j h]
  below j h := by
    rw [length_probed]
    exact shows.below j h
  injective := shows.injective
  probe := shows.probe

theorem probed_own (shows : Shows d mine f m q) (sought : m.answer k = .sought) (own : mine k) :
    Shows d mine f (m.probed k ok) (q.probed (f k) ok) where
  counts := shows.counts
  owners d' j counts := by
    rw [length_probed]
    exact shows.owners d' j counts
  answers j h := by
    have sought' : q.answer (f k) = .sought := by rw [shows.answers k own, sought]
    have iff : f k = f j ↔ k = j := ⟨shows.injective k j own h, fun eq => by rw [eq]⟩
    rw [answer_probed sought, answer_probed sought', shows.answers j h]
    simp [iff]
  below j h := by
    rw [length_probed, length_probed]
    exact shows.below j h
  injective := shows.injective
  probe := shows.probe

end Shows
end Memo
end Bundler

open Bundler (Inquiry Memo)

namespace SessionEvent

/-- Whether an event is about a directory: it looks it up, gives it an answer, or signals to one of its lookups. -/
def isAbout (d : List Component) (chosen : Nat → Bool) : SessionEvent → Bool
  | .signal n _ => chosen n
  | e => e.touches d

end SessionEvent

namespace Session

/-- The lookups of a directory, those that are chosen, are as far in one session as in the other, and no other lookup
waits for an answer of the directory. -/
structure Shows (d : List Component) (chosen : Nat → Bool) (mine : Nat → Prop) (f : Nat → Nat) (s q : Session) :
    Prop where
  memo : Memo.Shows d mine f s.linter.bundles q.linter.bundles
  own : ∀ n i, chosen n = true → s.call? n = some (.lookup i) →
    q.call? n = some (.lookup (i.renumber f)) ∧ ∀ k, i.number? = some k → mine k
  absent : ∀ n, chosen n = true → s.call? n = none → q.call? n = none
  foreign : ∀ n i k, chosen n = false → s.call? n = some (.lookup i) → i.number? = some k →
    k < s.linter.bundles.answers.length ∧ ¬ mine k

variable {around : Surroundings} {s s' q : Session} {known : List (Nat × Task)} {e : SessionEvent}
  {effects : List Effect} {n k : Nat} {d : List Component} {chosen : Nat → Bool} {mine : Nat → Prop} {f : Nat → Nat}
  {history : History}

namespace Shows

private theorem turn_own (shows : Shows d chosen mine f s q) {m m' : Memo} {i : Inquiry} (isOwn : chosen n = true)
    (memo : Memo.Shows d mine f m m') (grows : s.linter.bundles.answers.length ≤ m.answers.length)
    (has : ∀ k, i.number? = some k → mine k) :
    Shows d chosen mine f (s.turn m n i) (q.turn m' n (i.renumber f)) where
  memo := memo
  own j i' chosen' found := by
    rw [call?_turn] at found ⊢
    split at found
    · rename_i same
      cases found
      exact ⟨if_pos same, has⟩
    · rename_i other
      rw [if_neg other]
      exact shows.own j i' chosen' found
  absent j chosen' found := by
    rw [call?_turn] at found ⊢
    split at found
    · cases found
    · rename_i other
      rw [if_neg other]
      exact shows.absent j chosen' found
  foreign j i' k other found number := by
    rw [call?_turn] at found
    split at found
    · rename_i same
      rw [← same, isOwn] at other
      cases other
    · obtain ⟨below, notMine⟩ := shows.foreign j i' k other found number
      exact ⟨Nat.lt_of_lt_of_le below grows, notMine⟩

private theorem renumbered (shows : Shows d chosen mine f s q) {i : Inquiry}
    (has : ∀ k, i.number? = some k → mine k) :
    i.renumber (Function.update f s.linter.bundles.answers.length q.linter.bundles.answers.length) = i.renumber f := by
  have old : ∀ k, mine k →
      Function.update f s.linter.bundles.answers.length q.linter.bundles.answers.length k = f k := by
    intro k h
    have below := (shows.memo.below k h).1
    have other : k ≠ s.linter.bundles.answers.length := by omega
    exact Function.update_of_ne other _ _
  cases i with
  | probing k => simp only [Inquiry.renumber, old k (has k rfl)]
  | waiting k => simp only [Inquiry.renumber, old k (has k rfl)]
  | answered b => rfl

private theorem remember_own (shows : Shows d chosen mine f s q) {dir : Path} (same : dir.components = d)
    (a : Bundler.Answer) :
    Shows d chosen (fun k => mine k ∨ k = s.linter.bundles.answers.length)
      (Function.update f s.linter.bundles.answers.length q.linter.bundles.answers.length)
      ⟨{ s.linter with bundles := s.linter.bundles.add dir a }, s.calls⟩
      ⟨{ q.linter with bundles := q.linter.bundles.add dir a }, q.calls⟩ where
  memo := shows.memo.add_own same a
  own j i chosen' found := by
    obtain ⟨found', has⟩ := shows.own j i chosen' found
    rw [shows.renumbered has]
    exact ⟨found', fun k number => .inl (has k number)⟩
  absent := shows.absent
  foreign j i k other found number := by
    obtain ⟨below, notMine⟩ := shows.foreign j i k other found number
    have notNew : k ≠ s.linter.bundles.answers.length := by omega
    refine ⟨?_, by simp [notMine, notNew]⟩
    rw [Memo.length_add]
    omega

private theorem turn_other (shows : Shows d chosen mine f s q) {m : Memo} {i : Inquiry} (isOther : chosen n = false)
    (memo : Memo.Shows d mine f m q.linter.bundles) (grows : s.linter.bundles.answers.length ≤ m.answers.length)
    (has : ∀ k, i.number? = some k → k < m.answers.length ∧ ¬ mine k) : Shows d chosen mine f (s.turn m n i) q where
  memo := memo
  own j i' chosen' found := by
    rw [call?_turn] at found
    split at found
    · rename_i same
      rw [← same, isOther] at chosen'
      cases chosen'
    · exact shows.own j i' chosen' found
  absent j chosen' found := by
    rw [call?_turn] at found
    split at found
    · cases found
    · exact shows.absent j chosen' found
  foreign j i' k other found number := by
    rw [call?_turn] at found
    split at found
    · cases found
      exact has k number
    · obtain ⟨below, notMine⟩ := shows.foreign j i' k other found number
      exact ⟨Nat.lt_of_lt_of_le below grows, notMine⟩

theorem step_own (shows : Shows d chosen mine f s q) (desk : Desk known s) (happens : Happens around s e s' effects)
    (about : e.isAbout d chosen = true) (classed : ∀ n dir, e = .call n (.lookUp dir) → chosen n = (dir.components == d)) :
    ∃ q' mine' f', Happens around q e q' effects ∧ Shows d chosen mine' f' s' q' := by
  have mineOf : ∀ k, s.linter.bundles.number? d = some k → mine k ∧ q.linter.bundles.number? d = some (f k) := by
    intro k counts
    refine ⟨(shows.memo.owners d k counts).2.mpr rfl, ?_⟩
    rw [shows.memo.counts, counts, Option.map_some]
  cases happens with
  | finds n dir k b counts known =>
    have same : dir.components = d := by simpa [SessionEvent.isAbout, SessionEvent.touches] using about
    have isOwn := (classed n dir rfl).trans about
    obtain ⟨hers, counts'⟩ := mineOf k (same ▸ counts)
    have known' := (shows.memo.answers k hers).trans known
    exact ⟨_, mine, f, .finds n dir (f k) b (same.symm ▸ counts') known',
      shows.turn_own isOwn shows.memo (Nat.le_refl _) (by simp [Inquiry.number?])⟩
  | waits n dir k counts sought =>
    have same : dir.components = d := by simpa [SessionEvent.isAbout, SessionEvent.touches] using about
    have isOwn := (classed n dir rfl).trans about
    obtain ⟨hers, counts'⟩ := mineOf k (same ▸ counts)
    have sought' := (shows.memo.answers k hers).trans sought
    refine ⟨_, mine, f, .waits n dir (f k) (same.symm ▸ counts') sought',
      shows.turn_own (i := .waiting k) isOwn shows.memo (Nat.le_refl _) ?_⟩
    rintro j ⟨⟩
    exact hers
  | seeks n dir absent probes =>
    have same : dir.components = d := by simpa [SessionEvent.isAbout, SessionEvent.touches] using about
    have isOwn := (classed n dir rfl).trans about
    have absent' : q.linter.bundles.number? dir.components = none := by
      rw [same, shows.memo.counts, ← same, absent, Option.map_none]
    have probes' : q.linter.bundles.isProbed around dir = true := by
      rw [Memo.isProbed, shows.memo.probe, ← Memo.isProbed, probes]
    have seeks := Happens.seeks n dir absent' probes'
    rw [shows.memo.probe] at seeks
    have begun := (shows.remember_own same .sought).turn_own (i := .probing s.linter.bundles.answers.length) isOwn
      (shows.memo.add_own same .sought) (Nat.le_refl _) (by simp [Inquiry.number?])
    rw [Inquiry.renumber, Function.update_self] at begun
    exact ⟨_, _, _, seeks, begun⟩
  | lacks n dir absent unprobed =>
    have same : dir.components = d := by simpa [SessionEvent.isAbout, SessionEvent.touches] using about
    have isOwn := (classed n dir rfl).trans about
    have absent' : q.linter.bundles.number? dir.components = none := by
      rw [same, shows.memo.counts, ← same, absent, Option.map_none]
    have unprobed' : q.linter.bundles.isProbed around dir = false := by
      rw [Memo.isProbed, shows.memo.probe, ← Memo.isProbed, unprobed]
    exact ⟨_, _, _, .lacks n dir absent' unprobed', (shows.remember_own same (.known false)).turn_own
      (i := .answered false) isOwn (shows.memo.add_own same _) (Nat.le_refl _) (by simp [Inquiry.number?])⟩
  | ends n k ok probing =>
    obtain ⟨probing', has⟩ := shows.own n _ about probing
    have sought := desk.sought n k probing
    exact ⟨_, mine, f, .ends n (f k) ok probing', shows.turn_own (i := .answered ok) about
      (shows.memo.probed_own sought (has k rfl)) (Nat.le_of_eq Memo.length_probed.symm) (by simp [Inquiry.number?])⟩
  | learns n k b waiting known =>
    obtain ⟨waiting', has⟩ := shows.own n _ about waiting
    have known' := (shows.memo.answers k (has k rfl)).trans known
    exact ⟨_, mine, f, .learns n (f k) b waiting' known',
      shows.turn_own (i := .answered b) about shows.memo (Nat.le_refl _) (by simp [Inquiry.number?])⟩
  | idle n signal passes =>
    refine ⟨q, mine, f, .idle n signal ?_, shows⟩
    obtain ⟨-, unended, unknown⟩ := passes
    cases found : s.call? n with
    | none =>
      have found' := shows.absent n about found
      simp [Passes, found']
    | some a =>
      obtain ⟨i, rfl⟩ := desk.lookups n a found
      obtain ⟨found', has⟩ := shows.own n i about found
      refine ⟨fun a h => ⟨_, Option.some.inj (h.symm.trans found')⟩, ?_, ?_⟩
      · intro k ok probing
        rw [found'] at probing
        cases i with
        | probing j => exact unended j ok found
        | _ => cases probing
      · intro k b waiting known
        rw [found'] at waiting
        cases i with
        | waiting j =>
          cases waiting
          rw [shows.memo.answers j (has j rfl)] at known
          exact unknown j b found known
        | _ => cases waiting
  | remembers dir b =>
    have same : dir.components = d := by
      simpa [SessionEvent.isAbout, SessionEvent.touches, SessionEvent.remembers] using about
    exact ⟨_, _, _, .remembers dir b, shows.remember_own same (.known b)⟩

theorem step_other (shows : Shows d chosen mine f s q) (desk : Desk known s) (happens : Happens around s e s' effects)
    (away : e.isAbout d chosen = false)
    (classed : ∀ n dir, e = .call n (.lookUp dir) → chosen n = (dir.components == d)) :
    Shows d chosen mine f s' q ∧ effects.countP (Effect.isProbeOf d) = 0 := by
  have more : ∀ (dir : Path) (a : Bundler.Answer),
      s.linter.bundles.answers.length ≤ (s.linter.bundles.add dir a).answers.length := by
    intro dir a
    rw [Memo.length_add]
    omega
  cases happens with
  | finds n dir k b counts known =>
    exact ⟨shows.turn_other ((classed n dir rfl).trans away) shows.memo (Nat.le_refl _) (by simp [Inquiry.number?]), rfl⟩
  | waits n dir k counts sought =>
    have other : dir.components ≠ d := by simpa [SessionEvent.isAbout, SessionEvent.touches] using away
    obtain ⟨below, iff⟩ := shows.memo.owners _ k counts
    refine ⟨shows.turn_other ((classed n dir rfl).trans away) shows.memo (Nat.le_refl _) ?_, rfl⟩
    rintro j ⟨⟩
    exact ⟨below, fun h => other (iff.mp h)⟩
  | seeks n dir absent probes =>
    have other : dir.components ≠ d := by simpa [SessionEvent.isAbout, SessionEvent.touches] using away
    refine ⟨shows.turn_other ((classed n dir rfl).trans away) (shows.memo.add_other other _) (more dir _) ?_, ?_⟩
    · rintro j ⟨⟩
      rw [Memo.length_add]
      exact ⟨by omega, fun h => Nat.lt_irrefl _ (shows.memo.below _ h).1⟩
    · simp [Effect.isProbeOf, Memo.probe, other]
  | lacks n dir absent unprobed =>
    have other : dir.components ≠ d := by simpa [SessionEvent.isAbout, SessionEvent.touches] using away
    exact ⟨shows.turn_other ((classed n dir rfl).trans away) (shows.memo.add_other other _) (more dir _)
      (by simp [Inquiry.number?]), rfl⟩
  | ends n k ok probing =>
    have notMine := (shows.foreign n _ k away probing rfl).2
    exact ⟨shows.turn_other away (shows.memo.probed_other (desk.sought n k probing) notMine)
      (Nat.le_of_eq Memo.length_probed.symm) (by simp [Inquiry.number?]), rfl⟩
  | learns n k b waiting known =>
    exact ⟨shows.turn_other away shows.memo (Nat.le_refl _) (by simp [Inquiry.number?]), rfl⟩
  | idle n signal passes => exact ⟨shows, rfl⟩
  | remembers dir b =>
    have other : dir.components ≠ d := by
      simpa [SessionEvent.isAbout, SessionEvent.touches, SessionEvent.remembers] using away
    refine ⟨{ shows with memo := shows.memo.add_other other _, foreign := ?_ }, rfl⟩
    intro j i k isOther found number
    obtain ⟨below, notMine⟩ := shows.foreign j i k isOther found number
    exact ⟨Nat.lt_of_lt_of_le below (more dir _), notMine⟩

end Shows

/-- Without the events about other directories, a history comes to the same for this one. -/
theorem Shows.after (shows : Shows d chosen mine f s q) (lookups : Lookups known s history)
    (classed : ∀ moment ∈ history, ∀ n dir, moment.2 = .call n (.lookUp dir) → chosen n = (dir.components == d)) :
    (∃ mine' f', Shows d chosen mine' f' (s.after history)
      (q.after (history.filter fun moment => moment.2.isAbout d chosen))) ∧
      q.probes d (history.filter fun moment => moment.2.isAbout d chosen) = s.probes d history := by
  induction history generalizing s q known mine f with
  | nil => exact ⟨⟨mine, f, shows⟩, rfl⟩
  | cons moment rest ih =>
    obtain ⟨around, e⟩ := moment
    obtain ⟨-, happens, later⟩ := lookups.cons
    have now := classed _ List.mem_cons_self
    have thereafter := fun moment isIn => classed moment (List.mem_cons_of_mem _ isIn)
    cases about : e.isAbout d chosen with
    | true =>
      obtain ⟨q', mine', f', happens', shows'⟩ := shows.step_own lookups.desk happens about now
      obtain ⟨final, probes⟩ := ih shows' later thereafter
      have kept : ((around, e) :: rest).filter (fun moment => moment.2.isAbout d chosen) =
          (around, e) :: rest.filter fun moment => moment.2.isAbout d chosen := List.filter_cons_of_pos about
      rw [kept, Session.after, Session.after, Session.probes, Session.probes,
        happens'.step_eq]
      exact ⟨final, by rw [probes]⟩
    | false =>
      obtain ⟨shows', none⟩ := shows.step_other lookups.desk happens about now
      obtain ⟨final, probes⟩ := ih shows' later thereafter
      have left : ((around, e) :: rest).filter (fun moment => moment.2.isAbout d chosen) =
          rest.filter fun moment => moment.2.isAbout d chosen := List.filter_cons_of_neg (by simp [about])
      rw [left, Session.after, Session.probes, none]
      exact ⟨final, by omega⟩

end Session
end LintBridge
