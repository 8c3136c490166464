import LintBridge.Proofs.Bundler.Directories
import Mathlib.Data.List.Flatten
import Mathlib.Data.List.Nodup

/-!
A directory's bundle is probed once in a session, whoever asks and whenever.
-/

set_option autoImplicit false
set_option relaxedAutoImplicit false

namespace LintBridge.Session

open Bundler (Inquiry Memo)

/-- The lookups of a directory that a history begins. -/
def lookupsOf (d : List Component) (history : History) : List Nat :=
  (allBegun history).filterMap fun (n, task) =>
    match task with
    | .lookUp dir => if dir.components = d then some n else none
    | _ => none

/-- A history without the events about other directories. -/
def about (d : List Component) (history : History) : History :=
  history.filter fun moment => moment.2.isAbout d (lookupsOf d history).contains

section
variable {around : Surroundings} {s s' : Session} {known : List (Nat × Task)} {e : SessionEvent} {effects : List Effect}
  {n : Nat} {d : List Component} {history : History}

private theorem mem_lookupsOf : n ∈ lookupsOf d history ↔
    ∃ dir, (n, Task.lookUp dir) ∈ allBegun history ∧ dir.components = d := by
  simp only [lookupsOf, List.mem_filterMap]
  constructor
  · rintro ⟨⟨m, task⟩, isIn, found⟩
    cases task with
    | lookUp dir =>
      dsimp only at found
      split at found
      · rename_i same
        cases found
        exact ⟨dir, isIn, same⟩
      · cases found
    | _ => cases found
  · rintro ⟨dir, isIn, same⟩
    exact ⟨_, isIn, if_pos same⟩

private theorem distinct_of_proper (distinct : (known.map Prod.fst).Nodup) (proper : s.Proper known history) :
    (((allBegun history).reverse ++ known).map Prod.fst).Nodup := by
  induction history generalizing s known with
  | nil => exact distinct
  | cons moment rest ih =>
    obtain ⟨around, e⟩ := moment
    obtain ⟨fits, proper⟩ := proper
    have grown : ((begun e ++ known).map Prod.fst).Nodup := by
      cases e with
      | call n task => exact List.nodup_cons.mpr ⟨fits, distinct⟩
      | _ => exact distinct
    have reversed : (begun e).reverse = begun e := by cases e <;> rfl
    have final := ih grown proper
    simpa only [allBegun, List.flatMap_cons, List.reverse_append, reversed, List.append_assoc] using final

private theorem proper_of_distinct (looks : ∀ moment ∈ history, moment.2.isLookup = true)
    (distinct : (((allBegun history).reverse ++ known).map Prod.fst).Nodup) : s.Proper known history := by
  induction history generalizing s known with
  | nil => trivial
  | cons moment rest ih =>
    obtain ⟨around, e⟩ := moment
    have reversed : (begun e).reverse = begun e := by cases e <;> rfl
    have later : (((allBegun rest).reverse ++ (begun e ++ known)).map Prod.fst).Nodup := by
      simpa only [allBegun, List.flatMap_cons, List.reverse_append, reversed, List.append_assoc] using distinct
    refine ⟨?_, ih (fun moment isIn => looks moment (List.mem_cons_of_mem _ isIn)) later⟩
    cases e with
    | call n task =>
      rw [List.map_append] at later
      exact (List.nodup_cons.mp (List.nodup_append.mp later).2.1).1
    | forget n => cases looks _ List.mem_cons_self
    | _ => trivial

private theorem Happens.present (happens : Happens around s e s' effects) {p : Nat × Task}
    (isKnown : p ∈ begun e ∨ s.call? p.1 ≠ none) : s'.call? p.1 ≠ none := by
  have turned : ∀ {m : Nat} (memo : Memo) (i : Inquiry), m = p.1 ∨ s.call? p.1 ≠ none →
      (s.turn memo m i).call? p.1 ≠ none := by
    intro m memo i has
    rw [call?_turn]
    split
    · simp
    · rename_i other
      exact has.resolve_left other
  have called : ∀ {m : Nat} {task : Task}, p ∈ begun (.call m task) ∨ s.call? p.1 ≠ none →
      m = p.1 ∨ s.call? p.1 ≠ none := by
    rintro m task (isNew | has)
    · exact .inl (by rw [List.mem_singleton.mp isNew])
    · exact .inr has
  have kept : p ∈ ([] : List (Nat × Task)) ∨ s.call? p.1 ≠ none → s.call? p.1 ≠ none :=
    fun has => has.resolve_left List.not_mem_nil
  cases happens with
  | finds => exact turned _ _ (called isKnown)
  | waits => exact turned _ _ (called isKnown)
  | seeks => exact turned _ _ (called isKnown)
  | lacks => exact turned _ _ (called isKnown)
  | ends => exact turned _ _ (.inr (kept isKnown))
  | learns => exact turned _ _ (.inr (kept isKnown))
  | idle => exact kept isKnown
  | remembers => exact kept isKnown

private theorem present_after (lookups : Lookups known s history) (present : ∀ p ∈ known, s.call? p.1 ≠ none) :
    ∀ p ∈ (allBegun history).reverse ++ known, (s.after history).call? p.1 ≠ none := by
  induction history generalizing s known with
  | nil => exact present
  | cons moment rest ih =>
    obtain ⟨around, e⟩ := moment
    obtain ⟨-, happens, later⟩ := lookups.cons
    have now : ∀ p ∈ begun e ++ known, (s.step around e).1.call? p.1 ≠ none := by
      intro p isIn
      exact happens.present ((List.mem_append.mp isIn).imp_right (present p))
    have reversed : (begun e).reverse = begun e := by cases e <;> rfl
    have final := ih later now
    simpa only [allBegun, List.flatMap_cons, List.reverse_append, reversed, List.append_assoc, after] using final

private theorem about_alone {l : Linter} (fresh : l.bundles.answers = [] ∧ l.bundles.index = [])
    (lookups : Lookups [] (ofLinter l) history) (d : List Component) :
    (ofLinter l).Proper [] (about d history) ∧
      (ofLinter l).probes d (about d history) = (ofLinter l).probes d history ∧
      ∀ n ∈ lookupsOf d history,
        ((ofLinter l).after (about d history)).answer? n = ((ofLinter l).after history).answer? n := by
  have distinct : (((allBegun history).reverse ++ []).map Prod.fst).Nodup :=
    distinct_of_proper List.nodup_nil lookups.proper
  rw [List.append_nil, List.map_reverse, (List.reverse_perm _).nodup_iff] at distinct
  have uncounted : ∀ d', l.bundles.number? d' = none := by
    intro d'
    rw [Memo.number?, fresh.2]
    rfl
  have shows : Shows d (lookupsOf d history).contains (fun _ => False) id (ofLinter l) (ofLinter l) :=
    { memo :=
        { counts := by simp [ofLinter, uncounted]
          owners := fun d' k counts => by simp [ofLinter, uncounted] at counts
          answers := fun k h => h.elim
          below := fun k h => h.elim
          injective := fun j k h => h.elim
          probe := fun dir => rfl }
      own := fun n i _ found => by cases found
      absent := fun n _ _ => rfl
      foreign := fun n i k _ found => by cases found }
  have classed : ∀ moment ∈ history, ∀ n dir, moment.2 = .call n (.lookUp dir) →
      (lookupsOf d history).contains n = (dir.components == d) := by
    rintro ⟨around, e⟩ isIn n dir rfl
    have isBegun : (n, Task.lookUp dir) ∈ allBegun history := List.mem_flatMap.mpr ⟨_, isIn, List.mem_cons_self⟩
    have iff : n ∈ lookupsOf d history ↔ dir.components = d := by
      constructor
      · intro isLookup
        obtain ⟨dir', isBegun', same⟩ := mem_lookupsOf.mp isLookup
        have one := List.inj_on_of_nodup_map distinct isBegun isBegun' rfl
        cases one
        exact same
      · intro same
        exact mem_lookupsOf.mpr ⟨dir, isBegun, same⟩
    rw [Bool.eq_iff_iff, List.contains_iff_mem, iff, beq_iff_eq]
  obtain ⟨⟨mine, f, final⟩, probes⟩ := shows.after lookups classed
  refine ⟨?_, probes, ?_⟩
  · refine proper_of_distinct (fun moment isIn => lookups.looks moment (List.mem_filter.mp isIn).1) ?_
    rw [List.append_nil, List.map_reverse, (List.reverse_perm _).nodup_iff]
    refine distinct.sublist (List.Sublist.map _ ?_)
    exact (List.filter_sublist).flatMap _
  · intro n isLookup
    have chosen : (lookupsOf d history).contains n = true := List.contains_iff_mem.mpr isLookup
    have desk := lookups.after
    cases found : ((ofLinter l).after history).call? n with
    | none =>
      have found' := final.absent n chosen found
      rw [answer?, answer?, found, about, found']
    | some a =>
      obtain ⟨i, rfl⟩ := desk.lookups n a found
      have found' := (final.own n i chosen found).1
      rw [answer?, answer?, found, about, found']
      cases i <;> rfl

end

/-- Whether a directory's bundle has RuboCop is found out once. In every order of lookups, ends of probes and
remembered answers, a directory is probed at most once, and not at all if what comes first is that an answer is
remembered or that a lookup finds no Gemfile. Lookups of a directory for which nothing is remembered return the same.
A lookup that begins between a remembered answer and the next one for the directory returns that answer at once,
whatever probes of before come to. Without all that is about other directories, the probes and the answers are the
same. And each lookup has returned, or is going to when what it waits for comes, which somebody is about to find
out. -/
theorem bundle_is_probed_once (config : Config) (root : Option Path) (registry : Registry) (program : String)
    (timeoutMs : UInt64) (history : History) (d : List Component)
    (proper : (ofLinter ⟨config, root, ⟨program, timeoutMs, [], []⟩, registry⟩).Proper [] history)
    (looks : ∀ moment ∈ history, moment.2.isLookup = true) :
    let start := ofLinter ⟨config, root, ⟨program, timeoutMs, [], []⟩, registry⟩
    let now := start.after history
    start.probes d history ≤ 1 ∧
    (∀ front around e back, history = front ++ (around, e) :: back →
      (∀ moment ∈ front, moment.2.touches d = false) → Spares around d e → start.probes d history = 0) ∧
    ((∀ moment ∈ history, moment.2.remembers d = false) →
      ∀ m ∈ lookupsOf d history, ∀ n ∈ lookupsOf d history, ∀ b b',
        now.answer? m = some b → now.answer? n = some b' → b = b') ∧
    (∀ front around dir b between around' n dir' back,
      history = front ++ (around, .remember dir b) :: between ++ (around', .call n (.lookUp dir')) :: back →
      dir'.components = dir.components → (∀ moment ∈ between, moment.2.remembers dir.components = false) →
      (start.after (front ++ (around, .remember dir b) :: between ++
        [(around', .call n (.lookUp dir'))])).answer? n = some b ∧ now.answer? n = some b) ∧
    (start.Proper [] (about d history) ∧ start.probes d (about d history) = start.probes d history ∧
      ∀ n ∈ lookupsOf d history, (start.after (about d history)).answer? n = now.answer? n) ∧
    ∀ n ∈ lookupsOf d history, now.ReturnsInTurn n := by
  intro start now
  have uncounted : ∀ d k, start.linter.bundles.number? d ≠ some k := by
    intro d k counts
    cases counts
  have lookups : Lookups [] start history :=
    ⟨desk_ofLinter ⟨fun d k counts => absurd counts (uncounted d k), fun d k counts => absurd counts (uncounted d k),
      fun d d' k counts => absurd counts (uncounted d k)⟩, proper, looks⟩
  refine ⟨probes_le_one lookups d, ?_, ?_, ?_, about_alone ⟨rfl, rfl⟩ lookups d, ?_⟩
  · rintro front around e back rfl away spares
    exact probes_of_spared lookups rfl away spares
  · intro unremembered m isLookup n isLookup' b b' answered answered'
    have agreed : Agreed ((allBegun history).reverse ++ []) now d :=
      Agreed.after (fun n dir isKnown => (List.not_mem_nil isKnown).elim) lookups unremembered
    obtain ⟨dir, isBegun, same⟩ := mem_lookupsOf.mp isLookup
    obtain ⟨dir', isBegun', same'⟩ := mem_lookupsOf.mp isLookup'
    have isKnown : ∀ {p}, p ∈ allBegun history → p ∈ (allBegun history).reverse ++ [] := by
      intro p isIn
      rw [List.append_nil]
      exact List.mem_reverse.mpr isIn
    exact agreed.answers_eq (isKnown isBegun) same (isKnown isBegun') same' answered answered'
  · rintro front around dir b between around' n dir' back rfl same unremembered
    exact answer?_of_remembered lookups same unremembered
  · intro n isLookup
    obtain ⟨dir, isBegun, -⟩ := mem_lookupsOf.mp isLookup
    have sought : now.Sought := (accounted_ofLinter _).invariant
      (fun around e accounted fits sought => sought.step accounted fits) proper
      (sought_ofLinter (by simp [Memo.answer]))
    have desk := lookups.after
    have present := present_after lookups (fun p isKnown => (List.not_mem_nil isKnown).elim) (n, .lookUp dir)
      (by rw [List.append_nil]; exact List.mem_reverse.mpr isBegun)
    obtain ⟨a, found⟩ := Option.ne_none_iff_exists'.mp present
    obtain ⟨i, rfl⟩ := desk.lookups n a found
    exact returnsInTurn desk sought found

/-! ### A late probe -/

def bundledYard : Surroundings :=
  ⟨⟨.directory [("p", .directory [("Gemfile", .file [] false)]), ("q", .directory [("Gemfile", .file [] false)])], []⟩,
    fun _ => none, fun _ => .ok "", 0⟩

/-- Two lookups of one directory share a probe, another directory is looked up, and an answer is remembered. Then the
probe comes to the other answer. -/
def lateProbe : History :=
  [(bundledYard, .call 0 (.lookUp ⟨"/p"⟩)), (bundledYard, .call 1 (.lookUp ⟨"/p/"⟩)),
    (bundledYard, .call 2 (.lookUp ⟨"/q"⟩)), (bundledYard, .remember ⟨"/p"⟩ true),
    (bundledYard, .signal 0 (.probeEnded false)), (bundledYard, .call 3 (.lookUp ⟨"/p"⟩))]

theorem bundle_is_probed_once_lateProbe :
    let start := ofLinter ⟨.default, none, ⟨"bundle", 10000, [], []⟩, .empty⟩
    let d := (⟨"/p"⟩ : Path).components
    start.Proper [] lateProbe ∧ (∀ moment ∈ lateProbe, moment.2.isLookup = true) ∧
      start.probes d lateProbe = 1 ∧ start.probes d lateProbe ≤ 1 ∧
      (start.after lateProbe).answer? 0 = some false ∧ (start.after lateProbe).answer? 3 = some true ∧
      (start.after lateProbe).ReturnsInTurn 1 := by
  intro start d
  have proper : start.Proper [] lateProbe :=
    ⟨List.not_mem_nil, (by decide : 1 ∉ [0]), (by decide : 2 ∉ [1, 0]), trivial, trivial,
      (by decide : 3 ∉ [2, 1, 0]), trivial⟩
  have looks : ∀ moment ∈ lateProbe, moment.2.isLookup = true := by simp [lateProbe, SessionEvent.isLookup]
  obtain ⟨once, -, -, remembered, -, returns⟩ :=
    bundle_is_probed_once .default none .empty "bundle" 10000 lateProbe d proper looks
  have later := remembered (lateProbe.take 3) bundledYard ⟨"/p"⟩ true [(bundledYard, .signal 0 (.probeEnded false))]
    bundledYard 3 ⟨"/p"⟩ [] rfl rfl (by simp [SessionEvent.remembers])
  refine ⟨proper, looks, ?_, once, ?_, later.2, returns 1 ?_⟩
  · decide +kernel
  · decide +kernel
  · decide +kernel

end LintBridge.Session
