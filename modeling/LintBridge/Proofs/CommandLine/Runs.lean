import LintBridge.CommandLine.Work
import LintBridge.Proofs.Linter.Reporting
import LintBridge.Proofs.Linter.Solitary

/-!
A run of the program that lints or corrects one file.

A run makes a linter of its own and one call on it, and the exit code is read off the end of that call. Nobody else is
on the linter: a lint stands where `Analysis.Heeds` says and a correction where `Correction.Stands` does, and a run
that is not over waits for the end of a program that it has started.
-/

set_option autoImplicit false
set_option relaxedAutoImplicit false

namespace LintBridge

open Analysis (Heard Heeds)
open Session (heardIn)

/-! ### One call on a linter -/

namespace Session

/-- What happens on the linter of a run: its call, and what that hears. -/
def lone (around : Surroundings) (task : Task) (heard : Heard) : History :=
  (around, .call 0 task) :: heard.map fun (moment, signal) => (moment, .signal 0 signal)

section
variable {s : Session} {around : Surroundings} {l : Linter} {task : Task} {b : Buffer} {heard : Heard} {h : Hearing}
  {x : Analysis} {effects : List Effect}

private theorem unforgotten (heard : Heard) (moment : Surroundings) :
    (moment, .forget 0) ∉ heard.map fun (moment, signal) => (moment, SessionEvent.signal 0 signal) := by
  simp

private theorem proper_signals (s : Session) (known : List (Nat × Task)) (heard : Heard) :
    s.Proper known (heard.map fun (moment, signal) => (moment, .signal 0 signal)) := by
  induction heard generalizing s known with
  | nil => trivial
  | cons head rest ih => exact ⟨trivial, ih _ _⟩

theorem proper_lone (l : Linter) (around : Surroundings) (task : Task) (heard : Heard) :
    (ofLinter l).Proper [] (lone around task heard) :=
  ⟨List.not_mem_nil, proper_signals _ _ _⟩

private theorem allBegun_signals (heard : Heard) :
    allBegun (heard.map fun (moment, signal) => (moment, .signal 0 signal)) = [] := by
  refine List.flatMap_eq_nil_iff.mpr fun moment isIn => ?_
  obtain ⟨⟨around, signal⟩, -, rfl⟩ := List.mem_map.mp isIn
  rfl

theorem allBegun_lone (around : Surroundings) (task : Task) (heard : Heard) :
    allBegun (lone around task heard) = [(0, task)] := by
  have signals := allBegun_signals heard
  rw [allBegun] at signals ⊢
  rw [lone, List.flatMap_cons, signals]
  rfl

theorem call?_lone (l : Linter) (around : Surroundings) (task : Task) (heard : Heard) {n : Nat} (other : n ≠ 0) :
    ((ofLinter l).after (lone around task heard)).call? n = none := by
  have accounted := (accounted_ofLinter l).after (proper_lone l around task heard)
  refine absent_of_called accounted.called ?_
  simpa [allBegun_lone] using other

theorem not_waiting_lone (l : Linter) (around : Surroundings) (task : Task) (heard : Heard) (k m : Nat) :
    ¬ (((ofLinter l).after (lone around task heard)).inquiryOf? 0 = some (.waiting k) ∧
      ((ofLinter l).after (lone around task heard)).inquiryOf? m = some (.probing k)) := by
  rintro ⟨waits, probes⟩
  by_cases own : m = 0
  · rw [own, waits] at probes
    cases probes
  · rw [inquiryOf?, call?_lone l around task heard own] at probes
    cases probes

theorem sought_lone (unsought : ∀ k, l.bundles.answer k ≠ .sought) (around : Surroundings) (task : Task)
    (heard : Heard) : ((ofLinter l).after (lone around task heard)).Sought :=
  (accounted_ofLinter l).invariant (fun _ _ accounted fits sought => sought.step accounted fits)
    (proper_lone l around task heard) (sought_ofLinter unsought)

private theorem heeds_after (more : Heard) (found : s.call? 0 = some (.analysis x))
    (heeds : Heeds l around b s.linter heard h x effects) :
    let since := more.map fun (moment, signal) => (moment, SessionEvent.signal 0 signal)
    ∃ x', (s.after since).call? 0 = some (.analysis x') ∧
      Heeds l around b (s.after since).linter (heard ++ more) (s.hearingAfter 0 effects h since) x'
        (effects ++ s.effectsOf 0 since) := by
  induction more generalizing s heard h x effects with
  | nil => exact ⟨x, found, by simpa [after, hearingAfter, effectsOf] using heeds⟩
  | cons head rest ih =>
    obtain ⟨moment, signal⟩ := head
    have found' : Keyed.get? 0 s.calls = some (.analysis x) := found
    have stepped : s.step moment (.signal 0 signal) =
        s.settle 0 ((Activity.analysis x).step moment signal s.linter) := by rw [step, found']
    have does : s.effectsAt 0 moment (.signal 0 signal) = (x.step moment signal s.linter).effects := by
      rw [effectsAt, mover?, if_pos rfl, stepped]
      rfl
    have found'' : (s.step moment (.signal 0 signal)).1.call? 0 =
        some (.analysis (x.step moment signal s.linter).state) := by
      rw [stepped, call?_settle, if_pos rfl]
      rfl
    have linter : (s.step moment (.signal 0 signal)).1.linter = (x.step moment signal s.linter).linter := by
      rw [stepped]
      rfl
    have heeds' := heeds.step moment signal
    rw [← linter, ← does] at heeds'
    have onward := ih found'' heeds'
    simpa only [List.map_cons, after, hearingAfter, effectsOf, heardAt, if_pos, List.append_assoc,
      List.singleton_append] using onward

theorem heeds_lone (unowned : l.registry = .empty) (around : Surroundings) (b : Buffer) (heard : Heard) :
    let run := lone around (.analyze b) heard
    let now := (ofLinter l).after run
    ∃ x, now.call? 0 = some (.analysis x) ∧
      Heeds l around b now.linter heard ((ofLinter l).hearingAfter 0 [] .fresh run) x
        ((ofLinter l).effectsOf 0 run) := by
  have found : ((ofLinter l).step around (.call 0 (.analyze b))).1.call? 0 =
      some (.analysis (Analysis.start around b l).state) := by
    rw [step, call?_settle, if_pos rfl]
    rfl
  have does : (ofLinter l).effectsAt 0 around (.call 0 (.analyze b)) = (Analysis.start around b l).effects := by
    rw [effectsAt, mover?, if_pos rfl]
    rfl
  have heeds := Analysis.heeds_start around b unowned
  obtain ⟨x, found', heeds'⟩ := heeds_after heard found heeds
  have unheard : Hearing.hear .fresh [] (heardAt 0 around (.call 0 (.analyze b))) = .fresh :=
    Hearing.hear_nil _ _
  refine ⟨x, found', ?_⟩
  simpa only [lone, after, hearingAfter, effectsOf, does, unheard, List.nil_append] using heeds'

theorem correction_lone (l : Linter) (around : Surroundings) (b : Buffer) (trigger : Trigger) (heard : Heard) :
    let run := lone around (.correct b trigger) heard
    let now := (ofLinter l).after run
    ∃ c, now.call? 0 = some (.correction c) ∧
      Correction.Stands l around b trigger ((ofLinter l).hearingAfter 0 [] .fresh run) c
        ((ofLinter l).effectsOf 0 run) := by
  have found : ((ofLinter l).step around (.call 0 (.correct b trigger))).1.call? 0 =
      some (.correction (Correction.start around b trigger l).state) := by
    rw [step, call?_settle, if_pos rfl]
    rfl
  have does : (ofLinter l).effectsAt 0 around (.call 0 (.correct b trigger)) =
      (Correction.start around b trigger l).effects := by
    rw [effectsAt, mover?, if_pos rfl]
    rfl
  have accounted : Accounted [(0, .correct b trigger)] ((ofLinter l).step around (.call 0 (.correct b trigger))).1 :=
    (accounted_ofLinter l).step around (e := .call 0 (.correct b trigger)) List.not_mem_nil
  obtain ⟨c, found', stands⟩ := correction_after accounted (proper_signals _ _ heard) found
    (Correction.stands_start l around b trigger) (unforgotten heard)
  have unheard : Hearing.hear .fresh [] (heardAt 0 around (.call 0 (.correct b trigger))) = .fresh :=
    Hearing.hear_nil _ _
  refine ⟨c, found', ?_⟩
  simpa only [lone, hearingAfter, effectsOf, does, unheard, List.nil_append] using stands

end

end Session

namespace CommandLine

/-! ### A run -/

/-- A run of the program that lints or corrects a file, as far as it has come. -/
structure Run where
  options : Options
  action : Action
  /-- What comes through the standard input. -/
  input : List UInt8
  /-- What there is around when the run begins. -/
  around : Surroundings
  /-- What its call has heard since. -/
  heard : Heard
  /-- When the rules are looked up, and what a fetch of them brings. -/
  clock : Nat
  fetched : StyleGuide.Fetched

namespace Run

/-- The linter and the call, if the file and the configuration can be used. -/
def prepared? (r : Run) : Option (Linter × Task) := prepare? r.around.files r.input r.options r.action

def session? (r : Run) : Option Session :=
  r.prepared?.map fun (l, task) => (Session.ofLinter l).after (Session.lone r.around task r.heard)

def call? (r : Run) : Option Activity := r.session?.bind fun s => s.call? 0

def effects (r : Run) : List Effect :=
  r.prepared?.elim [] fun (l, task) => (Session.ofLinter l).effectsOf 0 (Session.lone r.around task r.heard)

/-- What the call has heard before it has started its tool, and since. -/
def hearing (r : Run) : Hearing :=
  r.prepared?.elim .fresh fun (l, task) =>
    (Session.ofLinter l).hearingAfter 0 [] .fresh (Session.lone r.around task r.heard)

def ending? (r : Run) : Option Ending := Correction.toolEnding? r.hearing r.effects

/-- Whether the call is over. There is none if the file or the configuration cannot be used. -/
def isOver (r : Run) : Bool := r.call?.all Activity.isOver

def result (r : Run) : Result := conclude r.clock r.fetched r.action r.call?

def Awaits (r : Run) (signal : Signal) : Prop :=
  ∃ s, r.session? = some s ∧
    ((∃ x, s.call? 0 = some (.analysis x) ∧ x.Awaits s.linter signal) ∨
      ∃ c, s.call? 0 = some (.correction c) ∧ c.Awaits s.linter signal)

/-- How many signals the call may have to wait for. -/
def waits (r : Run) : Nat :=
  match r.call? with
  | some (.analysis x) => x.waits
  | some (.correction c) => c.waits
  | _ => 0

def hears (r : Run) (moment : Surroundings) (signal : Signal) : Run :=
  { r with heard := r.heard ++ [(moment, signal)] }

section
variable {r : Run} {l : Linter} {b : Buffer} {trigger : Trigger}

theorem session?_of_prepared {task : Task} (prepared : r.prepared? = some (l, task)) :
    r.session? = some ((Session.ofLinter l).after (Session.lone r.around task r.heard)) := by
  rw [session?, prepared]
  rfl

theorem fresh_of_linterFor? {o : Options} {t : FileTree} (made : linterFor? o t = some l) :
    l.registry = .empty ∧ ∀ k, l.bundles.answer k ≠ .sought := by
  obtain ⟨c, -, rfl⟩ := Option.map_eq_some_iff.mp made
  exact ⟨rfl, by simp [Linter.ofConfig, Bundler.Memo.answer, Bundler.Memo.empty]⟩

private theorem both_eq_some_iff {α β γ : Type} {first : Option α} {second : Option β} {make : α → γ} {m : β} {c : γ} :
    (first.bind fun a => second.bind fun b => some (b, make a)) = some (m, c) ↔
      ∃ a, first = some a ∧ second = some m ∧ c = make a := by
  constructor
  · intro made
    obtain ⟨a, isFirst, made⟩ := Option.bind_eq_some_iff.mp made
    obtain ⟨b, isSecond, made⟩ := Option.bind_eq_some_iff.mp made
    cases made
    exact ⟨a, isFirst, isSecond, rfl⟩
  · rintro ⟨a, rfl, rfl, rfl⟩
    rfl

theorem prepared?_lint {file : Path} {fromInput : Bool} {format : Format} {wanted : Bool} {task : Task}
    (isLint : r.action = .lint file fromInput format wanted) :
    r.prepared? = some (l, task) ↔ ∃ b, bufferFor? r.around.files r.input file fromInput = some b ∧
      linterFor? r.options r.around.files = some l ∧ task = .analyze b := by
  rw [prepared?, isLint]
  exact both_eq_some_iff

theorem prepared?_fix {file : Path} {task : Task} (isFix : r.action = .fix file) :
    r.prepared? = some (l, task) ↔ ∃ b, bufferFor? r.around.files r.input file false = some b ∧
      linterFor? r.options r.around.files = some l ∧ task = .correct b .command := by
  rw [prepared?, isFix]
  exact both_eq_some_iff

/-- The linter of a run has done nothing before, and its call lints or corrects. -/
theorem prepared?_cases {task : Task} (prepared : r.prepared? = some (l, task)) :
    (l.registry = .empty ∧ ∀ k, l.bundles.answer k ≠ .sought) ∧
      ((∃ b, task = .analyze b) ∨ ∃ b, task = .correct b .command) := by
  cases doing : r.action with
  | lint file fromInput format wanted =>
    obtain ⟨b, -, made, rfl⟩ := (prepared?_lint doing).mp prepared
    exact ⟨fresh_of_linterFor? made, .inl ⟨b, rfl⟩⟩
  | fix file =>
    obtain ⟨b, -, made, rfl⟩ := (prepared?_fix doing).mp prepared
    exact ⟨fresh_of_linterFor? made, .inr ⟨b, rfl⟩⟩
  | serve =>
    rw [prepared?, doing] at prepared
    cases prepared

theorem heeds_of_prepared (prepared : r.prepared? = some (l, .analyze b)) :
    ∃ x now, r.call? = some (.analysis x) ∧ Heeds l r.around b now r.heard r.hearing x r.effects := by
  obtain ⟨x, call, heeds⟩ := Session.heeds_lone (prepared?_cases prepared).1.1 r.around b r.heard
  refine ⟨x, ((Session.ofLinter l).after (Session.lone r.around (.analyze b) r.heard)).linter, ?_, ?_⟩
  · rw [call?, session?_of_prepared prepared]
    exact call
  · rw [hearing, effects, prepared]
    exact heeds

theorem stands_of_prepared (prepared : r.prepared? = some (l, .correct b trigger)) :
    ∃ c, r.call? = some (.correction c) ∧ Correction.Stands l r.around b trigger r.hearing c r.effects := by
  obtain ⟨c, call, stands⟩ := Session.correction_lone l r.around b trigger r.heard
  refine ⟨c, ?_, ?_⟩
  · rw [call?, session?_of_prepared prepared]
    exact call
  · rw [hearing, effects, prepared]
    exact stands

theorem isOver_or_awaits (r : Run) : r.isOver = true ∨ ∃ signal, r.Awaits signal := by
  cases prepared : r.prepared? with
  | none =>
    left
    rw [isOver, call?, session?, prepared]
    rfl
  | some made =>
    obtain ⟨l, task⟩ := made
    obtain ⟨⟨unowned, unsought⟩, ⟨b, rfl⟩ | ⟨b, rfl⟩⟩ := prepared?_cases prepared
    · obtain ⟨x, call, heeds⟩ := Session.heeds_lone unowned r.around b r.heard
      have sought := Session.sought_lone unsought r.around (.analyze b) r.heard
      rcases Session.goesOn_of_stands sought call heeds.stands with
        ⟨found, rfl⟩ | ⟨signal, awaits⟩ | ⟨k, m, waiting⟩
      · left
        rw [isOver, call?, session?_of_prepared prepared, Option.bind_some, call]
        rfl
      · exact .inr ⟨signal, _, session?_of_prepared prepared, .inl ⟨x, call, awaits⟩⟩
      · exact absurd waiting (Session.not_waiting_lone _ _ _ _ k m)
    · obtain ⟨c, call, stands⟩ := Session.correction_lone l r.around b .command r.heard
      have sought := Session.sought_lone unsought r.around (.correct b .command) r.heard
      rcases Session.proceeds_of_stands sought call stands with
        ⟨summary, rfl⟩ | ⟨signal, awaits⟩ | ⟨k, m, waiting⟩
      · left
        rw [isOver, call?, session?_of_prepared prepared, Option.bind_some, call]
        rfl
      · exact .inr ⟨signal, _, session?_of_prepared prepared, .inr ⟨c, call, awaits⟩⟩
      · exact absurd waiting (Session.not_waiting_lone _ _ _ _ k m)

theorem session?_hears {s : Session} (made : r.session? = some s) (moment : Surroundings) (signal : Signal) :
    (r.hears moment signal).session? = some (s.step moment (.signal 0 signal)).1 := by
  obtain ⟨⟨l, task⟩, prepared, rfl⟩ := Option.map_eq_some_iff.mp made
  have prepared : (r.hears moment signal).prepared? = some (l, task) := prepared
  rw [session?_of_prepared prepared]
  have more : Session.lone r.around task (r.heard ++ [(moment, signal)]) =
      Session.lone r.around task r.heard ++ [(moment, .signal 0 signal)] := by simp [Session.lone]
  exact congrArg some ((congrArg (Session.ofLinter l).after more).trans (Session.after_append _ _))

theorem call?_hears {s : Session} {a : Activity} (made : r.session? = some s) (call : s.call? 0 = some a)
    (moment : Surroundings) (signal : Signal) :
    (r.hears moment signal).call? = some (a.step moment signal s.linter).state := by
  have call : Keyed.get? 0 s.calls = some a := call
  rw [call?, session?_hears made, Option.bind_some, Session.step, call, Session.call?_settle, if_pos rfl]

/-- With each signal that a run goes on with, one less is left to wait for. -/
theorem waits_hears (moment : Surroundings) {signal : Signal} (awaits : r.Awaits signal) :
    (r.hears moment signal).waits < r.waits := by
  obtain ⟨s, made, ⟨x, call, awaits⟩ | ⟨c, call, awaits⟩⟩ := awaits
  · rw [waits, call?_hears made call, waits, call?, made, Option.bind_some, call]
    exact x.waits_step moment awaits
  · rw [waits, call?_hears made call, waits, call?, made, Option.bind_some, call]
    exact c.waits_step moment awaits

end

end Run
end CommandLine
end LintBridge
