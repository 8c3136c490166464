import LintBridge.Proofs.Bundler.Lookups
import LintBridge.Proofs.Linter.Tickets

/-!
Lints in a world that stays as it is.

A `World` is a tool whose answers depend on what it is asked alone, and the files that it looks at. In such a world it
can be said beforehand what a lint of a buffer finds (`World.finding`), and a lint comes to that whatever has been
looked up before it: a memo that agrees with the world tells of a directory what a probe would have told
(`World.Agrees`), and goes on agreeing. `proceeds_start` and `proceeds_step` take the steps of one lint.
-/

set_option autoImplicit false
set_option relaxedAutoImplicit false

namespace LintBridge

open Bundler (Inquiry Memo gemfile)

/-- The files, and a tool that answers the same whenever it is asked the same. -/
structure World where
  files : FileTree
  /-- Why the program of a request cannot be started, if so. -/
  startFault : Request → Option SystemError
  /-- Whether a probe succeeds. -/
  probe : Request → Bool
  /-- How a program comes to its end, if no newer run replaces it. -/
  ending : Request → Ending
  unstopped : ∀ r, ending r ≠ .stopped

namespace World

structure Shows (w : World) (s : Surroundings) : Prop where
  files : s.files = w.files
  startFault : s.startFault = w.startFault

/-- The signal at the end of a program that has been started. -/
def signal (w : World) : Manner × Request → Signal
  | (.probed, r) => .probeEnded (w.probe r)
  | (_, r) => .programEnded (w.ending r)

def bundled (w : World) (m : Memo) (dir : Path) : Bool :=
  w.files.isFile (dir.join ⟨gemfile⟩) && (w.startFault (m.probe dir)).isNone && w.probe (m.probe dir)

/-- What an inquiry about a directory is answered: what is known, or else what there is. -/
def answer (w : World) (m : Memo) (dir : Path) : Bool :=
  match (m.number? dir.components).map m.answer with
  | some (.known bundled) => bundled
  | _ => w.bundled m dir

/-- What the tool finds when it is run as planned. -/
def outcome (w : World) (p : Plan) (through : Bool) : Option (List Diagnostic) :=
  match p.request through (some (Analysis.key p.file)) with
  | .error e => some [.topOfFile p.file e.message]
  | .ok r =>
    match w.startFault r with
    | some _ => none
    | none => (Analysis.ofResult p.file (w.ending r).result).1

def finding (w : World) (l : Linter) (b : Buffer) : Option (List Diagnostic) :=
  match b.path with
  | none => none
  | some file =>
    match l.plan? w.files file (Analysis.source b file).1 (Analysis.source b file).2 with
    | none => some []
    | some p =>
      w.outcome p (p.config.useBundler || (p.config.detectBundler && w.answer l.bundles p.cwd))

/-! ### What is known of the directories -/

/-- Of some directories a memo knows nothing else than an earlier one would have found out. -/
structure Compatible (w : World) (m₀ : Memo) (dirs : Path → Prop) (m : Memo) : Prop where
  sound : m.Sound
  unsought : ∀ k, m.answer k ≠ .sought
  answers : ∀ dir, dirs dir → w.answer m dir = w.answer m₀ dir

/-- A directory is one and the same for the tool, however the path to it is written. -/
def Alike (w : World) (m₀ : Memo) (dirs : Path → Prop) : Prop :=
  ∀ dir dir', dirs dir → dirs dir' → dir.components = dir'.components → w.bundled m₀ dir = w.bundled m₀ dir'

section
variable {w : World} {m₀ m : Memo} {dirs : Path → Prop} {dir : Path} {s : Surroundings}

theorem Alike.answer_eq (alike : w.Alike m₀ dirs) {dir' : Path} (isDir : dirs dir) (isDir' : dirs dir')
    (same : dir.components = dir'.components) : w.answer m₀ dir = w.answer m₀ dir' := by
  unfold answer
  rw [same]
  split
  · rfl
  · exact alike dir dir' isDir isDir' same

theorem answer_add_other (sound : m.Sound) {dir' : Path} (other : dir.components ≠ dir'.components)
    (a : Bundler.Answer) : w.answer (m.add dir a) dir' = w.answer m dir' := by
  have number : (m.add dir a).number? dir'.components = m.number? dir'.components := by
    rw [Memo.number?_add, if_neg other]
  unfold answer
  rw [number]
  cases counts : m.number? dir'.components with
  | none => rfl
  | some k =>
    have same : (m.add dir a).answer k = m.answer k := Memo.answer_add_of_lt (sound.bounded _ k counts)
    simp only [Option.map_some, same]
    rfl

theorem Compatible.add (compatible : w.Compatible m₀ dirs m) (alike : w.Alike m₀ dirs) (isDir : dirs dir) :
    w.Compatible m₀ dirs (m.add dir (.known (w.answer m₀ dir))) where
  sound := compatible.sound.add dir (by simp)
  unsought k := by
    rw [Memo.answer_add]
    split
    · simp
    · exact compatible.unsought k
  answers dir' isDir' := by
    by_cases same : dir.components = dir'.components
    · rw [answer, Memo.number?_add, if_pos same, Option.map_some, Memo.answer_add, if_pos rfl]
      exact alike.answer_eq isDir isDir' same
    · rw [answer_add_other compatible.sound same]
      exact compatible.answers dir' isDir'

/-- An inquiry is answered as the world has it, or it starts a probe that will be. -/
theorem Compatible.ask (compatible : w.Compatible m₀ dirs m) (alike : w.Alike m₀ dirs) (isDir : dirs dir)
    (shows : w.Shows s) :
    (∃ m', m.ask s dir = (.answered (w.answer m₀ dir), m', none) ∧ w.Compatible m₀ dirs m') ∨
    ∃ k m' r, m.ask s dir = (.probing k, m', some r) ∧ w.probe r = w.answer m₀ dir ∧
      w.Compatible m₀ dirs (m'.probed k (w.answer m₀ dir)) := by
  have answer := compatible.answers dir isDir
  rw [World.answer] at answer
  cases counts : m.number? dir.components with
  | some k =>
    rw [counts, Option.map_some] at answer
    cases known : m.answer k with
    | missing => exact absurd known (compatible.sound.begun _ k counts)
    | sought => exact absurd known (compatible.unsought k)
    | known b =>
      rw [known] at answer
      refine .inl ⟨m, ?_, compatible⟩
      rw [(Memo.ask_of_number? s counts).1 b known]
      exact congrArg (fun b => (Inquiry.answered b, m, none)) answer
  | none =>
    rw [counts, Option.map_none] at answer
    have added := compatible.add alike isDir
    have looked : m.isProbed s dir = (w.files.isFile (dir.join ⟨gemfile⟩) && (w.startFault (m.probe dir)).isNone) := by
      rw [Memo.isProbed, shows.files, shows.startFault]
    have bundled : w.bundled m dir = (m.isProbed s dir && w.probe (m.probe dir)) := by rw [looked, World.bundled]
    rw [Memo.ask_add s counts]
    cases probed : m.isProbed s dir with
    | true =>
      rw [probed, Bool.true_and] at bundled
      refine .inr ⟨m.answers.length, m.add dir .sought, m.probe dir, if_pos rfl, bundled.symm.trans answer, ?_⟩
      have ended : (m.add dir .sought).probed m.answers.length (w.answer m₀ dir) =
          m.add dir (.known (w.answer m₀ dir)) := by
        simp [Memo.probed, Memo.setAnswer, Memo.add]
      rw [ended]
      exact added
    | false =>
      rw [probed, Bool.false_and] at bundled
      have nothing : w.answer m₀ dir = false := answer.symm.trans bundled
      rw [nothing] at added ⊢
      exact .inl ⟨m.add dir (.known false), if_neg Bool.false_ne_true, added⟩

end

/-- A linter that is as an earlier one, but for what it has found out since. -/
structure Agrees (w : World) (l₀ : Linter) (dirs : Path → Prop) (l : Linter) : Prop where
  config : l.config = l₀.config
  root : l.root = l₀.root
  memo : w.Compatible l₀.bundles dirs l.bundles

/-! ### The steps of one lint -/

/-- How many programs may have to end before a lint is over. -/
def remaining : Analysis → Nat
  | .asking _ _ => 2
  | .running _ _ => 1
  | .finished _ => 0

section
variable (w : World) (l₀ : Linter) (dirs : Path → Prop) (found : Option (List Diagnostic))

/-- A lint waits for the end of a program, which leads to what it is to find. -/
inductive Awaits (l : Linter) : Analysis → Manner × Request → Prop
  | probing (p : Plan) (k : Nat) (r : Request)
      (agrees : w.Agrees l₀ dirs { l with bundles := l.bundles.probed k (w.probe r) })
      (leads : w.outcome p (w.probe r) = found) : Awaits l (.asking p (.probing k)) (.probed, r)
  | running (file : Path) (t : Ticket) (r : Request) (agrees : w.Agrees l₀ dirs l)
      (current : l.registry.isCurrent t = true) (leads : (Analysis.ofResult file (w.ending r).result).1 = found) :
      Awaits l (.running file t) (.awaited, r)

/-- A step of a lint leads to what it is to find, with at most so many programs that have to end before. -/
inductive Proceeds (most : Nat) : Progress Analysis → Prop
  | finished (l : Linter) (notices : List Notice) (agrees : w.Agrees l₀ dirs l) :
      Proceeds most ⟨l, .finished found, notices.map .notify⟩
  | waits (l : Linter) (a : Analysis) (m : Manner) (r : Request) (awaits : w.Awaits l₀ dirs found l a (m, r))
      (few : remaining a ≤ most) : Proceeds most ⟨l, a, [.start m r]⟩

end

section
variable {w : World} {l₀ l : Linter} {dirs : Path → Prop} {found : Option (List Diagnostic)} {s : Surroundings}

theorem Proceeds.mono {few most : Nat} {p : Progress Analysis} (proceeds : w.Proceeds l₀ dirs found few p)
    (le : few ≤ most) : w.Proceeds l₀ dirs found most p := by
  cases proceeds with
  | finished l notices agrees => exact .finished l notices agrees
  | waits l a m r awaits few => exact .waits l a m r awaits (Nat.le_trans few le)

theorem Agrees.plan?_eq (agrees : w.Agrees l₀ dirs l) (t : FileTree) (file : Path) (extra : List String)
    (input : Option String) : l.plan? t file extra input = l₀.plan? t file extra input := by
  have workingDir : l.workingDir file = l₀.workingDir file := by
    unfold Linter.workingDir
    rw [agrees.root]
  unfold Linter.plan? Linter.effectiveConfig
  rw [workingDir, agrees.config]

theorem proceeds_conclude (agrees : w.Agrees l₀ dirs l) {t : Ticket} (current : l.registry.isCurrent t = true)
    (file : Path) (e : Ending) (leads : (Analysis.ofResult file e.result).1 = found) (most : Nat) :
    w.Proceeds l₀ dirs found most (Analysis.conclude file t e l) := by
  have same : Analysis.conclude file t e l =
      ⟨{ l with registry := l.registry.release t }, .finished found,
        (e.notices ++ (Analysis.ofResult file e.result).2).map .notify⟩ := by
    simp only [Analysis.conclude, Registry.conclude, RunResult.judged, current, if_true, leads]
  rw [same]
  exact .finished _ _ ⟨agrees.config, agrees.root, agrees.memo⟩

theorem proceeds_launch (agrees : w.Agrees l₀ dirs l) (shows : w.Shows s) (p : Plan) (through : Bool) :
    w.Proceeds l₀ dirs (w.outcome p through) 1 (Analysis.launch s p through l) := by
  unfold Analysis.launch outcome
  cases p.request through (some (Analysis.key p.file)) with
  | error e => exact .finished l [] agrees
  | ok r =>
    have taken : (l.registry.take (Analysis.key p.file)).2.isCurrent (l.registry.take (Analysis.key p.file)).1 = true :=
      Registry.isCurrent_take _ _
    have agrees' : w.Agrees l₀ dirs { l with registry := (l.registry.take (Analysis.key p.file)).2 } :=
      ⟨agrees.config, agrees.root, agrees.memo⟩
    simp only [shows.startFault]
    cases w.startFault r with
    | some e => exact proceeds_conclude agrees' taken p.file (.failed (.spawn r.program e.message)) rfl 1
    | none => exact .waits _ _ .awaited r (.running p.file _ r agrees' taken rfl) (Nat.le_refl _)

/-- A lint of a file begins, and leads to what the world has it find. -/
theorem proceeds_start (agrees : w.Agrees l₀ dirs l) (alike : w.Alike l₀.bundles dirs) (shows : w.Shows s) {b : Buffer}
    {file : Path} (stored : b.path = some file) (isDir : dirs (l₀.workingDir file)) :
    w.Proceeds l₀ dirs (w.finding l₀ b) 2 (Analysis.start s b l) := by
  simp only [Analysis.start, finding, stored, shows.files, agrees.plan?_eq]
  cases planned : l₀.plan? w.files file (Analysis.source b file).1 (Analysis.source b file).2 with
  | none => exact .finished l [] agrees
  | some p =>
    have cwd : p.cwd = l₀.workingDir file := by
      simp only [Linter.plan?] at planned
      split at planned <;> cases planned
      rfl
    dsimp only
    cases p.config.useBundler with
    | true => exact (proceeds_launch agrees shows p true).mono (by omega)
    | false =>
      cases p.config.detectBundler with
      | false => exact (proceeds_launch agrees shows p false).mono (by omega)
      | true =>
        simp only [Bool.false_or, Bool.true_and, if_true, Bool.false_eq_true, if_false]
        rw [← cwd] at isDir
        rcases agrees.memo.ask alike isDir shows with ⟨m, asked, compatible⟩ | ⟨k, m, r, asked, probe, compatible⟩
        · rw [asked]
          have agrees' : w.Agrees l₀ dirs { l with bundles := m } := ⟨agrees.config, agrees.root, compatible⟩
          exact (proceeds_launch agrees' shows p _).mono (by omega)
        · rw [asked]
          rw [← probe] at compatible ⊢
          exact .waits _ _ .probed r (.probing p k r ⟨agrees.config, agrees.root, compatible⟩ rfl) (Nat.le_refl _)

theorem proceeds_step {a : Analysis} {x : Manner × Request} (awaits : w.Awaits l₀ dirs found l a x)
    (shows : w.Shows s) : w.Proceeds l₀ dirs found (remaining a - 1) (a.step s (w.signal x) l) := by
  cases awaits with
  | probing p k r agrees leads =>
    rw [← leads]
    exact proceeds_launch agrees shows p (w.probe r)
  | running file t r agrees current leads =>
    have ended : (Analysis.running file t).step s (w.signal (.awaited, r)) l =
        Analysis.conclude file t (w.ending r) l := by
      simp only [signal, Analysis.step]
      exact if_neg fun both => w.unstopped r both.1
    rw [ended]
    exact proceeds_conclude agrees current file (w.ending r) leads _

end
end World
end LintBridge
