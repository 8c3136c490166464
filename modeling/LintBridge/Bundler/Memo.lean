import LintBridge.Keyed
import LintBridge.Surroundings

/-!
Whether a directory's bundle has RuboCop, found out once for each directory.

The first inquiry about a directory finds the answer, with a probe if there is a Gemfile. Later ones wait for
it. An answer may also be given from outside; inquiries that wait keep waiting for the probe they know of.
-/

set_option autoImplicit false
set_option relaxedAutoImplicit false

namespace LintBridge.Bundler

inductive Answer
  | missing
  /-- An inquiry has started a probe. -/
  | sought
  | known (bundled : Bool)
  deriving DecidableEq, Repr

structure Memo where
  /-- The program that is asked. -/
  program : String
  /-- How many milliseconds a probe may take. -/
  timeoutMs : UInt64
  /-- The answers by number. -/
  answers : List Answer
  /-- The number of the answer that counts for a directory. Directories are the same if their steps are. -/
  index : List (List Component × Nat)
  deriving DecidableEq, Repr

/-- How far an inquiry has come. -/
inductive Inquiry
  /-- Its own probe is running, for the answer with this number. -/
  | probing (number : Nat)
  /-- It waits for the answer with this number. -/
  | waiting (number : Nat)
  | answered (bundled : Bool)
  deriving DecidableEq, Repr

def gemfile : String := "Gemfile"

namespace Memo

def empty : Memo := ⟨"bundle", 10000, [], []⟩

def probe (m : Memo) (dir : Path) : Request :=
  ⟨m.program, ["show", "rubocop"], dir, none, m.timeoutMs, none⟩

def answer (m : Memo) (number : Nat) : Answer := m.answers.getD number .missing

def setAnswer (number : Nat) (a : Answer) (m : Memo) : Memo :=
  { m with answers := m.answers.set number a }

/-- The number of the answer for a directory, with a new one if there is none. -/
def numberOf (dir : Path) (m : Memo) : Nat × Memo :=
  match Keyed.get? dir.components m.index with
  | some n => (n, m)
  | none =>
    (m.answers.length,
      { m with
        answers := m.answers ++ [.missing]
        index := Keyed.put dir.components m.answers.length m.index })

/-- Gives the answer for a directory from outside. -/
def remember (dir : Path) (bundled : Bool) (m : Memo) : Memo :=
  { m with
    answers := m.answers ++ [.known bundled]
    index := Keyed.put dir.components m.answers.length m.index }

/-- Begins an inquiry. The request is the probe that it starts, if it does. -/
def ask (s : Surroundings) (dir : Path) (m : Memo) : Inquiry × Memo × Option Request :=
  let (number, m) := m.numberOf dir
  match m.answer number with
  | .known bundled => (.answered bundled, m, none)
  | .sought => (.waiting number, m, none)
  | .missing =>
    let probe := m.probe dir
    if s.files.isFile (dir.join ⟨gemfile⟩) && (s.startFault probe).isNone then
      (.probing number, m.setAnswer number .sought, some probe)
    else (.answered false, m.setAnswer number (.known false), none)

def probed (number : Nat) (succeeded : Bool) (m : Memo) : Memo := m.setAnswer number (.known succeeded)

def awaited? (number : Nat) (m : Memo) : Option Bool :=
  match m.answer number with
  | .known bundled => some bundled
  | _ => none

/-! ### What is known afterwards -/

theorem answer_setAnswer (m : Memo) (number k : Nat) (a : Answer) (h : number < m.answers.length) :
    (m.setAnswer number a).answer k = if number = k then a else m.answer k := by
  by_cases hk : number = k
  · subst hk
    simp [answer, setAnswer, List.getD, h]
  · simp [answer, setAnswer, List.getD, List.getElem?_set_ne hk, hk]

end Memo
end LintBridge.Bundler
