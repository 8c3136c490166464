import LintBridge.CommandLine.Work
import LintBridge.Scenario.Rehearsal

/-!
A run of the command line at a bench.
-/

set_option autoImplicit false
set_option relaxedAutoImplicit false

namespace LintBridge.Scenario

open LintBridge.CommandLine

/-- The end of a run: its result, the notices, and the bench. -/
structure Performance where
  result : Result
  notices : List Notice
  bench : Bench

def performAction (o : Options) (a : Action) (input : List UInt8) (b : Bench) : Performance :=
  match prepare? b.files input o a with
  | none => ⟨.failure, [], b⟩
  | some (l, task) =>
    let r : LinterRehearsal := LinterRehearsal.perform 0 task ⟨.ofLinter l, b, []⟩
    let fetched := r.bench.network StyleGuide.guideUrl
    ⟨conclude r.bench.clock fetched a (r.state.call? 0), r.said, r.bench⟩

end LintBridge.Scenario
