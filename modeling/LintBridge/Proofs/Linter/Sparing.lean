import LintBridge.Proofs.Files.Upward
import LintBridge.Proofs.Linter.Outcomes
import LintBridge.Proofs.Linter.Classification

/-!
Which files are left alone for lack of a RuboCop configuration.

A call for such a file is over at once (`isOver_start_of_spares`), and what is over does nothing any more, whatever
happens (`effectsOf_of_isOver`). So the nearest configuration file decides whether anything is started for a file.
-/

set_option autoImplicit false
set_option relaxedAutoImplicit false

namespace LintBridge

/-! ### Calls that are over -/

theorem Activity.step_of_isOver {a : Activity} (isOver : a.isOver = true) (s : Surroundings) (signal : Signal)
    (l : Linter) : a.step s signal l = ⟨l, a, []⟩ := by
  cases a with
  | lookup i =>
    cases i with
    | answered bundled => rfl
    | _ => cases isOver
  | running ticket => cases isOver
  | ran result => rfl
  | analysis x =>
    cases x with
    | finished found => rfl
    | _ => cases isOver
  | correction c =>
    cases c with
    | finished summary => rfl
    | _ => cases isOver

namespace Session

section
variable {s : Session} {known : List (Nat × Task)} {around : Surroundings} {e : SessionEvent} {n : Nat}
  {history : History}

theorem idle_of_isOver (isKnown : n ∈ known.map Prod.fst) (fits : s.Allows known e) (isOver : s.IsOver n) :
    s.effectsAt n around e = [] ∧ (s.step around e).1.IsOver n := by
  by_cases moves : mover? e = some n
  · cases e with
    | call m task =>
      cases moves
      exact absurd isKnown fits
    | signal m signal =>
      cases moves
      rw [effectsAt, mover?, if_pos rfl, step]
      cases found : Keyed.get? n s.calls with
      | none => exact ⟨rfl, isOver⟩
      | some a =>
        have ended := isOver a found
        dsimp only
        rw [Activity.step_of_isOver ended]
        refine ⟨rfl, fun a' found' => ?_⟩
        rw [call?_settle, if_pos rfl] at found'
        cases found'
        exact ended
    | _ => cases moves
  · refine ⟨if_neg moves, fun a found => ?_⟩
    by_cases kept : e = .forget n
    · rw [kept, call?_forget, if_pos rfl] at found
      cases found
    · rw [call?_step moves kept] at found
      exact isOver a found

theorem effectsOf_of_isOver (isKnown : n ∈ known.map Prod.fst) (proper : s.Proper known history)
    (isOver : s.IsOver n) : s.effectsOf n history = [] := by
  induction history generalizing s known with
  | nil => rfl
  | cons moment rest ih =>
    obtain ⟨around, e⟩ := moment
    obtain ⟨fits, proper⟩ := proper
    obtain ⟨idle, isOver⟩ := idle_of_isOver isKnown fits isOver
    have isKnown : n ∈ (begun e ++ known).map Prod.fst := by
      rw [List.map_append]
      exact List.mem_append_right _ isKnown
    rw [effectsOf, idle, ih isKnown proper isOver, List.append_nil]

end

end Session

/-! ### Files that are left alone -/

section
variable {l : Linter} {around : Surroundings} {b : Buffer} {file : Path} {task : Task}

/-- A task to lint a buffer, or to correct it. -/
inductive Task.WorksOn (b : Buffer) : Task → Prop
  | analyze : WorksOn b (.analyze b)
  | correct (trigger : Trigger) : WorksOn b (.correct b trigger)

theorem Linter.plan?_of_spares {t : FileTree} (spares : l.Spares t file) (extra : List String)
    (input : Option String) : l.plan? t file extra input = none := by
  rcases l.plan?_cases t file extra input with ⟨unplanned, -⟩ | ⟨-, wanted⟩
  · exact unplanned
  · exact absurd spares wanted

theorem isOver_start_of_spares (works : task.WorksOn b) (stored : b.path = some file)
    (spares : l.Spares around.files file) :
    (Activity.start around task l).state.isOver = true ∧
      ∀ m r, Effect.start m r ∉ (Activity.start around task l).effects := by
  cases works with
  | analyze =>
    have unplanned : Analysis.start around b l = ⟨l, .finished (some []), []⟩ := by
      rw [Analysis.start, stored]
      dsimp only
      rw [Linter.plan?_of_spares spares]
    rw [Activity.start, unplanned]
    exact ⟨rfl, fun m r => List.not_mem_nil⟩
  | correct trigger =>
    have given : ∃ notices, Correction.start around b trigger l = Correction.gaveUp notices l := by
      rw [Correction.start, stored]
      dsimp only
      split
      · exact ⟨_, rfl⟩
      · rw [Linter.plan?_of_spares spares]
        exact ⟨_, rfl⟩
    obtain ⟨notices, given⟩ := given
    rw [Activity.start, given]
    exact ⟨rfl, fun m r isIn => by simp [Correction.gaveUp] at isIn⟩

end

namespace Session

/-- What is started for a file by a call is started because the file is not left alone. -/
theorem not_spares_of_started {s : Session} {known : List (Nat × Task)} {around : Surroundings} {n : Nat} {task : Task}
    {b : Buffer} {file : Path} {since : History} {m : Manner} {r : Request}
    (proper : s.Proper known ((around, .call n task) :: since)) (works : task.WorksOn b) (stored : b.path = some file)
    (started : Effect.start m r ∈ s.effectsOf n ((around, .call n task) :: since)) :
    ¬ s.linter.Spares around.files file := by
  intro spares
  obtain ⟨isOver, unstarted⟩ := isOver_start_of_spares works stored spares
  obtain ⟨fits, proper⟩ := proper
  have ended : (s.step around (.call n task)).1.IsOver n := by
    intro a found
    rw [step, call?_settle, if_pos rfl] at found
    cases found
    exact isOver
  have does : s.effectsAt n around (.call n task) = (Activity.start around task s.linter).effects := by
    rw [effectsAt, mover?, if_pos rfl]
    rfl
  rw [effectsOf, effectsOf_of_isOver List.mem_cons_self proper ended, List.append_nil, does] at started
  exact unstarted m r started

/-- The nearest file of a name is found, from a directory on or from the directory of anything else.

Above an absolute path there is one path for each number of its steps. What is found is the file in the deepest of these
that has one, and nothing is found if none of them has one; a directory of that name does not count. So where files
without a RuboCop configuration are to be left alone, a lint or a correction of a file starts something, at whatever
time and whatever happens meanwhile, only if there is a configuration in the file's directory or above, when it is
called. -/
theorem nearest_file_decides (t : FileTree) (start : Path) (name : String) (rooted : start.isAbsolute = true)
    (plain : Path.IsPlainName name) :
    (∀ k, 0 < k → k < start.components.length →
      ∃! d : Path, d.IsAbove start ∧ d.components = start.components.take k) ∧
    (∀ found, t.findUpward? start name = some found ↔ ∃ d, t.IsNearest start name d ∧ found = d.join ⟨name⟩) ∧
    (∀ d, t.Searches start d → (t.findUpward? start name = some (d.join ⟨name⟩) ↔ t.IsNearest start name d)) ∧
    (t.findUpward? start name = none ↔ ∀ d, t.Searches start d → ¬ t.HasFile d name) ∧
    ∀ (l : Linter) (before since : History) (around : Surroundings) (n : Nat) (b : Buffer) (task : Task),
      (ofLinter l).Proper [] (before ++ (around, .call n task) :: since) → task.WorksOn b → b.path = some start →
      around.files = t → t.isDirectory start = false →
      (((ofLinter l).after before).linter.effectiveConfig t start).disableWhenNoConfigFile = true →
      (∃ m r, Effect.start m r ∈ ((ofLinter l).after before).effectsOf n ((around, .call n task) :: since)) →
      ∃ d : Path, d.IsAbove start ∧ t.HasFile d rubocopConfigFile := by
  refine ⟨fun k some fewer => Path.existsUnique_above rooted some fewer,
    fun found => FileTree.findUpward?_eq_some_iff rooted,
    fun d searched => FileTree.findUpward?_eq_join_iff rooted plain searched,
    FileTree.findUpward?_eq_none_iff rooted, ?_⟩
  intro l before since around n b task proper works stored same notDirectory gated started
  obtain ⟨m, r, started⟩ := started
  rw [proper_append] at proper
  have wanted := not_spares_of_started proper.2 works stored started
  rw [same] at wanted
  by_contra none
  refine wanted ⟨gated, fun d isIn => ?_⟩
  rw [← Bool.not_eq_true, FileTree.isFile_join_iff]
  intro hasFile
  rcases (FileTree.mem_searched_iff rooted).mp isIn with above | ⟨isDirectory, -⟩
  · exact none ⟨d, above, hasFile⟩
  · rw [notDirectory] at isDirectory
    cases isDirectory

/-! ### A project within a project -/

/-- There is a configuration at the top; what has its name further down is a directory. -/
def nestedYard : Surroundings where
  files :=
    ⟨.directory
      [(".rubocop.yml", .file [] false),
        ("app", .directory [(".rubocop.yml", .directory []), ("models", .directory [])])], []⟩
  startFault _ := none
  fetch _ := .ok ""
  clock := 0

/-- Only files with a configuration above them are linted, with the command as it is. -/
def gatedConfig : Config := { Config.default with disableWhenNoConfigFile := true, detectBundler := false }

theorem nearest_file_decides_nested :
    let start : Path := ⟨"/app/./models//user.rb"⟩
    let t := nestedYard.files
    let asked := ofLinter (.ofConfig gatedConfig)
    let run : History := [(nestedYard, .call 0 (.analyze (.saved start "puts")))]
    start.isAbsolute = true ∧ Path.IsPlainName ".rubocop.yml" ∧ asked.Proper [] run ∧
      (t.findUpward? start ".rubocop.yml" = some ⟨"/.rubocop.yml"⟩ ∧
        ∃ d, t.IsNearest start ".rubocop.yml" d ∧ ⟨"/.rubocop.yml"⟩ = d.join ⟨".rubocop.yml"⟩) ∧
      (∃! d : Path, d.IsAbove start ∧ d.components = [.root, .name "app", .name "models"]) ∧
      t.isDirectory start = false ∧
      (asked.linter.effectiveConfig t start).disableWhenNoConfigFile = true ∧
      (∃ m r, Effect.start m r ∈ asked.effectsOf 0 run) ∧
      ∃ d : Path, d.IsAbove start ∧ t.HasFile d rubocopConfigFile := by
  intro start t asked run
  have rooted : start.isAbsolute = true := by decide +kernel
  have plain : Path.IsPlainName ".rubocop.yml" :=
    ⟨by decide, by decide, by decide, by decide +kernel⟩
  have proper : asked.Proper [] run := ⟨List.not_mem_nil, trivial⟩
  have found : t.findUpward? start ".rubocop.yml" = some ⟨"/.rubocop.yml"⟩ := by decide +kernel
  have gated : (asked.linter.effectiveConfig t start).disableWhenNoConfigFile = true := by decide +kernel
  have tool : asked.effectsOf 0 run = [.start .awaited
      ⟨"rubocop", Command.fixedFlags false ++ ["/app/./models//user.rb"], ⟨"/app/./models"⟩, none, defaultTimeoutMs,
        some "linter-rubocop::/app/./models//user.rb"⟩] := by decide +kernel
  have started : ∃ m r, Effect.start m r ∈ asked.effectsOf 0 run := by
    rw [tool]
    exact ⟨_, _, List.mem_cons_self⟩
  have noDirectory : t.isDirectory start = false := by decide +kernel
  have steps : start.components = [.root, .name "app", .name "models", .name "user.rb"] := by decide +kernel
  obtain ⟨above, nearest, -, -, decides⟩ := nearest_file_decides t start ".rubocop.yml" rooted plain
  have models := above 3 (by decide) (by simp [steps])
  rw [steps] at models
  exact ⟨rooted, plain, proper, ⟨found, (nearest _).mp found⟩, models, noDirectory, gated, started,
    decides (.ofConfig gatedConfig) [] [] nestedYard 0 _ _ proper .analyze rfl rfl noDirectory gated started⟩

end Session
end LintBridge
