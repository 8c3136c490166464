import LintBridge.Proofs.CommandLine.Runs

/-!
What a correction says about the offenses, and what the exit code says.

The summary of a report has two numbers: how many offenses the tool has counted, and how many of those that it lists are
corrected. Where the first number is that of the list, comparing them tells whether an offense is left.
-/

set_option autoImplicit false
set_option relaxedAutoImplicit false

namespace LintBridge

/-! ### What the numbers say -/

namespace Report

variable {r : Report}

theorem toNat_corrected (counted : r.offenseCount.toNat = r.offenses.length) :
    r.summary.corrected.toNat = r.correctedCount := by
  have listed : r.correctedCount ≤ r.offenses.length := List.countP_le_length
  have small : r.offenseCount.toNat < UInt64.size := r.offenseCount.toNat_lt
  exact UInt64.toNat_ofNat_of_lt' (by omega)

theorem offenseCount_eq_zero_iff (counted : r.offenseCount.toNat = r.offenses.length) :
    r.offenseCount = 0 ↔ r.offenses = [] := by
  rw [← List.length_eq_zero_iff, ← counted, ← UInt64.toNat_inj]
  rfl

/-- As many offenses are corrected as there are exactly if all of them are. -/
theorem offenseCount_le_corrected_iff (counted : r.offenseCount.toNat = r.offenses.length) :
    r.offenseCount ≤ r.summary.corrected ↔ ∀ o ∈ r.offenses, o.corrected = true := by
  have listed : r.correctedCount ≤ r.offenses.length := List.countP_le_length
  rw [UInt64.le_iff_toNat_le, counted, toNat_corrected counted, ← List.countP_eq_length]
  exact ⟨Nat.le_antisymm listed, Nat.le_of_eq ∘ Eq.symm⟩

/-- What a correction comes to, in terms of the offenses that are listed. -/
structure Judged (r : Report) : Prop where
  none : r.summary.outcome = .noOffenses ↔ r.offenses = []
  all : r.summary.outcome = .allCorrected ↔ r.offenses ≠ [] ∧ ∀ o ∈ r.offenses, o.corrected = true
  part : r.summary.outcome = .partlyCorrected ↔ ∃ o ∈ r.offenses, o.corrected = false
  message : r.offenses ≠ [] → r.summary.message =
    "Linter-Rubocop: Fixed " ++ counted (r.offenses.filter Offense.corrected).length "offense" ++ " of " ++
      toString r.offenses.length

theorem judged (counts : r.offenseCount.toNat = r.offenses.length) : r.Judged := by
  have none_iff := offenseCount_eq_zero_iff counts
  have all_iff := offenseCount_le_corrected_iff counts
  have part_iff : (∃ o ∈ r.offenses, o.corrected = false) ↔ ¬ ∀ o ∈ r.offenses, o.corrected = true := by simp
  have outcome : r.summary.outcome = if r.offenseCount = 0 then .noOffenses
      else if r.offenseCount ≤ r.summary.corrected then .allCorrected else .partlyCorrected := rfl
  by_cases empty : r.offenses = []
  · rw [if_pos (none_iff.mpr empty)] at outcome
    constructor <;> simp [outcome, empty]
  · rw [if_neg (mt none_iff.mp empty)] at outcome
    have message : r.summary.outcome ≠ .noOffenses → r.summary.message =
        "Linter-Rubocop: Fixed " ++ counted (r.offenses.filter Offense.corrected).length "offense" ++ " of " ++
          toString r.offenses.length := by
      intro found
      unfold FixSummary.message
      split
      · rename_i isNone
        exact absurd isNone found
      · rw [toNat_corrected counts, correctedCount, List.countP_eq_length_filter, ← counts]
        rfl
    by_cases all : ∀ o ∈ r.offenses, o.corrected = true
    · rw [if_pos (all_iff.mpr all)] at outcome
      refine ⟨?_, ?_, ?_, fun _ => message (by simp [outcome])⟩
      · simp [outcome, empty]
      · simpa [outcome, empty] using all
      · rw [part_iff]
        simpa [outcome] using all
    · rw [if_neg (mt all_iff.mp all)] at outcome
      refine ⟨?_, ?_, ?_, fun _ => message (by simp [outcome])⟩
      · simp [outcome, empty]
      · simpa [outcome, empty] using all
      · rw [part_iff]
        simpa [outcome] using all

end Report

theorem Correction.Verdict.notices_eq {e : Ending} {s : FixSummary} {notices : List Notice}
    (verdict : Verdict .command e (some s) notices) : ∃ kind, notices = [.plain kind s.message] := by
  cases verdict with
  | clean o report read free =>
    refine ⟨.info, ?_⟩
    simp [FixSummary.message, FixSummary.outcome, Report.summary, free]
  | quiet o report read found saved => cases saved
  | allCorrected o report read found all => exact ⟨.success, rfl⟩
  | partlyCorrected o report read found part => exact ⟨.info, rfl⟩

namespace CommandLine

theorem linterFor?_eq_none_iff {o : Options} {t : FileTree} :
    linterFor? o t = none ↔ ∃ p, o.loadConfig t = .error p := by
  rw [linterFor?, Option.map_eq_none_iff]
  cases o.loadConfig t <;> simp [Except.toOption]

namespace Run

/-- The summary that the correction of a run has given. -/
def summary? (r : Run) : Option FixSummary :=
  match r.call? with
  | some (.correction (.finished summary)) => summary
  | _ => none

/-- The tool has come to its end, and this is the report that it has printed. -/
def Prints (r : Run) (report : Report) : Prop :=
  ∃ o, r.ending? = some (.output o) ∧ Report.read o.stdout o.stderr = .ok report

section
variable {r : Run} {file : Path}

private theorem correctionFinished_of_isOver {l : Linter} {b : Buffer} (prepared : r.prepared? = some (l, .correct b .command))
    (isOver : r.isOver = true) :
    r.call? = some (.correction (.finished r.summary?)) ∧
      Correction.Stands l r.around b .command r.hearing (.finished r.summary?) r.effects := by
  obtain ⟨c, call, stands⟩ := stands_of_prepared prepared
  rw [Run.isOver, call] at isOver
  cases c with
  | finished summary =>
    have same : r.summary? = summary := by rw [summary?, call]
    rw [same]
    exact ⟨call, stands⟩
  | _ => cases isOver

theorem exitCode_of_finished (isFix : r.action = .fix file)
    (call : r.call? = some (.correction (.finished r.summary?))) : r.result.exitCode = fixCode r.summary? := by
  rw [result, isFix, call]
  rfl

theorem exitCode_of_unprepared (unprepared : r.prepared? = none) : r.call? = none ∧ r.result.exitCode = 2 := by
  have call : r.call? = none := by
    rw [call?, session?, unprepared]
    rfl
  refine ⟨call, ?_⟩
  rw [result, call]
  cases r.action <;> rfl

private theorem summary?_eq_some_iff {l : Linter} {b : Buffer}
    (stands : Correction.Stands l r.around b .command r.hearing (.finished r.summary?) r.effects) (s : FixSummary) :
    r.summary? = some s ↔ ∃ report, r.Prints report ∧ s = report.summary := by
  rw [stands.reported.some_iff]
  constructor
  · rintro ⟨o, report, ends, read, same⟩
    exact ⟨report, ⟨o, ends, read⟩, same⟩
  · rintro ⟨report, ⟨o, ends, read⟩, same⟩
    exact ⟨o, report, ends, read, same⟩

private theorem notices_of_summary {l : Linter} {b : Buffer} {s : FixSummary}
    (stands : Correction.Stands l r.around b .command r.hearing (.finished r.summary?) r.effects)
    (summed : r.summary? = some s) : ∃ kind, noticesIn r.effects = [.plain kind s.message] := by
  rw [summed] at stands
  generalize r.hearing = hearing, r.effects = effects at stands
  cases stands with
  | ended waited since p request ordered granted e told _ notices verdict probe =>
    simpa using verdict.notices_eq

theorem fixCode_eq (s : FixSummary) :
    (fixCode (some s) = 1 ↔ s.outcome = .partlyCorrected) ∧ (fixCode (some s) = 0 ↔ s.outcome ≠ .partlyCorrected) := by
  unfold fixCode
  split <;> simp_all

/-- A correction is judged by the offenses that its tool lists.

A run that corrects a file comes to its end, each signal that it awaits bringing it nearer. It fails exactly if the file
or the configuration cannot be used or the correction has no summary, which it has exactly if its tool has printed a
report. If that counts as many offenses as it lists for its first file, the outcome, the sentence that the user is told
and the exit code say which of them are corrected. -/
theorem fix_judged_by_offenses (r : Run) (file : Path) (isFix : r.action = .fix file) :
    (r.isOver = true ∨ ∃ signal, r.Awaits signal) ∧
    (∀ moment signal, r.Awaits signal → (r.hears moment signal).waits < r.waits) ∧
    (r.isOver = true →
      (r.result.exitCode = 2 ↔ bufferFor? r.around.files r.input file false = none ∨
        (∃ p, r.options.loadConfig r.around.files = .error p) ∨ r.summary? = none) ∧
      (∀ s, r.summary? = some s ↔ ∃ report, r.Prints report ∧ s = report.summary) ∧
      ∀ report, r.Prints report → report.offenseCount.toNat = report.offenses.length →
        report.Judged ∧ (∃ kind, noticesIn r.effects = [.plain kind report.summary.message]) ∧
        (r.result.exitCode = 1 ↔ ∃ o ∈ report.offenses, o.corrected = false) ∧
        (r.result.exitCode = 0 ↔ ∀ o ∈ report.offenses, o.corrected = true)) := by
  refine ⟨isOver_or_awaits r, fun moment signal awaits => waits_hears moment awaits, fun isOver => ?_⟩
  cases prepared : r.prepared? with
  | none =>
    obtain ⟨call, failed⟩ := exitCode_of_unprepared prepared
    have unsummed : r.summary? = none := by rw [summary?, call]
    have unprinted (report : Report) : ¬ r.Prints report := by
      rintro ⟨o, ends, -⟩
      rw [Run.ending?, effects, prepared] at ends
      cases ends
    refine ⟨?_, ?_, fun report prints => absurd prints (unprinted report)⟩
    · simp [failed, unsummed]
    · simp [unsummed, unprinted]
  | some made =>
    obtain ⟨l, task⟩ := made
    obtain ⟨b, isBuffer, isLinter, rfl⟩ := (prepared?_fix isFix).mp prepared
    have loaded : ¬ ∃ p, r.options.loadConfig r.around.files = .error p := by
      rw [← linterFor?_eq_none_iff, isLinter]
      simp
    obtain ⟨call, stands⟩ := correctionFinished_of_isOver prepared isOver
    have exit := exitCode_of_finished isFix call
    refine ⟨?_, summary?_eq_some_iff stands, ?_⟩
    · rw [exit]
      cases summed : r.summary? with
      | none => simp [fixCode, failureCode]
      | some s =>
        have codes : fixCode (some s) ≠ 2 := by
          simp only [fixCode]
          split <;> simp
        simp [codes, isBuffer, loaded]
    · intro report prints counts
      have summed : r.summary? = some report.summary := (summary?_eq_some_iff stands _).mpr ⟨report, prints, rfl⟩
      obtain ⟨ones, zeros⟩ := fixCode_eq report.summary
      have judged := report.judged counts
      refine ⟨judged, notices_of_summary stands summed, ?_, ?_⟩
      · rw [exit, summed, ones, judged.part]
      · rw [exit, summed, zeros, ne_eq, judged.part]
        simp

end

/-! ### One offense is left -/

/-- The tool has found two offenses and corrected one of them. -/
def halfFixed : Output where
  stdout := "\x7b\"files\":[\x7b\"offenses\":[\x7b\"corrected\":true\x7d,\x7b\"corrected\":false\x7d]\x7d]," ++
    "\"summary\":\x7b\"offense_count\":2\x7d\x7d"
  stderr := ""
  exitCode := some 1

/-- A directory with one file, where every program can be started. -/
def yard : Surroundings :=
  ⟨⟨.directory [("a.rb", .file [112, 117, 116, 115] false)], []⟩, fun _ => none, fun _ => .ok "", 0⟩

def halfFixing : Run where
  options := ⟨none, false, none, false, false, none⟩
  action := .fix ⟨"/a.rb"⟩
  input := []
  around := yard
  heard := [(yard, .programEnded (.output halfFixed))]
  clock := 0
  fetched := .ok ""

/-- The run says so, and its exit code is one. -/
theorem fix_judged_by_offenses_halfFixed :
    halfFixing.isOver = true ∧ ∃ report, halfFixing.Prints report ∧
      report.offenseCount.toNat = report.offenses.length ∧
      report.summary.outcome = .partlyCorrected ∧
      report.summary.message = "Linter-Rubocop: Fixed 1 offense of 2" ∧ halfFixing.result.exitCode = 1 := by
  have isOver : halfFixing.isOver = true := by decide +kernel
  have ends : halfFixing.ending? = some (.output halfFixed) := by decide +kernel
  obtain ⟨report, read, offenses, count⟩ : ∃ report, Report.read halfFixed.stdout halfFixed.stderr = .ok report ∧
      report.offenses.map Offense.corrected = [true, false] ∧ report.offenseCount = 2 := by
    have all : (Report.read halfFixed.stdout halfFixed.stderr).toOption.any (fun report =>
        report.offenses.map Offense.corrected = [true, false] && report.offenseCount = 2) = true := by
      decide +kernel
    cases read : Report.read halfFixed.stdout halfFixed.stderr with
    | error p =>
      rw [read] at all
      cases all
    | ok report =>
      rw [read] at all
      obtain ⟨offenses, count⟩ := Bool.and_eq_true_iff.mp all
      exact ⟨report, rfl, of_decide_eq_true offenses, of_decide_eq_true count⟩
  have prints : halfFixing.Prints report := ⟨halfFixed, ends, read⟩
  have two : report.offenses.length = 2 := by simpa using congrArg List.length offenses
  have counts : report.offenseCount.toNat = report.offenses.length := by
    rw [two, count]
    rfl
  have one : (report.offenses.filter Offense.corrected).length = 1 := by
    have ones := congrArg (List.countP id) offenses
    rwa [List.countP_map, Function.id_comp, List.countP_eq_length_filter] at ones
  have left : ∃ o ∈ report.offenses, o.corrected = false := by
    have isIn : false ∈ report.offenses.map Offense.corrected := by
      rw [offenses]
      decide
    exact List.mem_map.mp isIn
  obtain ⟨-, -, ended⟩ := fix_judged_by_offenses halfFixing ⟨"/a.rb"⟩ rfl
  obtain ⟨judged, -, ones, -⟩ := (ended isOver).2.2 report prints counts
  have message := judged.message (List.ne_nil_of_length_pos (by rw [two]; decide))
  rw [one, two] at message
  exact ⟨isOver, report, prints, counts, judged.part.mpr left, message, ones.mpr left⟩

end Run
end CommandLine
end LintBridge
