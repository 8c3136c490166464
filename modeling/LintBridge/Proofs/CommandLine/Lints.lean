import LintBridge.Proofs.CommandLine.Fixes
import LintBridge.Proofs.CommandLine.Reports

/-!
What the exit code of a lint says, and what is printed.

A lint that is over has taken one of four courses (`Analysis.Went`): its file is left alone, it has no command, its tool
cannot be started, or its tool has come to an end. The course decides what is found and with it the exit code. The
format and the descriptions are looked at only when all that is found is printed.
-/

set_option autoImplicit false
set_option relaxedAutoImplicit false

namespace LintBridge

open Json (Value)

/-! ### What condemns a file -/

theorem Severity.ofReport_eq_error_iff (name : Option String) :
    ofReport name = .error ↔ name ∉ [some "refactor", some "convention", some "warning"] := by
  unfold ofReport
  split <;> simp_all

/-- What the tool has printed is an error by itself: it is of no use, or does not say the tool's version, or the first
file has an offense without a severity, or with one that is not among the lesser ones. -/
def Output.Condemns (o : Output) : Prop :=
  (∃ p, Report.read o.stdout o.stderr = .error p) ∨
    ∃ report, Report.read o.stdout o.stderr = .ok report ∧ (report.version? = none ∨
      ∃ x ∈ report.offenses, x.severity ∉ [some "refactor", some "convention", some "warning"])

section
variable {o : Output} {report : Report}

theorem Output.condemns_of_error {p : Problem} (read : Report.read o.stdout o.stderr = .error p) : o.Condemns :=
  .inl ⟨p, read⟩

theorem Output.condemns_of_versionless (read : Report.read o.stdout o.stderr = .ok report)
    (versionless : report.version? = none) : o.Condemns := .inr ⟨report, read, .inl versionless⟩

theorem Output.condemns_iff_of_version {v : String} (read : Report.read o.stdout o.stderr = .ok report)
    (version : report.version? = some v) :
    o.Condemns ↔ ∃ x ∈ report.offenses, Severity.ofReport x.severity = .error := by
  simp [Output.Condemns, read, version, Severity.ofReport_eq_error_iff]

end

namespace Analysis

/-! ### The course of a lint -/

/-- How a lint has gone. -/
inductive Course
  | spared
  | blank
  | unstartable
  | ended (ending : Ending)
  deriving DecidableEq, Repr

/-- What has happened in a lint of a buffer that has gone so: it has been called when `l` was the linter, has heard `h`
and has done `effects`. -/
inductive Went (l : Linter) (around : Surroundings) (b : Buffer) (h : Hearing) (effects : List Effect) :
    Course → Prop
  /-- The file is to be left alone. -/
  | spared (file : Path) (stored : b.path = some file) (spares : l.Spares around.files file)
      (unstarted : toolStarts effects = []) : Went l around b h effects .spared
  | blank (p : Plan) (planned : Planned l around b p)
      (blank : ∀ c ∈ p.config.command.toList, Text.isBlank c = true) (unstarted : toolStarts effects = []) :
      Went l around b h effects .blank
  /-- The tool is tried when the lint need not wait any longer, and cannot be started. -/
  | unstartable (p : Plan) (waited rest : Heard) (r : Request) (ordered : Ordered l around b p waited r)
      (heard : h.waited = waited ++ rest) (fault : SystemError)
      (refused : (lastSeen around waited).startFault r = some fault) (unstarted : toolStarts effects = []) :
      Went l around b h effects .unstartable
  | ended (p : Plan) (waited : Heard) (r : Request) (ordered : Ordered l around b p waited r)
      (started : toolStarts effects = [r]) (e : Ending) (ending : h.since.ending? = some e) :
      Went l around b h effects (.ended e)

/-- What a lint finds on its course. -/
inductive Finds (file : Path) : Course → Option (List Diagnostic) → Prop
  | spared : Finds file .spared (some [])
  | blank (d : Diagnostic) (complains : d.Complains file Problem.noCommand.message) : Finds file .blank (some [d])
  | unstartable : Finds file .unstartable none
  | ended (e : Ending) (found : Option (List Diagnostic)) (notices : List Notice)
      (verdict : Verdict file e found notices) : Finds file (.ended e) found

section
variable {l now : Linter} {around : Surroundings} {b : Buffer} {heard : Heard} {h : Hearing}
  {effects : List Effect} {found : Option (List Diagnostic)} {file : Path}

/-- A lint of a file that is over has taken one of the courses. -/
theorem Heeds.went (heeds : Heeds l around b now heard h (finished found) effects) (stored : b.path = some file) :
    ∃ course, Went l around b h effects course ∧ Finds file course found := by
  have ends := heeds.ends
  have whole : toolStarts effects = [] → h.waited = heard := by
    intro unstarted
    rw [← heeds.parts, heeds.unstarted unstarted, List.append_nil]
  cases heeds.stands with
  | pathless _ scratch =>
    rw [stored] at scratch
    cases scratch
  | spared _ file' stored' spares =>
    rw [stored] at stored'
    cases stored'
    exact ⟨.spared, .spared file stored spares rfl, .spared⟩
  | blank _ p planned blank d complains probe =>
    rw [Option.some.inj (planned.stored.symm.trans stored)] at complains
    exact ⟨.blank, .blank p planned blank (toolStarts_probe probe), .blank d complains⟩
  | unstartable waited rest p r ordered fault refused probe =>
    exact ⟨.unstartable, .unstartable p waited rest r ordered (whole (by simp)) fault refused (by simp), .unstartable⟩
  | ended waited since rest p r ordered granted unended moment e' told found notices' verdict' probe =>
    obtain ⟨file', e, notices, stored', ending, verdict⟩ := ends (by simp)
    rw [stored] at stored'
    cases stored'
    exact ⟨.ended e, .ended p waited r ordered (by simp) e ending, .ended e found notices verdict⟩

/-- It has taken one of them only. -/
theorem Went.unique {course other : Course} (went : Went l around b h effects course)
    (went' : Went l around b h effects other) : other = course := by
  have apart {p : Plan} {file : Path} (planned : Planned l around b p) (stored : b.path = some file)
      (spares : l.Spares around.files file) : False := by
    rw [Option.some.inj (stored.symm.trans planned.stored)] at spares
    exact planned.wanted spares
  have silent {p p' : Plan} {waited : Heard} {r : Request} (planned : Planned l around b p)
      (blank : ∀ c ∈ p.config.command.toList, Text.isBlank c = true) (ordered : Ordered l around b p' waited r) :
      False := by
    have same : p' = p := by
      rw [ordered.planned, planned.planned, Option.some.inj (planned.stored.symm.trans ordered.stored)]
    obtain ⟨through, made, -⟩ := ordered.made
    rw [same, Plan.request_eq_error_iff.mpr ⟨blank, rfl⟩] at made
    cases made
  have never {r : Request} (unstarted : toolStarts effects = []) (started : toolStarts effects = [r]) : False := by
    rw [started] at unstarted
    cases unstarted
  cases went with
  | spared file stored spares unstarted =>
    cases went' with
    | spared => rfl
    | blank p planned => exact (apart planned stored spares).elim
    | unstartable p waited rest r ordered => exact (apart ordered.toPlanned stored spares).elim
    | ended p waited r ordered => exact (apart ordered.toPlanned stored spares).elim
  | blank p planned blank unstarted =>
    cases went' with
    | spared file stored spares => exact (apart planned stored spares).elim
    | blank => rfl
    | unstartable p' waited rest r ordered => exact (silent planned blank ordered).elim
    | ended p' waited r ordered => exact (silent planned blank ordered).elim
  | unstartable p waited rest r ordered heard fault refused unstarted =>
    cases went' with
    | spared file stored spares => exact (apart ordered.toPlanned stored spares).elim
    | blank p' planned blank => exact (silent planned blank ordered).elim
    | unstartable => rfl
    | ended p' waited' r' ordered' started => exact (never unstarted started).elim
  | ended p waited r ordered started e ending =>
    cases went' with
    | spared file stored spares => exact (apart ordered.toPlanned stored spares).elim
    | blank p' planned blank => exact (silent planned blank ordered).elim
    | unstartable p' waited' rest r' ordered' heard fault refused unstarted => exact (never unstarted started).elim
    | ended p' waited' r' ordered' started' e' ending' =>
      rw [Option.some.inj (ending'.symm.trans ending)]

end
end Analysis

namespace CommandLine

open Analysis (Finds Verdict Went Heeds)

/-! ### The exit code -/

/-- What an exit code says about the course of a lint. -/
structure Tells (exitCode : Nat) (course : Analysis.Course) : Prop where
  two : exitCode = 2 ↔ course = .unstartable ∨ course = .ended .timedOut ∨ ∃ p, course = .ended (.failed p)
  one : exitCode = 1 ↔ course = .blank ∨ ∃ o, course = .ended (.output o) ∧ o.Condemns
  zero : exitCode = 0 ↔ course = .spared ∨ ∃ o, course = .ended (.output o) ∧ ¬ o.Condemns

section
variable {file : Path} {e : Ending} {found : Option (List Diagnostic)} {notices : List Notice} {course : Analysis.Course}

theorem tells_of_condemning {o : Output} {d : Diagnostic} (grave : d.severity = .error) (condemns : o.Condemns) :
    Tells (lintCode (some [d])) (.ended (.output o)) := by
  constructor <;> simp [lintCode, grave, condemns]

theorem tells_of_report {o : Output} {report : Report} {v : String} {style : MessageStyle}
    (read : Report.read o.stdout o.stderr = .ok report) (version : report.version? = some v) :
    Tells (lintCode (some (report.offenses.map fun x => x.toDiagnostic style file))) (.ended (.output o)) := by
  have grave : (report.offenses.map fun x => x.toDiagnostic style file).any (fun d => d.severity == .error) = true ↔
      o.Condemns := by
    rw [Output.condemns_iff_of_version read version]
    simp [Offense.toDiagnostic]
  simp only [lintCode]
  by_cases condemns : o.Condemns
  · rw [if_pos (grave.mpr condemns)]
    constructor <;> simp [condemns]
  · rw [if_neg (mt grave.mp condemns)]
    constructor <;> simp [condemns]

theorem tells_of_verdict (verdict : Verdict file e found notices) : Tells (lintCode found) (.ended e) := by
  cases verdict with
  | timedOut => constructor <;> simp [lintCode, failureCode]
  | failed p => constructor <;> simp [lintCode, failureCode]
  | noObject o unlike d complains =>
    exact tells_of_condemning complains.severity (Output.condemns_of_error (Report.read_of_noObject unlike))
  | misshapen o members wrong parsed read d complains =>
    exact tells_of_condemning complains.severity (Output.condemns_of_error (Report.read_of_error parsed read))
  | versionless o members report parsed read blank d complains =>
    exact tells_of_condemning complains.severity
      (Output.condemns_of_versionless (Report.read_of_ok parsed read) (Report.version?_eq_none_iff.mpr blank))
  | reported o members report v parsed read version inked =>
    have version : report.version? = some v := Report.version?_eq_some_iff.mpr ⟨version, inked⟩
    rw [← Report.offenses_eq]
    exact tells_of_report (Report.read_of_ok parsed read) version

theorem tells_of_finds (finds : Finds file course found) : Tells (lintCode found) course := by
  cases finds with
  | spared => constructor <;> simp [lintCode]
  | blank d complains => constructor <;> simp [lintCode, complains.severity]
  | unstartable => constructor <;> simp [lintCode, failureCode]
  | ended e found notices verdict => exact tells_of_verdict verdict

end

/-! ### What is printed -/

/-- The line with which a diagnostic is printed as text. -/
def headline (file : Path) (d : Diagnostic) : String :=
  file.text ++ ":" ++ positionText d.range.start ++ ": " ++ d.severity.name ++ ": " ++ d.excerpt ++ "\n"

/-- A text that shows just these diagnostics: a block for each of them, in their order, and their number. -/
def ShowsText (file : Path) (ds : List Diagnostic) (text : String) : Prop :=
  ∃ blocks : List String, text = String.join blocks ++ ("\nChecked " ++ file.text ++ ", found " ++
      counted ds.length "offense" ++ "\n") ∧
    List.Forall₂ (fun block d => ∃ more, block = headline file d ++ more) blocks ds

/-- A JSON text that shows just these diagnostics, in their order. -/
def ShowsJson (ds : List Diagnostic) (text : String) : Prop :=
  ∃ value elements, Value.parse text = .ok value ∧ value.get? "diagnostics" = some (.array elements) ∧
    List.Forall₂ (fun element d => Diagnostic.shape.fromValue element = .ok d) elements ds

theorem findingText_eq (file : Path) (f : Finding) :
    ∃ more, findingText file f = headline file f.diagnostic ++ more := by
  refine ⟨(f.diagnostic.url.elim "" fun u => "  " ++ u ++ "\n") ++
    (f.description.elim "" fun d => String.join ((linesOf d).map fun l => "    " ++ l ++ "\n")), ?_⟩
  rw [findingText, String.append_assoc]
  rfl

theorem showsText_render (file : Path) (findings : List Finding) :
    ShowsText file (findings.map Finding.diagnostic) (render .text file findings) := by
  refine ⟨findings.map (findingText file), ?_, ?_⟩
  · simp only [render, renderText, String.append_assoc, List.length_map]
  · rw [List.forall₂_map_left_iff, List.forall₂_map_right_iff, List.forall₂_same]
    exact fun f _ => findingText_eq file f

theorem showsJson_render (file : Path) (findings : List Finding) :
    ShowsJson (findings.map Finding.diagnostic) (render .json file findings) := by
  have lineFeed : Json.Cursor.Spaces ['\n'] := List.forall_mem_singleton.mpr rfl
  have printed := (plain_report file findings).parse_pretty lineFeed
  rw [String.ofList_append] at printed
  refine ⟨report file findings, findings.map Finding.toJson, printed, Value.get?_ofMembers _ _, ?_⟩
  rw [List.forall₂_map_left_iff, List.forall₂_map_right_iff, List.forall₂_same]
  exact fun f _ => f.fromValue_toJson

theorem length_describeAll (now : Nat) (fetched : StyleGuide.Fetched) (shelf : StyleGuide.Shelf)
    (ds : List Diagnostic) : (describeAll now fetched shelf ds).length = ds.length := by
  induction ds generalizing shelf with
  | nil => rfl
  | cons d ds ih =>
    unfold describeAll
    split <;> simp [ih]

theorem diagnostics_findingsOf (wanted : Bool) (now : Nat) (fetched : StyleGuide.Fetched) (ds : List Diagnostic) :
    (findingsOf wanted now fetched ds).map Finding.diagnostic = ds := by
  unfold findingsOf
  split
  · rw [← List.map_uncurry_zip_eq_zipWith, List.map_map]
    exact List.map_fst_zip (Nat.le_of_eq (length_describeAll now fetched .empty ds).symm)
  · rw [List.map_map]
    exact List.map_id ds

theorem path_of_bufferFor? {t : FileTree} {input : List UInt8} {file : Path} {fromInput : Bool} {b : Buffer}
    (readable : bufferFor? t input file fromInput = some b) :
    b.path = some (Path.absolute (currentDirectory t) file) := by
  unfold bufferFor? at readable
  dsimp only at readable
  split at readable
  · obtain ⟨text, -, rfl⟩ := Option.map_eq_some_iff.mp readable
    rfl
  · obtain ⟨text, -, rfl⟩ := Option.map_eq_some_iff.mp readable
    rfl

namespace Run

/-- What the lint of a run has found; with nothing found there is nothing to print. -/
def found? (r : Run) : Option (List Diagnostic) :=
  match r.call? with
  | some (.analysis (.finished found)) => found
  | _ => none

section
variable {r : Run} {file : Path} {fromInput : Bool} {format : Format} {wanted : Bool}

private theorem analysisFinished_of_isOver {l : Linter} {b : Buffer} (prepared : r.prepared? = some (l, .analyze b))
    (isOver : r.isOver = true) :
    r.call? = some (.analysis (.finished r.found?)) ∧
      ∃ now, Heeds l r.around b now r.heard r.hearing (.finished r.found?) r.effects := by
  obtain ⟨x, now, call, heeds⟩ := heeds_of_prepared prepared
  rw [Run.isOver, call] at isOver
  cases x with
  | finished found =>
    have same : r.found? = found := by rw [found?, call]
    rw [same]
    exact ⟨call, now, heeds⟩
  | _ => cases isOver

theorem result_of_finished (isLint : r.action = .lint file fromInput format wanted)
    (call : r.call? = some (.analysis (.finished r.found?))) :
    r.result = ⟨lintCode r.found?,
      r.found?.elim "" fun ds => render format file (findingsOf wanted r.clock r.fetched ds)⟩ := by
  rw [result, isLint, call]
  rfl

theorem call?_congr {r' : Run} {format' : Format} {wanted' : Bool}
    (isLint : r.action = .lint file fromInput format wanted)
    (isLint' : r'.action = .lint file fromInput format' wanted') (options : r'.options = r.options)
    (input : r'.input = r.input) (around : r'.around = r.around) (heard : r'.heard = r.heard) :
    r'.call? = r.call? := by
  have prepared : r'.prepared? = r.prepared? := by
    rw [prepared?, prepared?, isLint, isLint', options, input, around]
    rfl
  rw [call?, call?, session?, session?, prepared, around, heard]

theorem exitCode_congr {r' : Run} {format' : Format} {wanted' : Bool}
    (isLint : r.action = .lint file fromInput format wanted)
    (isLint' : r'.action = .lint file fromInput format' wanted') (same : r'.call? = r.call?) :
    r'.result.exitCode = r.result.exitCode := by
  rw [result, result, isLint, isLint', same]
  cases r.call? with
  | none => rfl
  | some a =>
    cases a with
    | analysis x => cases x <;> rfl
    | _ => rfl

theorem call?_of_found? {ds : List Diagnostic} (found : r.found? = some ds) :
    r.call? = some (.analysis (.finished r.found?)) := by
  unfold found? at found ⊢
  split at found
  · rename_i isOver
    rw [isOver]
  · cases found

theorem stdout_shows {ds : List Diagnostic} (isLint : r.action = .lint file fromInput format wanted)
    (found : r.found? = some ds) :
    (format = .text → ShowsText file ds r.result.stdout) ∧ (format = .json → ShowsJson ds r.result.stdout) := by
  have all := diagnostics_findingsOf wanted r.clock r.fetched ds
  have printed : r.result.stdout = render format file (findingsOf wanted r.clock r.fetched ds) := by
    rw [result_of_finished isLint (call?_of_found? found), found]
    rfl
  rw [printed]
  constructor
  · rintro rfl
    have shows := showsText_render file (findingsOf wanted r.clock r.fetched ds)
    rwa [all] at shows
  · rintro rfl
    have shows := showsJson_render file (findingsOf wanted r.clock r.fetched ds)
    rwa [all] at shows

/-- The exit code of a lint says how the lint has gone, and nothing else.

A run that lints a buffer comes to its end, each signal that it awaits bringing it nearer. It fails at once if the
configuration cannot be used. Otherwise it takes one of the courses of `Went` for the linter with that configuration,
and its exit code is two if the tool cannot be started, fails or times out, one if there is no command or the tool's
output condemns the file, and else zero. Whatever is wanted of the printing, the exit code and what is found are the
same, and each format shows just that. -/
theorem exit_follows_lint (r : Run) (file : Path) (fromInput : Bool) (format : Format) (wanted : Bool) (b : Buffer)
    (isLint : r.action = .lint file fromInput format wanted)
    (readable : bufferFor? r.around.files r.input file fromInput = some b) :
    (r.isOver = true ∨ ∃ signal, r.Awaits signal) ∧
    (∀ moment signal, r.Awaits signal → (r.hears moment signal).waits < r.waits) ∧
    (∀ p, r.options.loadConfig r.around.files = .error p →
      r.isOver = true ∧ r.found? = none ∧ r.result.exitCode = 2) ∧
    (∀ c, r.options.loadConfig r.around.files = .ok c → r.isOver = true →
      let l : Linter := { Linter.ofConfig c with root := some (currentDirectory r.around.files) }
      ∃ course, Went l r.around b r.hearing r.effects course ∧
        (∀ other, Went l r.around b r.hearing r.effects other → other = course) ∧
        Tells r.result.exitCode course) ∧
    ∀ format' wanted' clock' fetched',
      let other : Run :=
        { r with action := .lint file fromInput format' wanted', clock := clock', fetched := fetched' }
      other.isOver = r.isOver ∧ other.found? = r.found? ∧ other.result.exitCode = r.result.exitCode ∧
        ∀ ds, r.found? = some ds →
          (format' = .text → ShowsText file ds other.result.stdout) ∧
          (format' = .json → ShowsJson ds other.result.stdout) := by
  refine ⟨isOver_or_awaits r, fun moment signal awaits => waits_hears moment awaits, ?_, ?_, ?_⟩
  · intro p faulty
    have unprepared : r.prepared? = none := by
      have unmade : linterFor? r.options r.around.files = none := linterFor?_eq_none_iff.mpr ⟨p, faulty⟩
      cases prepared : r.prepared? with
      | none => rfl
      | some made =>
        obtain ⟨-, -, isLinter, -⟩ := (prepared?_lint isLint).mp prepared
        rw [unmade] at isLinter
        cases isLinter
    obtain ⟨call, failed⟩ := exitCode_of_unprepared unprepared
    refine ⟨?_, ?_, failed⟩
    · rw [Run.isOver, call]
      rfl
    · rw [found?, call]
  · intro c loaded isOver l
    have made : linterFor? r.options r.around.files =
        some { Linter.ofConfig c with root := some (currentDirectory r.around.files) } := by
      rw [linterFor?, loaded]
      rfl
    have prepared := (prepared?_lint isLint).mpr ⟨b, readable, made, rfl⟩
    obtain ⟨call, now, heeds⟩ := analysisFinished_of_isOver prepared isOver
    obtain ⟨course, went, finds⟩ := heeds.went (path_of_bufferFor? readable)
    refine ⟨course, went, fun other went' => went.unique went', ?_⟩
    rw [result_of_finished isLint call]
    exact tells_of_finds finds
  · intro format' wanted' clock' fetched' other
    have isLint' : other.action = .lint file fromInput format' wanted' := rfl
    have same : other.call? = r.call? := call?_congr isLint isLint' rfl rfl rfl rfl
    have found : other.found? = r.found? := by rw [found?, same, found?]
    refine ⟨?_, found, exitCode_congr isLint isLint' same, fun ds isFound => stdout_shows isLint' (found.trans isFound)⟩
    rw [Run.isOver, same, Run.isOver]

end

/-! ### An offense without a name for its severity -/

/-- The tool has found one offense, and does not say how severe it is. -/
def nameless : Output where
  stdout := "\x7b\"metadata\":\x7b\"rubocop_version\":\"1.0.0\"\x7d," ++
    "\"files\":[\x7b\"offenses\":[\x7b\"message\":\"odd\",\"cop_name\":\"Lint/Odd\"\x7d]\x7d]\x7d"
  stderr := ""
  exitCode := some 1

def linting : Run where
  options := ⟨none, false, none, false, false, none⟩
  action := .lint ⟨"/a.rb"⟩ false .text false
  input := []
  around := yard
  heard := [(yard, .programEnded (.output nameless))]
  clock := 0
  fetched := .ok ""

/-- The same run, but with the descriptions and in JSON. -/
def describing : Run := { linting with action := .lint ⟨"/a.rb"⟩ false .json true }

theorem exit_follows_lint_nameless :
    linting.isOver = true ∧ (∃ course, Tells linting.result.exitCode course) ∧
      linting.result.exitCode = 1 ∧ describing.result.exitCode = 1 ∧
      ∃ ds, linting.found? = some ds ∧ ds.length = 1 ∧ ShowsText ⟨"/a.rb"⟩ ds linting.result.stdout ∧
        ShowsJson ds describing.result.stdout := by
  have isOver : linting.isOver = true := by decide +kernel
  have readable : bufferFor? yard.files [] ⟨"/a.rb"⟩ false = some (.saved ⟨"/a.rb"⟩ "puts") := by decide +kernel
  have loaded : linting.options.loadConfig yard.files = .ok Config.default := rfl
  have code : linting.result.exitCode = 1 := by decide +kernel
  have found : linting.found?.any (fun ds => ds.length = 1) = true := by decide +kernel
  obtain ⟨ds, found, one⟩ := (Option.any_eq_true _ _).mp found
  obtain ⟨-, -, -, courses, others⟩ :=
    exit_follows_lint linting ⟨"/a.rb"⟩ false .text false (.saved ⟨"/a.rb"⟩ "puts") rfl readable
  obtain ⟨course, -, -, tells⟩ := courses Config.default loaded isOver
  obtain ⟨-, -, -, texts⟩ := others .text false 0 (.ok "")
  obtain ⟨-, -, same, values⟩ := others .json true 0 (.ok "")
  exact ⟨isOver, ⟨course, tells⟩, code, same.trans code, ds, found, of_decide_eq_true one,
    (texts ds found).1 rfl, (values ds found).2 rfl⟩

end Run
end CommandLine
end LintBridge
