import LintBridge.Proofs.Command
import LintBridge.Proofs.Linter.Tickets

/-!
What an analysis may come to, and what the user is told with it.

`Analysis.Verdict` says this for each end of the tool, and `Analysis.Stands` for the analysis as a whole, from
what there was when it was called and what it has heard since. Both speak of the tool's output, the files and
the configuration, and not of the linter's own steps. `Stands.step` is where they meet: as long as nobody has
taken the key of an analysis, each of its steps leads from one row of `Stands` to another.
-/

set_option autoImplicit false
set_option relaxedAutoImplicit false

namespace LintBridge

open Json (Value)

/-- A command line cannot be put together exactly if the command is blank, and that is what is said then. -/
theorem Plan.request_eq_error_iff {p : Plan} {useBundler : Bool} {key : Option String} {e : Problem} :
    p.request useBundler key = .error e ↔
      (∀ c ∈ p.config.command.toList, Text.isBlank c = true) ∧ e = .noCommand := by
  unfold Plan.request
  cases resolved : Command.resolve p.config.command useBundler p.config.useRubocopCache p.extra with
  | error e' =>
    obtain ⟨blank, rfl⟩ := Command.resolve_eq_error_iff.mp resolved
    constructor
    · rintro ⟨⟩
      exact ⟨blank, rfl⟩
    · rintro ⟨-, rfl⟩
      rfl
  | ok line =>
    obtain ⟨program, args, rfl, -⟩ := Command.exists_cons_of_resolve resolved
    constructor
    · rintro ⟨⟩
    · rintro ⟨blank, -⟩
      rw [Command.resolve_eq_error_iff.mpr ⟨blank, rfl⟩] at resolved
      cases resolved

/-- Whether the command goes through Bundler has to be asked: the configuration leaves it open. -/
def Plan.Asks (p : Plan) : Prop := p.config.useBundler = false ∧ p.config.detectBundler = true

namespace Linter

variable {l : Linter} {t : FileTree} {file : Path}

/-- A file is left alone if the configuration says so for files without a RuboCop configuration, and there is
none in its directory or above. -/
def Spares (l : Linter) (t : FileTree) (file : Path) : Prop :=
  (l.effectiveConfig t file).disableWhenNoConfigFile = true ∧
    ∀ dir ∈ t.searched file, t.isFile (dir.join ⟨rubocopConfigFile⟩) = false

theorem isEnabled_eq_false_iff : isEnabled (l.effectiveConfig t file) t file = false ↔ l.Spares t file := by
  simp [isEnabled, Spares, FileTree.findUpward?]

/-- The plan to lint a buffer, as things are when the analysis is called. -/
def planFor (l : Linter) (t : FileTree) (b : Buffer) (file : Path) : Plan :=
  ⟨file, l.workingDir file, l.effectiveConfig t file, (Analysis.source b file).1, (Analysis.source b file).2⟩

theorem plan?_cases (l : Linter) (t : FileTree) (file : Path) (extra : List String) (input : Option String) :
    (l.plan? t file extra input = none ∧ l.Spares t file) ∨
    (l.plan? t file extra input = some ⟨file, l.workingDir file, l.effectiveConfig t file, extra, input⟩ ∧
      ¬ l.Spares t file) := by
  rw [← isEnabled_eq_false_iff]
  cases enabled : isEnabled (l.effectiveConfig t file) t file <;> simp [plan?, enabled]

theorem plan?_source (l : Linter) (t : FileTree) (file : Path) (b : Buffer) :
    (l.plan? t file (Analysis.source b file).1 (Analysis.source b file).2 = none ∧ l.Spares t file) ∨
    (l.plan? t file (Analysis.source b file).1 (Analysis.source b file).2 = some (l.planFor t b file) ∧
      ¬ l.Spares t file) :=
  l.plan?_cases t file (Analysis.source b file).1 (Analysis.source b file).2

end Linter

namespace Report

variable {output errors : String} {r : Report} {v : String}

theorem read_of_ok {members : List (String × Value)} (parsed : Value.parse output = .ok (.object members))
    (shaped : record.ofValue (.object members) = .ok r) : read output errors = .ok r := by
  rw [read, parsed]
  dsimp only
  rw [shaped]

theorem read_of_error {members : List (String × Value)} {wrong : Json.Mismatch}
    (parsed : Value.parse output = .ok (.object members))
    (misshapen : record.ofValue (.object members) = .error wrong) :
    read output errors = .error (.parse wrong.message) := by
  rw [read, parsed]
  dsimp only
  rw [misshapen]

theorem read_of_noObject (unlike : ∀ members, Value.parse output ≠ .ok (.object members)) :
    read output errors = .error (.parse (complaint output errors)) := by
  unfold read
  split
  · rename_i members parsed
    exact absurd parsed (unlike members)
  · rfl

theorem version?_eq_some_iff :
    r.version? = some v ↔ r.toolVersion = some v ∧ ∃ c ∈ v.toList, Text.isBlank c = false := by
  simp [version?, Option.filter_eq_some_iff, Text.hasInk]

theorem version?_eq_none_iff :
    r.version? = none ↔ ∀ v, r.toolVersion = some v → ∀ c ∈ v.toList, Text.isBlank c = true := by
  simp [version?, Option.filter_eq_none_iff, Text.hasInk]

theorem offenses_eq : r.offenses = r.files.head?.elim [] FileReport.offenses := by
  unfold offenses
  split <;> rename_i files <;> rw [files] <;> rfl

end Report

/-- The notices among what a call does. -/
def noticesIn (effects : List Effect) : List Notice :=
  effects.filterMap fun
    | .notify notice => some notice
    | _ => none

@[simp] theorem noticesIn_nil : noticesIn [] = [] := rfl

@[simp] theorem noticesIn_cons_notify (notice : Notice) (rest : List Effect) :
    noticesIn (.notify notice :: rest) = notice :: noticesIn rest := rfl

@[simp] theorem noticesIn_cons_start (manner : Manner) (request : Request) (rest : List Effect) :
    noticesIn (.start manner request :: rest) = noticesIn rest := rfl

@[simp] theorem noticesIn_append (first second : List Effect) :
    noticesIn (first ++ second) = noticesIn first ++ noticesIn second := List.filterMap_append

@[simp] theorem noticesIn_notify (notices : List Notice) : noticesIn (notices.map .notify) = notices := by
  induction notices with
  | nil => rfl
  | cons notice rest ih => rw [List.map_cons, noticesIn_cons_notify, ih]

@[simp] theorem noticesIn_start (manner : Manner) (requests : List Request) :
    noticesIn (requests.map (.start manner)) = [] := by
  induction requests with
  | nil => rfl
  | cons request rest ih => rw [List.map_cons, noticesIn_cons_start, ih]

/-- What a complaint about a whole file says: an error at the file's first character, and nothing but the
text. -/
structure Diagnostic.Complains (d : Diagnostic) (file : Path) (text : String) : Prop where
  excerpt : d.excerpt = text
  severity : d.severity = .error
  located : d.file = file
  range : d.range = ⟨⟨0, 0⟩, ⟨0, 1⟩⟩
  bare : d.cop = none ∧ d.url = none

theorem Diagnostic.complains_topOfFile (file : Path) (text : String) : (topOfFile file text).Complains file text :=
  ⟨rfl, rfl, rfl, rfl, rfl, rfl⟩

namespace Analysis

/-! ### When the tool has ended -/

/-- What an analysis of a file comes to with the end of its tool, and what the user is told. -/
inductive Verdict (file : Path) : Ending → Option (List Diagnostic) → List Notice → Prop
  | timedOut : Verdict file .timedOut none [.timedOut]
  | failed (p : Problem) : Verdict file (.failed p) none [.unexpected p]
  /-- What the tool has printed is no JSON object: it speaks for itself. -/
  | noObject (o : Output) (unlike : ∀ members, Value.parse o.stdout ≠ .ok (.object members)) (d : Diagnostic)
      (complains : d.Complains file (Report.complaint o.stdout o.stderr)) :
      Verdict file (.output o) (some [d]) []
  | misshapen (o : Output) (members : List (String × Value)) (wrong : Json.Mismatch)
      (parsed : Value.parse o.stdout = .ok (.object members))
      (read : Report.record.ofValue (.object members) = .error wrong) (d : Diagnostic)
      (complains : d.Complains file wrong.message) :
      Verdict file (.output o) (some [d]) []
  | versionless (o : Output) (members : List (String × Value)) (report : Report)
      (parsed : Value.parse o.stdout = .ok (.object members))
      (read : Report.record.ofValue (.object members) = .ok report)
      (blank : ∀ v, report.toolVersion = some v → ∀ c ∈ v.toList, Text.isBlank c = true) (d : Diagnostic)
      (complains : d.Complains file Problem.missingVersion.message) :
      Verdict file (.output o) (some [d]) []
  | reported (o : Output) (members : List (String × Value)) (report : Report) (v : String)
      (parsed : Value.parse o.stdout = .ok (.object members))
      (read : Report.record.ofValue (.object members) = .ok report)
      (version : report.toolVersion = some v) (inked : ∃ c ∈ v.toList, Text.isBlank c = false) :
      Verdict file (.output o)
        (some <| (report.files.head?.elim [] FileReport.offenses).map fun o => o.toDiagnostic (.ofVersion v) file)
        []

section
variable {file : Path} {e : Ending} {found : Option (List Diagnostic)} {notices : List Notice}

private theorem verdict_ofOutput (file : Path) (o : Output) :
    Verdict file (.output o) (some (ofOutput file o)) [] := by
  unfold ofOutput Output.diagnostics
  by_cases object : ∃ members, Value.parse o.stdout = .ok (.object members)
  · obtain ⟨members, parsed⟩ := object
    cases read : Report.record.ofValue (.object members) with
    | error wrong =>
      rw [Report.read_of_error parsed read]
      exact .misshapen o members wrong parsed read _ (Diagnostic.complains_topOfFile file _)
    | ok report =>
      rw [Report.read_of_ok parsed read]
      simp only [bind, Except.bind]
      cases version : report.version? with
      | none =>
        exact .versionless o members report parsed read (Report.version?_eq_none_iff.mp version) _
          (Diagnostic.complains_topOfFile file _)
      | some v =>
        obtain ⟨written, inked⟩ := Report.version?_eq_some_iff.mp version
        have reported : Verdict file (.output o) (some (diagnosticsOf v file report.offenses)) [] := by
          rw [Report.offenses_eq]
          exact .reported o members report v parsed read written inked
        exact reported
  · rw [Report.read_of_noObject (not_exists.mp object)]
    exact .noObject o (not_exists.mp object) _ (Diagnostic.complains_topOfFile file _)

/-- Whatever the end of the tool, there is a verdict, and the analysis finds it. -/
theorem verdict_of_ending (file : Path) (ended : e ≠ .stopped) :
    Verdict file e (ofResult file e.result).1 (e.notices ++ (ofResult file e.result).2) := by
  cases e with
  | output o => exact verdict_ofOutput file o
  | failed p => exact .failed p
  | timedOut => exact .timedOut
  | stopped => exact absurd rfl ended

theorem Verdict.told (verdict : Verdict file e found notices) :
    (found = none ↔ notices ≠ []) ∧ notices.length ≤ 1 ∧ ∀ ds, found = some ds → ∀ d ∈ ds, d.file = file := by
  cases verdict with
  | timedOut => simp
  | failed p => simp
  | noObject o unlike d complains => simp [complains.located]
  | misshapen o members wrong parsed read d complains => simp [complains.located]
  | versionless o members report parsed read blank d complains => simp [complains.located]
  | reported o members report v parsed read version inked => simp [Offense.toDiagnostic]

end

/-! ### The whole analysis -/

/-- What a call has heard, each time with what there was around it. -/
abbrev Heard := List (Surroundings × Signal)

/-- What there was around a call when it heard last. -/
def lastSeen (around : Surroundings) (heard : Heard) : Surroundings :=
  (heard.getLast?.map Prod.fst).getD around

@[simp] theorem lastSeen_snoc (around moment : Surroundings) (heard : Heard) (signal : Signal) :
    lastSeen around (heard ++ [(moment, signal)]) = moment := by
  simp [lastSeen]

/-- What a call has heard does not say that its program has ended. -/
def Heard.Unended (heard : Heard) : Prop := ∀ moment e, (moment, Signal.programEnded e) ∈ heard → e = .stopped

theorem Heard.Unended.snoc {heard : Heard} {moment : Surroundings} {signal : Signal} (unended : heard.Unended)
    (asks : ∀ e, signal = .programEnded e → e = .stopped) : Heard.Unended (heard ++ [(moment, signal)]) := by
  intro m e isIn
  rcases List.mem_append.mp isIn with isIn | isIn
  · exact unended m e isIn
  · cases List.mem_singleton.mp isIn
    exact asks e rfl

/-- The plan of an analysis that is called for a buffer, if its file is not to be left alone. -/
structure Planned (l : Linter) (around : Surroundings) (b : Buffer) (p : Plan) : Prop where
  stored : b.path = some p.file
  wanted : ¬ l.Spares around.files p.file
  planned : p = l.planFor around.files b p.file

/-- The run of the tool that such a plan comes to, after what the analysis has heard while it waited. -/
structure Ordered (l : Linter) (around : Surroundings) (b : Buffer) (p : Plan) (waited : Heard) (r : Request) :
    Prop extends Planned l around b p where
  made : ∃ through, p.request through (some (key p.file)) = .ok r ∧ (through ≠ p.config.useBundler → p.Asks)
  prompt : waited ≠ [] → p.Asks

/-- Where an analysis of a buffer stands, and what it has done by then. What counts is the linter and what there
was around it when the analysis was called, and what it has heard since. -/
inductive Stands (l : Linter) (around : Surroundings) (b : Buffer) : Heard → Analysis → List Effect → Prop
  | pathless (heard : Heard) (scratch : b.path = none) : Stands l around b heard (finished none) []
  | spared (heard : Heard) (file : Path) (stored : b.path = some file) (spares : l.Spares around.files file) :
      Stands l around b heard (finished (some [])) []
  | asking (heard : Heard) (p : Plan) (planned : Planned l around b p) (asks : p.Asks) (i : Bundler.Inquiry)
      (unanswered : ∀ bundled, i ≠ .answered bundled) (probe : Option Request) :
      Stands l around b heard (asking p i) (probe.toList.map (.start .probed))
  | blank (heard : Heard) (p : Plan) (planned : Planned l around b p)
      (blank : ∀ c ∈ p.config.command.toList, Text.isBlank c = true) (d : Diagnostic)
      (complains : d.Complains p.file Problem.noCommand.message) (probe : Option Request) :
      Stands l around b heard (finished (some [d])) (probe.toList.map (.start .probed))
  /-- The tool is tried when the analysis need not wait any longer, and cannot be started. -/
  | unstartable (waited rest : Heard) (p : Plan) (r : Request) (ordered : Ordered l around b p waited r)
      (fault : SystemError) (refused : (lastSeen around waited).startFault r = some fault)
      (probe : Option Request) :
      Stands l around b (waited ++ rest) (finished none)
        (probe.toList.map (.start .probed) ++ [.notify (.unexpected (.spawn r.program fault.message))])
  | running (waited since : Heard) (p : Plan) (r : Request) (ordered : Ordered l around b p waited r)
      (granted : (lastSeen around waited).startFault r = none) (unended : since.Unended) (t : Ticket)
      (probe : Option Request) :
      Stands l around b (waited ++ since) (running p.file t)
        (probe.toList.map (.start .probed) ++ [.start .awaited r])
  | ended (waited since rest : Heard) (p : Plan) (r : Request) (ordered : Ordered l around b p waited r)
      (granted : (lastSeen around waited).startFault r = none) (unended : since.Unended)
      (moment : Surroundings) (e : Ending) (told : e ≠ .stopped) (found : Option (List Diagnostic))
      (notices : List Notice) (verdict : Verdict p.file e found notices) (probe : Option Request) :
      Stands l around b (waited ++ since ++ (moment, .programEnded e) :: rest) (finished found)
        (probe.toList.map (.start .probed) ++ [.start .awaited r] ++ notices.map .notify)

section
variable {l l' : Linter} {around moment : Surroundings} {b : Buffer} {p : Plan} {heard : Heard} {x : Analysis}
  {effects : List Effect} {found : Option (List Diagnostic)}

private theorem stands_launch (planned : Planned l around b p) (probe : Option Request) (through : Bool)
    (settled : through ≠ p.config.useBundler → p.Asks) (prompt : heard ≠ [] → p.Asks)
    (seen : lastSeen around heard = moment) :
    Stands l around b heard (launch moment p through l').state
      (probe.toList.map (.start .probed) ++ (launch moment p through l').effects) := by
  unfold launch
  split
  · rename_i e failed
    obtain ⟨blank, rfl⟩ := Plan.request_eq_error_iff.mp failed
    rw [List.append_nil]
    exact .blank heard p planned blank _ (Diagnostic.complains_topOfFile p.file _) probe
  · rename_i r made
    have ordered : Ordered l around b p heard r := ⟨planned, ⟨through, made, settled⟩, prompt⟩
    dsimp only
    split
    · rename_i fault refused
      rw [← seen] at refused
      have stands := Stands.unstartable heard [] p r ordered fault refused probe
      rw [List.append_nil] at stands
      simpa [conclude, Registry.conclude, Registry.isCurrent_take, RunResult.judged, Ending.result, ofResult,
        Ending.notices] using stands
    · rename_i granted
      rw [← seen] at granted
      have stands := Stands.running heard [] p r ordered granted (fun _ _ => by simp)
        (l'.registry.take (key p.file)).1 probe
      rwa [List.append_nil] at stands

private theorem stands_afterAsking (planned : Planned l around b p) (asks : p.Asks) (i : Bundler.Inquiry)
    (probe : Option Request) :
    Stands l around b [] (afterAsking around p i probe l').state (afterAsking around p i probe l').effects := by
  unfold afterAsking
  split
  · rename_i bundled
    exact stands_launch planned none bundled (fun _ => asks) (fun _ => asks) rfl
  · rename_i unanswered
    exact .asking [] p planned asks i unanswered probe

theorem stands_start (l : Linter) (around : Surroundings) (b : Buffer) :
    Stands l around b [] (start around b l).state (start around b l).effects := by
  unfold start
  split
  · rename_i scratch
    exact .pathless [] scratch
  · rename_i file stored
    dsimp only
    rcases Linter.plan?_source l around.files file b with ⟨unplanned, spares⟩ | ⟨made, wanted⟩
    · rw [unplanned]
      exact .spared [] file stored spares
    · rw [made]
      have planned : Planned l around b (l.planFor around.files b file) := ⟨stored, wanted, rfl⟩
      dsimp only
      split
      · rename_i always
        exact stands_launch planned none true (fun other => absurd always.symm other)
          (fun waited => absurd rfl waited) rfl
      · rename_i notAlways
        have notAlways := Bool.eq_false_iff.mpr notAlways
        split
        · rename_i detects
          exact stands_afterAsking planned ⟨notAlways, detects⟩ _ _
        · exact stands_launch planned none false (fun other => absurd notAlways.symm other)
            (fun waited => absurd rfl waited) rfl

theorem Stands.stays (stands : Stands l around b heard (finished found) effects) (more : Heard) :
    Stands l around b (heard ++ more) (finished found) effects := by
  cases stands with
  | pathless _ scratch => exact .pathless _ scratch
  | spared _ file stored spares => exact .spared _ file stored spares
  | blank _ p planned blank d complains probe => exact .blank _ p planned blank d complains probe
  | unstartable waited rest p r ordered fault refused probe =>
    rw [List.append_assoc]
    exact .unstartable waited (rest ++ more) p r ordered fault refused probe
  | ended waited since rest p r ordered granted unended moment e told found notices verdict probe =>
    rw [List.append_assoc, List.cons_append]
    exact .ended waited since (rest ++ more) p r ordered granted unended moment e told found notices verdict probe

/-- Each step of an analysis leads it from where it stands to where it may stand next, as long as nobody has
taken its key. -/
theorem Stands.step (stands : Stands l around b heard x effects) (signal : Signal)
    (current : ∀ t, x.ticket? = some t → l'.registry.isCurrent t = true)
    (undismissed : signal = .programEnded .stopped → ∀ t, x.ticket? = some t →
      l'.registry.isDismissed t = false) :
    Stands l around b (heard ++ [(moment, signal)]) (x.step moment signal l').state
      (effects ++ (x.step moment signal l').effects) := by
  unfold Analysis.step
  split
  · rename_i p n ok
    cases stands with
    | asking _ _ planned asks _ _ probe =>
      exact stands_launch planned probe ok (fun _ => asks) (fun _ => asks) (lastSeen_snoc _ _ _ _)
  · rename_i p n
    cases stands with
    | asking _ _ planned asks _ unanswered probe =>
      split
      · exact stands_launch planned probe _ (fun _ => asks) (fun _ => asks) (lastSeen_snoc _ _ _ _)
      · rw [List.append_nil]
        exact .asking _ p planned asks _ unanswered probe
  · rename_i file t e
    cases stands with
    | running waited since p r ordered granted unended _ probe =>
      by_cases told : e = .stopped
      · subst told
        rw [if_pos ⟨rfl, undismissed rfl t rfl⟩, List.append_nil, List.append_assoc]
        have stops : ∀ e, Signal.programEnded .stopped = .programEnded e → e = .stopped := by
          rintro _ ⟨⟩
          rfl
        exact .running waited _ p r ordered granted (unended.snoc stops) t probe
      · rw [if_neg fun both => told both.1]
        simp only [conclude, Registry.conclude, current t rfl, RunResult.judged, if_true]
        exact .ended waited since [] p r ordered granted unended moment e told _ _ (verdict_of_ending p.file told)
          probe
  · rename_i unheard
    rw [List.append_nil]
    cases x with
    | finished found => exact stands.stays _
    | asking p i =>
      cases stands with
      | asking _ _ planned asks _ unanswered probe => exact .asking _ p planned asks i unanswered probe
    | running file t =>
      cases stands with
      | running waited since p r ordered granted unended _ probe =>
        rw [List.append_assoc]
        exact .running waited _ p r ordered granted (unended.snoc fun e same => (unheard _ t e rfl same).elim) t
          probe

/-- What an analysis has found, beside what the user has been told by then. -/
structure Told (b : Buffer) (found : Option (List Diagnostic)) (notices : List Notice) : Prop where
  /-- Nothing is found exactly if there is no file, or the user has been told why. -/
  none_iff : found = none ↔ b.path = none ∨ notices ≠ []
  atMostOne : notices.length ≤ 1
  scratch : b.path = none → notices = []
  located : ∀ ds, found = some ds → ∀ d ∈ ds, b.path = some d.file

theorem Stands.told (stands : Stands l around b heard (finished found) effects) :
    Told b found (noticesIn effects) := by
  cases stands with
  | pathless _ scratch => constructor <;> simp [scratch]
  | spared _ file stored spares => constructor <;> simp [stored]
  | blank _ p planned blank d complains probe => constructor <;> simp [planned.stored, complains.located]
  | unstartable waited rest p r ordered fault refused probe => constructor <;> simp [ordered.stored]
  | ended waited since rest p r ordered granted unended moment e told found notices verdict probe =>
    obtain ⟨none_iff, atMostOne, located⟩ := verdict.told
    constructor
    · simp [ordered.stored, none_iff]
    · simpa using atMostOne
    · simp [ordered.stored]
    · intro ds some d isIn
      rw [ordered.stored, located ds some d isIn]

end

/-! ### That it comes to an end -/

/-- The signals that an analysis goes on with: that its probe is over, that the answer of another one's probe
is known, or that its tool is over. -/
inductive Awaits (l : Linter) : Analysis → Signal → Prop
  | probe (p : Plan) (n : Nat) (succeeded : Bool) : Awaits l (asking p (.probing n)) (.probeEnded succeeded)
  | answer (p : Plan) (n : Nat) (bundled : Bool) (known : l.bundles.awaited? n = some bundled) :
      Awaits l (asking p (.waiting n)) .answerKnown
  | ending (file : Path) (t : Ticket) (e : Ending) (told : e ≠ .stopped) :
      Awaits l (running file t) (.programEnded e)

/-- How many signals an analysis may have to wait for. -/
def waits : Analysis → Nat
  | asking _ _ => 2
  | running _ _ => 1
  | finished _ => 0

private theorem waits_launch (s : Surroundings) (p : Plan) (through : Bool) (l : Linter) :
    (launch s p through l).state.waits ≤ 1 := by
  unfold launch
  split
  · exact Nat.zero_le 1
  · dsimp only
    split
    · exact Nat.zero_le 1
    · exact Nat.le_refl 1

/-- With each signal that an analysis awaits, one less is left to wait for. -/
theorem waits_step {l : Linter} {x : Analysis} {signal : Signal} (moment : Surroundings)
    (awaits : x.Awaits l signal) : (x.step moment signal l).state.waits < x.waits := by
  cases awaits with
  | probe p n succeeded => exact Nat.lt_succ_of_le (waits_launch _ _ _ _)
  | answer p n bundled known =>
    rw [step, known]
    exact Nat.lt_succ_of_le (waits_launch _ _ _ _)
  | ending file t e told =>
    rw [step, if_neg fun ignored => told ignored.1]
    exact Nat.one_pos

end Analysis
end LintBridge
