import LintBridge.Proofs.Linter.Starts
import LintBridge.Proofs.Linter.Verdicts

/-!
What a correction may come to, and what the user is told with it.

`Correction.Verdict` says this for each end of the tool, and `Correction.Stands` for the correction as a whole.
A correction has no key, so that no other call can end it: each of its steps leads from one row of `Stands` to
another, whatever has happened to the linter in between. `Reported` is what all rows at which it is over have in
common.
-/

set_option autoImplicit false
set_option relaxedAutoImplicit false

namespace LintBridge

open Json (Value)
open Analysis (Heard lastSeen lastSeen_snoc)

/-! ### What has been started -/

/-- The runs of the tool among what a call does. A probe is not one of them. -/
def toolStarts (effects : List Effect) : List Request :=
  effects.filterMap fun
    | .start .probed _ => none
    | .start _ request => some request
    | .notify _ => none

@[simp] theorem toolStarts_nil : toolStarts [] = [] := rfl

@[simp] theorem toolStarts_append (first second : List Effect) :
    toolStarts (first ++ second) = toolStarts first ++ toolStarts second := List.filterMap_append

@[simp] theorem toolStarts_probe (probe : Option Request) :
    toolStarts (probe.toList.map (.start .probed)) = [] := by
  cases probe <;> rfl

@[simp] theorem toolStarts_cons_notify (notice : Notice) (rest : List Effect) :
    toolStarts (.notify notice :: rest) = toolStarts rest := rfl

@[simp] theorem toolStarts_cons_polled (r : Request) (rest : List Effect) :
    toolStarts (.start .polled r :: rest) = r :: toolStarts rest := rfl

@[simp] theorem toolStarts_cons_awaited (r : Request) (rest : List Effect) :
    toolStarts (.start .awaited r :: rest) = r :: toolStarts rest := rfl

@[simp] theorem toolStarts_notify (notices : List Notice) : toolStarts (notices.map .notify) = [] := by
  simp [toolStarts]

/-! ### What has been heard -/

/-- The first end of a program that is heard of. A call without a ticket is not told to stop, and so does not
listen to that. -/
def Analysis.Heard.ending? (heard : Heard) : Option Ending :=
  heard.findSome? fun
    | (_, .programEnded .stopped) => none
    | (_, .programEnded e) => some e
    | _ => none

/-- What a call has heard before it has started its tool, and since. -/
structure Hearing where
  waited : Heard
  since : Heard

namespace Hearing

def fresh : Hearing := ⟨[], []⟩

/-- What a call has heard when it hears more. It depends on what the call has done by then to which part that
belongs. -/
def hear (h : Hearing) (done : List Effect) (more : Heard) : Hearing :=
  if toolStarts done = [] then { h with waited := h.waited ++ more } else { h with since := h.since ++ more }

@[simp] theorem hear_nil (h : Hearing) (done : List Effect) : h.hear done [] = h := by
  simp [hear]

theorem hear_waiting {done : List Effect} (unstarted : toolStarts done = []) (waited since more : Heard) :
    hear ⟨waited, since⟩ done more = ⟨waited ++ more, since⟩ := if_pos unstarted

theorem hear_since {done : List Effect} (started : toolStarts done ≠ []) (waited since more : Heard) :
    hear ⟨waited, since⟩ done more = ⟨waited, since ++ more⟩ := if_neg started

end Hearing

namespace Correction

/-! ### When the tool has ended -/

/-- What a correction comes to with the end of its tool, and what the user is told. -/
inductive Verdict (trigger : Trigger) : Ending → Option FixSummary → List Notice → Prop
  | timedOut : Verdict trigger .timedOut none [.timedOut]
  | failed (p : Problem) : Verdict trigger (.failed p) none [.unexpected p]
  /-- What the tool has printed is no JSON object: it speaks for itself. -/
  | noObject (o : Output) (unlike : ∀ members, Value.parse o.stdout ≠ .ok (.object members)) :
      Verdict trigger (.output o) none
        [.failure "Rubocop: Parse error" (Report.complaint o.stdout o.stderr)]
  | misshapen (o : Output) (members : List (String × Value)) (wrong : Json.Mismatch)
      (parsed : Value.parse o.stdout = .ok (.object members))
      (read : Report.record.ofValue (.object members) = .error wrong) :
      Verdict trigger (.output o) none [.failure "Rubocop: Parse error" wrong.message]
  | clean (o : Output) (report : Report) (read : Report.read o.stdout o.stderr = .ok report)
      (free : report.offenseCount = 0) :
      Verdict trigger (.output o) (some report.summary) [.plain .info "Linter-Rubocop: No fixes were made"]
  /-- A save that has found offenses says nothing. -/
  | quiet (o : Output) (report : Report) (read : Report.read o.stdout o.stderr = .ok report)
      (found : report.offenseCount ≠ 0) (saved : trigger = .save) :
      Verdict trigger (.output o) (some report.summary) []
  | allCorrected (o : Output) (report : Report) (read : Report.read o.stdout o.stderr = .ok report)
      (found : report.offenseCount ≠ 0) (all : report.offenseCount ≤ UInt64.ofNat report.correctedCount)
      (asked : trigger = .command) :
      Verdict trigger (.output o) (some report.summary) [.plain .success report.summary.message]
  | partlyCorrected (o : Output) (report : Report) (read : Report.read o.stdout o.stderr = .ok report)
      (found : report.offenseCount ≠ 0) (part : ¬ report.offenseCount ≤ UInt64.ofNat report.correctedCount)
      (asked : trigger = .command) :
      Verdict trigger (.output o) (some report.summary) [.plain .info report.summary.message]

section
variable {trigger : Trigger} {e : Ending} {summary : Option FixSummary} {notices : List Notice}

private theorem verdict_ofReport (trigger : Trigger) (o : Output) {report : Report}
    (read : Report.read o.stdout o.stderr = .ok report) :
    Verdict trigger (.output o) (some report.summary) (report.summary.notices trigger) := by
  by_cases free : report.offenseCount = 0
  · have outcome : report.summary.outcome = .noOffenses := if_pos free
    have notices : report.summary.notices trigger =
        [.plain .info "Linter-Rubocop: No fixes were made"] := by
      simp [FixSummary.notices, FixSummary.message, outcome]
    rw [notices]
    exact .clean o report read free
  · by_cases all : report.offenseCount ≤ UInt64.ofNat report.correctedCount
    · have outcome : report.summary.outcome = .allCorrected := (if_neg free).trans (if_pos all)
      simp only [FixSummary.notices, outcome]
      cases trigger with
      | save => exact .quiet o report read free rfl
      | command => exact .allCorrected o report read free all rfl
    · have outcome : report.summary.outcome = .partlyCorrected := (if_neg free).trans (if_neg all)
      simp only [FixSummary.notices, outcome]
      cases trigger with
      | save => exact .quiet o report read free rfl
      | command => exact .partlyCorrected o report read free all rfl

private theorem verdict_ofOutput (trigger : Trigger) (o : Output) :
    Verdict trigger (.output o) (ofResult trigger (.ok (some o))).1 (ofResult trigger (.ok (some o))).2 := by
  unfold ofResult
  by_cases object : ∃ members, Value.parse o.stdout = .ok (.object members)
  · obtain ⟨members, parsed⟩ := object
    cases read : Report.record.ofValue (.object members) with
    | error wrong =>
      simp only [Report.read_of_error parsed read]
      exact .misshapen o members wrong parsed read
    | ok report =>
      have read : Report.read o.stdout o.stderr = .ok report := Report.read_of_ok parsed read
      simp only [read]
      exact verdict_ofReport trigger o read
  · simp only [Report.read_of_noObject (not_exists.mp object)]
    exact .noObject o (not_exists.mp object)

theorem verdict_of_ending (trigger : Trigger) (ended : e ≠ .stopped) :
    Verdict trigger e (ofResult trigger e.result).1 (e.notices ++ (ofResult trigger e.result).2) := by
  cases e with
  | output o => exact verdict_ofOutput trigger o
  | failed p => exact .failed p
  | timedOut => exact .timedOut
  | stopped => exact absurd rfl ended

end

/-! ### The whole correction -/

/-- The plan of a correction that is called for a buffer, if the buffer is not refused and its file not to be left
alone. -/
structure Planned (l : Linter) (around : Surroundings) (b : Buffer) (p : Plan) : Prop where
  stored : b.path = some p.file
  accepted : b.refusal? = none
  wanted : ¬ l.Spares around.files p.file
  planned : p =
    ⟨p.file, l.workingDir p.file, l.effectiveConfig around.files p.file, ["--auto-correct", p.file.text], none⟩

/-- The run of the tool that such a plan comes to, after what the correction has heard while it waited. -/
structure Ordered (l : Linter) (around : Surroundings) (b : Buffer) (p : Plan) (waited : Heard) (r : Request) :
    Prop extends Planned l around b p where
  made : ∃ through, p.request through none = .ok r ∧ (through ≠ p.config.useBundler → p.Asks)
  prompt : waited ≠ [] → p.Asks

/-- Where a correction of a buffer stands, and what it has done by then. What counts is the linter and what there
was around it when the correction was called, and what it has heard since. -/
inductive Stands (l : Linter) (around : Surroundings) (b : Buffer) (trigger : Trigger) :
    Hearing → Correction → List Effect → Prop
  | pathless (heard : Heard) (scratch : b.path = none) :
      Stands l around b trigger ⟨heard, []⟩ (finished none) []
  | refused (heard : Heard) (file : Path) (stored : b.path = some file) (notice : Notice)
      (refusal : b.refusal? = some notice) :
      Stands l around b trigger ⟨heard, []⟩ (finished none) [.notify notice]
  | spared (heard : Heard) (file : Path) (stored : b.path = some file) (accepted : b.refusal? = none)
      (spares : l.Spares around.files file) :
      Stands l around b trigger ⟨heard, []⟩ (finished none) []
  | asking (heard : Heard) (p : Plan) (planned : Planned l around b p) (asks : p.Asks) (i : Bundler.Inquiry)
      (unanswered : ∀ bundled, i ≠ .answered bundled) (probe : Option Request) :
      Stands l around b trigger ⟨heard, []⟩ (asking p trigger i) (probe.toList.map (.start .probed))
  | blank (heard : Heard) (p : Plan) (planned : Planned l around b p)
      (blank : ∀ c ∈ p.config.command.toList, Text.isBlank c = true) (probe : Option Request) :
      Stands l around b trigger ⟨heard, []⟩ (finished none)
        (probe.toList.map (.start .probed) ++ [.notify (.unexpected .noCommand)])
  /-- The tool is tried when the correction need not wait any longer, and cannot be started. -/
  | unstartable (waited rest : Heard) (p : Plan) (r : Request) (ordered : Ordered l around b p waited r)
      (fault : SystemError) (denied : (lastSeen around waited).startFault r = some fault)
      (probe : Option Request) :
      Stands l around b trigger ⟨waited ++ rest, []⟩ (finished none)
        (probe.toList.map (.start .probed) ++ [.notify (.unexpected (.spawn r.program fault.message))])
  | running (waited since : Heard) (p : Plan) (r : Request) (ordered : Ordered l around b p waited r)
      (granted : (lastSeen around waited).startFault r = none) (unended : since.ending? = none)
      (probe : Option Request) :
      Stands l around b trigger ⟨waited, since⟩ (running trigger)
        (probe.toList.map (.start .probed) ++ [.start .polled r])
  | ended (waited since : Heard) (p : Plan) (r : Request) (ordered : Ordered l around b p waited r)
      (granted : (lastSeen around waited).startFault r = none) (e : Ending) (told : since.ending? = some e)
      (summary : Option FixSummary) (notices : List Notice) (verdict : Verdict trigger e summary notices)
      (probe : Option Request) :
      Stands l around b trigger ⟨waited, since⟩ (finished summary)
        (probe.toList.map (.start .probed) ++ [.start .polled r] ++ notices.map .notify)

section
variable {l l' : Linter} {around moment : Surroundings} {b : Buffer} {trigger : Trigger} {p : Plan}
  {waited : Heard} {h : Hearing} {c : Correction} {effects : List Effect} {summary : Option FixSummary}

private theorem stands_launch (planned : Planned l around b p) (probe : Option Request) (through : Bool)
    (settled : through ≠ p.config.useBundler → p.Asks) (prompt : waited ≠ [] → p.Asks)
    (seen : lastSeen around waited = moment) :
    Stands l around b trigger ⟨waited, []⟩ (launch moment p trigger through l').state
      (probe.toList.map (.start .probed) ++ (launch moment p trigger through l').effects) := by
  unfold launch
  split
  · rename_i e failed
    obtain ⟨blank, rfl⟩ := Plan.request_eq_error_iff.mp failed
    exact .blank waited p planned blank probe
  · rename_i r made
    have ordered : Ordered l around b p waited r := ⟨planned, ⟨through, made, settled⟩, prompt⟩
    split
    · rename_i fault denied
      rw [← seen] at denied
      rw [← List.append_nil waited]
      exact .unstartable waited [] p r ordered fault denied probe
    · rename_i granted
      rw [← seen] at granted
      exact .running waited [] p r ordered granted rfl probe

private theorem stands_afterAsking (planned : Planned l around b p) (asks : p.Asks) (i : Bundler.Inquiry)
    (probe : Option Request) :
    Stands l around b trigger .fresh (afterAsking around p trigger i probe l').state
      (afterAsking around p trigger i probe l').effects := by
  unfold afterAsking
  split
  · rename_i bundled
    exact stands_launch planned none bundled (fun _ => asks) (fun _ => asks) rfl
  · rename_i unanswered
    exact .asking [] p planned asks i unanswered probe

theorem stands_start (l : Linter) (around : Surroundings) (b : Buffer) (trigger : Trigger) :
    Stands l around b trigger .fresh (start around b trigger l).state (start around b trigger l).effects := by
  unfold start
  split
  · rename_i scratch
    exact .pathless [] scratch
  · rename_i file stored
    split
    · rename_i notice refusal
      exact .refused [] file stored notice refusal
    · rename_i accepted
      rcases l.plan?_cases around.files file (arguments file) none with ⟨unplanned, spares⟩ | ⟨made, wanted⟩
      · rw [unplanned]
        exact .spared [] file stored accepted spares
      · rw [made]
        have planned : Planned l around b
            ⟨file, l.workingDir file, l.effectiveConfig around.files file, arguments file, none⟩ :=
          ⟨stored, accepted, wanted, rfl⟩
        dsimp only
        split
        · rename_i always
          exact stands_launch planned none true (fun other => absurd always.symm other)
            (fun waited => absurd rfl waited) rfl
        · rename_i notAlways
          have notAlways := Bool.eq_false_iff.mpr notAlways
          split
          · rename_i detects
            exact stands_afterAsking planned ⟨notAlways, detects⟩ _ _
          · exact stands_launch planned none false (fun other => absurd notAlways.symm other)
              (fun waited => absurd rfl waited) rfl

theorem ending?_append (heard more : Heard) :
    Heard.ending? (heard ++ more) = heard.ending?.or (Heard.ending? more) := List.findSome?_append

theorem Stands.stays (stands : Stands l around b trigger h (finished summary) effects) (more : Heard) :
    Stands l around b trigger (h.hear effects more) (finished summary) effects := by
  cases stands with
  | pathless _ scratch => exact .pathless _ scratch
  | refused _ file stored notice refusal => exact .refused _ file stored notice refusal
  | spared _ file stored accepted spares => exact .spared _ file stored accepted spares
  | blank _ p planned blank probe =>
    rw [Hearing.hear_waiting (by simp)]
    exact .blank _ p planned blank probe
  | unstartable waited rest p r ordered fault denied probe =>
    rw [Hearing.hear_waiting (by simp), List.append_assoc]
    exact .unstartable waited (rest ++ more) p r ordered fault denied probe
  | ended waited since p r ordered granted e told summary notices verdict probe =>
    rw [Hearing.hear_since (by simp)]
    refine .ended waited (since ++ more) p r ordered granted e ?_ summary notices verdict probe
    rw [ending?_append, told, Option.some_or]

/-- Each step of a correction leads it from where it stands to where it may stand next. -/
theorem Stands.step (stands : Stands l around b trigger h c effects) (signal : Signal) :
    Stands l around b trigger (h.hear effects [(moment, signal)]) (c.step moment signal l').state
      (effects ++ (c.step moment signal l').effects) := by
  cases c with
  | asking p _ i =>
    cases stands with
    | asking heard _ planned asks _ unanswered probe =>
      have goesOn (bundled : Bool) (l' : Linter) :
          Stands l around b trigger ⟨heard ++ [(moment, signal)], []⟩ (launch moment p trigger bundled l').state
            (probe.toList.map (.start .probed) ++ (launch moment p trigger bundled l').effects) :=
        stands_launch planned probe bundled (fun _ => asks) (fun _ => asks) (lastSeen_snoc around moment heard signal)
      have waitsOn : Stands l around b trigger ⟨heard ++ [(moment, signal)], []⟩ (.asking p trigger i)
          (probe.toList.map (.start .probed)) := .asking _ p planned asks i unanswered probe
      rw [Hearing.hear_waiting (toolStarts_probe probe)]
      unfold Correction.step
      split
      · rename_i same
        cases same
        exact goesOn _ _
      · rename_i same
        cases same
        split
        · exact goesOn _ _
        · rwa [List.append_nil]
      · rename_i same
        cases same
      · rwa [List.append_nil]
  | running _ =>
    cases stands with
    | running waited since p r ordered granted unended probe =>
      have started : toolStarts (probe.toList.map (.start .probed) ++ [.start .polled r]) ≠ [] := by simp
      have goesOn (unheard : Heard.ending? [(moment, signal)] = none) :
          Stands l around b trigger ⟨waited, since ++ [(moment, signal)]⟩ (.running trigger)
            (probe.toList.map (.start .probed) ++ [.start .polled r]) :=
        .running waited _ p r ordered granted (by rw [ending?_append, unended, unheard, Option.or_none]) probe
      rw [Hearing.hear_since started]
      cases signal with
      | programEnded e =>
        rw [Correction.step]
        split
        · rename_i stopped
          subst stopped
          rw [List.append_nil]
          exact goesOn rfl
        · rename_i told
          refine .ended waited _ p r ordered granted e ?_ _ _ (verdict_of_ending trigger told) probe
          rw [ending?_append, unended, Option.none_or]
          cases e <;> first | rfl | exact absurd rfl told
      | _ =>
        simp only [Correction.step, List.append_nil]
        exact goesOn rfl
  | finished summary =>
    have idle : (finished summary).step moment signal l' = ⟨l', finished summary, []⟩ := rfl
    rw [idle, List.append_nil]
    exact stands.stays _

/-! ### What the user is told -/

/-- For such a buffer the tool is not even tried. -/
inductive Barred (l : Linter) (around : Surroundings) (b : Buffer) : Prop
  | scratch (pathless : b.path = none)
  | edited (modified : b.modified = true)
  | empty (nothing : b.text = "")
  | spared (file : Path) (stored : b.path = some file) (spares : l.Spares around.files file)
  | unnamed (file : Path) (stored : b.path = some file)
      (blank : ∀ c ∈ (l.effectiveConfig around.files file).command.toList, Text.isBlank c = true)

private theorem Ordered.not_barred {r : Request} (ordered : Ordered l around b p waited r) :
    ¬ Barred l around b := by
  obtain ⟨⟨stored, accepted, wanted, planned⟩, ⟨through, made, -⟩, -⟩ := ordered
  rintro (pathless | modified | nothing | ⟨file, isStored, spares⟩ | ⟨file, isStored, blank⟩)
  · rw [pathless] at stored
    cases stored
  · rw [Buffer.refusal?, if_pos modified] at accepted
    cases accepted
  · rw [Buffer.refusal?, nothing] at accepted
    split at accepted <;> cases accepted
  · rw [stored] at isStored
    cases isStored
    exact wanted spares
  · rw [stored] at isStored
    cases isStored
    have config : p.config = l.effectiveConfig around.files p.file := congrArg Plan.config planned
    rw [← config] at blank
    rw [Plan.request_eq_error_iff.mpr ⟨blank, rfl⟩] at made
    cases made

/-- Which runs of its tool a correction of a buffer may start: one at most, on the file and with nothing to read. -/
structure StartsOnce (l : Linter) (around : Surroundings) (b : Buffer) (starts : List Request) : Prop where
  atMostOne : starts.length ≤ 1
  fitting : ∀ r ∈ starts, r.input = none ∧ ∃ file, b.path = some file ∧ ["--auto-correct", file.text] <:+ r.args
  unbarred : Barred l around b → starts = []

/-- What a correction that is over has told the user, beside what it has found. -/
structure Reported (l : Linter) (around : Surroundings) (b : Buffer) (trigger : Trigger) (ending : Option Ending)
    (summary : Option FixSummary) (notices : List Notice) : Prop where
  /-- There is a summary exactly if the tool was started, has ended in time and has printed a report. -/
  some_iff : ∀ s, summary = some s ↔ ∃ o report, ending = some (.output o) ∧
    Report.read o.stdout o.stderr = .ok report ∧ s = report.summary
  atMostOne : notices.length ≤ 1
  /-- Nothing is said only if there is no file, or the file is to be left alone, or a save has found offenses. -/
  silent_iff : notices = [] ↔ b.path = none ∨
    (b.refusal? = none ∧ ∃ file, b.path = some file ∧ l.Spares around.files file) ∨
    trigger = .save ∧ ∃ s, summary = some s ∧ s.offenseCount ≠ 0
  kind_of_none : summary = none → ∀ notice ∈ notices,
    notice.kind = if ending = some .timedOut then .info else .error
  kind_of_some : ∀ s, summary = some s → ∀ notice ∈ notices,
    notice.kind = if s.offenseCount ≠ 0 ∧ s.offenseCount ≤ s.corrected then .success else .info

/-- The end of the tool that a correction has started. -/
def toolEnding? (h : Hearing) (effects : List Effect) : Option Ending :=
  if toolStarts effects = [] then none else h.since.ending?

theorem refusal?_kind {notice : Notice} (refusal : b.refusal? = some notice) : notice.kind = .error := by
  unfold Buffer.refusal? at refusal
  split at refusal
  · cases refusal
    rfl
  · split at refusal <;> cases refusal
    rfl

theorem Stands.startsOnce (stands : Stands l around b trigger h c effects) :
    StartsOnce l around b (toolStarts effects) := by
  have unstarted : StartsOnce l around b [] := ⟨Nat.zero_le 1, by simp, fun _ => rfl⟩
  have started {p : Plan} {waited : Heard} {r : Request} (ordered : Ordered l around b p waited r) :
      StartsOnce l around b [r] := by
    refine ⟨Nat.le_refl 1, ?_, fun barred => absurd barred ordered.not_barred⟩
    intro r' isIn
    cases List.mem_singleton.mp isIn
    obtain ⟨through, made, -⟩ := ordered.made
    obtain ⟨args, input⟩ := Plan.args_of_request made
    rw [ordered.planned] at args input
    exact ⟨input, p.file, ordered.stored, (List.suffix_append _ _).trans args⟩
  cases stands with
  | running waited since p r ordered granted unended probe => simpa using started ordered
  | ended waited since p r ordered granted e told summary notices verdict probe => simpa using started ordered
  | _ => simpa using unstarted

/-! A verdict tells what is told with it. -/

section
variable {e : Ending} {notices : List Notice}

theorem Verdict.some_iff (verdict : Verdict trigger e summary notices) (s : FixSummary) :
    summary = some s ↔ ∃ o report, e = .output o ∧ Report.read o.stdout o.stderr = .ok report ∧
      s = report.summary := by
  have unread (o : Output) (p : Problem) (read : Report.read o.stdout o.stderr = .error p) :
      none = some s ↔ ∃ o' report, Ending.output o = .output o' ∧
        Report.read o'.stdout o'.stderr = .ok report ∧ s = report.summary := by simp [read]
  have summed (o : Output) (report : Report) (read : Report.read o.stdout o.stderr = .ok report) :
      some report.summary = some s ↔ ∃ o' report, Ending.output o = .output o' ∧
        Report.read o'.stdout o'.stderr = .ok report ∧ s = report.summary := by simp [read, eq_comm]
  cases verdict with
  | timedOut => simp
  | failed p => simp
  | noObject o unlike => exact unread o _ (Report.read_of_noObject unlike)
  | misshapen o members wrong parsed read => exact unread o _ (Report.read_of_error parsed read)
  | clean o report read => exact summed o report read
  | quiet o report read => exact summed o report read
  | allCorrected o report read => exact summed o report read
  | partlyCorrected o report read => exact summed o report read

/-- Something is said once, unless a save has found offenses. -/
theorem Verdict.told (verdict : Verdict trigger e summary notices) :
    notices.length ≤ 1 ∧
      (notices = [] ↔ trigger = .save ∧ ∃ s, summary = some s ∧ s.offenseCount ≠ 0) := by
  cases verdict <;> simp_all [Report.summary]

theorem Verdict.kind_of_none (verdict : Verdict trigger e none notices) :
    ∀ notice ∈ notices, notice.kind = if e = .timedOut then .info else .error := by
  cases verdict <;> simp [Notice.timedOut, Notice.unexpected, Notice.failure]

theorem Verdict.kind_of_some {s : FixSummary} (verdict : Verdict trigger e (some s) notices) :
    ∀ notice ∈ notices,
      notice.kind = if s.offenseCount ≠ 0 ∧ s.offenseCount ≤ s.corrected then .success else .info := by
  cases verdict <;> simp_all [Report.summary, Notice.plain]

end

private theorem Planned.not_spared (planned : Planned l around b p) :
    ¬ ∃ file, b.path = some file ∧ l.Spares around.files file := by
  rintro ⟨file, stored, spares⟩
  rw [planned.stored] at stored
  cases stored
  exact planned.wanted spares

private theorem reported_failed (trigger : Trigger) {notice : Notice} (isError : notice.kind = .error) (stored : b.path ≠ none)
    (wanted : b.refusal? = none → ¬ ∃ file, b.path = some file ∧ l.Spares around.files file) :
    Reported l around b trigger none none [notice] where
  some_iff := by simp
  atMostOne := Nat.le_refl 1
  silent_iff := by
    refine ⟨fun silent => absurd silent (List.cons_ne_nil _ _), ?_⟩
    rintro (pathless | ⟨accepted, spared⟩ | ⟨-, s, done, -⟩)
    · exact absurd pathless stored
    · exact absurd spared (wanted accepted)
    · cases done
  kind_of_none := by simp [isError]
  kind_of_some := by simp

theorem Stands.reported (stands : Stands l around b trigger h (finished summary) effects) :
    Reported l around b trigger (toolEnding? h effects) summary (noticesIn effects) := by
  cases stands with
  | pathless _ scratch => constructor <;> simp [toolEnding?, scratch]
  | refused _ file stored notice refusal =>
    exact reported_failed trigger (refusal?_kind refusal) (by simp [stored]) (by simp [refusal])
  | spared _ file stored accepted spares => constructor <;> simp [toolEnding?, stored, accepted, spares]
  | blank _ p planned blank probe =>
    have isError : (Notice.unexpected .noCommand).kind = .error := rfl
    simpa [toolEnding?] using reported_failed trigger isError (by simp [planned.stored]) fun _ => planned.not_spared
  | unstartable waited rest p r ordered fault denied probe =>
    have isError : (Notice.unexpected (.spawn r.program fault.message)).kind = .error := rfl
    simpa [toolEnding?] using reported_failed trigger isError (by simp [ordered.stored]) fun _ => ordered.not_spared
  | ended waited since p r ordered granted e told summary notices verdict probe =>
    have ending : toolEnding? ⟨waited, since⟩
        (probe.toList.map (.start .probed) ++ [.start .polled r] ++ notices.map .notify) = some e := by
      simp [toolEnding?, told]
    have said : noticesIn (probe.toList.map (.start .probed) ++ [.start .polled r] ++ notices.map .notify) =
        notices := by simp
    rw [ending, said]
    obtain ⟨atMostOne, silent_iff⟩ := verdict.told
    constructor
    · simpa using verdict.some_iff
    · exact atMostOne
    · simpa [ordered.stored, fun spares => ordered.wanted spares] using silent_iff
    · rintro rfl
      simpa using verdict.kind_of_none
    · rintro s rfl
      exact verdict.kind_of_some

/-! ### That it comes to an end -/

end

/-- The signals that a correction goes on with: that its probe is over, that the answer of another one's probe is
known, or that its tool is over. -/
inductive Awaits (l : Linter) : Correction → Signal → Prop
  | probe (p : Plan) (trigger : Trigger) (n : Nat) (succeeded : Bool) :
      Awaits l (asking p trigger (.probing n)) (.probeEnded succeeded)
  | answer (p : Plan) (trigger : Trigger) (n : Nat) (bundled : Bool) (known : l.bundles.awaited? n = some bundled) :
      Awaits l (asking p trigger (.waiting n)) .answerKnown
  | ending (trigger : Trigger) (e : Ending) (told : e ≠ .stopped) : Awaits l (running trigger) (.programEnded e)

/-- How many signals a correction may have to wait for. -/
def waits : Correction → Nat
  | asking _ _ _ => 2
  | running _ => 1
  | finished _ => 0

private theorem waits_launch (s : Surroundings) (p : Plan) (trigger : Trigger) (through : Bool) (l : Linter) :
    (launch s p trigger through l).state.waits ≤ 1 := by
  unfold launch
  split
  · exact Nat.zero_le 1
  · split
    · exact Nat.zero_le 1
    · exact Nat.le_refl 1

theorem waits_step {l : Linter} {c : Correction} {signal : Signal} (moment : Surroundings)
    (awaits : c.Awaits l signal) : (c.step moment signal l).state.waits < c.waits := by
  cases awaits with
  | probe p trigger n succeeded => exact Nat.lt_succ_of_le (waits_launch _ _ _ _ _)
  | answer p trigger n bundled known =>
    rw [step, known]
    exact Nat.lt_succ_of_le (waits_launch _ _ _ _ _)
  | ending trigger e told =>
    rw [step, if_neg told]
    exact Nat.one_pos

end Correction
end LintBridge
