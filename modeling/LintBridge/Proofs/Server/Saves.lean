import LintBridge.Proofs.Server.Saving
import LintBridge.Proofs.Server.Waiting

/-!
Whether saving a document has it linted.

Where files are not corrected when they are saved, the server lints the file at once. Where they are, the lint
comes after the correction, and only if the correction's tool has printed a report: a correction that is refused,
or is not to be made, or whose tool cannot be run, takes too long or prints something else, is the end of it.
-/

set_option autoImplicit false
set_option relaxedAutoImplicit false

namespace LintBridge.Server

/-! ### The lints of a piece of work -/

/-- What a deed begins to lint, and for which version. -/
def Deed.lint? : Deed → Option (Url × Option Int × Buffer)
  | .lint u version b => some (u, version, b)
  | _ => none

/-- What the work with a number has begun to lint, in order. -/
def lintsOf (n : Nat) (done : List (Nat × Deed)) : List (Url × Option Int × Buffer) :=
  done.filterMap fun p => if p.1 = n then p.2.lint? else none

def lintsIn (deeds : List Deed) : List (Url × Option Int × Buffer) := deeds.filterMap Deed.lint?

theorem lintsIn_append (first second : List Deed) : lintsIn (first ++ second) = lintsIn first ++ lintsIn second :=
  List.filterMap_append

theorem lintsIn_perform (effects : List Effect) (s : Server) : lintsIn (perform effects s).deeds = [] := by
  rw [lintsIn, List.filterMap_eq_nil_iff]
  intro d isIn
  obtain ⟨effect, -, isIn⟩ := List.mem_flatMap.mp isIn
  cases effect with
  | start m r =>
    cases List.mem_singleton.mp isIn
    rfl
  | notify notice =>
    dsimp only at isIn
    split at isIn
    · cases List.mem_singleton.mp isIn
      rfl
    · cases isIn

def LintsFile (u : Url) (file : Path) (lints : List (Url × Option Int × Buffer)) : Prop :=
  ∃ b, lints = [(u, none, b)] ∧ b.path = some file ∧ b.modified = false

theorem lintsOf_append (n : Nat) (first second : List (Nat × Deed)) :
    lintsOf n (first ++ second) = lintsOf n first ++ lintsOf n second := List.filterMap_append

theorem lintsOf_map (n : Nat) (deeds : List Deed) : lintsOf n (deeds.map (n, ·)) = lintsIn deeds := by
  rw [lintsOf, List.filterMap_map, lintsIn]
  congr 1
  funext d
  exact if_pos rfl

theorem lintsOf_eq_nil {n : Nat} {done : List (Nat × Deed)} (undone : ∀ d, (n, d) ∉ done) : lintsOf n done = [] := by
  rw [lintsOf, List.filterMap_eq_nil_iff]
  rintro ⟨m, d⟩ isIn
  refine if_neg fun same => ?_
  have same : m = n := same
  exact undone d (same ▸ isIn)

/-- The event ends the tool of the correction with the number, and the tool has printed a report. -/
def reports (n : Nat) (s : Server) (e : Event) : Bool :=
  match e, Keyed.get? n s.jobs with
  | .signal m (.programEnded (.output o)), some ⟨_, .fixing _ (.running _)⟩ =>
    m = n && (Report.read o.stdout o.stderr).toBool
  | _, _ => false

/-- In a history, the tool of the correction with the number ends and has printed a report. -/
def hasReported (n : Nat) : Server → History → Bool
  | _, [] => false
  | s, (around, e) :: rest => reports n s e || hasReported n (s.step around e).server rest

section
variable {around : Surroundings} {s : Server} {e : Event} {n : Nat} {isRequest : Bool} {u : Url} {file : Path}

/-! ### One step -/

/-- A piece of work that begins no more lints: it is over, or it is in its only one. -/
def Settled (n : Nat) (s : Server) : Prop :=
  Keyed.get? n s.jobs = none ∨
    ∃ isRequest u version a, Keyed.get? n s.jobs = some ⟨isRequest, .linting u version a []⟩

def Fixing (u : Url) (n : Nat) (s : Server) : Prop :=
  ∃ isRequest c, Keyed.get? n s.jobs = some ⟨isRequest, .fixing u c⟩ ∧ c.summary? = none

private theorem get?_keep (j : Job) (s : Server) : Keyed.get? n (keep n j s).server.jobs = some j := by
  have put := Keyed.get?_put n n j s.jobs
  rwa [if_pos rfl] at put

theorem settled_conclude (isRequest : Bool) (reply : Reply) (s : Server) : Settled n (conclude n isRequest reply s).server := by
  have erased := Keyed.get?_erase n n s.jobs
  rw [if_pos rfl] at erased
  exact .inl erased

private theorem lintsIn_of_does {left : Work → Prop} {t : Turn}
    (does : Does n t.deeds (fun d => d.lint? = none) left s t) : lintsIn t.deeds = [] := by
  rw [lintsIn, List.filterMap_eq_nil_iff]
  intro d isIn
  rcases (does fun _ isIn => isIn).deeds d isIn with talk | noLint
  · cases d with
    | lint v version b => cases talk
    | _ => rfl
  · exact noLint

theorem afterLint_last (n : Nat) (isRequest : Bool) (reply : Reply) (u : Url) (version : Option Int)
    (p : Progress Analysis) (s : Server) :
    let t := afterLint n isRequest u version [] (conclude n isRequest reply) p s
    Settled n t.server ∧ lintsIn t.deeds = [] := by
  intro t
  have does : Does n t.deeds (fun d => d.lint? = none) (fun _ => True) s t :=
    does_afterLint ⟨fun _ _ _ => rfl, fun _ => trivial⟩ (fun _ _ => rfl) fun s' _ => does_conclude n isRequest reply s'
  refine ⟨?_, lintsIn_of_does does⟩
  simp only [t, afterLint, Turn.andThen]
  split
  · exact settled_conclude isRequest reply _
  · exact .inr ⟨isRequest, u, version, _, get?_keep _ _⟩

private theorem lintStored_file {b : Buffer} (isBuffer : s.documents.buffer? u = some b) (stored : b.path = some file) :
    let t := lintStored around n isRequest u s
    Settled n t.server ∧ LintsFile u file (lintsIn t.deeds) := by
  intro t
  have begins : t = (afterLint n isRequest u none [] (conclude n isRequest (.ok .null))
      (Analysis.start around { b with modified := false } s.linter) s).after
      (.lint u none { b with modified := false }) := by
    simp only [t, lintStored, isBuffer, lint]
  obtain ⟨settled, noOther⟩ := afterLint_last n isRequest (.ok .null) u none
    (Analysis.start around { b with modified := false } s.linter) s
  rw [begins]
  refine ⟨settled, { b with modified := false }, ?_, stored, rfl⟩
  exact congrArg ((u, none, { b with modified := false }) :: ·) noOther

private theorem afterFix_file (around : Surroundings) (n : Nat) (isRequest : Bool) {b : Buffer}
    (isBuffer : s.documents.buffer? u = some b) (stored : b.path = some file) (p : Progress Correction) :
    let t := afterFix around n isRequest u p s
    (∃ summary, p.state = .finished (some summary)) ∧ Settled n t.server ∧ LintsFile u file (lintsIn t.deeds) ∨
      (¬ ∃ summary, p.state = .finished (some summary)) ∧ (Fixing u n t.server ∨ Settled n t.server) ∧
        lintsIn t.deeds = [] := by
  intro t
  let performed := perform p.effects { s with linter := p.linter }
  have deeds : ∀ f : Server → Turn, lintsIn (performed.andThen f).deeds = lintsIn (f performed.server).deeds := by
    intro f
    have split := lintsIn_append performed.deeds (f performed.server).deeds
    rwa [lintsIn_perform, List.nil_append] at split
  cases state : p.state with
  | finished summary =>
    cases summary with
    | none =>
      have ends : t = performed.andThen (conclude n isRequest (.ok .null)) := by
        simp only [t, afterFix, state, performed]
      rw [ends, deeds]
      refine .inr ⟨by simp, .inr (settled_conclude isRequest (.ok .null) performed.server), ?_⟩
      cases isRequest <;> rfl
    | some summary =>
      have relints : t = performed.andThen (lintStored around n isRequest u) := by
        simp only [t, afterFix, state, performed]
      rw [relints, deeds]
      exact .inl ⟨⟨summary, rfl⟩, lintStored_file isBuffer stored⟩
  | asking plan trigger i =>
    have waits : t = performed.andThen (keep n ⟨isRequest, .fixing u (.asking plan trigger i)⟩) := by
      simp only [t, afterFix, state, performed]
    rw [waits, deeds]
    exact .inr ⟨by simp, .inl ⟨isRequest, _, get?_keep _ _, rfl⟩, rfl⟩
  | running trigger =>
    have waits : t = performed.andThen (keep n ⟨isRequest, .fixing u (.running trigger)⟩) := by
      simp only [t, afterFix, state, performed]
    rw [waits, deeds]
    exact .inr ⟨by simp, .inl ⟨isRequest, _, get?_keep _ _, rfl⟩, rfl⟩

private theorem fix_file {b : Buffer} (isBuffer : s.documents.buffer? u = some b) (stored : b.path = some file)
    (trigger : Trigger) :
    let t := fix around n isRequest u trigger s
    (Fixing u n t.server ∨ Settled n t.server) ∧ lintsIn t.deeds = [] := by
  intro t
  have begins : t = (afterFix around n isRequest u (Correction.start around b trigger s.linter) s).after
      (.correct u trigger b) := by
    simp only [t, fix, isBuffer, fixBuffer]
  rw [begins]
  rcases afterFix_file around n isRequest isBuffer stored (Correction.start around b trigger s.linter) with
    ⟨⟨summary, finished⟩, -⟩ | ⟨-, stands, noLint⟩
  · exact absurd finished (Correction.summary_start around b trigger s.linter summary)
  · exact ⟨stands, noLint⟩

/-! ### Events -/

theorem reports_iff : reports n s e = true ↔ ∃ o isRequest u trigger report,
    e = .signal n (.programEnded (.output o)) ∧
      Keyed.get? n s.jobs = some ⟨isRequest, .fixing u (.running trigger)⟩ ∧
      Report.read o.stdout o.stderr = .ok report := by
  constructor
  · intro reported
    unfold reports at reported
    split at reported
    · rename_i m o isRequest u trigger found
      obtain ⟨same, read⟩ := Bool.and_eq_true_iff.mp reported
      obtain rfl := of_decide_eq_true same
      cases said : Report.read o.stdout o.stderr with
      | error p =>
        rw [said] at read
        cases read
      | ok report => exact ⟨o, isRequest, u, trigger, report, rfl, found, said⟩
    · cases reported
  · rintro ⟨o, isRequest, u, trigger, report, rfl, found, read⟩
    simp [reports, found, read, Except.toBool]

theorem reports_eq_false
    (otherwise : (∀ signal, e ≠ .signal n signal) ∨ ∀ isRequest u c, Keyed.get? n s.jobs ≠ some ⟨isRequest, .fixing u c⟩) :
    reports n s e = false := by
  rw [← Bool.not_eq_true, reports_iff]
  rintro ⟨o, isRequest, u, trigger, report, signalled, found, -⟩
  rcases otherwise with unsignalled | unfixed
  · exact unsignalled _ signalled
  · exact unfixed _ _ _ found

end

section
variable {s : Server} {n : Nat} {u : Url} {file : Path}

theorem lintsOf_signal (around : Surroundings) (signal : Signal) {j : Job} (found : Keyed.get? n s.jobs = some j) :
    s.step around (.signal n signal) = j.step around n signal s ∧
      lintsOf n (s.doneAt around (.signal n signal)) = lintsIn (j.step around n signal s).deeds := by
  have goesOn : s.step around (.signal n signal) = j.step around n signal s := by
    simp only [Server.step, found]
  refine ⟨goesOn, ?_⟩
  rw [doneAt, goesOn]
  exact lintsOf_map n _

theorem Settled.step (settled : Settled n s) (untimed : Untimed n s) (once : (Keyed.keys s.jobs).Nodup)
    (around : Surroundings) (e : Event) :
    Settled n (s.step around e).server ∧ lintsOf n (s.doneAt around e) = [] ∧ reports n s e = false := by
  by_cases signalled : ∃ signal, e = .signal n signal
  · obtain ⟨signal, rfl⟩ := signalled
    rcases settled with isOver | ⟨isRequest, u, version, a, lints⟩
    · have quiet : s.step around (.signal n signal) = .quiet s := by simp only [Server.step, isOver]
      refine ⟨quiet ▸ .inl isOver, ?_, reports_eq_false (.inr (by simp [isOver]))⟩
      rw [doneAt, quiet]
      rfl
    · obtain ⟨goesOn, begun⟩ := lintsOf_signal around signal lints
      obtain ⟨settled, noLint⟩ := afterLint_last n isRequest (.ok .null) u version
        (a.step around signal s.linter) s
      rw [goesOn, begun]
      exact ⟨settled, noLint, reports_eq_false (.inr (by simp [lints]))⟩
  · have unsignalled : ∀ signal, e ≠ .signal n signal := fun signal same => signalled ⟨signal, same⟩
    refine ⟨?_, lintsOf_eq_nil (untimed.undone around unsignalled), reports_eq_false (.inl unsignalled)⟩
    rcases untimed.waits once around unsignalled with ⟨jobs, -⟩ | ⟨-, -, isOver, -⟩
    · rw [Settled, jobs]
      exact settled
    · exact .inl isOver

/-- A correction goes on without a lint, until its tool has printed a report. -/
theorem Fixing.step (fixing : Fixing u n s) (located : u.filePath? = some file) (isOpen : s.documents.isOpen u = true)
    (untimed : Untimed n s) (once : (Keyed.keys s.jobs).Nodup) (around : Surroundings) (e : Event) :
    reports n s e = true ∧ Settled n (s.step around e).server ∧ LintsFile u file (lintsOf n (s.doneAt around e)) ∨
      reports n s e = false ∧ (Fixing u n (s.step around e).server ∨ Settled n (s.step around e).server) ∧
        lintsOf n (s.doneAt around e) = [] := by
  obtain ⟨isRequest, c, fixes, unfinished⟩ := fixing
  by_cases signalled : ∃ signal, e = .signal n signal
  · obtain ⟨signal, rfl⟩ := signalled
    obtain ⟨goesOn, begun⟩ := lintsOf_signal around signal fixes
    obtain ⟨b, isBuffer, stored⟩ := Documents.exists_buffer? located isOpen
    have reported : reports n s (.signal n signal) = true ↔
        ∃ summary, (c.step around signal s.linter).state = .finished (some summary) := by
      rw [Correction.finished_iff_report unfinished, reports_iff]
      constructor
      · rintro ⟨o, _, _, trigger, report, same, found, read⟩
        cases same
        cases fixes.symm.trans found
        exact ⟨trigger, o, report, rfl, rfl, read⟩
      · rintro ⟨trigger, o, report, rfl, rfl, read⟩
        exact ⟨o, isRequest, u, trigger, report, rfl, fixes, read⟩
    rw [goesOn, begun]
    rcases afterFix_file around n isRequest isBuffer stored
      (c.step around signal s.linter) with ⟨finished, lints⟩ | ⟨unreported, stands⟩
    · exact .inl ⟨reported.mpr finished, lints⟩
    · refine .inr ⟨?_, stands⟩
      rw [← Bool.not_eq_true]
      exact fun reports => unreported (reported.mp reports)
  · have unsignalled : ∀ signal, e ≠ .signal n signal := fun signal same => signalled ⟨signal, same⟩
    refine .inr ⟨reports_eq_false (.inl unsignalled), ?_, lintsOf_eq_nil (untimed.undone around unsignalled)⟩
    rcases untimed.waits once around unsignalled with ⟨jobs, -⟩ | ⟨-, -, isOver, -⟩
    · exact .inl ⟨isRequest, c, jobs.trans fixes, unfinished⟩
    · exact .inr (.inl isOver)

/-! ### Whole histories -/

theorem Settled.after (settled : Settled n s) (untimed : Untimed n s) (numbered : Numbered s) (history : History) :
    lintsOf n (s.done history) = [] ∧ hasReported n s history = false := by
  induction history generalizing s with
  | nil => exact ⟨rfl, rfl⟩
  | cons moment rest ih =>
    obtain ⟨around, e⟩ := moment
    obtain ⟨settled', noLint, unreported⟩ := settled.step untimed numbered.once around e
    obtain ⟨noLints, unreported'⟩ := ih settled' (untimed.step around e) (numbered.step around e)
    refine ⟨?_, ?_⟩
    · rw [done, lintsOf_append, noLint, noLints, List.append_nil]
    · rw [hasReported, unreported, unreported', Bool.or_false]

theorem isOpen_of_unclosed {e : Event} (isOpen : s.documents.isOpen u = true) (around : Surroundings)
    (unclosed : ∀ d, s.demand? e = some d → d.closes u = false) :
    (s.step around e).server.documents.isOpen u = true := by
  rw [isOpen_step]
  cases asked : s.demand? e with
  | none => exact isOpen
  | some d => simp [isOpen, unclosed d asked]

theorem Fixing.after (fixing : Fixing u n s) (located : u.filePath? = some file) (isOpen : s.documents.isOpen u = true)
    (untimed : Untimed n s) (numbered : Numbered s) (history : History)
    (unclosed : ∀ m d, (m, d) ∈ s.demands history → d.closes u = false) :
    if hasReported n s history then LintsFile u file (lintsOf n (s.done history))
    else lintsOf n (s.done history) = [] := by
  induction history generalizing s with
  | nil => exact rfl
  | cons moment rest ih =>
    obtain ⟨around, e⟩ := moment
    have untimed' := untimed.step around e
    have numbered' := numbered.step around e
    rw [done, lintsOf_append, hasReported]
    rcases fixing.step located isOpen untimed numbered.once around e with
      ⟨reported, settled, lints⟩ | ⟨unreported, fixing' | settled, noLint⟩
    · obtain ⟨noLints, -⟩ := settled.after untimed' numbered' rest
      rw [reported, Bool.true_or, if_pos rfl, noLints, List.append_nil]
      exact lints
    · have isOpen' := isOpen_of_unclosed isOpen around fun d asked =>
        unclosed s.next d (List.mem_append_left _ (mem_asks.mpr ⟨asked, rfl⟩))
      rw [unreported, Bool.false_or, noLint, List.nil_append]
      exact ih fixing' isOpen' untimed' numbered' fun m d isIn => unclosed m d (List.mem_append_right _ isIn)
    · obtain ⟨noLints, unreported'⟩ := settled.after untimed' numbered' rest
      rw [unreported, unreported', Bool.or_self, if_neg (by simp), noLint, noLints, List.append_nil]

/-- Saving an open document begins with the lint, or with the correction. -/
theorem begun_of_saved (around : Surroundings) {e : Event} {text : Option String}
    (saves : s.demand? e = some (.saved u text)) (located : u.filePath? = some file)
    (isOpen : s.documents.isOpen u = true) :
    let t := s.step around e
    if s.linter.config.fixOnSave then
      (Fixing u s.next t.server ∨ Settled s.next t.server) ∧ lintsOf s.next (s.doneAt around e) = []
    else Settled s.next t.server ∧ LintsFile u file (lintsOf s.next (s.doneAt around e)) := by
  intro t
  obtain ⟨m, rfl, -, served⟩ := served_of_demand around saves
  have stays : (s.documents.saved u text).isOpen u = true := by
    have saved := isOpen_amend (.saved u text) u s.documents
    rw [isOpen] at saved
    exact saved
  obtain ⟨b, isBuffer, stored⟩ := Documents.exists_buffer? located stays
  have deeds : lintsOf s.next (s.doneAt around (.message m)) = lintsIn t.deeds := lintsOf_map s.next t.deeds
  rw [deeds]
  simp only [t, served, serve]
  split
  · exact fix_file isBuffer stored .save
  · exact lintStored_file isBuffer stored

end

/-- Let an open document that is a file be saved, and stay open. If the client does not want files to be corrected
then, the server begins to lint the file, once. If it does, the server begins that lint exactly if the correction's
tool has printed a report; until then, and for all other ends of the correction, it begins no lint. -/
theorem save_lints_unless_correction_fails (front later : History) (around : Surroundings) (e : Event) (u : Url)
    (text : Option String) (file : Path) (saves : (fresh.after front).demand? e = some (.saved u text))
    (located : u.filePath? = some file) (isOpen : (fresh.after front).documents.isOpen u = true)
    (unclosed : ∀ m d, (m, d) ∈ (fresh.after front).demands ((around, e) :: later) → d.closes u = false) :
    let now := fresh.after front
    let whole := (around, e) :: later
    let lints := lintsOf now.next (now.done whole)
    if now.linter.config.fixOnSave = false ∨ hasReported now.next now whole = true then
      ∃ b, lints = [(u, none, b)] ∧ b.path = some file ∧ b.modified = false
    else lints = [] := by
  intro now whole lints
  have numbered : Numbered now := numbered_after front
  have untimed : Untimed now.next (now.step around e).server := untimed_of_demand numbered around saves rfl
  have numbered' := numbered.step around e
  have unsignalled : ∀ signal, e ≠ .signal now.next signal := by
    obtain ⟨m, rfl, -⟩ := served_of_demand around saves
    simp
  have reported : hasReported now.next now whole = hasReported now.next (now.step around e).server later := by
    rw [hasReported, reports_eq_false (.inl unsignalled), Bool.false_or]
  have split : lints = lintsOf now.next (now.doneAt around e) ++ lintsOf now.next ((now.step around e).server.done later) :=
    lintsOf_append _ _ _
  have begun := begun_of_saved around saves located isOpen
  rw [reported, split]
  cases wanted : now.linter.config.fixOnSave with
  | false =>
    rw [wanted, if_neg (by simp)] at begun
    obtain ⟨noLints, -⟩ := begun.1.after untimed numbered' later
    rw [if_pos (.inl rfl), noLints, List.append_nil]
    exact begun.2
  | true =>
    rw [wanted, if_pos rfl] at begun
    obtain ⟨stands, noLint⟩ := begun
    rw [noLint, List.nil_append]
    rcases stands with fixing | settled
    · have isOpen' := isOpen_of_unclosed isOpen around fun d asked =>
        unclosed now.next d (List.mem_append_left _ (mem_asks.mpr ⟨asked, rfl⟩))
      have lints := fixing.after located isOpen' untimed numbered' later fun m d isIn =>
        unclosed m d (List.mem_append_right _ isIn)
      simp only [Bool.true_eq_false, false_or]
      exact lints
    · obtain ⟨noLints, unreported⟩ := settled.after untimed numbered' later
      rw [unreported, noLints, if_neg (by simp)]

/-! ### Saving with corrections -/

/-- The client wants files to be corrected when they are saved. -/
def Event.greetingFixing : Event :=
  .request "initialize"
    [("capabilities", .ofMembers []),
      ("initializationOptions", .ofMembers [("rubocop", .ofMembers [("fixOnSave", .bool true)])])]

/-- The tool has failed, and has printed no report. -/
def Event.uncorrected : Event := .signal 2 (.programEnded (.output ⟨"", "An error occurred", some 2⟩))

def openedFixing : History := [(unbundled, .greetingFixing), (unbundled, .opening)]

/-- The document that is saved at the end of a history is an open file, and is not closed later. -/
def savesFile (history later : History) : Bool :=
  ((fresh.after history).demand? .saving).any fun d => d.saved?.any fun u =>
    u.filePath?.isSome && (fresh.after history).documents.isOpen u &&
      ((fresh.after history).demands ((unbundled, .saving) :: later)).all fun p => !p.2.closes u

theorem saved_of_savesFile {history later : History} (saves : savesFile history later = true) :
    ∃ u text file, (fresh.after history).demand? .saving = some (.saved u text) ∧ u.filePath? = some file ∧
      (fresh.after history).documents.isOpen u = true ∧
      ∀ m d, (m, d) ∈ (fresh.after history).demands ((unbundled, .saving) :: later) → d.closes u = false := by
  obtain ⟨d, isDemand, all⟩ := (Option.any_eq_true _ _).mp saves
  obtain ⟨u, saved, all⟩ := (Option.any_eq_true _ _).mp all
  obtain ⟨text, rfl⟩ := Demand.eq_of_saved? saved
  obtain ⟨both, unclosed⟩ := Bool.and_eq_true_iff.mp all
  obtain ⟨located, isOpen⟩ := Bool.and_eq_true_iff.mp both
  obtain ⟨file, located⟩ := Option.isSome_iff_exists.mp located
  refine ⟨u, text, file, isDemand, located, isOpen, ?_⟩
  intro m d isIn
  simpa using List.all_eq_true.mp unclosed (m, d) isIn

/-- The correction's tool prints a report, and the file is linted. -/
theorem save_lints_unless_correction_fails_corrected :
    ∃ u text b, (fresh.after openedFixing).demand? .saving = some (.saved u text) ∧
      lintsOf 2 ((fresh.after openedFixing).done [(unbundled, .saving), (unbundled, .corrected)]) = [(u, none, b)] ∧
      b.modified = false := by
  have next : (fresh.after openedFixing).next = 2 := by decide +kernel
  have reported : hasReported 2 (fresh.after openedFixing) [(unbundled, .saving), (unbundled, .corrected)] = true := by
    decide +kernel
  obtain ⟨u, text, file, saves, located, isOpen, unclosed⟩ :=
    saved_of_savesFile (by decide +kernel : savesFile openedFixing [(unbundled, .corrected)] = true)
  have lints := save_lints_unless_correction_fails openedFixing [(unbundled, .corrected)] unbundled .saving u text file
    saves located isOpen unclosed
  dsimp only at lints
  rw [next, if_pos (.inr reported)] at lints
  obtain ⟨b, once, -, unmodified⟩ := lints
  exact ⟨u, text, b, saves, once, unmodified⟩

/-- Where the correction's tool fails, saving ends without a lint. -/
theorem save_may_go_unlinted :
    ¬ ∀ (front later : History) (around : Surroundings) (e : Event) (u : Url) (text : Option String) (file : Path),
      (fresh.after front).demand? e = some (.saved u text) → u.filePath? = some file →
      (fresh.after front).documents.isOpen u = true →
      (∀ m d, (m, d) ∈ (fresh.after front).demands ((around, e) :: later) → d.closes u = false) →
      Keyed.get? (fresh.after front).next ((fresh.after front).after ((around, e) :: later)).jobs = none →
      lintsOf (fresh.after front).next ((fresh.after front).done ((around, e) :: later)) ≠ [] := by
  intro linted
  let later : History := [(unbundled, .uncorrected)]
  obtain ⟨u, text, file, saves, located, isOpen, unclosed⟩ :=
    saved_of_savesFile (by decide +kernel : savesFile openedFixing later = true)
  have isOver : (Keyed.get? (fresh.after openedFixing).next
      ((fresh.after openedFixing).after ((unbundled, .saving) :: later)).jobs).isNone = true := by decide +kernel
  have noLint : (lintsOf (fresh.after openedFixing).next
      ((fresh.after openedFixing).done ((unbundled, .saving) :: later))).isEmpty = true := by decide +kernel
  exact linted openedFixing later unbundled .saving u text file saves located isOpen unclosed
    (Option.isNone_iff_eq_none.mp isOver) (List.isEmpty_iff.mp noLint)

end LintBridge.Server
