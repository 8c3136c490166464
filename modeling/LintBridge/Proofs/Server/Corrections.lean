import LintBridge.Proofs.Server.Histories

/-!
When the server has a file corrected in its place.

A correction is refused for a document with edits, but only when it is asked for. It may have to wait then, for
the file's text or for Bundler, and nobody looks at the document again before the tool is started.
-/

set_option autoImplicit false
set_option relaxedAutoImplicit false

namespace LintBridge.Server

/-- The work with the number comes from a message that asked for a correction of the document, and the document is
marked exactly if it has been edited since. -/
def AskedFor (asked : List (Nat × Demand)) (s : Server) (n : Nat) (u : Url) : Prop :=
  n < s.next ∧ (∃ d, (n, d) ∈ asked ∧ d.fixes? = some u) ∧
    s.documents.isModified u = hasEdits u (since n asked)

/-- Work that corrects documents of a kind only, and each in its own file; or lints a buffer. -/
def Work.Corrects (target : Url → Prop) : Work → Prop
  | .linting _ _ a _ => ∃ b, ∀ p i, a = .asking p i → p.Lints b
  | .reading u path _ => target u ∧ u.filePath? = some path
  | .fixing u c => target u ∧ ∃ file, u.filePath? = some file ∧
      ∀ p trigger i, c = .asking p trigger i → p.extra = Correction.arguments file
  | _ => True

/-- A deed that corrects documents of a kind only, and each in its own file. -/
def Deed.Corrects (target : Url → Prop) (d : Deed) : Prop :=
  ∀ r, d = .start .polled r →
    ∃ u file, target u ∧ u.filePath? = some file ∧ Correction.arguments file <:+ r.args

section
variable {around : Surroundings} {all : List Deed} {target : Url → Prop} {u : Url} {file : Path}

private theorem fineLint {b : Buffer} {p : Progress Analysis} {version : Option Int} {later : List Url}
    (serves : Analysis.Serves b p) :
    FineLint (Deed.Corrects target) (Work.Corrects target) u version later p := by
  refine ⟨?_, fun _ => ⟨b, serves.waits⟩⟩
  rintro m r isIn r' eq
  cases eq
  rcases serves.starts _ r isIn with eq | ⟨eq, -⟩ <;> cases eq

private theorem fineFix {p : Progress Correction} (serves : Correction.Serves file p)
    (located : u.filePath? = some file) (wanted : target u) :
    FineFix (Deed.Corrects target) (Work.Corrects target) u p := by
  refine ⟨?_, fun _ => ⟨wanted, file, located, serves.waits⟩⟩
  rintro m r isIn r' eq
  cases eq
  rcases serves.starts _ r isIn with eq | ⟨-, arguments⟩
  · cases eq
  · exact ⟨u, file, wanted, located, arguments⟩

private theorem mayLint (b : Buffer) : MayLint around all (Deed.Corrects target) (Work.Corrects target) u b :=
  fun _ => ⟨fun _ eq => (Deed.noConfusion eq), fun _ _ eq => (Deed.noConfusion eq),
    fun _ _ l => fineLint (Analysis.serves_start around b l)⟩

private theorem mayFix {b : Buffer} (stored : b.path = some file) (located : u.filePath? = some file)
    (wanted : b.modified = false → target u) :
    MayFix around all (Deed.Corrects target) (Work.Corrects target) u b := by
  intro trigger
  refine ⟨fun _ eq => Deed.noConfusion eq, fun _ l => ?_⟩
  cases modified : b.modified with
  | true =>
    obtain ⟨finished, silent⟩ := Correction.start_modified around b trigger l modified
    refine ⟨fun m r isIn => absurd isIn (silent m r), ?_⟩
    intro unfinished
    rw [finished] at unfinished
    cases unfinished
  | false => exact fineFix (Correction.serves_start around b trigger l stored) located (wanted modified)

private theorem mayCorrect {ds : Documents} (wanted : ds.isModified u = false → target u) :
    MayCorrect around all (Deed.Corrects target) (Work.Corrects target) ds u := by
  constructor
  · intro b isBuffer
    obtain ⟨file, located, stored, mark⟩ := Documents.file_of_buffer? isBuffer
    refine mayFix stored located ?_
    intro unmodified
    exact wanted (mark.symm.trans unmodified)
  · intro path trigger unstored located
    exact ⟨wanted (Documents.isModified_of_no_buffer unstored located), located⟩

private theorem mayGoOn {ds : Documents} {signal : Signal} {w : Work} (corrects : w.Corrects target) :
    MayGoOn around all (Deed.Corrects target) (Work.Corrects target) ds signal w := by
  cases w with
  | linting v version a later =>
    obtain ⟨b, waits⟩ := corrects
    exact ⟨fun l => fineLint (Analysis.serves_step around signal b l waits), fun _ _ _ eq => Deed.noConfusion eq,
      fun v b' _ => mayLint b'⟩
  | fixing v c =>
    obtain ⟨wanted, file, located, waits⟩ := corrects
    intro l
    refine ⟨fineFix (Correction.serves_step around signal l waits) located wanted, ?_⟩
    exact fun _ _ b _ => mayLint _
  | reading v path trigger =>
    obtain ⟨wanted, located⟩ := corrects
    exact fun text => mayFix rfl located fun _ => wanted
  | hovering d anchor r => trivial

theorem Work.Corrects.imp {target' : Url → Prop} (implies : ∀ u, target u → target' u) {w : Work}
    (corrects : w.Corrects target) : w.Corrects target' := by
  cases w with
  | linting v version a later => exact corrects
  | fixing v c => exact ⟨implies v corrects.1, corrects.2⟩
  | reading v path trigger => exact ⟨implies v corrects.1, corrects.2⟩
  | hovering d anchor r => trivial

end

section
variable {asked : List (Nat × Demand)} {s : Server} {n : Nat} {u : Url}

private theorem AskedFor.step (askedFor : AskedFor asked s n u) (around : Surroundings) (e : Event) :
    AskedFor (asked ++ s.asks e) (s.step around e).server n u := by
  obtain ⟨isOld, ⟨d, isIn, fixes⟩, marked⟩ := askedFor
  refine ⟨?_, ⟨d, List.mem_append_left _ isIn, fixes⟩, ?_⟩
  · exact Nat.lt_of_lt_of_le isOld (frame_step around s e).next.1
  · exact hasEdits_since_step isOld marked around e

private theorem askedFor_new (tracks : Tracks asked s) (around : Surroundings) {e : Event} {d : Demand}
    (isDemand : s.demand? e = some d) (fixes : d.fixes? = some u)
    (unmodified : (s.amended e).isModified u = false) :
    AskedFor (asked ++ s.asks e) (s.step around e).server s.next u := by
  have frame := frame_step around s e
  have isIn : (s.next, d) ∈ s.asks e := mem_asks.mpr ⟨isDemand, rfl⟩
  have nothing : since s.next (asked ++ s.asks e) = [] := by
    rw [since, List.filter_eq_nil_iff.mpr]
    · rfl
    rintro ⟨m, d'⟩ isIn
    rcases List.mem_append.mp isIn with isIn | isIn
    · have below := tracks.numbered m d' isIn
      simp only [decide_eq_true_eq, Nat.not_lt]
      exact Nat.le_of_lt below
    · obtain ⟨-, rfl⟩ := mem_asks.mp isIn
      simp
  refine ⟨frame.next.2 d isDemand, ⟨d, List.mem_append_right _ isIn, fixes⟩, ?_⟩
  rw [frame.same.isModified_eq, unmodified, nothing]
  rfl

/-- All work that waits to correct a document has been asked for it. -/
structure Attends (asked : List (Nat × Demand)) (s : Server) : Prop where
  tracks : Tracks asked s
  jobs : ∀ n j, (n, j) ∈ s.jobs → j.work.Corrects (AskedFor asked s n)

private theorem moves_attends (attends : Attends asked s) (around : Surroundings) (e : Event) :
    Moves (Deed.Corrects (AskedFor (asked ++ s.asks e) (s.step around e).server (s.worker e)))
      (Work.Corrects (AskedFor (asked ++ s.asks e) (s.step around e).server (s.worker e))) s e
      (s.step around e) := by
  refine moves_step around s e _ _ (fun _ _ _ => trivial) ?_ ?_ (fun _ _ _ eq => Deed.noConfusion eq) ?_
  · exact fun _ u b _ => mayLint b
  · intro d u isDemand fixes
    have isNew : s.worker e = s.next := by
      cases e with
      | message m => rfl
      | _ => cases isDemand
    rw [isNew]
    exact mayCorrect (askedFor_new attends.tracks around isDemand fixes)
  · rintro n signal j rfl found
    exact mayGoOn ((attends.jobs n j (Keyed.mem_of_get? found)).imp fun u askedFor => askedFor.step around _)

theorem Attends.step (attends : Attends asked s) (around : Surroundings) (e : Event) :
    Attends (asked ++ s.asks e) (s.step around e).server where
  tracks := attends.tracks.step around e
  jobs := by
    intro n j isIn
    rcases (moves_attends attends around e).jobs n j isIn with isIn | ⟨rfl, corrects⟩
    · exact (attends.jobs n j isIn).imp fun u askedFor => askedFor.step around e
    · exact corrects

theorem attends_fresh : Attends [] fresh where
  tracks := tracks_fresh
  jobs n j isIn := by cases isIn

theorem attends_after (history : History) : Attends (fresh.demands history) (fresh.after history) :=
  keeps_after (P := fun asked _ s => Attends asked s) (fun attends around e => attends.step around e) history
    [] attends_fresh

end

/-- Whenever the server starts to correct a file in its place, a message has asked for it, by a command or by
saving, and the document is marked as modified exactly if it has been edited after that message without being
saved, opened or closed again. -/
theorem correction_as_asked_for (history : History) (around : Surroundings) (e : Event) (r : Request)
    (started : .start .polled r ∈ ((fresh.after history).step around e).deeds) :
    let asked := fresh.demands (history ++ [(around, e)])
    let number := (fresh.after history).worker e
    ∃ u file d, (number, d) ∈ asked ∧ d.fixes? = some u ∧ u.filePath? = some file ∧
      ["--auto-correct", file.text] <:+ r.args ∧
      ((fresh.after history).step around e).server.documents.isModified u = hasEdits u (since number asked) := by
  intro asked number
  have attends : Attends (fresh.demands history) (fresh.after history) := attends_after history
  have all : asked = fresh.demands history ++ (fresh.after history).asks e := by
    simp only [asked, demands_append, demands, List.append_nil]
  rcases (moves_attends attends around e).deeds _ started with talk | corrects
  · cases talk
  · obtain ⟨u, file, ⟨-, ⟨d, isIn, fixes⟩, marked⟩, located, arguments⟩ := corrects r rfl
    rw [← all] at isIn marked
    exact ⟨u, file, d, isIn, fixes, located, arguments, marked⟩

/-! ### A correction that comes too late -/

open Json (Value)

/-- A directory with a file, and with a Gemfile, so that Bundler is asked. -/
def bundled : Surroundings :=
  ⟨⟨.directory [("Gemfile", .file [] false), ("a.rb", .file [120] false)], []⟩, fun _ => none, fun _ => .ok "", 0⟩

def Event.request (method : String) (params : List (String × Value)) : Event :=
  .message ⟨method, true, some (.ofMembers params)⟩

def Event.notification (method : String) (params : List (String × Value)) : Event :=
  .message ⟨method, false, some (.ofMembers params)⟩

def address : Value := .text "file:///a.rb"

def Event.greeting : Event := .request "initialize" [("capabilities", .ofMembers [])]

def Event.opening : Event :=
  .notification "textDocument/didOpen"
    [("textDocument", .ofMembers
      [("uri", address), ("languageId", .text "ruby"), ("version", .number (.integer 1)), ("text", .text "x")])]

def Event.editing : Event :=
  .notification "textDocument/didChange"
    [("textDocument", .ofMembers [("uri", address), ("version", .number (.integer 2))]),
      ("contentChanges", .array [.ofMembers [("text", .text "y")]])]

def Event.fixing : Event :=
  .request "workspace/executeCommand"
    [("command", .text "rubolint.fixFile"), ("arguments", .array [address])]

/-- The document is edited while the lint that its opening has begun still asks Bundler, and the correction waits
for the answer. -/
def editedMeanwhile : History :=
  [(bundled, .greeting), (bundled, .opening), (bundled, .fixing), (bundled, .editing),
    (bundled, .signal 1 (.probeEnded false))]

def Deed.start? : Deed → Option (Manner × Request)
  | .start m r => some (m, r)
  | _ => none

theorem mem_of_starts {deeds : List Deed} {m : Manner} {r : Request}
    (starts : deeds.filterMap Deed.start? = [(m, r)]) : .start m r ∈ deeds := by
  have isOnly : (m, r) ∈ deeds.filterMap Deed.start? := by
    rw [starts]
    exact List.mem_singleton_self _
  obtain ⟨d, isIn, isStart⟩ := List.mem_filterMap.mp isOnly
  cases d with
  | start m' r' =>
    cases isStart
    exact isIn
  | _ => cases isStart

def correctingFile : Request :=
  ⟨"rubocop",
    ["--force-exclusion", "--format", "json", "--display-style-guide", "--cache", "false", "--auto-correct", "/a.rb"],
    ⟨"/"⟩, none, defaultTimeoutMs, none⟩

private theorem started_editedMeanwhile :
    .start .polled correctingFile ∈ ((fresh.after editedMeanwhile).step bundled (.signal 2 .answerKnown)).deeds :=
  mem_of_starts (by decide +kernel)

theorem correction_as_asked_for_editedMeanwhile :
    .start .polled correctingFile ∈ ((fresh.after editedMeanwhile).step bundled (.signal 2 .answerKnown)).deeds ∧
      ∃ (u : Url) (file : Path), u.filePath? = some file ∧ ["--auto-correct", file.text] <:+ correctingFile.args ∧
        ((fresh.after editedMeanwhile).step bundled (.signal 2 .answerKnown)).server.documents.isModified u =
          hasEdits u (since 2 (fresh.demands (editedMeanwhile ++ [(bundled, .signal 2 .answerKnown)]))) := by
  obtain ⟨u, file, -, -, -, located, arguments, marked⟩ :=
    correction_as_asked_for editedMeanwhile bundled (.signal 2 .answerKnown) correctingFile started_editedMeanwhile
  exact ⟨started_editedMeanwhile, u, file, located, arguments, marked⟩

/-- The document of a correction that is started can have edits that are not saved. -/
theorem correction_under_edits :
    ¬ ∀ (history : History) (around : Surroundings) (e : Event) (r : Request) (u : Url) (d : Demand),
      .start .polled r ∈ ((fresh.after history).step around e).deeds →
      ((fresh.after history).worker e, d) ∈ fresh.demands (history ++ [(around, e)]) → d.fixes? = some u →
      ((fresh.after history).step around e).server.documents.isModified u = false := by
  intro unmodified
  have marked : (fresh.demands (editedMeanwhile ++ [(bundled, .signal 2 .answerKnown)])).any (fun p =>
      p.1 == 2 && p.2.fixes?.any fun u =>
        ((fresh.after editedMeanwhile).step bundled (.signal 2 .answerKnown)).server.documents.isModified u) =
      true := by decide +kernel
  obtain ⟨⟨n, d⟩, isIn, both⟩ := List.any_eq_true.mp marked
  obtain ⟨isTwo, fixed⟩ := Bool.and_eq_true_iff.mp both
  obtain ⟨u, fixes, isMarked⟩ := (Option.any_eq_true _ _).mp fixed
  have number : n = 2 := eq_of_beq isTwo
  subst number
  rw [unmodified editedMeanwhile bundled (.signal 2 .answerKnown) correctingFile u d started_editedMeanwhile isIn
    fixes] at isMarked
  cases isMarked

end LintBridge.Server
