import LintBridge.Proofs.Server.Corrections

/-!
What the server's lints look at.

A lint is begun for a document as it is at that moment, and its tool is started for just that, however long the
lint has to wait before. Only the lint after a correction is different: it looks at the file, and at no edits.
-/

set_option autoImplicit false
set_option relaxedAutoImplicit false

namespace LintBridge.Server

/-- The event ends the tool of a correction, after which the document's file may be linted again. -/
def relints (s : Server) : Event → Bool
  | .signal n (.programEnded _) =>
    match Keyed.get? n s.jobs with
    | some ⟨_, .fixing _ (.running _)⟩ => true
    | _ => false
  | _ => false

/-- Work whose lint is begun already, for a buffer of that kind; and no correction that is over. -/
def Work.Lints (begun : Buffer → Prop) : Work → Prop
  | .linting _ _ a _ => ∃ b, begun b ∧ ∀ p i, a = .asking p i → p.Lints b
  | .fixing _ c => c.summary? = none
  | _ => True

/-- A deed that lints documents as they are, or starts a tool for a buffer of that kind. -/
def Deed.Lints (ds : Documents) (stored : Bool) (begun : Buffer → Prop) : Deed → Prop
  | .lint u _ b => ∃ b', ds.buffer? u = some b' ∧ b = { b' with modified := b'.modified && !stored }
  | .start .awaited r => ∃ b, begun b ∧ r.Lints b
  | _ => True

/-- The work with the number has begun to lint the buffer. -/
def HasBegun (done : List (Nat × Deed)) (n : Nat) (b : Buffer) : Prop :=
  ∃ u version, (n, .lint u version b) ∈ done

section
variable {around : Surroundings} {all : List Deed} {ds : Documents} {stored : Bool} {begun : Buffer → Prop}
  {u : Url}

private theorem fineLint_of_begun {b : Buffer} {p : Progress Analysis} {version : Option Int} {later : List Url}
    (serves : Analysis.Serves b p) (isBegun : begun b) :
    FineLint (Deed.Lints ds stored begun) (Work.Lints begun) u version later p := by
  refine ⟨?_, fun _ => ⟨b, isBegun, serves.waits⟩⟩
  intro m r isIn
  rcases serves.starts m r isIn with rfl | ⟨rfl, lints⟩
  · trivial
  · exact ⟨b, isBegun, lints⟩

private theorem mayLint_stored {b b' : Buffer} (isBuffer : ds.buffer? u = some b')
    (same : b = { b' with modified := b'.modified && !stored })
    (isBegun : ∀ version, .lint u version b ∈ all → begun b) :
    MayLint around all (Deed.Lints ds stored begun) (Work.Lints begun) u b := fun version =>
  ⟨⟨b', isBuffer, same⟩, fun _ => trivial,
    fun isDone _ l => fineLint_of_begun (Analysis.serves_start around b l) (isBegun version isDone)⟩

private theorem fineFix_of_serves {file : Path} {p : Progress Correction} (serves : Correction.Serves file p) :
    FineFix (Deed.Lints ds stored begun) (Work.Lints begun) u p := by
  refine ⟨?_, fun unfinished => unfinished⟩
  intro m r isIn
  rcases serves.starts m r isIn with rfl | ⟨rfl, -⟩ <;> trivial

private theorem mayFix_stored {b : Buffer} {file : Path} (isStored : b.path = some file) :
    MayFix around all (Deed.Lints ds stored begun) (Work.Lints begun) u b := fun trigger =>
  ⟨trivial, fun _ l => fineFix_of_serves (Correction.serves_start around b trigger l isStored)⟩

end

section
variable {asked : List (Nat × Demand)} {done : List (Nat × Deed)} {s : Server} {n : Nat} {b : Buffer}

theorem HasBegun.append (begun : HasBegun done n b) (more : List (Nat × Deed)) : HasBegun (done ++ more) n b := by
  obtain ⟨u, version, isIn⟩ := begun
  exact ⟨u, version, List.mem_append_left _ isIn⟩

theorem Work.Lints.imp {begun begun' : Buffer → Prop} (implies : ∀ b, begun b → begun' b) {w : Work}
    (lints : w.Lints begun) : w.Lints begun' := by
  cases w with
  | linting v version a later =>
    obtain ⟨b, isBegun, waits⟩ := lints
    exact ⟨b, implies b isBegun, waits⟩
  | fixing v c => exact lints
  | reading v path trigger => trivial
  | hovering d anchor r => trivial

/-- All lints that are under way have been begun. -/
structure Begins (asked : List (Nat × Demand)) (done : List (Nat × Deed)) (s : Server) : Prop where
  attends : Attends asked s
  jobs : ∀ n j, (n, j) ∈ s.jobs → j.work.Lints (HasBegun done n)

private theorem mayGoOn_begun {around : Surroundings} {j : Job} {signal : Signal} {all : List Deed}
    {begun : Buffer → Prop} (found : Keyed.get? n s.jobs = some j) (lints : j.work.Lints begun)
    {target : Url → Prop} (corrects : j.work.Corrects target)
    (isBegun : ∀ u version b, .lint u version b ∈ all → begun b) :
    MayGoOn around all (Deed.Lints s.documents (s.relints (.signal n signal)) begun) (Work.Lints begun)
      s.documents signal j.work := by
  obtain ⟨isRequest, w⟩ := j
  cases w with
  | linting v version a later =>
    have notStored : s.relints (.signal n signal) = false := by
      unfold relints
      cases signal <;> simp [found]
    obtain ⟨b, wasBegun, waits⟩ := lints
    refine ⟨fun l => fineLint_of_begun (Analysis.serves_step around signal b l waits) wasBegun,
      fun _ _ => trivial, ?_⟩
    intro u b' isBuffer
    exact mayLint_stored isBuffer (by simp [notStored]) fun version => isBegun u version b'
  | fixing v c =>
    obtain ⟨-, file, -, waits⟩ := corrects
    intro l
    refine ⟨fineFix_of_serves (Correction.serves_step around signal l waits), ?_⟩
    intro summary finished b' isBuffer
    obtain ⟨trigger, e, rfl, rfl⟩ := Correction.running_of_summary lints finished
    have isStored : s.relints (.signal n (.programEnded e)) = true := by simp [relints, found]
    exact mayLint_stored isBuffer (by simp [isStored]) fun version => isBegun v version _
  | reading v path trigger => exact fun text => mayFix_stored rfl
  | hovering d anchor r => trivial

private theorem moves_begins (begins : Begins asked done s) (around : Surroundings) (e : Event) :
    Moves (Deed.Lints (s.amended e) (s.relints e) (HasBegun (done ++ s.doneAt around e) (s.worker e)))
      (Work.Lints (HasBegun (done ++ s.doneAt around e) (s.worker e))) s e (s.step around e) := by
  have isBegun : ∀ u version b, .lint u version b ∈ (s.step around e).deeds →
      HasBegun (done ++ s.doneAt around e) (s.worker e) b := fun u version b isIn =>
    ⟨u, version, List.mem_append_right _ (List.mem_map_of_mem isIn)⟩
  refine moves_step around s e _ _ (fun _ _ _ => trivial) ?_ ?_ (fun _ _ => trivial) ?_
  · intro unsignalled u b isBuffer
    have notStored : s.relints e = false := by
      cases e with
      | signal n signal => exact absurd rfl (unsignalled n signal)
      | _ => rfl
    exact mayLint_stored isBuffer (by simp [notStored]) fun version => isBegun u version b
  · intro d u _ _
    refine ⟨?_, fun _ _ _ _ => trivial⟩
    intro b isBuffer
    obtain ⟨file, -, stored, -⟩ := Documents.file_of_buffer? isBuffer
    exact mayFix_stored stored
  · rintro n signal j rfl found
    have isIn := Keyed.mem_of_get? found
    have lints := (begins.jobs n j isIn).imp fun b begun => begun.append (s.doneAt around (.signal n signal))
    exact mayGoOn_begun found lints (begins.attends.jobs n j isIn) isBegun

theorem Begins.step (begins : Begins asked done s) (around : Surroundings) (e : Event) :
    Begins (asked ++ s.asks e) (done ++ s.doneAt around e) (s.step around e).server where
  attends := begins.attends.step around e
  jobs := by
    intro n j isIn
    rcases (moves_begins begins around e).jobs n j isIn with isIn | ⟨rfl, lints⟩
    · exact (begins.jobs n j isIn).imp fun b begun => begun.append _
    · exact lints

theorem begins_fresh : Begins [] [] fresh where
  attends := attends_fresh
  jobs n j isIn := by cases isIn

theorem begins_after (history : History) :
    Begins (fresh.demands history) (fresh.done history) (fresh.after history) :=
  keeps_after (fun begins around e => begins.step around e) history [] begins_fresh

/-- A tool is only started to lint what the same work has begun to lint. -/
theorem begun_of_started {history : History} {r : Request} (started : (n, .start .awaited r) ∈ fresh.done history) :
    ∃ b, HasBegun (fresh.done history) n b ∧ r.Lints b := by
  obtain ⟨front, around, e, back, rfl, rfl, isDeed⟩ := exists_of_mem_done started
  rcases (moves_begins (begins_after front) around e).deeds _ isDeed with talk | ⟨b, begun, lints⟩
  · cases talk
  · refine ⟨b, ?_, lints⟩
    rw [Server.done_append, Server.done, ← List.append_assoc]
    exact begun.append _

end

/-- Whenever the server begins to lint a document, it looks at the text that the document has, and at its mark,
which says whether the document has been edited since it was last opened or saved; only the lint after a
correction looks at the file in any case. And whenever it starts a tool to lint, it does so for a buffer that
the same work has begun to lint: on the text itself if the buffer is marked, and else on the file. -/
theorem lint_looks_at_document (history : History) (around : Surroundings) (e : Event) :
    let now := fresh.after history
    let turn := now.step around e
    (∀ u version b, .lint u version b ∈ turn.deeds → ∃ stored, turn.server.documents.buffer? u = some stored ∧
      stored.modified = hasEdits u ((fresh.demands (history ++ [(around, e)])).map Prod.snd) ∧
      b = { stored with modified := stored.modified && !now.relints e }) ∧
    ∀ r, .start .awaited r ∈ turn.deeds → ∃ u version b,
      (now.worker e, .lint u version b) ∈ fresh.done (history ++ [(around, e)]) ∧ r.Lints b := by
  intro now turn
  have begins : Begins (fresh.demands history) (fresh.done history) now := begins_after history
  have moves := moves_begins begins around e
  have allDemands : fresh.demands (history ++ [(around, e)]) = fresh.demands history ++ now.asks e := by
    rw [demands_append, demands, demands, List.append_nil]
  have allDone : fresh.done (history ++ [(around, e)]) = fresh.done history ++ now.doneAt around e := by
    rw [done_append, done, done, List.append_nil]
  constructor
  · intro u version b isIn
    rcases moves.deeds _ isIn with talk | ⟨stored, isBuffer, same⟩
    · cases talk
    · rw [← moves.same.buffer?_eq] at isBuffer
      refine ⟨stored, isBuffer, ?_, same⟩
      obtain ⟨-, -, -, mark⟩ := Documents.file_of_buffer? isBuffer
      rw [mark, allDemands]
      exact (begins.attends.tracks.step around e).marked u
  · intro r isIn
    rw [allDone]
    rcases moves.deeds _ isIn with talk | ⟨b, ⟨u, version, isBegun⟩, lints⟩
    · cases talk
    · exact ⟨u, version, b, isBegun, lints⟩

/-! ### The lint after a correction -/

/-- A directory with a file, and without a Gemfile. -/
def unbundled : Surroundings :=
  ⟨⟨.directory [("a.rb", .file [120] false)], []⟩, fun _ => none, fun _ => .ok "", 0⟩

/-- The document is edited while the tool corrects its file. -/
def editedUnderway : History :=
  [(unbundled, .greeting), (unbundled, .opening), (unbundled, .fixing), (unbundled, .editing)]

def Event.corrected : Event := .signal 2 (.programEnded (.output ⟨"\x7b\"files\":[]\x7d", "", some 0⟩))

private theorem begun_editedUnderway :
    ∃ u version b, .lint u version b ∈ ((fresh.after editedUnderway).step unbundled .corrected).deeds ∧
      b.modified = false ∧
      ∃ stored, ((fresh.after editedUnderway).step unbundled .corrected).server.documents.buffer? u =
        some stored ∧ stored.modified = true := by
  have lints : ((fresh.after editedUnderway).step unbundled .corrected).deeds.any (fun
      | .lint u _ b => !b.modified &&
          (((fresh.after editedUnderway).step unbundled .corrected).server.documents.buffer? u).any
            Buffer.modified
      | _ => false) = true := by decide +kernel
  obtain ⟨d, isIn, isLint⟩ := List.any_eq_true.mp lints
  cases d with
  | lint u version b =>
    obtain ⟨unmodified, marked⟩ := Bool.and_eq_true_iff.mp isLint
    obtain ⟨stored, isBuffer, modified⟩ := (Option.any_eq_true _ _).mp marked
    exact ⟨u, version, b, isIn, by simpa using unmodified, stored, isBuffer, modified⟩
  | _ => cases isLint

def lintingFile : Request :=
  ⟨"rubocop", ["--force-exclusion", "--format", "json", "--display-style-guide", "--cache", "false", "/a.rb"], ⟨"/"⟩,
    none, defaultTimeoutMs, some "linter-rubocop::/a.rb"⟩

def lintingEdit (text : String) : Request :=
  ⟨"rubocop",
    ["--force-exclusion", "--format", "json", "--display-style-guide", "--cache", "false", "--stdin", "/a.rb"], ⟨"/"⟩,
    some text, defaultTimeoutMs, some "linter-rubocop::/a.rb"⟩

theorem lint_looks_at_document_editedUnderway :
    let now := fresh.after editedUnderway
    (∃ u version b, .lint u version b ∈ (now.step unbundled .corrected).deeds ∧
      ∃ stored, (now.step unbundled .corrected).server.documents.buffer? u = some stored ∧
        b = { stored with modified := stored.modified && !now.relints .corrected }) ∧
    (.start .awaited lintingFile ∈ (now.step unbundled .corrected).deeds ∧ ∃ b, lintingFile.Lints b) ∧
    .start .awaited (lintingEdit "y") ∈ (now.step unbundled (.elapse 3)).deeds ∧ ∃ b, (lintingEdit "y").Lints b := by
  intro now
  obtain ⟨u, version, b, isIn, -⟩ := begun_editedUnderway
  obtain ⟨looks, runs⟩ := lint_looks_at_document editedUnderway unbundled .corrected
  obtain ⟨stored, isBuffer, -, same⟩ := looks u version b isIn
  have startsFile : .start .awaited lintingFile ∈ (now.step unbundled .corrected).deeds :=
    mem_of_starts (by decide +kernel)
  have startsEdit : .start .awaited (lintingEdit "y") ∈ (now.step unbundled (.elapse 3)).deeds :=
    mem_of_starts (by decide +kernel)
  obtain ⟨-, -, b₁, -, lintsFile⟩ := runs lintingFile startsFile
  obtain ⟨-, -, b₂, -, lintsEdit⟩ :=
    (lint_looks_at_document editedUnderway unbundled (.elapse 3)).2 (lintingEdit "y") startsEdit
  exact ⟨⟨u, version, b, isIn, stored, isBuffer, same⟩, ⟨startsFile, b₁, lintsFile⟩, startsEdit, b₂, lintsEdit⟩

/-- The lint after a correction passes over edits that are not saved. -/
theorem lint_passes_over_edits :
    ¬ ∀ (history : History) (around : Surroundings) (e : Event) (u : Url) (version : Option Int) (b : Buffer),
      .lint u version b ∈ ((fresh.after history).step around e).deeds →
      ∃ stored, ((fresh.after history).step around e).server.documents.buffer? u = some stored ∧
        b.text = stored.text ∧ b.modified = stored.modified := by
  intro current
  obtain ⟨u, version, b, isIn, unmodified, stored, isBuffer, modified⟩ := begun_editedUnderway
  obtain ⟨stored', isBuffer', -, same⟩ := current editedUnderway unbundled .corrected u version b isIn
  rw [isBuffer] at isBuffer'
  cases isBuffer'
  rw [unmodified, modified] at same
  cases same

end LintBridge.Server
