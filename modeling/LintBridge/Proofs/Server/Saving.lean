import LintBridge.Proofs.Server.Closing

/-!
Whether saving a document has its file corrected.

The server decides that by the configuration that the client has given. A project may have settings of its own,
but they are only put over that configuration when the correction is planned, after the decision has been made.
-/

set_option autoImplicit false
set_option relaxedAutoImplicit false

namespace LintBridge

/-- Whether files are corrected when they are saved, as a project's own settings have it. -/
theorem Config.fixOnSave_forProject (c : Config) (t : FileTree) (dir : Path) :
    (c.forProject t dir).fixOnSave = c.fixOnSave ↔ ∀ settings, c.detectProjectSettings = true →
      Settings.load? t dir = some settings → settings.fixOnSave ≠ some (!c.fixOnSave) := by
  unfold forProject
  by_cases detects : c.detectProjectSettings = true
  · rw [if_pos detects]
    cases loaded : Settings.load? t dir with
    | none => simp
    | some settings =>
      have said : (c.withSettings settings).fixOnSave = settings.fixOnSave.getD c.fixOnSave := rfl
      rw [Option.elim_some, said]
      cases own : settings.fixOnSave with
      | none => simp [detects, own]
      | some wanted => cases wanted <;> cases c.fixOnSave <;> simp [detects, own]
  · rw [if_neg detects]
    simp [detects]

namespace Server

/-- The server begins to correct a file. -/
def Deed.isFix : Deed → Bool
  | .correct _ _ _ => true
  | _ => false

section
variable {around : Surroundings} {s : Server} {u : Url} {n : Nat} {isRequest : Bool}

private theorem filter_isFix_of_does {left : Work → Prop} {t : Turn}
    (does : Does n t.deeds (fun d => d.isFix = false) left s t) : t.deeds.filter Deed.isFix = [] := by
  rw [List.filter_eq_nil_iff]
  intro d isIn isFix
  rcases (does fun _ isIn => isIn).deeds d isIn with talk | noFix
  · cases d with
    | correct v trigger b => cases talk
    | _ => cases isFix
  · rw [noFix] at isFix
    cases isFix

private theorem mayLint_noFix {all : List Deed} (v : Url) (b : Buffer) :
    MayLint around all (fun d => d.isFix = false) (fun _ => True) v b :=
  fun _ => ⟨rfl, fun _ => rfl, fun _ _ _ => ⟨fun _ _ _ => rfl, fun _ => trivial⟩⟩

theorem filter_isFix_lintStored : (lintStored around n isRequest u s).deeds.filter Deed.isFix = [] :=
  filter_isFix_of_does (does_lintStored fun _ _ => mayLint_noFix u _)

theorem filter_isFix_fix {trigger : Trigger} {b : Buffer} (isBuffer : s.documents.buffer? u = some b) :
    (fix around n isRequest u trigger s).deeds.filter Deed.isFix = [.correct u trigger b] := by
  let p := Correction.start around b trigger s.linter
  have does : Does n (afterFix around n isRequest u p s).deeds (fun d => d.isFix = false) (fun _ => True) s
      (afterFix around n isRequest u p s) :=
    does_afterFix ⟨fun _ _ _ => rfl, fun _ => trivial⟩ fun _ _ _ _ => mayLint_noFix u _
  have rest := filter_isFix_of_does does
  rw [fix, isBuffer]
  simp only [fixBuffer, Turn.after, List.filter_cons, Deed.isFix, if_true]
  rw [rest]

end

/-- Saving an open document has its file corrected exactly if the client's configuration says so. That is what
the configuration says that holds for the file, exactly if the project does not say the contrary in settings
that take effect. -/
theorem saving_corrects_as_client_says (around : Surroundings) (s : Server) (e : Event) (u : Url)
    (text : Option String) (file : Path) (saves : s.demand? e = some (.saved u text))
    (located : u.filePath? = some file) (isOpen : s.documents.isOpen u = true) :
    let c := s.linter.config
    let begun := (s.step around e).deeds.filter Deed.isFix
    (∃ b, (s.documents.saved u text).buffer? u = some b ∧
      begun = if c.fixOnSave then [.correct u .save b] else []) ∧
    ((begun ≠ [] ↔ (s.linter.effectiveConfig around.files file).fixOnSave = true) ↔
      ∀ settings, c.detectProjectSettings = true →
        Settings.load? around.files (s.linter.workingDir file) = some settings →
        settings.fixOnSave ≠ some (!c.fixOnSave)) := by
  intro c begun
  have stored : ∃ b, (s.documents.saved u text).buffer? u = some b := by
    have stays : (s.documents.saved u text).isOpen u = true := by
      have saved := isOpen_amend (.saved u text) u s.documents
      rw [isOpen] at saved
      exact saved
    obtain ⟨b, isBuffer, -⟩ := Documents.exists_buffer? located stays
    exact ⟨b, isBuffer⟩
  obtain ⟨b, isBuffer⟩ := stored
  have exact : begun = if c.fixOnSave then [.correct u .save b] else [] := by
    obtain ⟨m, -, -, served⟩ := served_of_demand around saves
    simp only [begun, served, serve]
    split
    · exact filter_isFix_fix isBuffer
    · exact filter_isFix_lintStored
  refine ⟨⟨b, isBuffer, exact⟩, ?_⟩
  rw [← Config.fixOnSave_forProject c around.files (s.linter.workingDir file), exact]
  have effective : s.linter.effectiveConfig around.files file =
      c.forProject around.files (s.linter.workingDir file) := rfl
  rw [effective]
  cases c.fixOnSave <;> cases (c.forProject around.files (s.linter.workingDir file)).fixOnSave <;> simp

/-! ### A project that wants its files corrected -/

/-- A directory with a file, and with settings that have files corrected when they are saved. -/
def wanting : Surroundings :=
  ⟨⟨.directory
      [("a.rb", .file [120] false),
        (".rubolint.json", .file "\x7b\"fixOnSave\":true\x7d".toUTF8.toList false)], []⟩,
    fun _ => none, fun _ => .ok "", 0⟩

def Event.saving : Event :=
  .notification "textDocument/didSave" [("textDocument", .ofMembers [("uri", address)])]

def opened : History := [(wanting, .greeting), (wanting, .opening)]

/-- The document that a message says has been saved. -/
def Demand.saved? : Demand → Option Url
  | .saved u _ => some u
  | _ => none

theorem Demand.eq_of_saved? {d : Demand} {u : Url} (saves : d.saved? = some u) : ∃ text, d = .saved u text := by
  cases d with
  | saved v text =>
    cases saves
    exact ⟨text, rfl⟩
  | _ => cases saves

private theorem saves_opened :
    ∃ u file text, (fresh.after opened).demand? .saving = some (.saved u text) ∧ u.filePath? = some file ∧
      (fresh.after opened).documents.isOpen u = true ∧
      ((fresh.after opened).linter.effectiveConfig wanting.files file).fixOnSave = true ∧
      (fresh.after opened).linter.config.fixOnSave = false := by
  have all : ((fresh.after opened).demand? .saving).any (fun d => d.saved?.any fun u =>
      (fresh.after opened).documents.isOpen u && !(fresh.after opened).linter.config.fixOnSave &&
        u.filePath?.any fun file =>
          ((fresh.after opened).linter.effectiveConfig wanting.files file).fixOnSave) = true := by
    decide +kernel
  obtain ⟨d, isDemand, all⟩ := (Option.any_eq_true _ _).mp all
  obtain ⟨u, saves, all⟩ := (Option.any_eq_true _ _).mp all
  obtain ⟨text, rfl⟩ := Demand.eq_of_saved? saves
  obtain ⟨both, located⟩ := Bool.and_eq_true_iff.mp all
  obtain ⟨isOpen, silent⟩ := Bool.and_eq_true_iff.mp both
  obtain ⟨file, located, wants⟩ := (Option.any_eq_true _ _).mp located
  exact ⟨u, file, text, isDemand, located, isOpen, wants, by simpa using silent⟩

theorem saving_corrects_as_client_says_wanting :
    ∃ u text, (fresh.after opened).demand? .saving = some (.saved u text) ∧
      ((fresh.after opened).step wanting .saving).deeds.filter Deed.isFix = [] := by
  obtain ⟨u, file, text, saves, located, isOpen, -, silent⟩ := saves_opened
  obtain ⟨⟨b, -, begun⟩, -⟩ :=
    saving_corrects_as_client_says wanting (fresh.after opened) .saving u text file saves located isOpen
  refine ⟨u, text, saves, ?_⟩
  rw [begun, silent]
  rfl

/-- What a project's settings say about saving is passed over. -/
theorem settings_passed_over :
    ¬ ∀ (history : History) (around : Surroundings) (e : Event) (u : Url) (text : Option String) (file : Path),
      (fresh.after history).demand? e = some (.saved u text) → u.filePath? = some file →
      (fresh.after history).documents.isOpen u = true →
      (((fresh.after history).step around e).deeds.filter Deed.isFix ≠ [] ↔
        ((fresh.after history).linter.effectiveConfig around.files file).fixOnSave = true) := by
  intro heeded
  obtain ⟨u, file, text, saves, located, isOpen, wants, -⟩ := saves_opened
  have nothing : ((fresh.after opened).step wanting .saving).deeds.filter Deed.isFix = [] := by
    rw [List.filter_eq_nil_iff]
    have none : ((fresh.after opened).step wanting .saving).deeds.all (fun d => !d.isFix) = true := by
      decide +kernel
    intro d isIn
    simpa using List.all_eq_true.mp none d isIn
  exact (heeded opened wanting .saving u text file saves located isOpen).mpr wants nothing

end Server
end LintBridge
