import LintBridge.Proofs.Json.Renderings
import LintBridge.Proofs.Linter.Verdicts

/-!
A report is read however it is written.

`Report.fieldTexts` says how a report is written, with the records inside it. The releases of the tool may order the keys
of these records as they like, leave out what is at its default, and add keys.
-/

set_option autoImplicit false
set_option relaxedAutoImplicit false

namespace LintBridge

open Json (maxDepth BoolText DigitsText FieldText ListText OptionText Record RecordText Shape StringText Value)
open Json.Cursor (Member NumberLiteral Spaces itemsText membersText spaces_nil)

/-! ### How the records are written -/

def Spot.fieldTexts : List (FieldText Spot) :=
  [⟨"line", DigitsText UInt32.toNat, Spot.line, 0⟩,
   ⟨"column", DigitsText UInt32.toNat, Spot.column, 0⟩,
   ⟨"length", DigitsText UInt32.toNat, Spot.length, 0⟩]

def Offense.fieldTexts : List (FieldText Offense) :=
  [⟨"message", StringText, Offense.message, ""⟩,
   ⟨"location", OptionText (RecordText Spot.fieldTexts), Offense.spot, none⟩,
   ⟨"severity", OptionText StringText, Offense.severity, none⟩,
   ⟨"cop_name", StringText, Offense.cop, ""⟩,
   ⟨"corrected", BoolText, Offense.corrected, false⟩]

def FileReport.fieldTexts : List (FieldText FileReport) :=
  [⟨"path", OptionText StringText, FileReport.path, none⟩,
   ⟨"offenses", ListText (RecordText Offense.fieldTexts), FileReport.offenses, []⟩]

def metadataFieldTexts : List (FieldText (Option String)) := [⟨"rubocop_version", OptionText StringText, id, none⟩]

def summaryFieldTexts : List (FieldText UInt64) := [⟨"offense_count", DigitsText UInt64.toNat, id, 0⟩]

def Report.fieldTexts : List (FieldText Report) :=
  [⟨"metadata", RecordText metadataFieldTexts, Report.toolVersion, none⟩,
   ⟨"files", ListText (RecordText FileReport.fieldTexts), Report.files, []⟩,
   ⟨"summary", RecordText summaryFieldTexts, Report.offenseCount, 0⟩]

/-! ### That the records are read -/

theorem Spot.spells : record.Spells fieldTexts where
  keys := rfl
  reads := by
    simp only [fieldTexts, List.forall_mem_cons, List.not_mem_nil, false_imp_iff, implies_true, and_true]
    and_intros <;> exact Record.readsField_of Shape.reads_word32 (fun _ => rfl) (by simp [Record.Suits])
  start := by simp [fieldTexts, record, Spot.empty]
  finish _ := rfl
  determined s t same := by
    obtain ⟨line, column, length⟩ := s
    obtain ⟨line', column', length'⟩ := t
    simpa [fieldTexts] using same

theorem reads_optionalText : (Shape.optional .text).Reads (OptionText StringText) :=
  Shape.reads_text.optional fun _ taken => nomatch taken

theorem Offense.spells : record.Spells fieldTexts where
  keys := rfl
  reads := by
    have location : (Shape.optional Spot.record.shape).Reads (OptionText (RecordText Spot.fieldTexts)) :=
      Spot.spells.reads_record.optional fun _ taken => nomatch taken
    simp only [fieldTexts, List.forall_mem_cons, List.not_mem_nil, false_imp_iff, implies_true, and_true]
    refine ⟨?_, ?_, ?_, ?_, ?_⟩
    · exact Record.readsField_of Shape.reads_text (fun _ => rfl) (by simp [Record.Suits])
    · exact Record.readsField_of location (fun _ => rfl) (by simp [Record.Suits])
    · exact Record.readsField_of reads_optionalText (fun _ => rfl) (by simp [Record.Suits])
    · exact Record.readsField_of Shape.reads_text (fun _ => rfl) (by simp [Record.Suits])
    · exact Record.readsField_of Shape.reads_bool (fun _ => rfl) (by simp [Record.Suits])
  start := by simp [fieldTexts, record, Offense.empty]
  finish _ := rfl
  determined s t same := by
    obtain ⟨message, spot, severity, cop, corrected⟩ := s
    obtain ⟨message', spot', severity', cop', corrected'⟩ := t
    simpa [fieldTexts] using same

theorem FileReport.spells : record.Spells fieldTexts where
  keys := rfl
  reads := by
    simp only [fieldTexts, List.forall_mem_cons, List.not_mem_nil, false_imp_iff, implies_true, and_true]
    refine ⟨?_, ?_⟩
    · exact Record.readsField_of reads_optionalText (fun _ => rfl) (by simp [Record.Suits])
    · exact Record.readsField_of Offense.spells.reads_record.list (fun _ => rfl) (by simp [Record.Suits])
  start := by simp [fieldTexts, record, FileReport.empty]
  finish _ := rfl
  determined s t same := by
    obtain ⟨path, offenses⟩ := s
    obtain ⟨path', offenses'⟩ := t
    simpa [fieldTexts] using same

theorem metadata_spells : metadataRecord.Spells metadataFieldTexts where
  keys := rfl
  reads := by
    simp only [metadataFieldTexts, List.forall_mem_singleton]
    exact Record.readsField_of reads_optionalText (fun _ => rfl) (by simp [Record.Suits])
  start := by simp [metadataFieldTexts, metadataRecord]
  finish _ := rfl
  determined s t same := by simpa [metadataFieldTexts] using same

theorem summary_spells : summaryRecord.Spells summaryFieldTexts where
  keys := rfl
  reads := by
    simp only [summaryFieldTexts, List.forall_mem_singleton]
    exact Record.readsField_of Shape.reads_word64 (fun _ => rfl) (by simp [Record.Suits])
  start := by simp [summaryFieldTexts, summaryRecord]
  finish _ := rfl
  determined s t same := by simpa [summaryFieldTexts] using same

namespace Report

theorem spells : record.Spells fieldTexts where
  keys := rfl
  reads := by
    simp only [fieldTexts, List.forall_mem_cons, List.not_mem_nil, false_imp_iff, implies_true, and_true]
    refine ⟨?_, ?_, ?_⟩
    · exact Record.readsField_of metadata_spells.reads_record (fun _ => rfl) (by simp [Record.Suits])
    · exact Record.readsField_of FileReport.spells.reads_record.list (fun _ => rfl) (by simp [Record.Suits])
    · exact Record.readsField_of summary_spells.reads_record (fun _ => rfl) (by simp [Record.Suits])
  start := by simp [fieldTexts, record, Report.empty]
  finish _ := rfl
  determined s t same := by
    obtain ⟨toolVersion, files, offenseCount⟩ := s
    obtain ⟨toolVersion', files', offenseCount'⟩ := t
    simpa [fieldTexts] using same

/-- A report is read however it is written, and whatever the tool has complained of. What is not an object at all is
taken for a complaint: the tool's errors, or else its output. -/
theorem read_every_rendering (r : Report) (output errors : String) :
    (∀ lead cs trail, Spaces lead → RecordText fieldTexts maxDepth r cs → Spaces trail →
      output = String.ofList (lead ++ (cs ++ trail)) → read output errors = .ok r) ∧
    ((∀ members, Value.parse output ≠ .ok (.object members)) →
      read output errors = .error (.parse (if errors = "" then output else errors))) := by
  constructor
  · rintro lead cs trail before text after rfl
    obtain ⟨v, written, taken⟩ := spells.reads_record text
    have parsed := written.parse before after
    obtain ⟨spaces, spaced, known, unknown, missing⟩ := text
    obtain ⟨members, rfl⟩ := written.object_of_brace
    exact read_of_ok parsed taken
  · intro unlike
    rw [read_of_noObject unlike]
    simp [complaint]

/-! A newer tool may add a key, leave out what is at its default, and order the rest in its own way. -/

private def tight (key : String) (text : List Char) : Member Unit :=
  ⟨[], [], key.toList, key.toList.flatMap Json.escapeChar, [], [], text, ()⟩

private theorem spaced_tight (key : String) (text : List Char) : (tight key text).Spaced :=
  ⟨spaces_nil, spaces_nil, Json.Cursor.charsText_flatMap key.toList, spaces_nil,
    spaces_nil⟩

/-- The summary comes before the files, a key is new, and of the one file nothing is said. -/
private def newerText : List Char :=
  '\x7b' :: membersText [' '] true
    [tight "plugins" ['1', '.', '5'], tight "summary" ('\x7b' :: membersText [] true [tight "offense_count" ['1']]),
      tight "files" ('[' :: itemsText [] true [⟨[], [], ['\x7b', '\x7d'], FileReport.empty⟩])]

private theorem recordText_newerText : RecordText fieldTexts maxDepth ⟨none, [FileReport.empty], 1⟩ newerText := by
  have plugins : Json.AnyText 126 ['1', '.', '5'] := by
    have literal : NumberLiteral ['1', '.', '5'] :=
      @NumberLiteral.mk [] ['1'] ['.', '5'] [] (.inl rfl) (.digits ⟨by simp, by simp⟩ (by simp))
        (.some ⟨by simp, by simp⟩) .none
    refine .number literal ?_
    rintro ⟨place, failed⟩
    have taken : (Json.Cursor.readNumber (Json.Cursor.start ['1', '.', '5'])).isOk = true := by decide
    rw [failed] at taken
    cases taken
  have summary : RecordText summaryFieldTexts 126 1 ('\x7b' :: membersText [] true [tight "offense_count" ['1']]) := by
    refine .mk spaces_nil ?_ ?_ ?_ ?_
    · simp [spaced_tight]
    · simpa [summaryFieldTexts, tight, DigitsText] using (by decide : ['1'] = Nat.toDigits 10 1)
    · simp [summaryFieldTexts, tight]
    · simp [summaryFieldTexts, tight]
  have file : RecordText FileReport.fieldTexts 125 FileReport.empty ['\x7b', '\x7d'] :=
    @RecordText.mk FileReport FileReport.fieldTexts 124 [] [] FileReport.empty spaces_nil (by simp) (by simp) (by simp)
      (by simp [FileReport.fieldTexts, FileReport.empty])
  have files : ListText (RecordText FileReport.fieldTexts) 126 [FileReport.empty]
      ('[' :: itemsText [] true [⟨[], [], ['\x7b', '\x7d'], FileReport.empty⟩]) :=
    @ListText.mk _ _ 125 [] [⟨[], [], ['\x7b', '\x7d'], FileReport.empty⟩] spaces_nil
      (List.forall_mem_singleton.mpr ⟨spaces_nil, spaces_nil⟩) (List.forall_mem_singleton.mpr file)
  refine .mk (List.forall_mem_singleton.mpr rfl) ?_ ?_ ?_ ?_
  · simp [spaced_tight]
  · simpa [fieldTexts, tight] using ⟨summary, files⟩
  · simpa [fieldTexts, tight] using plugins
  · simp [fieldTexts, tight]

theorem read_every_rendering_newer :
    read "\x7b\"plugins\":1.5,\"summary\":\x7b\"offense_count\":1\x7d,\"files\":[\x7b\x7d] \x7d\n" "" =
        .ok ⟨none, [FileReport.empty], 1⟩ ∧
      read "boom" "" = .error (.parse "boom") := by
  have newer := read_every_rendering ⟨none, [FileReport.empty], 1⟩
    "\x7b\"plugins\":1.5,\"summary\":\x7b\"offense_count\":1\x7d,\"files\":[\x7b\x7d] \x7d\n" ""
  have complains := read_every_rendering ⟨none, [FileReport.empty], 1⟩ "boom" ""
  constructor
  · have output : "\x7b\"plugins\":1.5,\"summary\":\x7b\"offense_count\":1\x7d,\"files\":[\x7b\x7d] \x7d\n" =
        String.ofList ([] ++ (newerText ++ ['\n'])) := by decide +kernel
    exact newer.1 [] newerText ['\n'] spaces_nil recordText_newerText (List.forall_mem_singleton.mpr rfl) output
  · refine complains.2 fun members object => ?_
    have refused : (Value.parse "boom").isOk = false := by decide +kernel
    rw [object] at refused
    cases refused

end Report
end LintBridge
